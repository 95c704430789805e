import Xtreme.Library.Numeral
import Xtreme.SubGhz.Blocks
import Xtreme.SubGhz.CustomBtn

/-! The codes of Security+ 2.0 remotes (`protocols/secplus_v2.c`): two half packets,
each of which mixes three words of ten bits in an order and with inversions that its
own digits select. -/
namespace Xtreme.SubGhz
open Xtreme.Library

/-- The three buffers `p[]` of a half packet, of ten bits each. -/
structure SecPlusV2Mix where
  p0 : BitVec 10
  p1 : BitVec 10
  p2 : BitVec 10
  deriving DecidableEq, Repr

attribute [ext] SecPlusV2Mix

/-- `subghz_protocol_secplus_v2_mix_invet`. -/
def mixInvert (invert : Nat) (p : SecPlusV2Mix) : Option SecPlusV2Mix :=
  match invert with
  | 0x0 => some { p with p0 := ~~~p.p0, p1 := ~~~p.p1 }
  | 0x1 => some { p with p1 := ~~~p.p1 }
  | 0x2 => some { p with p2 := ~~~p.p2 }
  | 0x4 => some ⟨~~~p.p0, ~~~p.p1, ~~~p.p2⟩
  | 0x5 | 0xA => some { p with p0 := ~~~p.p0, p2 := ~~~p.p2 }
  | 0x6 => some { p with p1 := ~~~p.p1, p2 := ~~~p.p2 }
  | 0x8 => some { p with p0 := ~~~p.p0 }
  | 0x9 => some p
  | _ => none

/-- `subghz_protocol_secplus_v2_mix_order_decode`. -/
def mixOrderDecode (order : Nat) (p : SecPlusV2Mix) : Option SecPlusV2Mix :=
  match order with
  | 0x6 | 0x9 => some { p with p2 := p.p0, p0 := p.p2 }
  | 0x8 | 0x4 => some { p1 := p.p0, p2 := p.p1, p0 := p.p2 }
  | 0x1 => some { p2 := p.p0, p0 := p.p1, p1 := p.p2 }
  | 0x0 => some { p with p2 := p.p1, p1 := p.p2 }
  | 0x5 => some { p with p1 := p.p0, p0 := p.p1 }
  | 0x2 | 0xA => some p
  | _ => none

/-- `subghz_protocol_secplus_v2_mix_order_encode`. -/
def mixOrderEncode (order : Nat) (p : SecPlusV2Mix) : Option SecPlusV2Mix :=
  match order with
  | 0x6 | 0x9 => some ⟨p.p2, p.p1, p.p0⟩
  | 0x8 | 0x4 => some ⟨p.p1, p.p2, p.p0⟩
  | 0x1 => some ⟨p.p2, p.p0, p.p1⟩
  | 0x0 => some ⟨p.p0, p.p2, p.p1⟩
  | 0x5 => some ⟨p.p1, p.p0, p.p2⟩
  | 0x2 | 0xA => some ⟨p.p0, p.p1, p.p2⟩
  | _ => none

/-- The loop of `decode_half` that takes the buffers out of the data. -/
def mixOf (data : BitVec 64) : SecPlusV2Mix :=
  let places := (List.range 10).map fun round => 29 - 3 * round
  { p0 := (places.map fun i => data.getLsbD i).foldl ShiftRegister.push 0
    p1 := (places.map fun i => data.getLsbD (i - 1)).foldl ShiftRegister.push 0
    p2 := (places.map fun i => data.getLsbD (i - 2)).foldl ShiftRegister.push 0 }

/-- `bit_read`. -/
def bitRead {width : Nat} (word : BitVec width) (place : Nat) : BitVec 64 :=
  (BitVec.ofBool (word.getLsbD place)).setWidth 64

/-- The loop of `encode_half` that mixes the buffers. -/
def mixBits (p : SecPlusV2Mix) : BitVec 64 :=
  (List.range 10).foldl (fun data i =>
    (data <<< 3) ||| (bitRead p.p0 (9 - i) <<< 2 ||| bitRead p.p1 (9 - i) <<< 1 ||| bitRead p.p2 (9 - i))) 0

def orderOf (data : BitVec 64) : Nat := ((data >>> 34).setWidth 4).toNat

def invertOf (data : BitVec 64) : Nat := ((data >>> 30).setWidth 4).toNat

/-- `subghz_protocol_secplus_v2_decode_half`. -/
def decodeHalf (data : BitVec 64) : Option (List Nat × BitVec 32) := do
  let p ← mixInvert (invertOf data) (mixOf data)
  let p ← mixOrderDecode (orderOf data) p
  let rollArray := fixedNumeral 4 4 (orderOf data * 16 + invertOf data) ++ fixedNumeral 4 5 p.p2.toNat
  if ∀ digit ∈ rollArray, digit ≠ 3 then
    some (rollArray, (p.p0.setWidth 32 <<< 10) ||| p.p1.setWidth 32)
  else none

/-- `subghz_protocol_secplus_v2_encode_half`. The digits take two bits each. -/
def encodeHalf (rollArray : List Nat) (fixed : BitVec 32) : BitVec 64 :=
  let order := numeralValue 4 (rollArray.take 2)
  let invert := numeralValue 4 ((rollArray.drop 2).take 2)
  let p : SecPlusV2Mix :=
    ⟨(fixed >>> 10).setWidth 10, fixed.setWidth 10, BitVec.ofNat 10 (numeralValue 4 (rollArray.drop 4))⟩
  match mixOrderEncode order p >>= mixInvert invert with
  | some p => mixBits p ||| (BitVec.ofNat 64 order <<< 34 ||| BitVec.ofNat 64 invert <<< 30)
  | none => 0

/-- The digits of the rolling code that each half packet gets. -/
def dealDigits (digits : List Nat) : List Nat × List Nat :=
  let digit (place : Nat) := digits.getD place 0
  ([digit 14, digit 15, digit 16, digit 17, digit 6, digit 7, digit 8, digit 9, digit 1],
    [digit 10, digit 11, digit 12, digit 13, digit 2, digit 3, digit 4, digit 5, digit 0])

/-- The digits of the rolling code, out of the two half packets. -/
def gatherDigits (roll1 roll2 : List Nat) : List Nat :=
  let first (place : Nat) := roll1.getD place 0
  let second (place : Nat) := roll2.getD place 0
  [second 8, first 8, second 4, second 5, second 6, second 7, first 4, first 5, first 6, first 7,
    second 0, second 1, second 2, second 3, first 0, first 1, first 2, first 3]

/-- `subghz_protocol_secplus_v2_remote_controller`. -/
def secplusV2RemoteController (custom : SubGhzCustomBtn) (instanc : SubGhzBlockGeneric) (packet1 : BitVec 64) :
    SubGhzBlockGeneric × SubGhzCustomBtn :=
  let unknown := { instanc with cnt := 0, btn := 0, serial := 0 }
  let instanc :=
    match decodeHalf packet1, decodeHalf instanc.data with
    | some (roll1, fixed1), some (roll2, fixed2) =>
      let rolling := numeralValue 3 (gatherDigits roll1 roll2)
      if 0x10000000 ≤ rolling then unknown
      else { instanc with
        cnt := (reverseKey (BitVec.ofNat 64 rolling) 28).setWidth 32
        btn := (fixed1 >>> 12).setWidth 8
        serial := fixed1 <<< 20 ||| fixed2 }
    | _, _ => unknown
  (instanc, { custom.keepOriginal instanc.btn with customBtnMaxBtns := 4 })

/-- A direction key: the button with its own code, or the first one if that is the
original. Other buttons have none. -/
def directionBtn (code original : BitVec 8) : BitVec 8 :=
  if original ∈ [0x68#8, 0x80#8, 0x81#8, 0xE2#8, 0x78#8] then
    if original = code then 0x68#8 else code
  else original

/-- `subghz_protocol_secplus_v2_get_btn_code`. -/
def secplusV2GetBtnCode (custom : SubGhzCustomBtn) : BitVec 8 :=
  let original := custom.customBtnOriginal
  if custom.customBtnId = SubGhzCustomBtn.ok ∧ original ≠ 0 then original
  else if custom.customBtnId = SubGhzCustomBtn.up then directionBtn 0x80#8 original
  else if custom.customBtnId = SubGhzCustomBtn.down then directionBtn 0x81#8 original
  else if custom.customBtnId = SubGhzCustomBtn.left then directionBtn 0xE2#8 original
  else if custom.customBtnId = SubGhzCustomBtn.right then directionBtn 0x78#8 original
  else original

structure SubGhzProtocolEncoderSecPlusV2 where
  generic : SubGhzBlockGeneric
  secplusPacket1 : BitVec 64
  deriving DecidableEq, Repr

def secplusV2Header1 : BitVec 64 := 0x3C0000000000#64
def secplusV2Header2 : BitVec 64 := 0x3C0000000000#64 ||| 0x010000000000#64

/-- The next value of the counter, which the multiplier may move up or down. -/
def secplusV2NextCnt (rollingCounterMult : BitVec 8) (cnt : BitVec 32) : BitVec 32 :=
  let cnt := cnt + rollingCounterMult.signExtend 32
  if 0xFFFFFFF#32 < cnt then 0xE500000#32 else cnt

/-- `subghz_protocol_secplus_v2_encode`. -/
def secplusV2Encode (rollingCounterMult : BitVec 8) (custom : SubGhzCustomBtn)
    (instanc : SubGhzProtocolEncoderSecPlusV2) : SubGhzProtocolEncoderSecPlusV2 × SubGhzCustomBtn :=
  let custom := custom.keepOriginal instanc.generic.btn
  let btn := secplusV2GetBtnCode custom
  let serial := instanc.generic.serial
  let fixed1 := btn.setWidth 32 <<< 12 ||| serial >>> 20
  let fixed2 := serial &&& 0xFFFFF#32
  let cnt := secplusV2NextCnt rollingCounterMult instanc.generic.cnt
  let rolling := (reverseKey (cnt.setWidth 64) 28).toNat
  let rolls := dealDigits (fixedNumeral 3 18 rolling)
  ({ generic := { instanc.generic with
      btn := btn
      cnt := cnt
      data := secplusV2Header2 ||| encodeHalf rolls.2 fixed2 }
     secplusPacket1 := secplusV2Header1 ||| encodeHalf rolls.1 fixed1 }, custom)

end Xtreme.SubGhz
