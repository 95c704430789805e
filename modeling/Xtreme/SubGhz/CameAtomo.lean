import Xtreme.SubGhz.Blocks
import Xtreme.SubGhz.CustomBtn
import Xtreme.Toolbox.Manchester

/-! The codes of CAME Atomo remotes (`protocols/came_atomo.c`). Eight bytes are
hidden under a key stream that the first of them seeds, and are sent inverted in
Manchester coding, eight parcels to a press of a button. -/
namespace Xtreme.SubGhz
open Xtreme.Library Xtreme.Toolbox

/-- `SubGhzBlockGeneric` with its field `data_2`: the code before it is hidden. -/
structure CameAtomoGeneric extends SubGhzBlockGeneric where
  data2 : BitVec 64
  deriving DecidableEq, Repr

abbrev AtomoPack := Vector (BitVec 8) 8

theorem AtomoPack.first_inside : 0 < 8 := by decide

def AtomoPack.xorAt (buff : AtomoPack) (index : Nat) (mask : BitVec 8) : AtomoPack :=
  buff.mapIdx fun i byte => if i = index then byte ^^^ mask else byte

def atomoAdvance (tmpB : BitVec 8) : BitVec 8 :=
  if tmpB &&& 0x18#8 ≠ 0 ∧ (tmpB >>> 3) &&& 3#8 ≠ 3#8 then (tmpB <<< 1) ||| 1#8 else tmpB <<< 1

/-- The loop of both directions, over `count` bits from `bitCnt` on. -/
def atomoStream : Nat → Nat → BitVec 8 → AtomoPack → AtomoPack
  | 0, _, _, buff => buff
  | count + 1, bitCnt, tmpB, buff =>
    let tmpB := atomoAdvance tmpB
    atomoStream count (bitCnt + 1) tmpB
      (if tmpB &&& 0x80#8 ≠ 0 then buff.xorAt (bitCnt / 8) (0x80#8 >>> (bitCnt % 8)) else buff)

/-- The bits 8 to 58 are hidden. -/
def atomoEncrypt (buff : AtomoPack) : AtomoPack :=
  let tmpB := (~~~buff.get 0 + 1#8) &&& 0x7F#8
  let buff := atomoStream 51 8 tmpB buff
  buff.set 0 ((buff.get 0 ^^^ 5#8) &&& 0x7F#8) AtomoPack.first_inside

def atomoDecrypt (buff : AtomoPack) : AtomoPack :=
  let buff := buff.set 0 ((buff.get 0 ^^^ 5#8) &&& 0x7F#8) AtomoPack.first_inside
  atomoStream 51 8 ((-buff.get 0) &&& 0x7F#8) buff

/-- The bytes of `hi` and `lo`, joined to one word. -/
def AtomoPack.word (pack : AtomoPack) : BitVec 64 :=
  pack.foldl (fun word byte => (word <<< 8) ||| byte.setWidth 64) 0

/-- The bytes of a word, the highest one first. -/
def packOf (data : BitVec 64) : AtomoPack := Vector.ofFn fun i => (data >>> (56 - 8 * i.val)).setWidth 8

/-- A hidden pack as it is sent. -/
def atomoFrame (pack : AtomoPack) : BitVec 64 :=
  ((pack.word ^^^ 0xFFFFFFFFFFFFFFFF#64) >>> 4) &&& 0xFFFFFFFFFFFFFFF#64

def buttonOfCode (code stale : BitVec 8) : BitVec 8 :=
  if code = 0x0#8 then 0x1#8
  else if code = 0x2#8 then 0x2#8
  else if code = 0x4#8 then 0x3#8
  else if code = 0x6#8 then 0x4#8
  else stale

/-- `subghz_protocol_came_atomo_remote_controller`. -/
def cameAtomoRemoteController (custom : SubGhzCustomBtn) (instanc : CameAtomoGeneric) :
    CameAtomoGeneric × SubGhzCustomBtn :=
  let data := (instanc.data ^^^ 0xFFFFFFFFFFFFFFFF#64) <<< 4
  let pack := atomoDecrypt (packOf data)
  let instanc := { instanc with
    data := data
    cnt2 := pack.get 0
    cnt := ((pack.get 1).setWidth 32 <<< 8) ||| (pack.get 2).setWidth 32
    serial := ((pack.get 3).setWidth 32 <<< 24) ||| ((pack.get 4).setWidth 32 <<< 16) |||
      ((pack.get 5).setWidth 32 <<< 8) ||| (pack.get 6).setWidth 32
    btn := buttonOfCode (pack.get 7 >>> 4) instanc.btn
    data2 := pack.word }
  (instanc, { custom.keepOriginal instanc.btn with customBtnMaxBtns := 3 })

/-- `subghz_protocol_came_atomo_get_btn_code`. -/
def cameAtomoGetBtnCode (custom : SubGhzCustomBtn) : BitVec 8 :=
  let original := custom.customBtnOriginal
  if custom.customBtnId = SubGhzCustomBtn.ok ∧ original ≠ 0 then original
  else if custom.customBtnId = SubGhzCustomBtn.up then
    if original = 0x1#8 then 0x2#8
    else if original = 0x2#8 then 0x1#8
    else if original = 0x3#8 then 0x1#8
    else if original = 0x4#8 then 0x1#8
    else original
  else if custom.customBtnId = SubGhzCustomBtn.down then
    if original = 0x1#8 then 0x3#8
    else if original = 0x2#8 then 0x3#8
    else if original = 0x3#8 then 0x2#8
    else if original = 0x4#8 then 0x2#8
    else original
  else if custom.customBtnId = SubGhzCustomBtn.left then
    if original = 0x1#8 then 0x4#8
    else if original = 0x2#8 then 0x4#8
    else if original = 0x3#8 then 0x4#8
    else if original = 0x4#8 then 0x3#8
    else original
  else original

/-- `subghz_protocol_came_atomo_const`. -/
def cameAtomoTeShort : Nat := 600
def cameAtomoTeLong : Nat := 1200
def cameAtomoTeDelta : Nat := 250
def cameAtomoMinCountBitForFound : BitVec 8 := 62

/-- The entries that `subghz_protocol_encoder_came_atomo_alloc` makes room for. -/
def cameAtomoSizeUpload : Nat := 900

/-- `subghz_protocol_encoder_came_atomo_add_duration_to_upload`. -/
def cameAtomoAddDurationToUpload : ManchesterEncoderResult → LevelDuration
  | .shortLow => .level false cameAtomoTeShort
  | .longLow => .level false cameAtomoTeLong
  | .longHigh => .level true cameAtomoTeLong
  | .shortHigh => .level true cameAtomoTeShort

/-- The next value of the counter, which the multiplier may move up or down. -/
def cameAtomoNextCnt (rollingCounterMult : BitVec 8) (cnt : BitVec 32) : BitVec 32 :=
  if cnt < 0xFFFF#32 then
    if 0xFFFF#32 < cnt + rollingCounterMult.signExtend 32 then 0
    else cnt + rollingCounterMult.signExtend 32
  else 0

def codeOfButton (btn : BitVec 8) : BitVec 8 :=
  if btn = 0x1#8 then 0x0#8
  else if btn = 0x2#8 then 0x2#8
  else if btn = 0x3#8 then 0x4#8
  else if btn = 0x4#8 then 0x6#8
  else btn

def atomoPack (first : BitVec 8) (instanc : CameAtomoGeneric) (code : BitVec 8) : AtomoPack :=
  #v[first, (instanc.cnt >>> 8).setWidth 8, instanc.cnt.setWidth 8,
    (instanc.data2 >>> 32).setWidth 8, (instanc.data2 >>> 24).setWidth 8,
    (instanc.data2 >>> 16).setWidth 8, (instanc.data2 >>> 8).setWidth 8, code <<< 4]

/-- The first byte of a parcel. -/
def parcelCounter (counter : BitVec 8) (i : Nat) : BitVec 8 :=
  if counter = 0x7F#8 then 0 else counter + BitVec.ofNat 8 (i + 1)

/-- The bits of a frame in the order they are sent, as far as the loop over
`data_count_bit - 2` bits goes. -/
def frameBits (dataCountBit : Nat) (frame : BitVec 64) : List Bool :=
  (List.range (BitVec.ofInt 8 (dataCountBit - 2)).toNat).reverse.map fun i => frame.getLsbD i

/-- One round of the loop over the bits: the results that go to the upload, and
what is left in `result` and `enc_state`. -/
def encodeFrameBit (encState : ManchesterEncoderState) (result : ManchesterEncoderResult) (bit : Bool) :
    List ManchesterEncoderResult × ManchesterEncoderResult × ManchesterEncoderState :=
  let (advanced, first, encState) := manchesterEncoderAdvance encState bit result
  if advanced then ([first], first, encState)
  else
    let (_, second, encState) := manchesterEncoderAdvance encState bit first
    ([first, second], second, encState)

def encodeFrameBits (encState : ManchesterEncoderState) (result : ManchesterEncoderResult) :
    List Bool → List ManchesterEncoderResult × ManchesterEncoderResult × ManchesterEncoderState
  | [] => ([], result, encState)
  | bit :: bits =>
    let (results, result, encState) := encodeFrameBit encState result bit
    let (rest, result, encState) := encodeFrameBits encState result bits
    (results ++ rest, result, encState)

/-- The entries of one parcel. A closing pulse that is low becomes part of the pause. -/
def parcelUpload (encState : ManchesterEncoderState) (result : ManchesterEncoderResult) (bits : List Bool) :
    List LevelDuration × ManchesterEncoderResult × ManchesterEncoderState :=
  let (results, result, encState) := encodeFrameBits encState result (bits.map not)
  let (closing, encState) := manchesterEncoderFinish encState
  let closing := cameAtomoAddDurationToUpload closing
  ([.level true cameAtomoTeLong, .level false cameAtomoTeShort] ++ results.map cameAtomoAddDurationToUpload ++
    (match closing with
      | .level true _ => [closing]
      | _ => []) ++
    [.level false (cameAtomoTeDelta * 272)], result, encState)

def parcelsUpload (encState : ManchesterEncoderState) (result : ManchesterEncoderResult) :
    List (List Bool) → List LevelDuration
  | [] => []
  | bits :: parcels =>
    let (entries, result, encState) := parcelUpload encState result bits
    entries ++ parcelsUpload encState result parcels

def parcelFrames (instanc : CameAtomoGeneric) (code : BitVec 8) : List (BitVec 64) :=
  (List.range 8).map fun i =>
    atomoFrame (atomoEncrypt (atomoPack (parcelCounter ((instanc.data2 >>> 56).setWidth 8) i) instanc code))

structure SubGhzProtocolEncoderCameAtomo where
  upload : List LevelDuration
  generic : CameAtomoGeneric
  deriving DecidableEq, Repr

/-- `subghz_protocol_encoder_came_atomo_get_upload`, unless it stores an entry behind
the end of the upload. `encState` and `result` are the variables it does not initialise. -/
def cameAtomoGetUpload (rollingCounterMult : BitVec 8) (custom : SubGhzCustomBtn)
    (encState : ManchesterEncoderState) (result : ManchesterEncoderResult)
    (instanc : CameAtomoGeneric) (btn : BitVec 8) :
    Option (SubGhzProtocolEncoderCameAtomo × SubGhzCustomBtn) :=
  let instanc := { instanc with cnt := cameAtomoNextCnt rollingCounterMult instanc.cnt }
  let custom := custom.keepOriginal btn
  let code := codeOfButton (cameAtomoGetBtnCode custom)
  let parcels := (parcelFrames instanc code).map (frameBits instanc.dataCountBit)
  let upload := [.level true (cameAtomoTeLong * 15), .level false (cameAtomoTeLong * 60)] ++
    parcelsUpload (manchesterEncoderReset encState) result parcels
  if upload.length ≤ cameAtomoSizeUpload then
    let cnt2 := instanc.cnt2 + 1
    some (⟨upload, { instanc with
      cnt2 := cnt2
      data := atomoFrame (atomoEncrypt (atomoPack cnt2 instanc code)) }⟩, custom)
  else none

inductive CameAtomoDecoderStep
  | reset
  | decoderData
  deriving DecidableEq, Repr

structure SubGhzProtocolDecoderCameAtomo where
  decoder : SubGhzBlockDecoder CameAtomoDecoderStep
  generic : CameAtomoGeneric
  manchesterSavedState : ManchesterState
  deriving DecidableEq, Repr

/-- `subghz_protocol_decoder_came_atomo_reset`. -/
def cameAtomoReset (instanc : SubGhzProtocolDecoderCameAtomo) : SubGhzProtocolDecoderCameAtomo :=
  { instanc with
    decoder := { instanc.decoder with parserStep := .reset }
    manchesterSavedState := (manchesterAdvance instanc.manchesterSavedState .reset).2 }

/-- Behind a header or a pause: no data yet, and the low level counts as half a bit. -/
def awaitParcel (instanc : SubGhzProtocolDecoderCameAtomo) : SubGhzProtocolDecoderCameAtomo :=
  { instanc with
    decoder := { instanc.decoder with decodeData := 0, decodeCountBit := 1 }
    manchesterSavedState :=
      (manchesterAdvance (manchesterAdvance instanc.manchesterSavedState .reset).2 .shortLow).2 }

/-- The end of the `DecoderData` step, for every event but `Reset`. -/
def advanceEvent (instanc : SubGhzProtocolDecoderCameAtomo) (event : ManchesterEvent) :
    SubGhzProtocolDecoderCameAtomo :=
  let (data, state) := manchesterAdvance instanc.manchesterSavedState event
  let instanc := { instanc with manchesterSavedState := state }
  match data with
  | some data => { instanc with decoder := { instanc.decoder with
      decodeData := ShiftRegister.push instanc.decoder.decodeData (!data)
      decodeCountBit := instanc.decoder.decodeCountBit + 1 } }
  | none => instanc

/-- `subghz_protocol_decoder_came_atomo_feed`, with what is given to the callback. -/
def cameAtomoFeed (instanc : SubGhzProtocolDecoderCameAtomo) (level : Bool) (duration : Nat) :
    Option CameAtomoGeneric × SubGhzProtocolDecoderCameAtomo :=
  let restart := { instanc with decoder := { instanc.decoder with parserStep := .reset } }
  let short := durationDiff duration cameAtomoTeShort < cameAtomoTeDelta
  let long := durationDiff duration cameAtomoTeLong < cameAtomoTeDelta
  match instanc.decoder.parserStep with
  | .reset =>
    if level = false ∧ durationDiff duration (cameAtomoTeLong * 60) < cameAtomoTeDelta * 40 then
      (none, awaitParcel { instanc with decoder := { instanc.decoder with parserStep := .decoderData } })
    else (none, instanc)
  | .decoderData =>
    if level = false then
      if short then (none, advanceEvent instanc .shortLow)
      else if long then (none, advanceEvent instanc .longLow)
      else if cameAtomoTeLong * 2 + cameAtomoTeDelta ≤ duration then
        if instanc.decoder.decodeCountBit = cameAtomoMinCountBitForFound then
          let generic := { instanc.generic with
            data := instanc.decoder.decodeData
            dataCountBit := instanc.decoder.decodeCountBit.toNat }
          (some generic, awaitParcel { instanc with generic := generic })
        else (none, awaitParcel instanc)
      else (none, restart)
    else
      if short then (none, advanceEvent instanc .shortHigh)
      else if long then (none, advanceEvent instanc .longHigh)
      else (none, restart)

end Xtreme.SubGhz
