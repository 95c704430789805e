import Xtreme.Library.Numeral
import Xtreme.SubGhz.Blocks

/-! The codes of Security+ 1.0 remotes (`protocols/secplus_v1.c`): the digits that
the encoder transmits and the number that the decoder makes of them. A digit is a
number below three; the sums of digits stay far below the width of a machine word. -/
namespace Xtreme.SubGhz
open Xtreme.Library

/-- `data_array`: after the header of each of the two packets its digits, and two
bytes that are not used. -/
structure SecPlusV1DataArray where
  header1 : Nat
  packet1 : List Nat
  header2 : Nat
  packet2 : List Nat
  deriving DecidableEq, Repr

structure SubGhzProtocolSecPlusV1 where
  generic : SubGhzBlockGeneric
  dataArray : SecPlusV1DataArray
  deriving DecidableEq, Repr

/-- The two loops of the encoder: a digit of the rolling code, and the sum of all
digits up to the next one of the fixed code. -/
def encodePacket (acc : Nat) : List (Nat × Nat) → List Nat
  | [] => []
  | (rolling, fixed) :: rest =>
    rolling :: (acc + rolling + fixed) % 3 :: encodePacket (acc + rolling + fixed) rest

/-- `fixed`, `rolling`: the two halves of the data. -/
def secplusV1Fixed (data : BitVec 64) : BitVec 32 := (data >>> 32).setWidth 32

def secplusV1Rolling (data : BitVec 64) : BitVec 32 := data.setWidth 32

/-- The rolling code that goes out when the counter has come to a value. -/
def rollingAt (counted : BitVec 32) : BitVec 32 := if counted = 0xFFFFFFFF#32 then 0xE6000000#32 else counted

def transmitted (rolling : BitVec 32) : Nat := (reverseKey (rolling.setWidth 64) 32).toNat

def encodeDataArray (rolling fixed : BitVec 32) : SecPlusV1DataArray :=
  let rollingArray := fixedNumeral 3 20 (transmitted rolling)
  let fixedArray := fixedNumeral 3 20 fixed.toNat
  let digits := rollingArray.zip fixedArray
  ⟨0x00, encodePacket 0 (digits.take 10), 0x02, encodePacket 0 (digits.drop 10)⟩

/-- `subghz_protocol_secplus_v1_encode`. -/
def subghzProtocolSecplusV1Encode (instanc : SubGhzProtocolSecPlusV1) : Bool × SubGhzProtocolSecPlusV1 :=
  let fixed := secplusV1Fixed instanc.generic.data
  let rolling := secplusV1Rolling instanc.generic.data + 2
  -- the copy that is stored is made before the last value is replaced
  let instanc := { instanc with
    generic := { instanc.generic with
      data := (instanc.generic.data &&& 0xFFFFFFFF00000000#64) ||| rolling.setWidth 64 } }
  if 0xCFD41B90#32 < fixed then (false, instanc)
  else (true, { instanc with dataArray := encodeDataArray (rollingAt rolling) fixed })

structure SecPlusV1Sums where
  rolling : Nat
  fixed : Nat
  acc : Nat

def pushDigit (number digit : Nat) : Nat := (number * 3 + digit) % 2 ^ 32

/-- `60 + digit - acc`, in a word of 32 bits, modulo three. -/
def differenceDigit (digit acc : Nat) : Nat := (2 ^ 32 + 60 + digit - acc) % 2 ^ 32 % 3

/-- One round of the loops of the decoder. -/
def SecPlusV1Sums.add (sums : SecPlusV1Sums) (first second : Nat) : SecPlusV1Sums where
  rolling := pushDigit sums.rolling first
  fixed := pushDigit sums.fixed (differenceDigit second (sums.acc + first))
  acc := sums.acc + first + differenceDigit second (sums.acc + first)

def decodePacket (sums : SecPlusV1Sums) : List Nat → SecPlusV1Sums
  | first :: second :: rest => decodePacket (sums.add first second) rest
  | _ => sums

def decodePackets (dataArray : SecPlusV1DataArray) : SecPlusV1Sums :=
  decodePacket { decodePacket ⟨0, 0, 0⟩ dataArray.packet1 with acc := 0 } dataArray.packet2

/-- `subghz_protocol_secplus_v1_decode`. -/
def subghzProtocolSecplusV1Decode (instanc : SubGhzProtocolSecPlusV1) : SubGhzProtocolSecPlusV1 :=
  let sums := decodePackets instanc.dataArray
  let rolling := (reverseKey (BitVec.ofNat 64 sums.rolling) 32).setWidth 32
  { instanc with generic := { instanc.generic with
    data := (BitVec.ofNat 64 sums.fixed <<< 32) ||| rolling.setWidth 64
    dataCountBit := 42 } }

theorem differenceDigit_sum {acc fixed : Nat} (small : fixed < 3) (room : acc ≤ 60) :
    differenceDigit ((acc + fixed) % 3) acc = fixed := by
  unfold differenceDigit
  omega

theorem decodePacket_encodePacket {digits : List (Nat × Nat)} (small : ∀ pair ∈ digits, pair.1 < 3 ∧ pair.2 < 3)
    {sums : SecPlusV1Sums} (room : sums.acc + 4 * digits.length ≤ 62) :
    (decodePacket sums (encodePacket sums.acc digits)).rolling = (digits.map Prod.fst).foldl pushDigit sums.rolling ∧
      (decodePacket sums (encodePacket sums.acc digits)).fixed = (digits.map Prod.snd).foldl pushDigit sums.fixed := by
  induction digits generalizing sums with
  | nil => exact ⟨rfl, rfl⟩
  | cons pair rest ih =>
    obtain ⟨rolling, fixed⟩ := pair
    obtain ⟨here, others⟩ := List.forall_mem_cons.mp small
    rw [List.length_cons] at room
    have digit := @differenceDigit_sum (sums.acc + rolling) fixed here.2 (by omega)
    have after := @ih others ⟨pushDigit sums.rolling rolling, pushDigit sums.fixed fixed, sums.acc + rolling + fixed⟩
      (by simp only; omega)
    rw [encodePacket, decodePacket, SecPlusV1Sums.add, digit]
    exact after

theorem foldl_pushDigit (digits : List Nat) (number : Nat) :
    digits.foldl pushDigit (number % 2 ^ 32) = digits.foldl (fun value digit => 3 * value + digit) number % 2 ^ 32 := by
  induction digits generalizing number with
  | nil => rfl
  | cons digit rest ih =>
    have pushed : pushDigit (number % 2 ^ 32) digit = (3 * number + digit) % 2 ^ 32 := by
      unfold pushDigit
      omega
    rw [List.foldl_cons, List.foldl_cons, pushed, ih]

theorem foldl_fixedNumeral (number : Nat) : (fixedNumeral 3 20 number).foldl pushDigit 0 = number % 3 ^ 20 := by
  have value := @numeralValue_fixedNumeral 3 20 number
  have digits := foldl_pushDigit (fixedNumeral 3 20 number) 0
  unfold numeralValue at value
  rw [Nat.zero_mod, value] at digits
  rw [digits]
  exact Nat.mod_eq_of_lt (Nat.lt_trans (Nat.mod_lt _ (by decide)) (by decide))

theorem decodePackets_encodePackets {digits : List (Nat × Nat)} (small : ∀ pair ∈ digits, pair.1 < 3 ∧ pair.2 < 3)
    (length : digits.length = 20) (header1 header2 : Nat) :
    let sums := decodePackets ⟨header1, encodePacket 0 (digits.take 10), header2, encodePacket 0 (digits.drop 10)⟩
    sums.rolling = (digits.map Prod.fst).foldl pushDigit 0 ∧ sums.fixed = (digits.map Prod.snd).foldl pushDigit 0 := by
  have split (view : Nat × Nat → Nat) :
      ((digits.drop 10).map view).foldl pushDigit (((digits.take 10).map view).foldl pushDigit 0) =
        (digits.map view).foldl pushDigit 0 := by
    rw [← List.foldl_append, ← List.map_append, List.take_append_drop]
  have first := @decodePacket_encodePacket (digits.take 10)
    (fun pair member => small pair (List.mem_of_mem_take member)) ⟨0, 0, 0⟩ (by simp [length])
  have second := @decodePacket_encodePacket (digits.drop 10)
    (fun pair member => small pair (List.mem_of_mem_drop member))
    { decodePacket ⟨0, 0, 0⟩ (encodePacket 0 (digits.take 10)) with acc := 0 } (by simp [length])
  refine ⟨second.1.trans ?_, second.2.trans ?_⟩
  · rw [first.1, split]
  · rw [first.2, split]

theorem received_iff {word : Nat} (small : word < 2 ^ 32) (rolling : BitVec 32) :
    (reverseKey (BitVec.ofNat 64 word) 32).setWidth 32 = rolling ↔ word = transmitted rolling := by
  have number : (BitVec.ofNat 64 word).toNat = word := by
    exact Nat.mod_eq_of_lt (Nat.lt_trans small (by decide))
  have narrow : (rolling.setWidth 64).toNat < 2 ^ 32 := by
    exact rolling.isLt
  constructor
  · rintro rfl
    have below := reverseKey_lt (BitVec.ofNat 64 word) (show 32 ≤ 64 by decide)
    have same : ((reverseKey (BitVec.ofNat 64 word) 32).setWidth 32).setWidth 64 =
        reverseKey (BitVec.ofNat 64 word) 32 := by
      apply BitVec.eq_of_toNat_eq
      rw [BitVec.toNat_setWidth, BitVec.toNat_setWidth]
      omega
    rw [transmitted, same, reverseKey_reverseKey (by decide) (by rw [number]; exact small), number]
  · intro sent
    rw [sent, transmitted, BitVec.ofNat_toNat, BitVec.setWidth_eq, reverseKey_reverseKey (by decide) narrow,
      BitVec.setWidth_setWidth_of_le _ (by decide), BitVec.setWidth_eq]

theorem join_inj (high : BitVec 64) (low other : BitVec 32) :
    high <<< 32 ||| low.setWidth 64 = high <<< 32 ||| other.setWidth 64 ↔ low = other := by
  refine ⟨fun same => ?_, fun same => same ▸ rfl⟩
  apply BitVec.eq_of_getLsbD_eq
  intro place inside
  have bit := congrArg (fun word : BitVec 64 => word.getLsbD place) same
  simpa [inside, show place < 64 by omega] using bit

theorem upperHalf_eq (data : BitVec 64) :
    data &&& 0xFFFFFFFF00000000#64 = BitVec.ofNat 64 (secplusV1Fixed data).toNat <<< 32 := by
  have mask : 0xFFFFFFFF00000000#64 = BitVec.allOnes 64 <<< 32 := by decide
  apply BitVec.eq_of_getLsbD_eq
  intro place inside
  rw [mask, BitVec.ofNat_toNat, secplusV1Fixed, BitVec.getLsbD_and, BitVec.getLsbD_shiftLeft, BitVec.getLsbD_allOnes]
  by_cases low : place < 32
  · simp [low]
  · have back : 32 + (place - 32) = place := by omega
    simp [low, inside, back, show place - 32 < 64 by omega, show place - 32 < 32 by omega]

theorem encode_data (instanc : SubGhzProtocolSecPlusV1) : (subghzProtocolSecplusV1Encode instanc).2.generic.data =
      BitVec.ofNat 64 (secplusV1Fixed instanc.generic.data).toNat <<< 32 |||
        (secplusV1Rolling instanc.generic.data + 2).setWidth 64 := by
  rw [← upperHalf_eq]
  unfold subghzProtocolSecplusV1Encode
  by_cases wrong : 0xCFD41B90#32 < secplusV1Fixed instanc.generic.data
  · rw [if_pos wrong]
  · rw [if_neg wrong]

theorem encode_dataArray (instanc : SubGhzProtocolSecPlusV1)
    (small : secplusV1Fixed instanc.generic.data ≤ 0xCFD41B90#32) :
    (subghzProtocolSecplusV1Encode instanc).2.dataArray =
      encodeDataArray (rollingAt (secplusV1Rolling instanc.generic.data + 2)) (secplusV1Fixed instanc.generic.data) := by
  unfold subghzProtocolSecplusV1Encode
  rw [if_neg (BitVec.not_lt.mpr small)]

theorem decodePackets_encodeDataArray (rolling fixed : BitVec 32) :
    (decodePackets (encodeDataArray rolling fixed)).rolling = transmitted rolling % 3 ^ 20 ∧
      (decodePackets (encodeDataArray rolling fixed)).fixed = fixed.toNat % 3 ^ 20 := by
  obtain ⟨first, second⟩ := @decodePackets_encodePackets
    ((fixedNumeral 3 20 (transmitted rolling)).zip (fixedNumeral 3 20 fixed.toNat))
    (fun pair member => ⟨digit_lt_of_mem_fixedNumeral (by decide) (List.of_mem_zip member).1,
      digit_lt_of_mem_fixedNumeral (by decide) (List.of_mem_zip member).2⟩) (by simp) 0x00 0x02
  rw [List.map_fst_zip (by simp), foldl_fixedNumeral] at first
  rw [List.map_snd_zip (by simp), foldl_fixedNumeral] at second
  exact ⟨first, second⟩

theorem decode_encoded (encoder decoder : SubGhzProtocolSecPlusV1)
    (small : secplusV1Fixed encoder.generic.data ≤ 0xCFD41B90#32) :
    (subghzProtocolSecplusV1Decode { decoder with
        dataArray := (subghzProtocolSecplusV1Encode encoder).2.dataArray }).generic.data =
      BitVec.ofNat 64 (secplusV1Fixed encoder.generic.data).toNat <<< 32 ||| ((reverseKey (BitVec.ofNat 64
          (transmitted (rollingAt (secplusV1Rolling encoder.generic.data + 2)) % 3 ^ 20)) 32).setWidth 32).setWidth 64 := by
  have fits : (secplusV1Fixed encoder.generic.data).toNat % 3 ^ 20 = (secplusV1Fixed encoder.generic.data).toNat :=
    Nat.mod_eq_of_lt (Nat.lt_of_le_of_lt small (by decide))
  obtain ⟨first, second⟩ := decodePackets_encodeDataArray (rollingAt (secplusV1Rolling encoder.generic.data + 2))
    (secplusV1Fixed encoder.generic.data)
  unfold subghzProtocolSecplusV1Decode
  rw [encode_dataArray encoder small]
  simp only
  rw [first, second, fits]

/-- **The receiver reads the value that the encoder stores exactly if the counter has
not come to its last value, and its reversal is a number of twenty digits.** -/
theorem secplusV1_agrees (encoder decoder : SubGhzProtocolSecPlusV1)
    (small : secplusV1Fixed encoder.generic.data ≤ 0xCFD41B90#32) :
    (subghzProtocolSecplusV1Decode { decoder with
        dataArray := (subghzProtocolSecplusV1Encode encoder).2.dataArray }).generic.data =
        (subghzProtocolSecplusV1Encode encoder).2.generic.data ↔
      secplusV1Rolling encoder.generic.data + 2 ≠ 0xFFFFFFFF#32 ∧
        transmitted (secplusV1Rolling encoder.generic.data + 2) ≤ 0xCFD41B90 := by
  rw [decode_encoded encoder decoder small, encode_data, join_inj,
    received_iff (Nat.lt_trans (Nat.mod_lt _ (by decide)) (by decide))]
  by_cases wraps : secplusV1Rolling encoder.generic.data + 2 = 0xFFFFFFFF#32
  · rw [wraps]
    exact iff_of_false (by decide +kernel) fun agrees => agrees.1 rfl
  · rw [rollingAt, if_neg wraps, and_iff_right wraps]
    omega

/-- A remote with the fixed code 3. -/
def fixedThree (rolling : BitVec 32) : SubGhzProtocolSecPlusV1 where
  generic := ⟨(3#64 <<< 32) ||| rolling.setWidth 64, 0, 42, 0, 0, 0, 0⟩
  dataArray := ⟨0, [], 0, []⟩

theorem secplusV1_agrees_four : (subghzProtocolSecplusV1Decode { fixedThree 0 with
        dataArray := (subghzProtocolSecplusV1Encode (fixedThree 4)).2.dataArray }).generic.data =
      (subghzProtocolSecplusV1Encode (fixedThree 4)).2.generic.data :=
  (secplusV1_agrees (fixedThree 4) (fixedThree 0) (by decide)).mpr ⟨by decide, by decide +kernel⟩

/-- At the counter's end the copy that is stored is not what goes out; and before
that a code whose reversal needs more than twenty digits loses the first one. -/
theorem secplusV1_disagrees : secplusV1Fixed (fixedThree 0).generic.data ≤ 0xCFD41B90#32 ∧
      (subghzProtocolSecplusV1Decode { fixedThree 0 with
          dataArray := (subghzProtocolSecplusV1Encode (fixedThree 0xFFFFFFFD#32)).2.dataArray }).generic.data ≠
        (subghzProtocolSecplusV1Encode (fixedThree 0xFFFFFFFD#32)).2.generic.data ∧
      (subghzProtocolSecplusV1Decode { fixedThree 0 with
          dataArray := (subghzProtocolSecplusV1Encode (fixedThree 0x0000000D#32)).2.dataArray }).generic.data ≠
        (subghzProtocolSecplusV1Encode (fixedThree 0x0000000D#32)).2.generic.data :=
  ⟨by decide, by decide +kernel, by decide +kernel⟩

end Xtreme.SubGhz
