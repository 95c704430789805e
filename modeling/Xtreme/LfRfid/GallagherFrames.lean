import Xtreme.Library.SlidingWindow
import Xtreme.LfRfid.Gallagher

/-! What the Gallagher reader makes of a card that sends its frame over and over. -/
namespace Xtreme.LfRfid.Gallagher
open Xtreme.Library Xtreme.BitLib

/-! ## The fields of a card -/

def Low (mask : BitVec 32) (width : Nat) : Prop := ∀ i < 32, mask.getLsbD i = decide (i < width)

instance (mask : BitVec 32) (width : Nat) : Decidable (Low mask width) := by
  unfold Low
  infer_instance

theorem getLsbD_taken {word mask : BitVec 32} {width : Nat} (low : Low mask width)
    (shift : Nat) {j : Nat} (inside : j < 8) :
    (((word &&& mask) >>> shift).setWidth 8).getLsbD j =
      (decide (shift + j < width) && word.getLsbD (shift + j)) := by
  rw [BitVec.getLsbD_setWidth, decide_eq_true inside, Bool.true_and, BitVec.getLsbD_ushiftRight,
    BitVec.getLsbD_and, Bool.and_comm]
  by_cases small : shift + j < 32
  · rw [low _ small]
  · rw [BitVec.getLsbD_of_ge word _ (by omega), Bool.and_false, Bool.and_false]

/-- The bits a word gets from a byte moved up by `shift`. -/
theorem getLsbD_placed {byte : BitVec 8} {mask : BitVec 32} {width : Nat} (low : Low mask width)
    (shift : Nat) {i : Nat} (inside : i < 32) :
    ((byte.setWidth 32 &&& mask) <<< shift).getLsbD i =
      (decide (shift ≤ i ∧ i < shift + width) && byte.getLsbD (i - shift)) := by
  rw [BitVec.getLsbD_shiftLeft, decide_eq_true inside, Bool.true_and, BitVec.getLsbD_and,
    BitVec.getLsbD_setWidth, low _ (by omega), decide_eq_true (show i - shift < 32 by omega),
    Bool.true_and, Bool.and_comm (byte.getLsbD _), ← Bool.and_assoc]
  congr 1
  rw [← decide_not, ← Bool.decide_and, decide_eq_decide]
  omega

theorem getLsbD_moved (byte : BitVec 8) (shift : Nat) {i : Nat} (inside : i < 32) :
    (byte.setWidth 32 <<< shift).getLsbD i =
      (decide (shift ≤ i ∧ i < shift + 8) && byte.getLsbD (i - shift)) := by
  have all : byte.setWidth 32 &&& 0xFF#32 = byte.setWidth 32 := by
    apply BitVec.eq_of_getLsbD_eq
    intro i inside
    rw [BitVec.getLsbD_and, (show Low 0xFF#32 8 by decide) i inside]
    by_cases small : i < 8
    · simp [small]
    · simp [BitVec.getLsbD_of_ge byte i (by omega)]
  rw [← getLsbD_placed (show Low 0xFF#32 8 by decide) shift inside, all]

section FieldBytes
variable (rc il : BitVec 8) (fc cn : BitVec 32) {j : Nat}

theorem fieldBytes_bits (inside : j < 8) : (byteAt (fieldBytes rc il fc cn) 0).getLsbD j = cn.getLsbD (16 + j) ∧
      (byteAt (fieldBytes rc il fc cn) 1).getLsbD j = fc.getLsbD (4 + j) ∧
      (byteAt (fieldBytes rc il fc cn) 2).getLsbD j = cn.getLsbD (3 + j) ∧
      (byteAt (fieldBytes rc il fc cn) 4).getLsbD j = (decide (j < 5) && cn.getLsbD (11 + j)) ∧
      (byteAt (fieldBytes rc il fc cn) 5).getLsbD j = (decide (j < 4) && fc.getLsbD (12 + j)) := by
  have zero : byteAt (fieldBytes rc il fc cn) 0 = ((cn &&& 0xffffff#32) >>> 16).setWidth 8 := rfl
  have one : byteAt (fieldBytes rc il fc cn) 1 = ((fc &&& 0xfff#32) >>> 4).setWidth 8 := rfl
  have two : byteAt (fieldBytes rc il fc cn) 2 = ((cn &&& 0x7ff#32) >>> 3).setWidth 8 := rfl
  have four : byteAt (fieldBytes rc il fc cn) 4 = ((cn &&& 0xffff#32) >>> 11).setWidth 8 := rfl
  have five : byteAt (fieldBytes rc il fc cn) 5 = ((fc &&& 0xffff#32) >>> 12).setWidth 8 := rfl
  rw [zero, one, two, four, five, getLsbD_taken (show Low 0xffffff#32 24 by decide) _ inside,
    getLsbD_taken (show Low 0xfff#32 12 by decide) _ inside,
    getLsbD_taken (show Low 0x7ff#32 11 by decide) _ inside,
    getLsbD_taken (show Low 0xffff#32 16 by decide) _ inside,
    getLsbD_taken (show Low 0xffff#32 16 by decide) _ inside, decide_eq_true (show 16 + j < 24 by omega),
    decide_eq_true (show 4 + j < 12 by omega), decide_eq_true (show 3 + j < 11 by omega)]
  refine ⟨Bool.true_and _, Bool.true_and _, Bool.true_and _, ?_, ?_⟩ <;> congr 1 <;>
    rw [decide_eq_decide] <;> omega

theorem fieldBytes_three (inside : j < 8) : (byteAt (fieldBytes rc il fc cn) 3).getLsbD j =
      if 5 ≤ j then cn.getLsbD (j - 5) else if 1 ≤ j then rc.getLsbD (j - 1) else false := by
  have three : byteAt (fieldBytes rc il fc cn) 3 =
    (((cn &&& 0x7#32) <<< 5) ||| ((rc.setWidth 32 &&& 0xf#32) <<< 1)).setWidth 8 := rfl
  rw [three, BitVec.getLsbD_setWidth, decide_eq_true inside, BitVec.getLsbD_or,
    getLsbD_placed (show Low 0xf#32 4 by decide) _ (by omega), BitVec.getLsbD_shiftLeft,
    decide_eq_true (show j < 32 by omega), BitVec.getLsbD_and,
    (show Low 0x7#32 3 by decide) _ (by omega)]
  by_cases card : 5 ≤ j
  · simp [show ¬ j < 5 by omega, show j - 5 < 3 by omega]
  · by_cases region : 1 ≤ j
    · simp [card, show j < 5 by omega]
    · simp [card, region]

theorem fieldBytes_seven (inside : j < 8) : (byteAt (fieldBytes rc il fc cn) 7).getLsbD j =
      if 4 ≤ j then fc.getLsbD (j - 4) else il.getLsbD j := by
  have seven : byteAt (fieldBytes rc il fc cn) 7 =
    (((fc &&& 0xf#32) <<< 4) ||| (il.setWidth 32 &&& 0xf#32)).setWidth 8 := rfl
  rw [seven, BitVec.getLsbD_setWidth, decide_eq_true inside, BitVec.getLsbD_or,
    BitVec.getLsbD_shiftLeft, decide_eq_true (show j < 32 by omega), BitVec.getLsbD_and,
    BitVec.getLsbD_and, (show Low 0xf#32 4 by decide) _ (by omega),
    (show Low 0xf#32 4 by decide) _ (by omega)]
  by_cases facility : 4 ≤ j
  · simp [show ¬ j < 4 by omega, show j - 4 < 4 by omega]
  · simp [facility, show j < 4 by omega, show j < 32 by omega]

end FieldBytes

section Collect
variable {encodedData : Bytes encodedByteFullSize} {rc il : BitVec 8} {fc cn : BitVec 32}
variable (bytes : ∀ i < 8, byteAt encodedData (2 + i) = byteAt (fieldBytes rc il fc cn) i)
include bytes

/-- The facility code comes back as far as the payload has room for it. -/
theorem decodedFc_eq : decodedFc encodedData = fc &&& 0xFFFF#32 := by
  rw [decodedFc, bytes 1 (by omega), bytes 5 (by omega), bytes 7 (by omega)]
  apply BitVec.eq_of_getLsbD_eq
  intro i inside
  rw [BitVec.getLsbD_or, BitVec.getLsbD_or, getLsbD_placed (show Low 0x0F#32 4 by decide) _ inside,
    getLsbD_moved _ _ inside, BitVec.getLsbD_and, BitVec.getLsbD_and, BitVec.getLsbD_ushiftRight,
    BitVec.getLsbD_setWidth, (show Low 0x0F#32 4 by decide) _ inside,
    (show Low 0xFFFF#32 16 by decide) _ inside]
  by_cases low : i < 4
  · rw [fieldBytes_seven _ _ _ _ (show 4 + i < 8 by omega)]
    simp [low, show ¬ 12 ≤ i by omega, show ¬ 4 ≤ i by omega, show 4 + i < 32 by omega,
      show i < 16 by omega]
  by_cases middle : i < 12
  · rw [(fieldBytes_bits _ _ _ _ (show i - 4 < 8 by omega)).2.1]
    simp [low, middle, show ¬ 12 ≤ i by omega, show 4 ≤ i by omega, show i < 16 by omega]
  by_cases high : i < 16
  · rw [(fieldBytes_bits _ _ _ _ (show i - 12 < 8 by omega)).2.2.2.2]
    simp [low, middle, high, show 12 ≤ i by omega, show i - 12 < 4 by omega]
  · simp [low, middle, high]

theorem decodedCard_eq : decodedCard encodedData = cn &&& 0xFFFFFF#32 := by
  rw [decodedCard, bytes 0 (by omega), bytes 2 (by omega), bytes 3 (by omega), bytes 4 (by omega)]
  have high : ∀ i < 32, (0xE0#32).getLsbD i = decide (5 ≤ i ∧ i < 8) := by decide
  apply BitVec.eq_of_getLsbD_eq
  intro i inside
  rw [BitVec.getLsbD_or, BitVec.getLsbD_or, BitVec.getLsbD_or, getLsbD_moved _ _ inside,
    getLsbD_placed (show Low 0x1F#32 5 by decide) _ inside, getLsbD_moved _ _ inside,
    BitVec.getLsbD_ushiftRight, BitVec.getLsbD_and, BitVec.getLsbD_and, BitVec.getLsbD_setWidth,
    (show Low 0xFFFFFF#32 24 by decide) _ inside]
  by_cases first : i < 3
  · rw [fieldBytes_three _ _ _ _ (show 5 + i < 8 by omega), high _ (by omega)]
    simp [show ¬ 16 ≤ i by omega, show ¬ 11 ≤ i by omega, show ¬ 3 ≤ i by omega,
      show 5 + i < 32 by omega, show i < 24 by omega, show 5 + i < 8 by omega]
  have none : (byteAt (fieldBytes rc il fc cn) 3).getLsbD (5 + i) = false :=
    BitVec.getLsbD_of_ge _ _ (by omega)
  rw [none]
  by_cases second : i < 11
  · rw [(fieldBytes_bits _ _ _ _ (show i - 3 < 8 by omega)).2.2.1]
    simp [second, show ¬ 16 ≤ i by omega, show ¬ 11 ≤ i by omega, show 3 ≤ i by omega,
      show i < 24 by omega]
  by_cases third : i < 16
  · rw [(fieldBytes_bits _ _ _ _ (show i - 11 < 8 by omega)).2.2.2.1]
    simp [second, third, show ¬ 16 ≤ i by omega, show 11 ≤ i by omega,
      show i - 11 < 5 by omega, show i < 24 by omega]
  by_cases fourth : i < 24
  · rw [(fieldBytes_bits _ _ _ _ (show i - 16 < 8 by omega)).1]
    simp [second, third, fourth, show 16 ≤ i by omega]
  · simp [second, third, fourth]

end Collect

/-- The array the decode works on: the payload's bytes closed up and descrambled. -/
def descrambled (encodedData : Bytes encodedByteFullSize) : Bytes encodedByteFullSize :=
  protocolGallagherDescramble (bitLibRemoveBitEveryNth encodedData 16 (9 * 8) 9).2 2 8

theorem decode_encodedData (protocol : ProtocolGallagher) :
    (protocolGallagherDecode protocol).encodedData = descrambled protocol.encodedData := by
  rw [protocolGallagherDecode, descrambled]

/-- The first byte of the result, before the others are stored. -/
def storedNibbles (protocol : ProtocolGallagher) : Bytes decodedDataSize :=
  bitLibSetBits (bitLibSetBits protocol.data 0 ((byteAt (descrambled protocol.encodedData) 5 &&& 0x1E#8) >>> 1) 4) 4
    (byteAt (descrambled protocol.encodedData) 9 &&& 0x0F#8) 4

theorem byteAt_decode (protocol : ProtocolGallagher) (index : Nat) :
    byteAt (protocolGallagherDecode protocol).data index =
      if index = 4 then (decodedCard (descrambled protocol.encodedData) >>> 8 >>> 8 >>> 8).setWidth 8
      else if index = 5 then (decodedCard (descrambled protocol.encodedData) >>> 8 >>> 8).setWidth 8
      else if index = 6 then (decodedCard (descrambled protocol.encodedData) >>> 8).setWidth 8
      else if index = 7 then (decodedCard (descrambled protocol.encodedData)).setWidth 8
      else if index = 1 then (decodedFc (descrambled protocol.encodedData) >>> 8 >>> 8).setWidth 8
      else if index = 2 then (decodedFc (descrambled protocol.encodedData) >>> 8).setWidth 8
      else if index = 3 then (decodedFc (descrambled protocol.encodedData)).setWidth 8
      else byteAt (storedNibbles protocol) index := by
  have size : decodedDataSize = 8 := rfl
  rw [protocolGallagherDecode]
  rw [byteAt_setIfInBounds _ (by omega), byteAt_setIfInBounds _ (by omega),
    byteAt_setIfInBounds _ (by omega), byteAt_setIfInBounds _ (by omega),
    byteAt_setIfInBounds _ (by omega), byteAt_setIfInBounds _ (by omega),
    byteAt_setIfInBounds _ (by omega)]
  rfl

theorem byteAt_decode_fc (protocol : ProtocolGallagher) {index : Nat} (low : 1 ≤ index) (high : index ≤ 3) :
    byteAt (protocolGallagherDecode protocol).data index =
      (decodedFc (descrambled protocol.encodedData) >>> (8 * (3 - index))).setWidth 8 := by
  rw [byteAt_decode]
  obtain rfl | rfl | rfl : index = 1 ∨ index = 2 ∨ index = 3 := by omega
  all_goals simp [← BitVec.shiftRight_add]

theorem byteAt_decode_card (protocol : ProtocolGallagher) {index : Nat} (low : 4 ≤ index) (high : index ≤ 7) :
    byteAt (protocolGallagherDecode protocol).data index =
      (decodedCard (descrambled protocol.encodedData) >>> (8 * (7 - index))).setWidth 8 := by
  rw [byteAt_decode]
  obtain rfl | rfl | rfl | rfl : index = 4 ∨ index = 5 ∨ index = 6 ∨ index = 7 := by omega
  all_goals simp [← BitVec.shiftRight_add]

theorem getBit_stored {data : Bytes decodedDataSize} {word : BitVec 32} {first last place : Nat}
    (stored : ∀ index, first ≤ index → index ≤ last →
      byteAt data index = (word >>> (8 * (last - index))).setWidth 8)
    (low : 8 * first ≤ place) (high : place < 8 * last + 8) :
    bitLibGetBit data place = word.getLsbD (8 * last + 7 - place) := by
  rw [bitLibGetBit_eq, stored (place / 8) (by omega) (by omega), BitVec.getMsbD_eq_getLsbD,
    decide_eq_true (by omega), Bool.true_and, BitVec.getLsbD_setWidth, decide_eq_true (by omega),
    Bool.true_and, BitVec.getLsbD_ushiftRight]
  congr 1
  omega

section Collected
variable {protocol : ProtocolGallagher} {rc il : BitVec 8} {fc cn : BitVec 32}
variable (bytes : ∀ i < 8, byteAt (descrambled protocol.encodedData) (2 + i) = byteAt (fieldBytes rc il fc cn) i)
include bytes

theorem facilityCode_decode : facilityCode (protocolGallagherDecode protocol).data = fc &&& 0xFFFF#32 := by
  rw [facilityCode, bitLibGetBits32_eq _ _ (by omega)]
  apply BitVec.eq_of_getLsbD_eq
  intro i inside
  rw [getLsbD_ofBits_bitsFrom _ _ inside, BitVec.getLsbD_and, (show Low 0xFFFF#32 16 by decide) _ inside]
  by_cases stored : i < 24
  · rw [decide_eq_true stored, Bool.true_and,
      getBit_stored (fun _ low high => byteAt_decode_fc protocol low high) (by omega) (by omega),
      decodedFc_eq bytes, BitVec.getLsbD_and, (show Low 0xFFFF#32 16 by decide) _ (by omega),
      show 8 * 3 + 7 - (8 + (24 - 1 - i)) = i by omega]
  · rw [decide_eq_false stored, decide_eq_false (by omega), Bool.false_and, Bool.and_false]

theorem cardNumber_decode : cardNumber (protocolGallagherDecode protocol).data = cn &&& 0xFFFFFF#32 := by
  rw [cardNumber, bitLibGetBits32_eq _ _ (by omega)]
  apply BitVec.eq_of_getLsbD_eq
  intro i inside
  rw [getLsbD_ofBits_bitsFrom _ _ inside, decide_eq_true inside, Bool.true_and,
    getBit_stored (fun _ low high => byteAt_decode_card protocol low high) (by omega) (by omega),
    decodedCard_eq bytes, show 8 * 7 + 7 - (32 + (32 - 1 - i)) = i by omega]

theorem getBit_decode_nibbles {place : Nat} (inside : place < 8) :
    bitLibGetBit (protocolGallagherDecode protocol).data place =
      if place < 4 then rc.getLsbD (3 - place) else il.getLsbD (7 - place) := by
  have size : 8 * decodedDataSize = 64 := rfl
  have first : byteAt (protocolGallagherDecode protocol).data 0 = byteAt (storedNibbles protocol) 0 := by
    rw [byteAt_decode]
    rfl
  have five : byteAt (descrambled protocol.encodedData) 5 = byteAt (fieldBytes rc il fc cn) 3 :=
    bytes 3 (by omega)
  have nine : byteAt (descrambled protocol.encodedData) 9 = byteAt (fieldBytes rc il fc cn) 7 :=
    bytes 7 (by omega)
  have region : ∀ i < 8, (0x1E#8).getLsbD i = decide (1 ≤ i ∧ i < 5) := by decide
  have issue : ∀ i < 8, (0x0F#8).getLsbD i = decide (i < 4) := by decide
  rw [bitLibGetBit_eq, show place / 8 = 0 by omega, first, getMsbD_byteAt _ _ (by omega), storedNibbles, five, nine,
    bitLibGetBit_setBits _ _ (by omega), bitLibGetBit_setBits _ _ (by omega)]
  by_cases high : place < 4
  · rw [if_neg (by omega), if_pos (by omega), if_pos high, BitVec.getLsbD_ushiftRight, BitVec.getLsbD_and,
      region _ (by omega), decide_eq_true (by omega), Bool.and_true,
      fieldBytes_three _ _ _ _ (by omega), if_neg (by omega), if_pos (by omega)]
    exact congrArg rc.getLsbD (by omega)
  · rw [if_pos (by omega), if_neg high, BitVec.getLsbD_and, issue _ (by omega), decide_eq_true (by omega),
      Bool.and_true, fieldBytes_seven _ _ _ _ (by omega), if_neg (by omega)]
    exact congrArg il.getLsbD (by omega)

theorem regionCode_decode (short : ∀ i, 4 ≤ i → rc.getLsbD i = false) :
    regionCode (protocolGallagherDecode protocol).data = rc := by
  rw [regionCode, bitLibGetBits_eq _ _ (by omega)]
  apply BitVec.eq_of_getLsbD_eq
  intro i inside
  rw [getLsbD_ofBits_bitsFrom _ _ inside]
  by_cases nibble : i < 4
  · rw [decide_eq_true nibble, getBit_decode_nibbles bytes (by omega), if_pos (by omega)]
    exact congrArg rc.getLsbD (by omega)
  · rw [decide_eq_false nibble, Bool.false_and, short i (by omega)]

theorem issueLevel_decode (short : ∀ i, 4 ≤ i → il.getLsbD i = false) :
    issueLevel (protocolGallagherDecode protocol).data = il := by
  rw [issueLevel, bitLibGetBits_eq _ _ (by omega)]
  apply BitVec.eq_of_getLsbD_eq
  intro i inside
  rw [getLsbD_ofBits_bitsFrom _ _ inside]
  by_cases nibble : i < 4
  · rw [decide_eq_true nibble, getBit_decode_nibbles bytes (by omega), if_neg (by omega)]
    exact congrArg il.getLsbD (by omega)
  · rw [decide_eq_false nibble, Bool.false_and, short i (by omega)]

end Collected

def preamble : List Bool := [false, true, true, true, true, true, true, true, true, true, true, false,
  true, false, true, false]

/-- The checksum over the scrambled bytes. -/
def payloadCrc (payload : Bytes 8) : BitVec 8 :=
  (bitLibCrc8 payload 8 0x7 0x2c false false 0x00).setWidth 8

def frameBit (payload : Bytes 8) (place : Nat) : Bool :=
  if place < 16 then preamble.getD place false
  else if place < 88 then
    if (place - 16) % 9 = 8 then !bitLibGetBit payload (8 * ((place - 16) / 9) + 7)
    else bitLibGetBit payload (8 * ((place - 16) / 9) + (place - 16) % 9)
  else (payloadCrc payload).getMsbD (place - 88)

theorem getBit_encodeByte (payload : Bytes 8) (start : Bytes encodedByteFullSize) {i : Nat} (few : i < 8)
    (place : Nat) :
    bitLibGetBit (encodeByte payload start i) place =
      if 16 + 9 * i ≤ place ∧ place < 16 + 9 * i + 9 then frameBit payload place
      else bitLibGetBit start place := by
  have size : 8 * encodedByteFullSize = 112 := rfl
  have last : decide (byteAt payload i &&& 0x1#8 = 0#8) = !bitLibGetBit payload (8 * i + 7) := by
    rw [← getMsbD_byteAt _ _ (by omega)]
    have low : ∀ byte : BitVec 8, decide (byte &&& 0x1#8 = 0#8) =
      !(decide (7 < 8) && byte.getLsbD (8 - 1 - 7)) := by decide
    exact low _
  rw [encodeByte, bitLibGetBit_setBit _ (by omega), bitLibGetBit_setBits _ _ (by omega), last]
  by_cases inverted : place = 16 + i * 9 + 8
  · rw [if_pos inverted, if_pos (by omega), frameBit, if_neg (by omega), if_pos (by omega),
      if_pos (by omega), show (place - 16) / 9 = i by omega]
  rw [if_neg inverted]
  by_cases byte : 16 + i * 9 ≤ place ∧ place < 16 + i * 9 + 8
  · rw [if_pos byte, if_pos (by omega), frameBit, if_neg (by omega), if_pos (by omega),
      if_neg (by omega), show (place - 16) / 9 = i by omega, ← getMsbD_byteAt _ _ (by omega),
      BitVec.getMsbD_eq_getLsbD, decide_eq_true (by omega)]
    exact congrArg (byteAt payload i).getLsbD (by omega)
  · rw [if_neg byte, if_neg (by omega)]

theorem getBit_encodeBytes (payload : Bytes 8) (start : Bytes encodedByteFullSize) {count : Nat}
    (few : count ≤ 8) (place : Nat) :
    bitLibGetBit ((List.range count).foldl (encodeByte payload) start) place =
      if 16 ≤ place ∧ place < 16 + 9 * count then frameBit payload place
      else bitLibGetBit start place := by
  induction count with
  | zero => rw [List.range_zero, List.foldl_nil, if_neg (by omega)]
  | succ count ih =>
    rw [List.range_succ, List.foldl_append, List.foldl_cons, List.foldl_nil,
      getBit_encodeByte payload _ (by omega), ih (by omega)]
    by_cases this : 16 + 9 * count ≤ place ∧ place < 16 + 9 * count + 9
    · rw [if_pos this, if_pos (by omega)]
    · rw [if_neg this]
      by_cases earlier : 16 ≤ place ∧ place < 16 + 9 * count
      · rw [if_pos earlier, if_pos (by omega)]
      · rw [if_neg earlier, if_neg (by omega)]

theorem getBit_encode (data : Bytes decodedDataSize) (encodedData : Bytes encodedByteFullSize) {place : Nat}
    (inside : place < 96) : bitLibGetBit (encode data encodedData) place = frameBit (payload data) place := by
  have size : 8 * encodedByteFullSize = 112 := rfl
  have first : ∀ place < 8, (0b01111111#8).getLsbD (8 - 1 - (place - 0)) = preamble.getD place false := by
    decide
  have second : ∀ place < 16, 8 ≤ place →
      (0b11101010#8).getLsbD (8 - 1 - (place - 8)) = preamble.getD place false := by decide
  rw [encode, bitLibGetBit_setBits _ _ (by omega), getBit_encodeBytes _ _ (by omega),
    bitLibGetBit_setBits _ _ (by omega), bitLibGetBit_setBits _ _ (by omega)]
  by_cases crc : 88 ≤ place
  · rw [if_pos (by omega), frameBit, if_neg (by omega), if_neg (by omega), BitVec.getMsbD_eq_getLsbD,
      decide_eq_true (by omega)]
    rfl
  rw [if_neg (by omega)]
  by_cases byte : 16 ≤ place
  · rw [if_pos (by omega)]
  rw [if_neg (by omega), frameBit, if_pos (show place < 16 by omega)]
  by_cases high : 8 ≤ place
  · rw [if_pos (by omega), second _ (by omega) high]
  · rw [if_neg (by omega), if_pos (by omega), first _ (by omega)]

def PreambleAt (window : Nat → Bool) (position : Nat) : Prop :=
  ∀ i < 16, window (position + i) = preamble.getD i false

theorem preamble_iff (encodedData : Bytes encodedByteFullSize) (position : Nat) :
    bitLibGetBits16 encodedData position 16 = 0b0111111111101010#16 ↔
      PreambleAt (bitLibGetBit encodedData) position :=
  bitLibGetBits16_eq_iff encodedData position preamble rfl (by omega) (by decide)

theorem PreambleAt.congr {first second : Nat → Bool} {position : Nat}
    (same : ∀ i < 16, first (position + i) = second (position + i)) (found : PreambleAt first position) :
    PreambleAt second position :=
  fun i inside => (same i inside).symm.trans (found i inside)

variable {protocol : ProtocolGallagher}

theorem preambles_of_accepted (accepted : protocolGallagherCanBeDecoded protocol = true) :
    PreambleAt (bitLibGetBit protocol.encodedData) 0 ∧
      PreambleAt (bitLibGetBit protocol.encodedData) 96 := by
  unfold protocolGallagherCanBeDecoded at accepted
  split_ifs at accepted with first second
  rw [not_not] at first second
  exact ⟨(preamble_iff _ _).mp first, (preamble_iff _ _).mp second⟩

/-- A window onto the repeated frame, from its first bit. -/
def frameWindow (payload : Bytes 8) (place : Nat) : Bool := frameBit payload (place % 96)

theorem frameBit_preamble (payload : Bytes 8) {place : Nat} (inside : place < 16) :
    frameBit payload place = preamble.getD place false := if_pos inside

theorem frameBit_byte (payload : Bytes 8) {i j : Nat} (few : i < 8) (inside : j < 8) :
    frameBit payload (16 + 9 * i + j) = bitLibGetBit payload (8 * i + j) := by
  rw [frameBit, if_neg (by omega), if_pos (by omega), if_neg (by omega),
    show (16 + 9 * i + j - 16) / 9 = i by omega, show (16 + 9 * i + j - 16) % 9 = j by omega]

theorem frameBit_inverted (payload : Bytes 8) {i : Nat} (few : i < 8) :
    frameBit payload (16 + 9 * i + 8) = !frameBit payload (16 + 9 * i + 7) := by
  have last : frameBit payload (16 + 9 * i + 8) = !bitLibGetBit payload (8 * i + 7) := by
    rw [frameBit, if_neg (by omega), if_pos (by omega), if_pos (by omega),
      show (16 + 9 * i + 8 - 16) / 9 = i by omega]
  rw [last, frameBit_byte payload few (by omega)]

/-- **A frame is accepted.** -/
theorem accepted_of_frame {payload : Bytes 8}
    (frame : ∀ place < 112, bitLibGetBit protocol.encodedData place = frameWindow payload place) :
    protocolGallagherCanBeDecoded protocol = true := by
  have found (position : Nat) (multiple : position % 96 = 0) (inside : position + 16 ≤ 112) :
      PreambleAt (bitLibGetBit protocol.encodedData) position := by
    intro i within
    rw [frame _ (by omega), frameWindow, show (position + i) % 96 = i by omega, frameBit_preamble payload within]
  have bytes : (Vector.ofFn fun i : Fin 8 => bitLibGetBits protocol.encodedData (16 + 9 * i.val) 8) =
      payload := by
    apply bytes_ext
    intro place inside
    have index : place / 8 < 8 := by omega
    have small : place % 8 < 8 := by omega
    have byte : byteAt (Vector.ofFn fun i : Fin 8 => bitLibGetBits protocol.encodedData (16 + 9 * i.val) 8)
        (place / 8) = bitLibGetBits protocol.encodedData (16 + 9 * (place / 8)) 8 := by
      rw [byteAt, Vector.getElem?_ofFn, dif_pos index]
      rfl
    rw [bitLibGetBit_eq, byte, bitLibGetBits_eq _ _ (by omega),
      BitVec.getMsbD_eq_getLsbD, decide_eq_true small, getLsbD_ofBits_bitsFrom _ _ (by omega),
      decide_eq_true (by omega), frame _ (by omega), frameWindow,
      show (16 + 9 * (place / 8) + (8 - 1 - (8 - 1 - place % 8))) % 96 = 16 + 9 * (place / 8) + place % 8 by
        omega, frameBit_byte payload index small]
    exact congrArg (bitLibGetBit payload) (by omega)
  have crc : bitLibGetBits protocol.encodedData (16 + 9 * 8) 8 = payloadCrc payload := by
    rw [bitLibGetBits_eq _ _ (by omega)]
    apply BitVec.eq_of_getLsbD_eq
    intro i inside
    rw [getLsbD_ofBits_bitsFrom _ _ inside, decide_eq_true inside, frame _ (by omega),
      frameWindow, frameBit, if_neg (by omega), if_neg (by omega), BitVec.getMsbD_eq_getLsbD,
      decide_eq_true (by omega)]
    exact congrArg (payloadCrc payload).getLsbD (by omega)
  unfold protocolGallagherCanBeDecoded
  rw [if_neg (not_not.mpr ((preamble_iff _ _).mpr (found 0 rfl (by omega)))),
    if_neg (not_not.mpr ((preamble_iff _ _).mpr (found 96 rfl (by omega))))]
  rw [bytes, crc]
  exact if_neg (not_not.mpr rfl)

theorem descrambled_frame {encodedData : Bytes encodedByteFullSize} {fields : Bytes 8}
    (frame : ∀ place < 112, bitLibGetBit encodedData place =
      frameWindow (protocolGallagherScramble fields 0 8) place) {i : Nat} (few : i < 8) :
    byteAt (descrambled encodedData) (2 + i) = byteAt fields i := by
  have kept : keptCount 9 (9 * 8) = 64 := rfl
  have size : encodedByteFullSize = 14 := rfl
  have closed : byteAt (bitLibRemoveBitEveryNth encodedData 16 (9 * 8) 9).2 (2 + i) =
      byteAt (protocolGallagherScramble fields 0 8) i := by
    apply BitVec.eq_of_getMsbD_eq
    intro j inside
    rw [getMsbD_byteAt _ _ inside, getMsbD_byteAt _ _ inside,
      bitLibGetBit_removeBitEveryNth _ (by omega) (by omega), if_pos (by omega), frame _ (by
        unfold keptPlace
        omega), frameWindow,
      show (16 + keptPlace 9 (8 * (2 + i) + j - 16)) % 96 = 16 + 9 * i + j by
        unfold keptPlace
        omega, frameBit_byte _ few inside]
  have scrambled : byteAt (protocolGallagherScramble fields 0 8) i =
      scrambleLut.getD (byteAt fields i).toNat 0 := by
    rw [protocolGallagherScramble, byteAt_substitute _ _ (by omega), if_pos (by omega)]
  rw [descrambled, protocolGallagherDescramble, byteAt_substitute _ _ (by omega), if_pos (by omega),
    closed, scrambled, descramble_scramble]

/-- Behind the payload a decode leaves the register as it was. -/
theorem getBit_descrambled_behind (encodedData : Bytes encodedByteFullSize) {place : Nat}
    (behind : 80 ≤ place) : bitLibGetBit (descrambled encodedData) place = bitLibGetBit encodedData place := by
  have kept : keptCount 9 (9 * 8) = 64 := rfl
  have size : encodedByteFullSize = 14 := rfl
  rw [descrambled, bitLibGetBit_eq, protocolGallagherDescramble, byteAt_substitute _ _ (by omega),
    if_neg (by omega), getMsbD_byteAt _ _ (by omega), show 8 * (place / 8) + place % 8 = place by omega,
    bitLibGetBit_removeBitEveryNth _ (by omega) (by omega), if_neg (by omega)]

/-- A reader in front of a window. -/
def onWindow (window : Nat → Bool) : ProtocolGallagher where
  data := Vector.replicate decodedDataSize 0
  encodedData := bytesOf encodedByteFullSize window
  encodedDataIndex := 0
  encodedPolarity := false
  decoderManchesterState := (Toolbox.manchesterAdvance .start1 .reset).2

theorem onWindow_eq {window : Nat → Bool} (same : ∀ place < 112, bitLibGetBit protocol.encodedData place = window place) :
    (onWindow window).encodedData = protocol.encodedData := bytesOf_eq same

theorem getBit_onWindow (window : Nat → Bool) {place : Nat} (inside : place < 112) :
    bitLibGetBit (onWindow window).encodedData place = window place :=
  bitLibGetBit_bytesOf window inside

theorem canBeDecoded_onWindow {window : Nat → Bool}
    (same : ∀ place < 112, bitLibGetBit protocol.encodedData place = window place) :
    protocolGallagherCanBeDecoded (onWindow window) = protocolGallagherCanBeDecoded protocol := by
  unfold protocolGallagherCanBeDecoded
  rw [onWindow_eq same]

theorem getBit_pushBit (protocol : ProtocolGallagher) (bit : Bool) {place : Nat} (inside : place < 112) :
    bitLibGetBit (pushBit protocol bit).encodedData place =
      pushed (bitLibGetBit protocol.encodedData) 112 bit place :=
  bitLibGetBit_pushBit protocol.encodedData bit inside

/-- The reader as one that slides a window over a stream. -/
def reader : WindowReader ProtocolGallagher 112 where
  register protocol := bitLibGetBit protocol.encodedData
  feed := feedBit
  Accepts window := protocolGallagherCanBeDecoded (onWindow window) = true
  leaves window := bitLibGetBit (descrambled (onWindow window).encodedData)
  accepts_congr {first second} same accepted :=
    (@canBeDecoded_onWindow (onWindow first) second fun place inside =>
      (getBit_onWindow first inside).trans (same place inside)).trans accepted
  leaves_congr {first second} same place inside := by
    rw [@onWindow_eq (onWindow first) second fun place inside =>
      (getBit_onWindow first inside).trans (same place inside)]
  feed_reports protocol bit := by
    rw [canBeDecoded_onWindow fun place inside => getBit_pushBit protocol bit inside, feedBit]
    split <;> rename_i accepted <;> simp [accepted]
  feed_rejected protocol bit rejected place inside := by
    rw [feedBit] at rejected ⊢
    split at rejected <;> rename_i accepted
    · exact Bool.noConfusion rejected
    · rw [if_neg accepted]
      exact getBit_pushBit protocol bit inside
  feed_accepted protocol bit reported place inside := by
    rw [feedBit] at reported ⊢
    split at reported <;> rename_i accepted
    · rw [if_pos accepted, decode_encodedData, onWindow_eq fun place inside => getBit_pushBit protocol bit inside]
    · exact Bool.noConfusion reported

theorem preambles_of_accepts {window : Nat → Bool} (accepted : reader.Accepts window) :
    PreambleAt window 0 ∧ PreambleAt window 96 := by
  obtain ⟨first, second⟩ := preambles_of_accepted accepted
  exact ⟨first.congr fun i inside => getBit_onWindow window (by omega),
    second.congr fun i inside => getBit_onWindow window (by omega)⟩

/-- The bits of the repeated frame from `offset` on. -/
def stream (payload : Bytes 8) (offset i : Nat) : Bool := frameBit payload ((offset + i) % 96)

/-- **No other preamble.** Ten ones in a row stand in the repeated frame in its
preamble only: any other ten places hold a zero of the preamble, or the last bit
of a byte and its inverse. -/
theorem preamble_aligned (payload : Bytes 8) {start : Nat}
    (found : PreambleAt (fun place => frameBit payload (place % 96)) start) : start % 96 = 0 := by
  have ones : ∀ i, 1 ≤ i → i ≤ 10 → frameBit payload ((start + i) % 96) = true := by
    have pattern : ∀ i < 11, 1 ≤ i → preamble.getD i false = true := by decide
    intro i low high
    rw [← pattern i (by omega) low]
    exact found i (by omega)
  have zero (place : Nat) (inside : place < 16) (low : preamble.getD place false = false)
      (after : start % 96 + 1 ≤ place) (before : place ≤ start % 96 + 10) : False := by
    have one := ones (place - start % 96) (by omega) (by omega)
    rw [show (start + (place - start % 96)) % 96 = place by omega, frameBit_preamble payload inside, low] at one
    exact Bool.noConfusion one
  by_contra moved
  by_cases eleven : start % 96 ≤ 10
  · exact zero 11 (by omega) rfl (by omega) (by omega)
  by_cases fifteen : start % 96 ≤ 14
  · exact zero 15 (by omega) rfl (by omega) (by omega)
  by_cases wraps : 86 ≤ start % 96
  · have one := ones (96 - start % 96) (by omega) (by omega)
    rw [show (start + (96 - start % 96)) % 96 = 0 by omega] at one
    exact Bool.noConfusion one
  · -- a byte ends among the ten places, with its last bit and the inverse of it
    obtain ⟨i, few, low, high⟩ : ∃ i, i < 8 ∧ start % 96 + 1 ≤ 23 + 9 * i ∧ 24 + 9 * i ≤ start % 96 + 10 :=
      ⟨(start % 96 - 14) / 9, by omega, by omega, by omega⟩
    have last := ones (23 + 9 * i - start % 96) (by omega) (by omega)
    have inverse := ones (24 + 9 * i - start % 96) (by omega) (by omega)
    rw [show (start + (23 + 9 * i - start % 96)) % 96 = 16 + 9 * i + 7 by omega] at last
    rw [show (start + (24 + 9 * i - start % 96)) % 96 = 16 + 9 * i + 8 by omega,
      frameBit_inverted payload few, last] at inverse
    exact Bool.noConfusion inverse

theorem leaves_behind (payload : Bytes 8) {place : Nat} (behind : 80 ≤ place) (inside : place < 112) :
    reader.leaves (frameWindow payload) place = frameBit payload (place % 96) :=
  (getBit_descrambled_behind _ behind).trans (getBit_onWindow _ inside)

theorem synchronised (payload : Bytes 8) (offset : Nat) :
    reader.Synchronised (fun _ => false) (stream payload offset) (frameWindow payload)
      (fun count => (offset + count) % 96 = 16) where
  first count accepted := by
    obtain ⟨first, second⟩ := preambles_of_accepts accepted
    have full : 111 ≤ count + 1 := by
      by_contra room
      have one := first 1 (by omega)
      rw [slid, if_pos (by omega)] at one
      exact Bool.noConfusion one
    have aligned := @preamble_aligned payload (offset + count + 81) fun i inside => by
      have bit := second i inside
      rw [slid, if_neg (by omega)] at bit
      rw [← bit]
      exact congrArg (frameBit payload) (by omega)
    refine ⟨by omega, fun place inside => ?_⟩
    by_cases old : place + (count + 1) < 112
    · -- the one bit that may be missing is the zero the preamble starts with
      obtain rfl : place = 0 := by omega
      rw [slid, if_pos old]
      rfl
    · rw [slid, if_neg old]
      exact congrArg (frameBit payload) (by omega)
  next start good count accepted := by
    obtain ⟨_, second⟩ := preambles_of_accepts accepted
    have shown (place : Nat) (behind : 80 ≤ place + (count + 1)) :
        slid (reader.leaves (frameWindow payload)) (fun i => stream payload offset (start + i)) 112
          (count + 1) place = frameBit payload ((place + (count + 1)) % 96) := by
      by_cases old : place + (count + 1) < 112
      · rw [slid, if_pos old, leaves_behind payload behind old]
      · rw [slid, if_neg old]
        exact congrArg (frameBit payload) (by omega)
    have aligned := @preamble_aligned payload (96 + (count + 1)) fun i inside => by
      have bit := second i inside
      rw [shown _ (by omega)] at bit
      rw [← bit]
      exact congrArg (frameBit payload) (by omega)
    refine ⟨by omega, fun place inside => ?_⟩
    rw [shown _ (by omega)]
    exact congrArg (frameBit payload) (by omega)

def yields (card : ProtocolGallagher) : Nat → ProtocolGallagher
  | 0 => card
  | count + 1 => (protocolGallagherEncoderYield (yields card count)).2

/-- An encoder about to send the first bit of its frame. -/
def atFrameStart (card : ProtocolGallagher) : ProtocolGallagher :=
  { protocolGallagherEncoderStart card with encodedDataIndex := 0, encodedPolarity := true }

/-- Bit `n` of the endlessly repeated frame: the level of the first of its two yields. -/
def sentBit (card : ProtocolGallagher) (n : Nat) : Bool :=
  (protocolGallagherEncoderYield (yields (atFrameStart card) (2 * n))).1.1

/-- What the reader answers to bit `n` of a card that started `offset` bits into its frame. -/
def answer (card receiver : ProtocolGallagher) (offset n : Nat) : Bool × ProtocolGallagher :=
  feedBit (reader.run (protocolGallagherDecoderStart receiver) (fun i => sentBit card (offset + i)) n)
    (sentBit card (offset + n))

theorem yields_twice (card : ProtocolGallagher) (n : Nat) : yields (atFrameStart card) (2 * n) =
      { atFrameStart card with encodedDataIndex := n % encodedBitSize } := by
  induction n with
  | zero => rfl
  | succ n ih =>
    rw [Nat.mul_succ, yields, yields, ih]
    simp only [protocolGallagherEncoderYield, atFrameStart, if_true, Bool.false_eq_true, if_false, Nat.mod_add_mod]

theorem sentBit_eq (card : ProtocolGallagher) (offset : Nat) :
    (fun i => sentBit card (offset + i)) = stream (payload card.data) offset := by
  funext i
  rw [sentBit, yields_twice]
  exact getBit_encode card.data card.encodedData (Nat.mod_lt _ (by decide))

theorem short_bits (data : Bytes decodedDataSize) (position : Nat) {i : Nat} (high : 4 ≤ i) :
    (bitLibGetBits data position 4).getLsbD i = false := by
  rw [bitLibGetBits_eq _ _ (by omega)]
  by_cases inside : i < 8
  · rw [getLsbD_ofBits_bitsFrom _ _ inside, decide_eq_false (by omega), Bool.false_and]
  · exact BitVec.getLsbD_of_ge _ _ (by omega)

/-- **Reading a card.** From the cleared state and wherever in its frame the
card starts sending, the reader accepts within 207 bits; every window it accepts
ends sixteen bits into a frame, and gives the card's region and issue level, the
low 16 bits of its facility code and the low 24 of its number, with zeros above
them. -/
theorem gallagher_reports_exactly_the_card (receiver card : ProtocolGallagher) (offset : Nat) :
    (∃ n, n + 1 ≤ 207 ∧ (answer card receiver offset n).1 = true) ∧ ∀ n, (answer card receiver offset n).1 = true →
        (offset + n + 1) % 96 = 16 ∧
        regionCode (answer card receiver offset n).2.data = regionCode card.data ∧
        issueLevel (answer card receiver offset n).2.data = issueLevel card.data ∧
        facilityCode (answer card receiver offset n).2.data = facilityCode card.data &&& 0xFFFF#32 ∧
        cardNumber (answer card receiver offset n).2.data = cardNumber card.data &&& 0xFFFFFF#32 := by
  have cleared : ∀ place < 112,
      reader.register (protocolGallagherDecoderStart receiver) place = false :=
    fun place _ => bitLibGetBit_zeros place
  have bit (n : Nat) : sentBit card (offset + n) = stream (payload card.data) offset n :=
    congrFun (sentBit_eq card offset) n
  constructor
  · have accepted : reader.Accepts (slid (fun _ => false) (stream (payload card.data) offset) 112
        (111 + (96 - offset % 96) % 96 + 1)) :=
      accepted_of_frame fun place inside => by
        rw [getBit_onWindow _ inside, slid_late _ _ (by omega)]
        exact congrArg (frameBit (payload card.data)) (by omega)
    obtain ⟨n, early, reported⟩ := WindowReader.reports_by cleared accepted
    refine ⟨n, by omega, ?_⟩
    rw [answer, sentBit_eq, bit]
    exact reported
  · intro n reported
    rw [answer, sentBit_eq, bit] at reported ⊢
    obtain ⟨aligned, frame⟩ :=
      WindowReader.run_reports (synchronised (payload card.data) offset) cleared reported
    rw [feedBit] at reported ⊢
    split at reported <;> rename_i accepted
    · rw [if_pos accepted]
      have bytes := fun i few => @descrambled_frame _ (fieldBytes (regionCode card.data)
        (issueLevel card.data) (facilityCode card.data) (cardNumber card.data))
        (fun place inside => (getBit_pushBit _ _ inside).trans (frame place inside)) i few
      exact ⟨by omega, regionCode_decode bytes fun i high => short_bits _ _ high,
        issueLevel_decode bytes fun i high => short_bits _ _ high, facilityCode_decode bytes,
        cardNumber_decode bytes⟩
    · exact Bool.noConfusion reported

end Xtreme.LfRfid.Gallagher
