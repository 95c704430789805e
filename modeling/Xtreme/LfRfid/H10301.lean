import Xtreme.BitLib.BitLib

/-! The HID H10301 card format (`lib/lfrfid/protocols/protocol_h10301.c`).

A frame is 96 bits in three words: a preamble, a fixed company code and format
length, then 26 payload bits, each sent as itself followed by its complement:
a parity over the first half, 24 bits of card data, a parity over the second
half. The reader's checks and the writer spell this out separately, word by
word; `FrameShape` is what both agree on. -/
namespace Xtreme.LfRfid.H10301
open Xtreme.Library Xtreme.BitLib
open ShiftRegister (push ofBits)

/-- `encoded_data`, three words. -/
abbrev CardData := Vector (BitVec 32) 3

/-- One turn of the decoding loops of `protocol_h10301_can_be_decoded`: two bits
of the card make one of the result, and two equal ones end the loop. -/
def checkPair (word result : BitVec 32) (i : Nat) : Option (BitVec 32) :=
  if (word >>> (2 * i)) &&& 0b11#32 = 0b01#32 then some ((result <<< 1) ||| 0#32)
  else if (word >>> (2 * i)) &&& 0b11#32 = 0b10#32 then some ((result <<< 1) ||| 1#32)
  else none

def checkPairs (word : BitVec 32) (count : Nat) (result : BitVec 32) : Option (BitVec 32) :=
  (List.range count).reverse.foldlM (checkPair word) result

/-- A loop that counts the one bits of `value` at some places on top of `start`. -/
def paritySum (value : BitVec 32) (places : List Nat) (start : BitVec 8) : BitVec 8 :=
  places.foldl (fun sum i => if (value >>> i) &&& 1#32 = 1#32 then sum + 1#8 else sum) start

def protocolH10301CanBeDecoded (cardData : CardData) : Bool :=
  if (cardData.get 0 >>> 24).setWidth 8 ≠ 0x1D#8 then false
  else if (cardData.get 0 >>> 10) &&& 0x3FFF#32 ≠ 0x1556#32 then false
  else if ((cardData.get 0 &&& 0x3FF#32) <<< 12) ||| ((cardData.get 1 >>> 20) &&& 0xFFF#32) ≠ 0x155556#32 then
    false
  else
    match checkPairs (cardData.get 1) 10 0#32 >>= checkPairs (cardData.get 2) 16 with
    | none => false
    | some result =>
      if paritySum result (List.range 13) 0#8 % 2#8 ≠ 1#8 then false
      else if paritySum result ((List.range 13).map (13 + ·)) 0#8 % 2#8 = 1#8 then false
      else true

/-- The same loop in `protocol_h10301_decode`, where equal bits are passed over. -/
def decodePairs (word : BitVec 32) (count : Nat) (result : BitVec 32) : BitVec 32 :=
  (List.range count).reverse.foldl (fun result i =>
    if (word >>> (2 * i)) &&& 0b11#32 = 0b01#32 then (result <<< 1) ||| 0#32
    else if (word >>> (2 * i)) &&& 0b11#32 = 0b10#32 then (result <<< 1) ||| 1#32
    else result) result

/-- The bytes between the two parity bits of the result. -/
def resultBytes (result : BitVec 32) : Bytes 3 :=
  #v[(result >>> 17).setWidth 8, (result >>> 9).setWidth 8, (result >>> 1).setWidth 8]

def protocolH10301Decode (cardData : CardData) : Bytes 3 :=
  resultBytes (decodePairs (cardData.get 2) 16 (decodePairs (cardData.get 1) 10 0#32))

def wordAt (cardData : CardData) (index : Nat) : BitVec 32 := (cardData[index]?).getD 0

def protocolH10301WriteRawBit (bit : Bool) (position : Nat) (cardData : CardData) : CardData :=
  if bit then
    cardData.setIfInBounds (position / 32) (wordAt cardData (position / 32) ||| (1#32 <<< (32 - position % 32 - 1)))
  else
    cardData.setIfInBounds (position / 32)
      (wordAt cardData (position / 32) &&& ~~~(1#32 <<< (32 - position % 32 - 1)))

def protocolH10301WriteBit (bit : Bool) (position : Nat) (cardData : CardData) : CardData :=
  protocolH10301WriteRawBit (!bit) (position + 1) (protocolH10301WriteRawBit bit (position + 0) cardData)

def writeRawBits (bits : List Bool) (position : Nat) (cardData : CardData) : CardData :=
  (List.range bits.length).foldl (fun cardData i =>
    protocolH10301WriteRawBit (bits.getD i false) (position + i) cardData) cardData

def writeBits (bits : List Bool) (position : Nat) (cardData : CardData) : CardData :=
  (List.range bits.length).foldl (fun cardData i =>
    protocolH10301WriteBit (bits.getD i false) (position + i * 2) cardData) cardData

def preamble : List Bool := [false, false, false, true, true, true, false, true]

def companyCode : List Bool := List.replicate 6 false ++ [true]

def cardFormat : List Bool := List.replicate 10 false ++ [true]

def fcCn (decodedData : Bytes 3) : BitVec 32 :=
  ((byteAt decodedData 0).setWidth 32 <<< 16) ||| ((byteAt decodedData 1).setWidth 32 <<< 8) |||
    (byteAt decodedData 2).setWidth 32

def evenParityBit (fcCn : BitVec 32) : Bool :=
  paritySum fcCn ((List.range 12).map (12 + ·)) 0#8 % 2#8 ≠ 0#8

def oddParityBit (fcCn : BitVec 32) : Bool := paritySum fcCn (List.range 12) 1#8 % 2#8 ≠ 0#8

def dataBits (fcCn : BitVec 32) : List Bool :=
  (List.range 24).map fun i => (fcCn >>> (23 - i)) &&& 1#32 ≠ 0#32

def protocolH10301Encode (decodedData : Bytes 3) : CardData :=
  let fcCn := fcCn decodedData
  let cardData := writeRawBits preamble 0 (Vector.replicate 3 0)
  let cardData := writeBits companyCode 8 cardData
  let cardData := writeBits cardFormat 22 cardData
  let cardData := writeBits [evenParityBit fcCn] 44 cardData
  let cardData := writeBits (dataBits fcCn) 46 cardData
  writeBits [oddParityBit fcCn] 94 cardData

/-- Bit `place` of the frame in the order it is sent. -/
def cardBit (cardData : CardData) (place : Nat) : Bool :=
  (wordAt cardData (place / 32)).getMsbD (place % 32)

theorem cardData_ext {first second : CardData}
    (same : ∀ place < 96, cardBit first place = cardBit second place) : first = second := by
  apply Vector.ext
  intro index inside
  have word (cardData : CardData) : wordAt cardData index = cardData[index] := by
    simp [wordAt, Vector.getElem?_eq_getElem inside]
  rw [← word, ← word]
  apply BitVec.eq_of_getMsbD_eq
  intro place within
  have bit := same (32 * index + place) (by omega)
  rwa [cardBit, cardBit, show (32 * index + place) / 32 = index by omega,
    show (32 * index + place) % 32 = place by omega] at bit

theorem wordAt_setIfInBounds (cardData : CardData) {index : Nat} (inside : index < 3)
    (word : BitVec 32) (place : Nat) :
    wordAt (cardData.setIfInBounds index word) place = if place = index then word else wordAt cardData place := by
  unfold wordAt
  by_cases same : index = place
  · subst same
    simp [inside]
  · simp [same, Ne.symm same]

theorem getMsbD_one_shift {place : Nat} (inside : place < 32) (place' : Nat) :
    (1#32 <<< (32 - place - 1)).getMsbD place' = decide (place' = place) := by
  have one (i : Nat) : (1#32).getLsbD i = decide (i = 0) := by
    cases i <;> simp
  rw [BitVec.getMsbD_shiftLeft, BitVec.getMsbD_eq_getLsbD, one]
  rw [← Bool.decide_and, decide_eq_decide]
  omega

theorem cardBit_writeRawBit (cardData : CardData) {position : Nat} (inside : position < 96) (bit : Bool)
    (place : Nat) :
    cardBit (protocolH10301WriteRawBit bit position cardData) place =
      if place = position then bit else cardBit cardData place := by
  have index : position / 32 < 3 := by omega
  rw [protocolH10301WriteRawBit, cardBit, cardBit]
  cases bit with
  | true =>
    rw [if_pos rfl, wordAt_setIfInBounds cardData index]
    by_cases word : place / 32 = position / 32
    · rw [if_pos word, BitVec.getMsbD_or, getMsbD_one_shift (by omega), word]
      by_cases same : place = position
      · simp [same]
      · rw [if_neg same, decide_eq_false (by omega), Bool.or_false]
    · rw [if_neg word, if_neg (by omega)]
  | false =>
    rw [if_neg (by decide), wordAt_setIfInBounds cardData index]
    by_cases word : place / 32 = position / 32
    · rw [if_pos word, BitVec.getMsbD_and, BitVec.getMsbD_not, getMsbD_one_shift (by omega),
        word, decide_eq_true (by omega)]
      by_cases same : place = position
      · simp [same]
      · rw [if_neg same, decide_eq_false (by omega)]
        simp
    · rw [if_neg word, if_neg (by omega)]

theorem cardBit_writeRawBits (cardData : CardData) (bits : List Bool) {position : Nat}
    (inside : position + bits.length ≤ 96) (place : Nat) :
    cardBit (writeRawBits bits position cardData) place =
      if position ≤ place ∧ place < position + bits.length then bits.getD (place - position) false
      else cardBit cardData place := by
  suffices ∀ length ≤ bits.length, cardBit ((List.range length).foldl (fun cardData i =>
        protocolH10301WriteRawBit (bits.getD i false) (position + i) cardData) cardData) place =
      if position ≤ place ∧ place < position + length then bits.getD (place - position) false
      else cardBit cardData place from this _ (Nat.le_refl _)
  intro length part
  induction length with
  | zero => rw [List.range_zero, List.foldl_nil, if_neg (by omega)]
  | succ length ih =>
    rw [List.range_succ, List.foldl_append, List.foldl_cons, List.foldl_nil,
      cardBit_writeRawBit _ (by omega), ih (by omega)]
    by_cases last : place = position + length
    · rw [if_pos last, if_pos (by omega), last, Nat.add_sub_cancel_left]
    · rw [if_neg last]
      by_cases earlier : position ≤ place ∧ place < position + length
      · rw [if_pos earlier, if_pos (by omega)]
      · rw [if_neg earlier, if_neg (by omega)]

/-- Pairs are raw bits, each followed by its complement. -/
theorem cardBit_writeBits (cardData : CardData) (bits : List Bool) {position : Nat}
    (inside : position + 2 * bits.length ≤ 96) (place : Nat) :
    cardBit (writeBits bits position cardData) place =
      if position ≤ place ∧ place < position + 2 * bits.length then
        ((place - position) % 2 == 1) ^^ bits.getD ((place - position) / 2) false
      else cardBit cardData place := by
  suffices ∀ length ≤ bits.length, cardBit ((List.range length).foldl (fun cardData i =>
        protocolH10301WriteBit (bits.getD i false) (position + i * 2) cardData) cardData) place =
      if position ≤ place ∧ place < position + 2 * length then
        ((place - position) % 2 == 1) ^^ bits.getD ((place - position) / 2) false
      else cardBit cardData place from this _ (Nat.le_refl _)
  intro length part
  induction length with
  | zero => rw [List.range_zero, List.foldl_nil, if_neg (by omega)]
  | succ length ih =>
    rw [List.range_succ, List.foldl_append, List.foldl_cons, List.foldl_nil, protocolH10301WriteBit,
      cardBit_writeRawBit _ (by omega), cardBit_writeRawBit _ (by omega), ih (by omega)]
    by_cases second : place = position + length * 2 + 1
    · rw [if_pos second, if_pos (by omega), show (place - position) / 2 = length by omega,
        show (place - position) % 2 = 1 by omega]
      simp
    · rw [if_neg second]
      by_cases first : place = position + length * 2 + 0
      · rw [if_pos first, if_pos (by omega), show (place - position) / 2 = length by omega,
          show (place - position) % 2 = 0 by omega]
        simp
      · rw [if_neg first]
        by_cases earlier : position ≤ place ∧ place < position + 2 * length
        · rw [if_pos earlier, if_pos (by omega)]
        · rw [if_neg earlier, if_neg (by omega)]

end Xtreme.LfRfid.H10301
