import Xtreme.BitLib.BitLib
import Xtreme.Library.WordBits

/-! The getters of `bit_lib.c` as numbers: each of them gives the binary number
of the bits it is asked for, the widest one too, which shifts in C's `int`
where a length allows it. -/
namespace Xtreme.BitLib
open Xtreme.Library
open ShiftRegister (ofBits)

variable {size : Nat}

/-- Up to 24 bits are put together in an `int`, and the number widened after. -/
def bitLibGetBits64 (data : Bytes size) (position length : Nat) : BitVec 64 :=
  let byte (i : Nat) : BitVec 64 := (bitLibGetBits data (position + i) 8).setWidth 64
  let intByte (i : Nat) : BitVec 32 := (bitLibGetBits data (position + i) 8).setWidth 32
  let last (i : Nat) : BitVec 64 := (bitLibGetBits data (position + i) (length - i)).setWidth 64
  if length ≤ 8 then (bitLibGetBits data position length).setWidth 64
  else if length ≤ 16 then (intByte 0 <<< (length - 8)).signExtend 64 ||| last 8
  else if length ≤ 24 then
    (intByte 0 <<< (length - 8)).signExtend 64 ||| (intByte 8 <<< (length - 16)).signExtend 64 ||| last 16
  else if length ≤ 32 then
    (byte 0 <<< (length - 8)) ||| (byte 8 <<< (length - 16)) ||| (byte 16 <<< (length - 24)) ||| last 24
  else if length ≤ 40 then
    (byte 0 <<< (length - 8)) ||| (byte 8 <<< (length - 16)) ||| (byte 16 <<< (length - 24)) |||
      (byte 24 <<< (length - 32)) ||| last 32
  else if length ≤ 48 then
    (byte 0 <<< (length - 8)) ||| (byte 8 <<< (length - 16)) ||| (byte 16 <<< (length - 24)) |||
      (byte 24 <<< (length - 32)) ||| (byte 32 <<< (length - 40)) ||| last 40
  else if length ≤ 56 then
    (byte 0 <<< (length - 8)) ||| (byte 8 <<< (length - 16)) ||| (byte 16 <<< (length - 24)) |||
      (byte 24 <<< (length - 32)) ||| (byte 32 <<< (length - 40)) ||| (byte 40 <<< (length - 48)) ||| last 48
  else
    (byte 0 <<< (length - 8)) ||| (byte 8 <<< (length - 16)) ||| (byte 16 <<< (length - 24)) |||
      (byte 24 <<< (length - 32)) ||| (byte 32 <<< (length - 40)) ||| (byte 40 <<< (length - 48)) |||
      (byte 48 <<< (length - 56)) ||| last 56

/-- The number that the bits from `position` on form, the first bit the highest. -/
def bitsNumber (data : Bytes size) (position length : Nat) : Nat := binaryValue (bitsFrom data position length)

theorem signExtend_shifted_byte (byte : BitVec 8) {shift : Nat} (few : shift ≤ 16) :
    ((byte.setWidth 32 : BitVec 32) <<< shift).signExtend 64 = (byte.setWidth 64 : BitVec 64) <<< shift := by
  have small : byte.toNat * 2 ^ shift < 2 ^ 24 := by
    calc byte.toNat * 2 ^ shift < 2 ^ 8 * 2 ^ shift := Nat.mul_lt_mul_of_pos_right byte.isLt (Nat.two_pow_pos _)
      _ = 2 ^ (8 + shift) := (Nat.pow_add ..).symm
      _ ≤ 2 ^ 24 := Nat.pow_le_pow_right (by decide) (by omega)
  have value : ((byte.setWidth 32 : BitVec 32) <<< shift).toNat = byte.toNat * 2 ^ shift := by
    rw [BitVec.toNat_shiftLeft, Nat.shiftLeft_eq]
    exact Nat.mod_eq_of_lt (Nat.lt_trans small (by decide))
  have positive : ((byte.setWidth 32 : BitVec 32) <<< shift).msb = false := by
    rw [BitVec.msb_eq_false_iff_two_mul_lt]
    omega
  rw [BitVec.signExtend_eq_setWidth_of_msb_false positive]
  apply BitVec.eq_of_toNat_eq
  rw [BitVec.toNat_setWidth_of_le (by decide), value, BitVec.toNat_shiftLeft, Nat.shiftLeft_eq]
  exact (Nat.mod_eq_of_lt (Nat.lt_trans small (by decide))).symm

theorem bitLibGetBits64_eq (data : Bytes size) (position : Nat) {length : Nat} (short : length ≤ 64) :
    bitLibGetBits64 data position length = ofBits (bitsFrom data position length) := by
  -- the bits from place `i` on, as a word
  have last {i : Nat} (few : length - i ≤ 8) : (bitLibGetBits data (position + i) (length - i)).setWidth 64 =
      (ofBits (bitsFrom data (position + i) (length - i)) : BitVec 64) := by
    rw [bitLibGetBits_eq _ _ few, ShiftRegister.setWidth_ofBits _ (by simpa using few)]
  have step (i : Nat) (more : i + 8 ≤ length) :
      ((bitLibGetBits data (position + i) 8).setWidth 64 <<< (length - (i + 8))) |||
          (ofBits (bitsFrom data (position + (i + 8)) (length - (i + 8))) : BitVec 64) =
        ofBits (bitsFrom data (position + i) (length - i)) := by
    have split : length - i = 8 + (length - (i + 8)) := by omega
    rw [bitLibGetBits_eq _ _ (Nat.le_refl 8), ShiftRegister.setWidth_ofBits _ (by simp), split, ← bitsFrom_append,
      ShiftRegister.ofBits_append, length_bitsFrom, Nat.add_assoc]
  have int {i shift : Nat} (few : shift ≤ 16) :
      ((bitLibGetBits data (position + i) 8).setWidth 32 <<< shift).signExtend 64 =
        ((bitLibGetBits data (position + i) 8).setWidth 64 : BitVec 64) <<< shift := signExtend_shifted_byte _ few
  have step0 := step 0
  have step8 := step 8
  have step16 := step 16
  have step24 := step 24
  have step32 := step 32
  have step40 := step 40
  have step48 := step 48
  unfold bitLibGetBits64
  dsimp only
  split_ifs with to8 to16 to24 to32 to40 to48 to56
  · exact last (i := 0) (by omega)
  · rw [int (by omega), last (by omega), step0 (by omega)]
    rfl
  · rw [int (by omega), int (by omega), last (by omega), BitVec.or_assoc, step8 (by omega), step0 (by omega)]
    rfl
  · rw [last (by omega)]
    simp only [BitVec.or_assoc]
    rw [step16 (by omega), step8 (by omega), step0 (by omega)]
    rfl
  · rw [last (by omega)]
    simp only [BitVec.or_assoc]
    rw [step24 (by omega), step16 (by omega), step8 (by omega), step0 (by omega)]
    rfl
  · rw [last (by omega)]
    simp only [BitVec.or_assoc]
    rw [step32 (by omega), step24 (by omega), step16 (by omega), step8 (by omega), step0 (by omega)]
    rfl
  · rw [last (by omega)]
    simp only [BitVec.or_assoc]
    rw [step40 (by omega), step32 (by omega), step24 (by omega), step16 (by omega), step8 (by omega), step0 (by omega)]
    rfl
  · rw [last (by omega)]
    simp only [BitVec.or_assoc]
    rw [step48 (by omega), step40 (by omega), step32 (by omega), step24 (by omega), step16 (by omega),
      step8 (by omega), step0 (by omega)]
    rfl

theorem toNat_ofBits_bitsFrom {width : Nat} (data : Bytes size) (position : Nat) {length : Nat}
    (fits : length ≤ width) : (ofBits (bitsFrom data position length) : BitVec width).toNat =
      bitsNumber data position length :=
  ShiftRegister.toNat_ofBits (by rwa [length_bitsFrom])

theorem setWidth_ofBits_bitsFrom {width wide : Nat} (data : Bytes size) (position : Nat) {length : Nat}
    (fits : length ≤ width) : (ofBits (bitsFrom data position length) : BitVec width).setWidth wide =
      ofBits (bitsFrom data position length) :=
  ShiftRegister.setWidth_ofBits _ (by rwa [length_bitsFrom])

theorem bitLibGetBits_setBits (data : Bytes size) {position length : Nat} (byte : BitVec 8) (short : length ≤ 8)
    (inside : position + length ≤ 8 * size) :
    (bitLibGetBits (bitLibSetBits data position byte length) position length).toNat = byte.toNat % 2 ^ length := by
  have low : bitLibGetBits (bitLibSetBits data position byte length) position length =
      (byte.setWidth length).setWidth 8 := by
    apply BitVec.eq_of_getLsbD_eq
    intro i within
    rw [bitLibGetBits_eq _ _ short, getLsbD_ofBits_bitsFrom _ _ within, BitVec.getLsbD_setWidth,
      BitVec.getLsbD_setWidth, decide_eq_true within, Bool.true_and]
    by_cases held : i < length
    · rw [bitLibGetBit_setBits _ _ inside, if_pos (by omega)]
      congr 2
      omega
    · rw [decide_eq_false held, Bool.false_and, Bool.false_and]
  rw [low, BitVec.toNat_setWidth_of_le short, BitVec.toNat_setWidth]

/-- **Every getter gives the number of the bits it is asked for**, at any
position, so the getters agree where more than one can be asked. The bits that
were set are read again, and no other bit has changed. An unaligned read looks
at one byte more than it returns bits of, which has no part in the number. -/
theorem get_bits_numbers (data : Bytes size) (position length : Nat) :
    ((length ≤ 8 → (bitLibGetBits data position length).toNat = bitsNumber data position length) ∧
      (length ≤ 16 → (bitLibGetBits16 data position length).toNat = bitsNumber data position length) ∧
      (length ≤ 32 → (bitLibGetBits32 data position length).toNat = bitsNumber data position length) ∧
      (length ≤ 64 → (bitLibGetBits64 data position length).toNat = bitsNumber data position length)) ∧
    ((length ≤ 8 → bitLibGetBits16 data position length = (bitLibGetBits data position length).setWidth 16) ∧
      (length ≤ 16 → bitLibGetBits32 data position length = (bitLibGetBits16 data position length).setWidth 32) ∧
      (length ≤ 32 → bitLibGetBits64 data position length = (bitLibGetBits32 data position length).setWidth 64)) ∧
    (length ≤ 8 → position + length ≤ 8 * size → ∀ byte,
      (bitLibGetBits (bitLibSetBits data position byte length) position length).toNat = byte.toNat % 2 ^ length ∧
        ∀ place, ¬ (position ≤ place ∧ place < position + length) →
          bitLibGetBit (bitLibSetBits data position byte length) place = bitLibGetBit data place) := by
  refine ⟨⟨?_, ?_, ?_, ?_⟩, ⟨?_, ?_, ?_⟩, ?_⟩
  · intro short
    rw [bitLibGetBits_eq _ _ short, toNat_ofBits_bitsFrom _ _ short]
  · intro short
    rw [bitLibGetBits16_eq _ _ short, toNat_ofBits_bitsFrom _ _ short]
  · intro short
    rw [bitLibGetBits32_eq _ _ short, toNat_ofBits_bitsFrom _ _ short]
  · intro short
    rw [bitLibGetBits64_eq _ _ short, toNat_ofBits_bitsFrom _ _ short]
  · intro short
    rw [bitLibGetBits_eq _ _ short, bitLibGetBits16_eq _ _ (by omega), setWidth_ofBits_bitsFrom _ _ short]
  · intro short
    rw [bitLibGetBits16_eq _ _ short, bitLibGetBits32_eq _ _ (by omega), setWidth_ofBits_bitsFrom _ _ short]
  · intro short
    rw [bitLibGetBits32_eq _ _ short, bitLibGetBits64_eq _ _ (by omega), setWidth_ofBits_bitsFrom _ _ short]
  · intro short inside byte
    refine ⟨bitLibGetBits_setBits data byte short inside, fun place outside => ?_⟩
    rw [bitLibGetBit_setBits data byte inside, if_neg outside]

def nineBytes : Bytes 9 := #v[0x09, 0xB1, 0x8C, 0x62, 0x09, 0xB1, 0x8C, 0x62, 0xA5]

theorem get_bits_numbers_nineBytes : (bitLibGetBits64 nineBytes 5 61).toNat = bitsNumber nineBytes 5 61 ∧
      bitLibGetBits64 nineBytes 3 29 = (bitLibGetBits32 nineBytes 3 29).setWidth 64 ∧
      (bitLibGetBits (bitLibSetBits nineBytes 13 0x5D#8 6) 13 6).toNat = 0x5D % 2 ^ 6 :=
  ⟨(get_bits_numbers nineBytes 5 61).1.2.2.2 (by decide), (get_bits_numbers nineBytes 3 29).2.1.2.2 (by decide),
    ((get_bits_numbers nineBytes 13 6).2.2 (by decide) (by decide) 0x5D#8).1⟩

end Xtreme.BitLib
