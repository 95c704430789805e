import Xtreme.Library.Numeral
import Xtreme.Library.ShiftRegister

/-! A word that bits were pushed into, as a number: its bits are a binary
numeral. Asking all bits of the word for their parity asks the bits pushed. -/
namespace Xtreme.Library

theorem numeralValue_lt {base : Nat} {digits : List Nat} (small : ∀ digit ∈ digits, digit < base) :
    numeralValue base digits < base ^ digits.length := by
  induction digits using List.reverseRecOn with
  | nil => exact Nat.zero_lt_one
  | append_singleton digits digit ih =>
    have last := small digit (by simp)
    have before := ih fun other member => small other (List.mem_append_left _ member)
    rw [numeralValue_append_digit, List.length_append, List.length_singleton, Nat.pow_succ, Nat.mul_comm _ base]
    calc base * numeralValue base digits + digit
        < base * numeralValue base digits + base := by omega
      _ = base * (numeralValue base digits + 1) := (Nat.mul_succ _ _).symm
      _ ≤ base * base ^ digits.length := Nat.mul_le_mul_left _ before

/-- The binary number of some bits, the highest first. -/
def binaryValue (bits : List Bool) : Nat := numeralValue 2 (bits.map Bool.toNat)

theorem binaryValue_append_bit (bits : List Bool) (bit : Bool) :
    binaryValue (bits ++ [bit]) = 2 * binaryValue bits + bit.toNat := by
  rw [binaryValue, List.map_append, List.map_singleton, numeralValue_append_digit, binaryValue]

theorem binaryValue_lt (bits : List Bool) : binaryValue bits < 2 ^ bits.length := by
  have bound := @numeralValue_lt 2 (bits.map Bool.toNat) (by
    intro digit member
    obtain ⟨bit, -, rfl⟩ := List.mem_map.mp member
    exact Bool.toNat_lt bit)
  rwa [List.length_map] at bound

namespace ShiftRegister
variable {width : Nat}

/-- A word that holds all the bits pushed into it is their number. -/
theorem toNat_ofBits {bits : List Bool} (fits : bits.length ≤ width) :
    (ofBits bits : BitVec width).toNat = binaryValue bits := by
  induction bits using List.reverseRecOn with
  | nil => rfl
  | append_singleton bits bit ih =>
    rw [List.length_append] at fits
    have before := ih (Nat.le_of_succ_le fits)
    have room : 2 * binaryValue bits < 2 ^ width := by
      calc 2 * binaryValue bits < 2 * 2 ^ bits.length := by have := binaryValue_lt bits; omega
        _ = 2 ^ (bits.length + 1) := (Nat.pow_succ' ..).symm
        _ ≤ 2 ^ width := Nat.pow_le_pow_right (by decide) fits
    have low : ((BitVec.ofBool bit).setWidth width).toNat = bit.toNat := by
      rw [BitVec.toNat_setWidth, BitVec.toNat_ofBool]
      have wide : 2 ^ 1 ≤ 2 ^ width := Nat.pow_le_pow_right (by decide) (Nat.le_of_add_left_le fits)
      exact Nat.mod_eq_of_lt (Nat.lt_of_lt_of_le (Bool.toNat_lt bit) wide)
    have one : bit.toNat < 2 ^ 1 := Bool.toNat_lt bit
    rw [← push_ofBits, push, BitVec.toNat_or, BitVec.toNat_shiftLeft, before, low, binaryValue_append_bit,
      Nat.shiftLeft_eq, Nat.mul_comm, Nat.mod_eq_of_lt room]
    exact (Nat.two_pow_add_eq_or_of_lt one _).symm

end ShiftRegister

theorem parity_append (first second : List Bool) : parity (first ++ second) = (parity first ^^ parity second) := by
  induction first with
  | nil => simp [parity]
  | cons bit first ih => rw [List.cons_append, parity_cons, ih, parity_cons, Bool.xor_assoc]

theorem parity_replicate_false (count : Nat) : parity (List.replicate count false) = false := by
  induction count with
  | zero => rfl
  | succ count ih => rw [List.replicate_succ, parity_cons, ih, Bool.false_xor]

/-- The bits of a word are those pushed into it, and clear ones above them. -/
theorem bits_ofBits {width : Nat} {bits : List Bool} (fits : bits.length ≤ width) :
    (List.range width).map (ShiftRegister.ofBits bits : BitVec width).getLsbD =
      bits.reverse ++ List.replicate (width - bits.length) false := by
  apply List.ext_getElem?
  intro place
  by_cases inside : place < width
  · rw [List.getElem?_map, List.getElem?_range inside, Option.map_some, ShiftRegister.getLsbD_ofBits _ inside]
    by_cases held : place < bits.length
    · rw [List.getElem?_append_left (by simpa using held), List.getElem?_eq_getElem (by simpa using held),
        Option.getD_some]
    · rw [List.getElem?_append_right (by simpa using held), List.getElem?_eq_none (by simpa using held),
        List.getElem?_replicate, if_pos (by simp; omega), Option.getD_none]
  · rw [List.getElem?_eq_none (by simpa using inside), List.getElem?_eq_none (by simp; omega)]

theorem parity_ofBits {width : Nat} {bits : List Bool} (fits : bits.length ≤ width) :
    parity ((List.range width).map (ShiftRegister.ofBits bits : BitVec width).getLsbD) = parity bits := by
  rw [bits_ofBits fits, parity_append, parity_reverse, parity_replicate_false, Bool.xor_false]

end Xtreme.Library
