import Mathlib.Algebra.Group.Int.Defs
import Mathlib.Algebra.GroupWithZero.Nat
import Mathlib.Data.List.Induction

/-! Bits pushed into a word of fixed width from its low end. The word shows the
last `width` bits pushed, the latest one lowest, and zeros above them as long as
fewer were pushed. Counting the one bits of a word modulo an even number and
asking whether the count is odd is the same as adding the bits up modulo two. -/
namespace Xtreme.Library

namespace ShiftRegister
variable {width : Nat}

/-- One bit enters at the low end, the highest one is lost. -/
def push (word : BitVec width) (bit : Bool) : BitVec width :=
  (word <<< 1) ||| (BitVec.ofBool bit).setWidth width

/-- A cleared register after a sequence of bits. -/
def ofBits (bits : List Bool) : BitVec width := bits.foldl push 0

@[simp] theorem push_ofBits (bits : List Bool) (bit : Bool) :
    push (ofBits bits : BitVec width) bit = ofBits (bits ++ [bit]) := by
  simp only [ofBits, List.foldl_append, List.foldl_cons, List.foldl_nil]

theorem getLsbD_push_zero (word : BitVec width) (bit : Bool) (room : 0 < width) :
    (push word bit).getLsbD 0 = bit := by
  simp [push, room]

theorem getLsbD_push_succ (word : BitVec width) (bit : Bool) (place : Nat) :
    (push word bit).getLsbD (place + 1) = (decide (place + 1 < width) && word.getLsbD place) := by
  simp [push]

/-- Reading a register backwards gives the bits pushed, the latest first. -/
theorem getLsbD_ofBits (bits : List Bool) {place : Nat} (inside : place < width) :
    (ofBits bits : BitVec width).getLsbD place = (bits.reverse[place]?).getD false := by
  induction bits using List.reverseRecOn generalizing place with
  | nil => simp [ofBits]
  | append_singleton bits bit ih =>
    rw [← push_ofBits, List.reverse_append, List.reverse_singleton, List.singleton_append]
    cases place with
    | zero => rw [getLsbD_push_zero _ _ inside, List.getElem?_cons_zero, Option.getD_some]
    | succ place =>
      rw [getLsbD_push_succ, ih (by omega), List.getElem?_cons_succ, decide_eq_true inside, Bool.true_and]

theorem getMsbD_ofBits (bits : List Bool) {place : Nat} (inside : place < width) (full : width ≤ bits.length) :
    (ofBits bits : BitVec width).getMsbD place =
      (bits[bits.length - width + place]?).getD false := by
  rw [BitVec.getMsbD_eq_getLsbD, decide_eq_true inside, Bool.true_and,
    getLsbD_ofBits _ (by omega), List.getElem?_reverse (by omega)]
  congr 2
  omega

theorem getMsbD_ofBits_partial (bits : List Bool) (room : bits.length < width) :
    (ofBits bits : BitVec width).getMsbD 0 = false := by
  rw [BitVec.getMsbD_eq_getLsbD, getLsbD_ofBits _ (by omega), List.getElem?_eq_none (by simp; omega)]
  simp

theorem ofBits_append (first second : List Bool) :
    (ofBits (first ++ second) : BitVec width) = (ofBits first <<< second.length) ||| ofBits second := by
  apply BitVec.eq_of_getLsbD_eq
  intro place inside
  rw [BitVec.getLsbD_or, BitVec.getLsbD_shiftLeft, getLsbD_ofBits _ inside, getLsbD_ofBits _ inside,
    List.reverse_append, decide_eq_true inside]
  by_cases late : place < second.length
  · rw [decide_eq_true late, List.getElem?_append_left (by simpa using late)]
    rfl
  · rw [decide_eq_false late, List.getElem?_append_right (by simpa using late),
      List.getElem?_eq_none (l := second.reverse) (by simpa using late), getLsbD_ofBits _ (by omega)]
    simp

theorem setWidth_ofBits {wide : Nat} (bits : List Bool) (fits : bits.length ≤ width) :
    (ofBits bits : BitVec width).setWidth wide = ofBits bits := by
  apply BitVec.eq_of_getLsbD_eq
  intro place inside
  rw [BitVec.getLsbD_setWidth, decide_eq_true inside, getLsbD_ofBits _ inside]
  by_cases low : place < width
  · exact getLsbD_ofBits bits low
  · rw [BitVec.getLsbD_of_ge _ _ (by omega), List.getElem?_eq_none (by simp; omega)]
    rfl

theorem ofBits_injective {first second : List Bool} (length : first.length = second.length)
    (fits : first.length ≤ width) (same : (ofBits first : BitVec width) = ofBits second) :
    first = second := by
  rw [← List.reverse_inj]
  apply List.ext_getElem?
  intro place
  by_cases inside : place < first.length
  · have bit := congrArg (fun word : BitVec width => word.getLsbD place) same
    simp only [getLsbD_ofBits _ (Nat.lt_of_lt_of_le inside fits)] at bit
    rw [List.getElem?_eq_getElem (by simpa using inside),
      List.getElem?_eq_getElem (by simpa using length ▸ inside)] at bit ⊢
    simpa using bit
  · rw [List.getElem?_eq_none (by simp; omega), List.getElem?_eq_none (by simp; omega)]

end ShiftRegister

/-- The sum of a list of bits modulo two. -/
def parity (bits : List Bool) : Bool := bits.foldl Bool.xor false

theorem parity_reverse (bits : List Bool) : parity bits.reverse = parity bits := by
  exact (List.reverse_perm bits).foldl_eq' (fun x _ y _ z => by
    rw [Bool.xor_assoc, Bool.xor_assoc, Bool.xor_comm x y]) false

theorem parity_append_bit (bits : List Bool) (bit : Bool) :
    parity (bits ++ [bit]) = (parity bits ^^ bit) := by
  simp [parity]

theorem parity_cons (bit : Bool) (bits : List Bool) : parity (bit :: bits) = (bit ^^ parity bits) := by
  rw [← parity_reverse, List.reverse_cons, parity_append_bit, parity_reverse, Bool.xor_comm]

/-- A counter of one bits, modulo a power of two that is at least two. -/
def countOnes {width : Nat} (bits : List Bool) : BitVec width :=
  bits.foldl (fun sum bit => sum + (BitVec.ofBool bit).setWidth width) 0

theorem lsb_foldl_add {width : Nat} (room : 0 < width) (bits : List Bool) (sum : BitVec width) :
    (bits.foldl (fun sum bit => sum + (BitVec.ofBool bit).setWidth width) sum).getLsbD 0 =
      bits.foldl Bool.xor (sum.getLsbD 0) := by
  induction bits generalizing sum with
  | nil => rfl
  | cons bit bits ih =>
    rw [List.foldl_cons, ih, BitVec.getLsbD_add room]
    simp [room]

theorem lsb_countOnes {width : Nat} (room : 0 < width) (bits : List Bool) :
    (countOnes bits : BitVec width).getLsbD 0 = parity bits := by
  simp [countOnes, parity, lsb_foldl_add room]

end Xtreme.Library
