import Xtreme.Library.ShiftRegister
import Mathlib.Logic.Function.Iterate

/-! Registers with feedback, as checksums use them. A bit enters at the low end and the
word moves down; where the bit that leaves is set, a polynomial is added. With the
highest bit of the polynomial set no information is lost, so that two sequences of bits
which differ within the width of the register leave different words. -/
namespace Xtreme.Library

namespace FeedbackRegister
open ShiftRegister
variable {width : Nat} (poly : BitVec width)

/-- The word moves down by one place. -/
def shift (reg : BitVec width) : BitVec width := if reg.getLsbD 0 then (reg >>> 1) ^^^ poly else reg >>> 1

/-- One bit enters. -/
def feed (reg : BitVec width) (bit : Bool) : BitVec width := shift poly (reg ^^^ (BitVec.ofBool bit).setWidth width)

def feedAll (reg : BitVec width) (bits : List Bool) : BitVec width := bits.foldl (feed poly) reg

theorem feedAll_append (reg : BitVec width) (first second : List Bool) :
    feedAll poly reg (first ++ second) = feedAll poly (feedAll poly reg first) second := List.foldl_append

theorem getLsbD_shift (reg : BitVec width) (place : Nat) :
    (shift poly reg).getLsbD place = (reg.getLsbD (place + 1) ^^ (reg.getLsbD 0 && poly.getLsbD place)) := by
  unfold shift
  cases reg.getLsbD 0 <;> simp [Nat.add_comm 1]

theorem shift_xor (a b : BitVec width) : shift poly (a ^^^ b) = shift poly a ^^^ shift poly b := by
  apply BitVec.eq_of_getLsbD_eq
  intro place _
  simp only [getLsbD_shift, BitVec.getLsbD_xor]
  cases a.getLsbD 0 <;> cases b.getLsbD 0 <;> cases poly.getLsbD place <;> simp

theorem shifts_xor (count : Nat) (a b : BitVec width) :
    (shift poly)^[count] (a ^^^ b) = (shift poly)^[count] a ^^^ (shift poly)^[count] b := by
  induction count generalizing a b with
  | zero => rfl
  | succ count ih =>
    rw [Function.iterate_succ_apply, shift_xor, ih]
    rfl

/-- A word that ends in a zero only moves. -/
theorem shift_push_false {word : BitVec width} (clear : word.getMsbD 0 = false) : shift poly (push word false) = word := by
  apply BitVec.eq_of_getLsbD_eq
  intro place inside
  have room : 0 < width := by omega
  rw [getLsbD_shift, getLsbD_push_zero _ _ room, Bool.false_and, Bool.xor_false, getLsbD_push_succ]
  by_cases last : place + 1 < width
  · rw [decide_eq_true last, Bool.true_and]
  · rw [BitVec.getMsbD_eq_getLsbD, decide_eq_true room, Bool.true_and, Nat.sub_zero] at clear
    rw [decide_eq_false last, Bool.false_and, show place = width - 1 by omega, clear]

theorem push_eq_xor (word : BitVec width) (bit : Bool) :
    push word bit = (BitVec.ofBool bit).setWidth width ^^^ push word false := by
  apply BitVec.eq_of_getLsbD_eq
  intro place inside
  cases place with
  | zero =>
    rw [BitVec.getLsbD_xor, getLsbD_push_zero _ _ inside, getLsbD_push_zero _ _ inside]
    simp [inside]
  | succ place => simp [getLsbD_push_succ]

/-- Bits that fit into the register enter it one after the other as the word of them all does. -/
theorem feedAll_eq (reg : BitVec width) {bits : List Bool} (fits : bits.length ≤ width) :
    feedAll poly reg bits = (shift poly)^[bits.length] (reg ^^^ ofBits bits.reverse) := by
  induction bits generalizing reg with
  | nil => exact BitVec.xor_zero.symm
  | cons bit bits ih =>
    have clear : (ofBits bits.reverse : BitVec width).getMsbD 0 = false :=
      getMsbD_ofBits_partial _ (by rw [List.length_reverse]; exact fits)
    calc feedAll poly reg (bit :: bits)
        = (shift poly)^[bits.length] (feed poly reg bit ^^^ ofBits bits.reverse) := ih _ (Nat.le_of_succ_le fits)
      _ = (shift poly)^[bits.length] (feed poly reg bit ^^^ shift poly (push (ofBits bits.reverse) false)) := by
          rw [shift_push_false poly clear]
      _ = (shift poly)^[bits.length] (shift poly (reg ^^^ push (ofBits bits.reverse) bit)) := by
          rw [feed, ← shift_xor, BitVec.xor_assoc, ← push_eq_xor]
      _ = (shift poly)^[(bit :: bits).length] (reg ^^^ ofBits (bit :: bits).reverse) := by
          rw [List.reverse_cons, ← push_ofBits]
          rfl

/-- The word moves up by one place instead. -/
def shiftUp (reg : BitVec width) : BitVec width := if reg.getMsbD 0 then (reg <<< 1) ^^^ poly else reg <<< 1

/-- Read from its other end, a word that moves up moves down. -/
theorem reverse_shiftUp (reg : BitVec width) : (shiftUp poly reg).reverse = shift poly.reverse reg.reverse := by
  apply BitVec.eq_of_getLsbD_eq
  intro place inside
  rw [getLsbD_shift, BitVec.getLsbD_reverse, BitVec.getLsbD_reverse, BitVec.getLsbD_reverse, BitVec.getLsbD_reverse]
  unfold shiftUp
  cases reg.getMsbD 0 <;> simp

theorem reverse_shiftsUp (count : Nat) (reg : BitVec width) :
    ((shiftUp poly)^[count] reg).reverse = (shift poly.reverse)^[count] reg.reverse := by
  induction count generalizing reg with
  | zero => rfl
  | succ count ih => rw [Function.iterate_succ_apply, ih, reverse_shiftUp, ← Function.iterate_succ_apply]

variable {poly} (top : poly.getMsbD 0 = true)
include top

/-- The highest bit tells whether the polynomial was added. -/
theorem shift_injective : Function.Injective (shift poly) := by
  intro a b same
  have room : 0 < width := by
    by_contra none
    rw [BitVec.getMsbD_eq_getLsbD, decide_eq_false none] at top
    exact Bool.false_ne_true top
  rw [BitVec.getMsbD_eq_getLsbD, decide_eq_true room, Bool.true_and, Nat.sub_zero] at top
  have bits (place : Nat) : (a.getLsbD (place + 1) ^^ (a.getLsbD 0 && poly.getLsbD place)) =
      (b.getLsbD (place + 1) ^^ (b.getLsbD 0 && poly.getLsbD place)) := by
    rw [← getLsbD_shift, ← getLsbD_shift, same]
  have lowest : a.getLsbD 0 = b.getLsbD 0 := by
    have highest := bits (width - 1)
    rwa [top, BitVec.getLsbD_of_ge a _ (by omega), BitVec.getLsbD_of_ge b _ (by omega), Bool.and_true, Bool.and_true,
      Bool.false_xor, Bool.false_xor] at highest
  apply BitVec.eq_of_getLsbD_eq
  intro place _
  cases place with
  | zero => exact lowest
  | succ place =>
    have moved := bits place
    rw [lowest] at moved
    exact Bool.xor_left_inj.mp moved

theorem feed_injective (bit : Bool) : Function.Injective (feed poly · bit) := by
  intro a b same
  exact BitVec.xor_left_inj _ |>.mp (shift_injective top same)

theorem feedAll_injective (bits : List Bool) : Function.Injective (feedAll poly · bits) := by
  induction bits with
  | nil => exact fun _ _ same => same
  | cons bit bits ih => exact fun _ _ same => feed_injective top bit (ih same)

/-- Sequences that differ in a window as long as the register is wide are told apart. -/
theorem feedAll_burst (reg : BitVec width) (front back : List Bool) {first second : List Bool}
    (length : first.length = second.length) (fits : first.length ≤ width) (differ : first ≠ second) :
    feedAll poly reg (front ++ first ++ back) ≠ feedAll poly reg (front ++ second ++ back) := by
  intro same
  rw [feedAll_append, feedAll_append, feedAll_append, feedAll_append] at same
  have window := feedAll_injective top back same
  simp only [feedAll_eq poly _ fits, feedAll_eq poly _ (length ▸ fits : second.length ≤ width), length] at window
  have words := (shift_injective top).iterate second.length window
  have reversed : first.reverse = second.reverse :=
    ofBits_injective (by simpa using length) (by simpa using fits) (BitVec.xor_right_inj _ |>.mp words)
  exact differ (List.reverse_inj.mp reversed)

end FeedbackRegister

end Xtreme.Library
