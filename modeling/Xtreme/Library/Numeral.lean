import Mathlib.Algebra.Group.Int.Defs
import Mathlib.Algebra.GroupWithZero.Nat
import Mathlib.Data.List.Induction

/-! Numerals in a base, as lists of digits with the highest first: of a fixed
width with leading zeros, and without them. -/
namespace Xtreme.Library

/-- The number that a list of digits stands for. -/
def numeralValue (base : Nat) (digits : List Nat) : Nat :=
  digits.foldl (fun value digit => base * value + digit) 0

def fixedNumeral (base : Nat) : Nat → Nat → List Nat
  | 0, _ => []
  | width + 1, number => fixedNumeral base width (number / base) ++ [number % base]

/-- The digits of a number, at most `fuel + 1` of them, without leading zeros. -/
def numeral (base : Nat) : Nat → Nat → List Nat
  | 0, number => [number % base]
  | fuel + 1, number =>
    if number < base then [number % base]
    else numeral base fuel (number / base) ++ [number % base]

variable {base : Nat}

theorem numeralValue_append_digit (digits : List Nat) (digit : Nat) :
    numeralValue base (digits ++ [digit]) = base * numeralValue base digits + digit := by
  rw [numeralValue, List.foldl_append]
  rfl

@[simp] theorem length_fixedNumeral (width number : Nat) :
    (fixedNumeral base width number).length = width := by
  induction width generalizing number with
  | zero => rfl
  | succ width ih => rw [fixedNumeral, List.length_append, ih, List.length_singleton]

theorem numeralValue_fixedNumeral (width number : Nat) :
    numeralValue base (fixedNumeral base width number) = number % base ^ width := by
  induction width generalizing number with
  | zero => rw [Nat.pow_zero, Nat.mod_one]; rfl
  | succ width ih =>
    rw [fixedNumeral, numeralValue_append_digit, ih, Nat.pow_succ', Nat.mod_mul, Nat.add_comm]

/-- Digits are found again in their number. -/
theorem fixedNumeral_numeralValue {digits : List Nat} (small : ∀ digit ∈ digits, digit < base) :
    fixedNumeral base digits.length (numeralValue base digits) = digits := by
  induction digits using List.reverseRecOn with
  | nil => rfl
  | append_singleton digits digit ih =>
    have last : digit < base := small digit (by simp)
    have before := ih fun other member => small other (List.mem_append_left _ member)
    rw [List.length_append, List.length_singleton, fixedNumeral, numeralValue_append_digit,
      Nat.mul_add_div (Nat.zero_lt_of_lt last), Nat.div_eq_of_lt last, Nat.add_zero, before, Nat.mul_add_mod,
      Nat.mod_eq_of_lt last]

theorem numeralValue_numeral {fuel number : Nat} (room : number < base ^ (fuel + 1)) :
    numeralValue base (numeral base fuel number) = number := by
  induction fuel generalizing number with
  | zero =>
    rw [Nat.pow_one] at room
    simp [numeral, numeralValue, Nat.mod_eq_of_lt room]
  | succ fuel ih =>
    rw [numeral]
    split
    · rename_i single
      simp [numeralValue, Nat.mod_eq_of_lt single]
    · have rest : number / base < base ^ (fuel + 1) :=
        Nat.div_lt_of_lt_mul (by rwa [← Nat.pow_succ'])
      rw [numeralValue_append_digit, ih rest, Nat.div_add_mod]

theorem digit_lt_of_mem_fixedNumeral (positive : 0 < base) {width number digit : Nat}
    (mem : digit ∈ fixedNumeral base width number) : digit < base := by
  induction width generalizing number with
  | zero => cases mem
  | succ width ih =>
    rcases List.mem_append.mp mem with high | low
    · exact ih high
    · rw [List.mem_singleton.mp low]
      exact Nat.mod_lt _ positive

theorem digit_lt_of_mem_numeral (positive : 0 < base) {fuel number digit : Nat}
    (mem : digit ∈ numeral base fuel number) : digit < base := by
  induction fuel generalizing number with
  | zero =>
    rw [List.mem_singleton.mp mem]
    exact Nat.mod_lt _ positive
  | succ fuel ih =>
    rw [numeral] at mem
    split at mem
    · rw [List.mem_singleton.mp mem]
      exact Nat.mod_lt _ positive
    · rcases List.mem_append.mp mem with high | low
      · exact ih high
      · rw [List.mem_singleton.mp low]
        exact Nat.mod_lt _ positive

theorem numeral_ne_nil (fuel number : Nat) : numeral base fuel number ≠ [] := by
  cases fuel with
  | zero => exact List.cons_ne_nil _ _
  | succ fuel =>
    rw [numeral]
    split
    · exact List.cons_ne_nil _ _
    · exact List.append_ne_nil_of_right_ne_nil _ (List.cons_ne_nil _ _)

end Xtreme.Library
