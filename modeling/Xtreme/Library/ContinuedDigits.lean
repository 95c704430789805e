import Mathlib.Algebra.Group.Int.Defs
import Mathlib.Algebra.GroupWithZero.Nat
import Mathlib.Data.Nat.Digits.Defs

/-! Numbers as digits with the lowest first, one digit a symbol, where every
symbol also says whether more of them follow. A code ends at its first symbol
that says no, so it is read back with anything behind it. -/
namespace Xtreme.Library

structure DigitSymbols (α : Type*) where
  digit : α → Nat
  continues : α → Bool

namespace DigitSymbols
variable {α : Type*} (symbols : DigitSymbols α)

/-- A whole code: only its last symbol does not continue. -/
def Ended (code : List α) : Prop :=
  ∃ front last, code = front ++ [last] ∧ (∀ symbol ∈ front, symbols.continues symbol = true) ∧
    symbols.continues last = false

/-- The number that a code stands for. -/
def value (base : Nat) (code : List α) : Nat := Nat.ofDigits base (code.map symbols.digit)

/-- What a reader takes of an input: up to the first symbol that does not continue, or all of it. -/
def taken (input : List α) : List α := input.take ((input.takeWhile symbols.continues).length + 1)

variable {symbols} {base : Nat}

theorem Ended.singleton {last : α} (stops : symbols.continues last = false) : symbols.Ended [last] :=
  ⟨[], last, rfl, by simp, stops⟩

theorem Ended.cons {symbol : α} {code : List α} (more : symbols.continues symbol = true)
    (ended : symbols.Ended code) : symbols.Ended (symbol :: code) := by
  obtain ⟨front, last, rfl, continued, stops⟩ := ended
  refine ⟨symbol :: front, last, rfl, ?_, stops⟩
  intro other member
  rcases List.mem_cons.mp member with rfl | later
  · exact more
  · exact continued other later

theorem Ended.ne_nil {code : List α} (ended : symbols.Ended code) : code ≠ [] := by
  obtain ⟨front, last, rfl, -⟩ := ended
  simp

/-- The symbols before the last one are those that a reader passes by. -/
theorem Ended.length_takeWhile {code : List α} (ended : symbols.Ended code) (rest : List α) :
    ((code ++ rest).takeWhile symbols.continues).length + 1 = code.length := by
  obtain ⟨front, last, rfl, continued, stops⟩ := ended
  rw [List.append_assoc, List.takeWhile_append_of_pos continued, List.singleton_append,
    List.takeWhile_cons_of_neg (by simp [stops]), List.append_nil, List.length_append, List.length_singleton]

theorem Ended.taken_append {code : List α} (ended : symbols.Ended code) (rest : List α) :
    symbols.taken (code ++ rest) = code := by
  rw [taken, ended.length_takeWhile, List.take_left]

theorem taken_cons_of_continues {symbol : α} (more : symbols.continues symbol = true) (input : List α) :
    symbols.taken (symbol :: input) = symbol :: symbols.taken input := by
  rw [taken, List.takeWhile_cons_of_pos more, List.length_cons, List.take_succ_cons, taken]

theorem taken_cons_of_stops {symbol : α} (stops : symbols.continues symbol = false) (input : List α) :
    symbols.taken (symbol :: input) = [symbol] := by
  rw [taken, List.takeWhile_cons_of_neg (by simp [stops])]
  rfl

@[simp] theorem value_nil : symbols.value base [] = 0 := rfl

@[simp] theorem value_cons (symbol : α) (code : List α) :
    symbols.value base (symbol :: code) = symbols.digit symbol + base * symbols.value base code :=
  Nat.ofDigits_cons

/-- A reader stops before the end of the input exactly where a symbol ends a code. -/
theorem length_takeWhile_lt_iff (input : List α) (count : Nat) :
    (input.takeWhile symbols.continues).length < min count input.length ↔
      ∃ place < count, ∃ symbol, input[place]? = some symbol ∧ symbols.continues symbol = false := by
  induction input generalizing count with
  | nil => simp
  | cons symbol input ih =>
    cases count with
    | zero => simp
    | succ count =>
      cases more : symbols.continues symbol with
      | false =>
        rw [List.takeWhile_cons_of_neg (by simp [more])]
        refine ⟨fun _ => ⟨0, Nat.succ_pos _, symbol, rfl, more⟩, fun _ => ?_⟩
        simp
      | true =>
        rw [List.takeWhile_cons_of_pos more, List.length_cons, List.length_cons, Nat.succ_min_succ,
          Nat.succ_lt_succ_iff, ih]
        constructor
        · rintro ⟨place, early, found⟩
          exact ⟨place + 1, Nat.succ_lt_succ early, found⟩
        · rintro ⟨place, early, found⟩
          cases place with
          | zero =>
            obtain ⟨other, same, stops⟩ := found
            rw [List.getElem?_cons_zero, Option.some.injEq] at same
            rw [← same, more] at stops
            cases stops
          | succ place => exact ⟨place, Nat.lt_of_succ_lt_succ early, found⟩

end DigitSymbols
end Xtreme.Library
