import Mathlib.Data.Nat.Notation
import Mathlib.Order.Basic

/-! Programs with loops that are given fuel. A program ends with some outcome if it has that
outcome for all fuel from some amount on (`Settles`); then it has no other (`Settles.unique`).
The rules take a program apart as it is written, so that no amount has to be named. -/
namespace Xtreme.Library

variable {α β : Type*}

def Settles (program : Nat → Option α) (outcome : α) : Prop :=
  ∃ enough, ∀ fuel, enough ≤ fuel → program fuel = some outcome

namespace Settles
variable {program : Nat → Option α} {outcome : α}

theorem unique {other : α} (settles : Settles program outcome) (again : Settles program other) : other = outcome := by
  obtain ⟨enough, ends⟩ := settles
  obtain ⟨enough', ends'⟩ := again
  have first := ends (enough + enough') (Nat.le_add_right _ _)
  rw [ends' (enough + enough') (Nat.le_add_left _ _)] at first
  exact Option.some.inj first

theorem of_some (ends : ∀ fuel, program fuel = some outcome) : Settles program outcome :=
  ⟨0, fun fuel _ => ends fuel⟩

/-- One part after the other. -/
theorem bind {next : Nat → α → Option β} {final : β} (first : Settles program outcome)
    (second : Settles (fun fuel => next fuel outcome) final) :
    Settles (fun fuel => (program fuel).bind (next fuel)) final := by
  obtain ⟨enough, ends⟩ := first
  obtain ⟨enough', ends'⟩ := second
  refine ⟨enough + enough', fun fuel more => ?_⟩
  dsimp only
  rw [ends fuel (Nat.le_trans (Nat.le_add_right _ _) more)]
  exact ends' fuel (Nat.le_trans (Nat.le_add_left _ _) more)

theorem map (change : α → β) (settles : Settles program outcome) :
    Settles (fun fuel => (program fuel).map change) (change outcome) := by
  obtain ⟨enough, ends⟩ := settles
  refine ⟨enough, fun fuel more => ?_⟩
  dsimp only
  rw [ends fuel more, Option.map_some]

theorem round {loop : Nat → Option α} (turn : ∀ fuel, loop (fuel + 1) = program fuel)
    (settles : Settles program outcome) : Settles loop outcome := by
  obtain ⟨enough, ends⟩ := settles
  refine ⟨enough + 1, fun fuel more => ?_⟩
  obtain ⟨left, rfl⟩ := Nat.exists_eq_add_of_le' more
  rw [← Nat.add_assoc, turn]
  exact ends _ (Nat.le_add_left _ _)

theorem last_round {loop : Nat → Option α} (turn : ∀ fuel, loop (fuel + 1) = some outcome) : Settles loop outcome :=
  round turn (of_some fun _ => rfl)

theorem congr {other : Nat → Option α} (same : ∀ fuel, other fuel = program fuel)
    (settles : Settles program outcome) : Settles other outcome := by
  obtain ⟨enough, ends⟩ := settles
  refine ⟨enough, fun fuel more => ?_⟩
  rw [same]
  exact ends fuel more

end Settles
end Xtreme.Library
