import Mathlib.Data.List.Basic

/-! Readers that deliver the items of a list over and over. A reader is known
by what lies ahead of it: it takes the first of these, and with nothing ahead
it starts again from the first item of all. Then the item with number `k` it
delivers is item `k % length` of the list. -/
namespace Xtreme.Library

/-- A reader of `items` over states `σ`, by the items that are still ahead of a state. -/
structure CyclicReader {σ α : Type*} (read : σ → Option α × σ) (items : List α) where
  Ahead : List α → σ → Prop
  next : ∀ {item rest s}, Ahead (item :: rest) s → (read s).1 = some item ∧ Ahead rest (read s).2
  again : ∀ {s}, Ahead [] s → ∃ item rest, items = item :: rest ∧ (read s).1 = some item ∧ Ahead rest (read s).2

namespace CyclicReader
variable {σ α : Type*} {read : σ → Option α × σ} {items : List α} (reader : CyclicReader read items)

/-- The item that is delivered next has number `k`, over all rounds. -/
def At (k : Nat) (s : σ) : Prop :=
  reader.Ahead (items.drop (k % items.length)) s ∨ k % items.length = 0 ∧ reader.Ahead [] s

variable {reader}

theorem at_zero {s : σ} (start : reader.Ahead items s) : reader.At 0 s :=
  .inl (by rwa [])

/-- What is behind the item with number `k`: the rest of the round, or its end. -/
theorem at_succ {s : σ} {k : Nat} (positive : 0 < items.length)
    (behind : reader.Ahead (items.drop (k % items.length + 1)) s) : reader.At (k + 1) s := by
  have inside := Nat.mod_lt k positive
  by_cases last : k % items.length + 1 = items.length
  · refine .inr ⟨?_, ?_⟩
    · rw [← Nat.mod_add_mod, last, Nat.mod_self]
    · rwa [last, List.drop_length] at behind
  · left
    rwa [← Nat.mod_add_mod, Nat.mod_eq_of_lt (by omega : k % items.length + 1 < items.length)]

theorem At.step {s : σ} {k : Nat} (positive : 0 < items.length) (turn : reader.At k s) :
    (read s).1 = items[k % items.length]? ∧ reader.At (k + 1) (read s).2 := by
  have inside := Nat.mod_lt k positive
  rcases turn with ahead | ⟨first, ahead⟩
  · rw [List.drop_eq_getElem_cons inside] at ahead
    obtain ⟨item, rest⟩ := reader.next ahead
    exact ⟨by rw [item, List.getElem?_eq_getElem inside], at_succ positive rest⟩
  · obtain ⟨item, rest, shape, delivered, behind⟩ := reader.again ahead
    have second : items.drop 1 = rest := by rw [shape]; rfl
    refine ⟨by rw [delivered, first, shape, List.getElem?_cons_zero], at_succ positive ?_⟩
    rwa [first, second]

end CyclicReader
end Xtreme.Library
