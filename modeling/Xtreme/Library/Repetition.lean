import Mathlib.Data.List.Basic

/-! Lists that repeat a pattern, also a part of it at their end. -/
namespace Xtreme.Library

variable {α : Type*}

/-- The items are those of the pattern over and over. An empty pattern says nothing. -/
def Repeats (pattern items : List α) : Prop :=
  pattern = [] ∨ ∀ place < items.length, items[place]? = pattern[place % pattern.length]?

theorem take_append_self_iff (pattern items : List α) :
    (pattern ++ items).take items.length = items ↔ Repeats pattern items := by
  by_cases empty : pattern = []
  · rw [empty, List.nil_append, List.take_length]
    exact ⟨fun _ => .inl rfl, fun _ => rfl⟩
  have long : 0 < pattern.length := List.length_pos_iff.mpr empty
  constructor
  · intro same
    have shifted (place : Nat) (inside : place < items.length) : items[place]? = (pattern ++ items)[place]? := by
      calc items[place]? = ((pattern ++ items).take items.length)[place]? := by rw [same]
        _ = (pattern ++ items)[place]? := List.getElem?_take_of_lt inside
    refine .inr fun place inside => ?_
    induction place using Nat.strongRecOn with
    | ind place ih =>
      rw [shifted place inside]
      by_cases first : place < pattern.length
      · rw [List.getElem?_append_left first, Nat.mod_eq_of_lt first]
      · rw [List.getElem?_append_right (Nat.le_of_not_lt first), Nat.mod_eq_sub_mod (Nat.le_of_not_lt first)]
        exact ih (place - pattern.length) (by omega) (by omega)
  · rintro (none | repeats)
    · exact absurd none empty
    · apply List.ext_getElem?
      intro place
      by_cases inside : place < items.length
      · rw [List.getElem?_take_of_lt inside]
        by_cases first : place < pattern.length
        · rw [List.getElem?_append_left first, repeats place inside, Nat.mod_eq_of_lt first]
        · rw [List.getElem?_append_right (Nat.le_of_not_lt first), repeats place inside,
            repeats (place - pattern.length) (by omega), Nat.mod_eq_sub_mod (Nat.le_of_not_lt first)]
      · rw [List.getElem?_eq_none (Nat.le_of_not_lt inside), List.getElem?_eq_none]
        rw [List.length_take]
        omega

end Xtreme.Library
