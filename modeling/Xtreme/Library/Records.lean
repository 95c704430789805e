import Mathlib.Data.List.Basic

/-! Lists written as records of one width, one behind the other. -/
namespace Xtreme.Library

variable {α β : Type*} {record : α → List β} {width : Nat} (sized : ∀ item, (record item).length = width)
include sized

theorem length_records (items : List α) : (items.flatMap record).length = width * items.length := by
  induction items with
  | nil => rfl
  | cons item rest next =>
    rw [List.flatMap_cons, List.length_append, sized, next, List.length_cons, Nat.mul_succ, Nat.add_comm]

theorem drop_records (items : List α) (count : Nat) :
    (items.flatMap record).drop (width * count) = (items.drop count).flatMap record := by
  induction items generalizing count with
  | nil => simp
  | cons item rest next =>
    cases count with
    | zero => rfl
    | succ count =>
      have past : width * (count + 1) = (record item).length + width * count := by
        rw [sized, Nat.mul_succ, Nat.add_comm]
      rw [List.flatMap_cons, past, List.drop_length_add_append, next, List.drop_succ_cons]

theorem take_records (items : List α) (count : Nat) :
    (items.flatMap record).take (width * count) = (items.take count).flatMap record := by
  induction items generalizing count with
  | nil => simp
  | cons item rest next =>
    cases count with
    | zero => rfl
    | succ count =>
      have past : width * (count + 1) = (record item).length + width * count := by
        rw [sized, Nat.mul_succ, Nat.add_comm]
      rw [List.flatMap_cons, past, List.take_length_add_append, next, List.take_succ_cons, List.flatMap_cons]

theorem record_at (items : List α) (index : Nat) :
    ((items.flatMap record).drop (width * index)).take width = (items[index]?.map record).getD [] := by
  have first := take_records sized (items.drop index) 1
  rw [Nat.mul_one] at first
  rw [drop_records sized, first]
  cases there : items[index]? with
  | none =>
    rw [List.drop_eq_nil_of_le (List.getElem?_eq_none_iff.mp there)]
    rfl
  | some item =>
    obtain ⟨inside, rfl⟩ := List.getElem?_eq_some_iff.mp there
    rw [List.drop_eq_getElem_cons inside, List.take_succ_cons, List.take_zero, List.flatMap_cons, List.flatMap_nil,
      List.append_nil]
    rfl

end Xtreme.Library
