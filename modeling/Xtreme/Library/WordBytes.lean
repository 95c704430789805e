import Mathlib.Algebra.Group.Int.Defs
import Mathlib.Algebra.GroupWithZero.Nat
import Mathlib.Data.List.Induction

/-! Words as sequences of bytes, the highest byte first. The other order is the
reversed list. -/
namespace Xtreme.Library

variable {width : Nat}

/-- Bytes shifted into a word, the first one highest. -/
def joinBytes (bytes : List (BitVec 8)) : BitVec width :=
  bytes.foldl (fun word byte => (word <<< 8) ||| byte.setWidth width) 0

/-- The lowest `count` bytes of a word, the highest one first. -/
def splitBytes (count : Nat) (word : BitVec width) : List (BitVec 8) :=
  (List.range count).reverse.map fun i => word.extractLsb' (8 * i) 8

@[simp] theorem length_splitBytes (count : Nat) (word : BitVec width) : (splitBytes count word).length = count := by
  simp [splitBytes]

theorem getLsbD_joinBytes (bytes : List (BitVec 8)) {place : Nat} (inside : place < width) :
    (joinBytes bytes : BitVec width).getLsbD place = ((bytes.reverse[place / 8]?).getD 0).getLsbD (place % 8) := by
  induction bytes using List.reverseRecOn generalizing place with
  | nil => simp [joinBytes]
  | append_singleton bytes byte ih =>
    rw [joinBytes, List.foldl_append, List.foldl_cons, List.foldl_nil, ← joinBytes, List.reverse_append,
      List.reverse_singleton, BitVec.getLsbD_or, BitVec.getLsbD_shiftLeft,
      BitVec.getLsbD_setWidth, decide_eq_true inside]
    by_cases low : place < 8
    · rw [decide_eq_true low, Nat.div_eq_of_lt low, Nat.mod_eq_of_lt low]
      simp
    · obtain ⟨place, rfl⟩ := Nat.exists_eq_add_of_le (Nat.not_lt.mp low)
      rw [ih (by omega), Nat.add_div_left _ (by decide)]
      simp

theorem reverse_splitBytes_get {count index : Nat} (inside : index < count) (word : BitVec width) :
    (splitBytes count word).reverse[index]? = some (word.extractLsb' (8 * index) 8) := by
  simp [splitBytes, List.getElem?_range inside]

theorem joinBytes_splitBytes {count : Nat} (room : width ≤ 8 * count) (word : BitVec width) :
    joinBytes (splitBytes count word) = word := by
  apply BitVec.eq_of_getLsbD_eq
  intro place inside
  have low : place % 8 < 8 := Nat.mod_lt place (by decide)
  rw [getLsbD_joinBytes _ inside, reverse_splitBytes_get (by omega), Option.getD_some, BitVec.getLsbD_extractLsb',
    decide_eq_true low, Bool.true_and, Nat.div_add_mod]

theorem splitBytes_joinBytes {bytes : List (BitVec 8)} (room : 8 * bytes.length ≤ width) :
    splitBytes bytes.length (joinBytes bytes : BitVec width) = bytes := by
  rw [← List.reverse_inj]
  apply List.ext_getElem?
  intro index
  by_cases inside : index < bytes.length
  · rw [reverse_splitBytes_get inside, List.getElem?_eq_getElem (by simpa using inside)]
    congr 1
    apply BitVec.eq_of_getLsbD_eq
    intro place low
    rw [BitVec.getLsbD_extractLsb', decide_eq_true low, Bool.true_and, getLsbD_joinBytes _ (by omega),
      Nat.mul_add_div (by decide), Nat.div_eq_of_lt low, Nat.add_zero, Nat.mul_add_mod, Nat.mod_eq_of_lt low,
      List.getElem?_eq_getElem (by simpa using inside), Option.getD_some]
  · rw [List.getElem?_eq_none (by simpa using inside), List.getElem?_eq_none (by simpa using inside)]

end Xtreme.Library
