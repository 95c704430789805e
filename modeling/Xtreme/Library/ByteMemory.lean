import Mathlib.Data.Nat.Notation

/-! Memory from the first byte of an object on. It has no end, so that a store past the
object is a change behind its last byte, and a copy that stays inside leaves all of that
alone (`store_outside`). -/
namespace Xtreme.Library

abbrev ByteMemory := Nat → BitVec 8

namespace ByteMemory
variable (memory : ByteMemory) {offset : Nat} {chunk : List (BitVec 8)} {place : Nat}

/-- A chunk copied to the given offset. -/
def store (offset : Nat) (chunk : List (BitVec 8)) : ByteMemory := fun place =>
  if offset ≤ place then (chunk[place - offset]?).getD (memory place) else memory place

def bytes (offset size : Nat) : List (BitVec 8) :=
  (List.range size).map fun index => memory (offset + index)

theorem store_before (before : place < offset) : memory.store offset chunk place = memory place :=
  if_neg (Nat.not_le.mpr before)

theorem store_outside (outside : offset + chunk.length ≤ place) :
    memory.store offset chunk place = memory place := by
  rw [store, List.getElem?_eq_none (by omega), Option.getD_none, ite_self]

theorem store_inside {byte : BitVec 8} (after : offset ≤ place)
    (held : chunk[place - offset]? = some byte) : memory.store offset chunk place = byte := by
  rw [store, if_pos after, held, Option.getD_some]

@[simp] theorem bytes_length (offset size : Nat) : (memory.bytes offset size).length = size := by
  simp [bytes]

variable {memory}

theorem bytes_get {size : Nat} (inside : place < size) :
    (memory.bytes offset size)[place]? = some (memory (offset + place)) := by
  simp [bytes, List.getElem?_range inside]

theorem bytes_append (offset first second : Nat) : memory.bytes offset (first + second) =
      memory.bytes offset first ++ memory.bytes (offset + first) second := by
  simp only [bytes, List.range_add, List.map_append, List.map_map, Function.comp_def, Nat.add_assoc]

/-- What was read before a copy, and the copy behind it. -/
theorem bytes_store (size : Nat) :
    (memory.store size chunk).bytes 0 (size + chunk.length) = memory.bytes 0 size ++ chunk := by
  refine List.ext_getElem? fun place => ?_
  by_cases before : place < size
  · rw [bytes_get (by omega), List.getElem?_append_left (by simpa using before), bytes_get before,
      Nat.zero_add, store_before _ before]
  · rw [List.getElem?_append_right (by simpa using before), bytes_length]
    by_cases inside : place < size + chunk.length
    · have held := List.getElem?_eq_getElem (show place - size < chunk.length by omega)
      rw [bytes_get inside, Nat.zero_add, store_inside memory (by omega) held, held]
    · rw [List.getElem?_eq_none (by simp; omega), List.getElem?_eq_none (by omega)]

@[simp] theorem store_nil (memory : ByteMemory) (offset : Nat) : memory.store offset [] = memory := by
  funext place
  simp [store]

/-- A chunk behind another is one chunk. -/
theorem store_append (memory : ByteMemory) (offset : Nat) (first second : List (BitVec 8)) :
    (memory.store offset first).store (offset + first.length) second = memory.store offset (first ++ second) := by
  funext place
  by_cases behind : offset + first.length ≤ place
  · have place_eq : place - (offset + first.length) = place - offset - first.length := by omega
    rw [store, if_pos behind, store_outside memory behind, store, if_pos (by omega),
      List.getElem?_append_right (by omega), place_eq]
  · rw [store_before _ (Nat.not_le.mp behind)]
    by_cases inside : offset ≤ place
    · rw [store, store, if_pos inside, if_pos inside, List.getElem?_append_left (by omega)]
    · rw [store_before _ (Nat.not_le.mp inside), store_before _ (Nat.not_le.mp inside)]

/-- A part of a chunk that was copied. -/
theorem bytes_stored {skip size : Nat} (inside : skip + size ≤ chunk.length) :
    (memory.store offset chunk).bytes (offset + skip) size = (chunk.drop skip).take size := by
  refine List.ext_getElem? fun place => ?_
  by_cases here : place < size
  · have held := List.getElem?_eq_getElem (show skip + place < chunk.length by omega)
    have place_eq : offset + skip + place - offset = skip + place := by omega
    rw [bytes_get here, store_inside memory (by omega) (by rw [place_eq, held]), List.getElem?_take_of_lt here,
      List.getElem?_drop, held]
  · rw [List.getElem?_eq_none (by simpa using here), List.getElem?_eq_none (by simp; omega)]

theorem bytes_part {front part back : List (BitVec 8)} {size : Nat} (starts : offset + front.length = place)
    (length : part.length = size) : (memory.store offset (front ++ (part ++ back))).bytes place size = part := by
  subst starts length
  rw [bytes_stored (by simp), List.drop_left, List.take_left]

end ByteMemory

end Xtreme.Library
