import Mathlib.Data.List.Nodup
import Mathlib.Data.List.Range
import Mathlib.Data.List.Perm.Subperm
import Xtreme.Toolbox.BufferStream

/-! The pool of a buffer stream: which of its buffers are in use, by the queue or by the
reader, and what each step of a call makes of it. -/
namespace Xtreme.Toolbox

def dataAt (buffers : List Buffer) (place : Nat) : List UInt8 := ((buffers[place]?).map Buffer.data).getD []

variable {buffers : List Buffer}

theorem dataAt_of_get {place : Nat} {buffer : Buffer} (there : buffers[place]? = some buffer) :
    dataAt buffers place = buffer.data := by
  rw [dataAt, there]
  rfl

theorem dataAt_set_of_ne {place other : Nat} (buffer : Buffer) (ne : place ≠ other) :
    dataAt (buffers.set place buffer) other = dataAt buffers other := by
  rw [dataAt, List.getElem?_set_ne ne, dataAt]

theorem dataAt_set_same {place : Nat} {buffer changed : Buffer}
    (there : buffers[place]? = some buffer) (same : changed.data = buffer.data) (other : Nat) :
    dataAt (buffers.set place changed) other = dataAt buffers other := by
  by_cases here : place = other
  · subst here
    rw [dataAt, List.getElem?_set_self (List.getElem?_eq_some_iff.mp there).1, dataAt, there]
    exact same
  · exact dataAt_set_of_ne changed here

/-- The occupied buffers are those in use, and a free one is empty unless it is being filled. -/
structure Pooled (bufferSize : Nat) (buffers : List Buffer) (index : Nat) (used : List Nat) : Prop where
  within : index < buffers.length
  width : ∀ buffer ∈ buffers, buffer.maxDataSize = bufferSize
  once : used.Nodup
  inside : ∀ place ∈ used, place < buffers.length
  occupied : ∀ (place : Nat) (buffer : Buffer), buffers[place]? = some buffer → (buffer.occupied = true ↔ place ∈ used)
  empty : ∀ (place : Nat) (buffer : Buffer), buffers[place]? = some buffer → buffer.occupied = false → place ≠ index → buffer.data = []

namespace Pooled
variable {bufferSize index : Nat} {buffers : List Buffer} {used : List Nat} {buffer : Buffer}

variable (pooled : Pooled bufferSize buffers index used)
include pooled

theorem perm {used' : List Nat} (same : used'.Perm used) : Pooled bufferSize buffers index used' where
  within := pooled.within
  width := pooled.width
  once := same.nodup_iff.mpr pooled.once
  inside place member := pooled.inside place (same.mem_iff.mp member)
  occupied place buffer there := (pooled.occupied place buffer there).trans same.mem_iff.symm
  empty := pooled.empty

/-- The buffer that is being filled. -/
theorem current :
    ∃ buffer : Buffer, buffers[index]? = some buffer ∧ buffer.maxDataSize = bufferSize ∧ (buffer.occupied = true ↔ index ∈ used) := by
  have there := List.getElem?_eq_getElem pooled.within
  exact ⟨_, there, pooled.width _ (List.getElem_mem _), pooled.occupied _ _ there⟩

theorem length_lt {place : Nat} (inside : place < buffers.length) (free : place ∉ used) : used.length < buffers.length := by
  have once : (place :: used).Nodup := List.nodup_cons.mpr ⟨free, pooled.once⟩
  have some : (place :: used) ⊆ List.range buffers.length := by
    intro other member
    rcases List.mem_cons.mp member with rfl | member
    · exact List.mem_range.mpr inside
    · exact List.mem_range.mpr (pooled.inside other member)
  have fits := (once.subperm some).length_le
  rwa [List.length_range] at fits

theorem write (there : buffers[index]? = some buffer) (data : List UInt8) :
    Pooled bufferSize (buffers.set index { buffer with data := data }) index used where
  within := by
    rw [List.length_set]
    exact pooled.within
  width changed member := by
    rcases List.mem_or_eq_of_mem_set member with old | rfl
    · exact pooled.width changed old
    · exact pooled.width buffer (List.mem_of_getElem? there)
  once := pooled.once
  inside := by
    rw [List.length_set]
    exact pooled.inside
  occupied place changed found := by
    rw [List.getElem?_set] at found
    split at found
    · rename_i same
      subst same
      rw [if_pos pooled.within] at found
      rw [← Option.some.inj found]
      exact pooled.occupied index buffer there
    · exact pooled.occupied place changed found
  empty place changed found free other := by
    rw [List.getElem?_set_ne (Ne.symm other)] at found
    exact pooled.empty place changed found free other

theorem handOver (there : buffers[index]? = some buffer) (free : index ∉ used) :
    Pooled bufferSize (buffers.set index { buffer with occupied := true }) index (index :: used) where
  within := by
    rw [List.length_set]
    exact pooled.within
  width changed member := by
    rcases List.mem_or_eq_of_mem_set member with old | rfl
    · exact pooled.width changed old
    · exact pooled.width buffer (List.mem_of_getElem? there)
  once := List.nodup_cons.mpr ⟨free, pooled.once⟩
  inside := by
    rw [List.length_set]
    exact List.forall_mem_cons.mpr ⟨pooled.within, pooled.inside⟩
  occupied place changed found := by
    rw [List.getElem?_set] at found
    split at found
    · rename_i same
      subst same
      rw [if_pos pooled.within] at found
      rw [← Option.some.inj found]
      exact iff_of_true rfl List.mem_cons_self
    · rename_i other
      rw [pooled.occupied place changed found, List.mem_cons, or_iff_right (Ne.symm other)]
  empty place changed found free other := by
    rw [List.getElem?_set_ne (Ne.symm other)] at found
    exact pooled.empty place changed found free other

/-- Another free buffer is to be filled, once the first one was handed over. -/
theorem move (handed : index ∈ used) {place : Nat} (inside : place < buffers.length) :
    Pooled bufferSize buffers place used where
  within := inside
  width := pooled.width
  once := pooled.once
  inside := pooled.inside
  occupied := pooled.occupied
  empty other buffer there free _ := by
    refine pooled.empty other buffer there free fun same => ?_
    have busy := (pooled.occupied other buffer there).mpr (same ▸ handed)
    exact absurd (free.symm.trans busy) Bool.false_ne_true

omit pooled

/-- A buffer in use is given back. -/
theorem reset {place : Nat} (pooled : Pooled bufferSize buffers index (place :: used)) (there : buffers[place]? = some buffer) :
    Pooled bufferSize (buffers.set place { buffer with occupied := false, data := [] }) index used where
  within := by
    rw [List.length_set]
    exact pooled.within
  width changed member := by
    rcases List.mem_or_eq_of_mem_set member with old | rfl
    · exact pooled.width changed old
    · exact pooled.width buffer (List.mem_of_getElem? there)
  once := (List.nodup_cons.mp pooled.once).2
  inside := by
    rw [List.length_set]
    exact (List.forall_mem_cons.mp pooled.inside).2
  occupied other changed found := by
    rw [List.getElem?_set] at found
    split at found
    · rename_i same
      subst same
      rw [if_pos (List.getElem?_eq_some_iff.mp there).1] at found
      rw [← Option.some.inj found]
      exact iff_of_false Bool.false_ne_true (List.nodup_cons.mp pooled.once).1
    · rename_i ne
      rw [pooled.occupied other changed found, List.mem_cons, or_iff_right (Ne.symm ne)]
  empty other changed found free ne := by
    rw [List.getElem?_set] at found
    split at found
    · rename_i same
      rw [if_pos (List.getElem?_eq_some_iff.mp there).1] at found
      rw [← Option.some.inj found]
    · exact pooled.empty other changed found free ne

end Pooled

structure FirstFree (buffers : List Buffer) (index place : Nat) : Prop where
  other : place ≠ index
  free : ∃ buffer : Buffer, buffers[place]? = some buffer ∧ buffer.occupied = false
  first : ∀ before < place, before ≠ index → ∀ buffer : Buffer, buffers[before]? = some buffer → buffer.occupied = true

/-- The number of a buffer is kept in eight bits, of which the last value says that there is none. -/
theorem bufferStreamGetFreeBuffer_of_first {place : Nat}
    (found : buffers.findIdx? (fun buffer => !buffer.occupied) = some place) (named : place < 128 ∨ place % 256 = 255) :
    bufferStreamGetFreeBuffer buffers = -1 ∨
      bufferStreamGetFreeBuffer buffers ≠ -1 ∧ (BitVec.ofInt 32 (bufferStreamGetFreeBuffer buffers)).toNat = place := by
  have answer : bufferStreamGetFreeBuffer buffers = (BitVec.ofNat 8 place).toInt := by
    rw [bufferStreamGetFreeBuffer, found]
  rw [answer, BitVec.toInt_ofNat']
  rcases named with small | last
  · have value : (place : Int).bmod (2 ^ 8) = place := by
      rw [Int.bmod_def]
      omega
    rw [BitVec.toNat_ofInt]
    omega
  · rw [Int.bmod_def]
    omega

theorem bufferStreamGetFreeBuffer_of_none (found : buffers.findIdx? (fun buffer => !buffer.occupied) = none) :
    bufferStreamGetFreeBuffer buffers = -1 := by
  rw [bufferStreamGetFreeBuffer, found]

theorem firstFree_of_find {index place : Nat} {buffer : Buffer} (there : buffers[index]? = some buffer)
    (found : (buffers.set index { buffer with occupied := true }).findIdx? (fun buffer => !buffer.occupied) = some place) :
    FirstFree buffers index place := by
  obtain ⟨inside, free, first⟩ := List.findIdx?_eq_some_iff_getElem.mp found
  have inside' : place < buffers.length := by rwa [List.length_set] at inside
  have other : place ≠ index := by
    rintro rfl
    rw [List.getElem_set_self] at free
    exact absurd free Bool.false_ne_true
  rw [List.getElem_set_ne (Ne.symm other)] at free
  refine ⟨other, ⟨_, List.getElem?_eq_getElem inside', Bool.not_eq_true' _ |>.mp free⟩, ?_⟩
  intro before smaller ne held at_before
  have busy := first before smaller
  rw [List.getElem_set_ne (Ne.symm ne)] at busy
  obtain ⟨_, rfl⟩ := List.getElem?_eq_some_iff.mp at_before
  simpa using busy

end Xtreme.Toolbox
