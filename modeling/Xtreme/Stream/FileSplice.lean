import Xtreme.Stream.FileStream

/-! What `file_stream_delete_and_insert` does to a file below 2 GiB: the detour
over the scratch file exchanges the deleted bytes for what the callback writes,
and nothing else. -/
namespace Xtreme.Stream

theorem fileStreamRead_length {file : FileStream} {count : Nat}
    (there : file.pos + count ≤ file.data.length) : (fileStreamRead file count).1.length = count := by
  rw [fileStreamRead_bytes, List.length_take, List.length_drop]
  omega

theorem streamCopyFrom_eq (source target : FileStream) (size copied : Nat) (inside : copied ≤ size)
    (there : source.pos + (size - copied) ≤ source.data.length) :
    streamCopyFrom source target size copied = (size, (fileStreamRead source (size - copied)).2,
        (fileStreamWrite target (fileStreamRead source (size - copied)).1).2) := by
  have block : streamBlockSize = 512 := rfl
  fun_induction streamCopyFrom source target size copied with
  | case1 source target copied bytesCount done =>
    rw [show size - copied = 0 by omega, fileStreamRead_zero, fileStreamWrite_nil]
    exact Prod.ext (by omega) rfl
  | case2 source target copied bytesCount left bytes next read short =>
    have length := fileStreamRead_length (show source.pos + bytesCount ≤ source.data.length by omega)
    rw [read] at length
    exact absurd length short
  | case3 source target copied bytesCount left bytes next read full written out write short =>
    have length : written = bytes.length := (congrArg Prod.fst write).symm
    omega
  | case4 source target copied bytesCount left bytes next read full written out write all ih =>
    have pos : next.pos = source.pos + bytes.length := by
      rw [show next = (fileStreamRead source bytesCount).2 by rw [read], fileStreamRead_pos, read]
    have data : next.data = source.data := by
      rw [show next = (fileStreamRead source bytesCount).2 by rw [read], fileStreamRead_data]
    have parts : size - copied = bytesCount + (size - (copied + bytesCount)) := by omega
    rw [ih (by omega) (by rw [data]; omega), parts, fileStreamRead_add, fileStreamWrite_append, read, write]

theorem streamCopy_eq {source target : FileStream} {size : Nat} (there : source.pos + size ≤ source.data.length) :
    streamCopy source target size =
      (size, (fileStreamRead source size).2, (fileStreamWrite target (fileStreamRead source size).1).2) := by
  rw [streamCopy, streamCopyFrom_eq source target size 0 (Nat.zero_le _) (by simpa using there), Nat.sub_zero]

/-- A file in two parts, with the cursor between them. -/
def cut (before after : List UInt8) : FileStream :=
  ⟨before ++ after, before.length, by rw [List.length_append]; exact Nat.le_add_right _ _⟩

theorem eq_cut {file : FileStream} {before after : List UInt8} (bytes : file.data = before ++ after)
    (cursor : file.pos = before.length) : file = cut before after :=
  File.ext bytes cursor

section Cut
variable (before passed after : List UInt8)

@[simp] theorem cut_data : (cut before after).data = before ++ after := rfl
@[simp] theorem cut_pos : (cut before after).pos = before.length := rfl

theorem fileStreamRead_cut_take (size : Nat) : fileStreamRead (cut before after) size =
    (after.take size, cut (before ++ after.take size) (after.drop size)) := by
  have bytes : (fileStreamRead (cut before after) size).1 = after.take size := by
    rw [fileStreamRead_bytes, cut_data, cut_pos, List.drop_left]
  refine Prod.ext bytes (eq_cut (by simp) ?_)
  rw [fileStreamRead_pos, bytes, cut_pos, List.length_append]

theorem fileStreamRead_cut : fileStreamRead (cut before (passed ++ after)) passed.length =
    (passed, cut (before ++ passed) after) := by
  rw [fileStreamRead_cut_take, List.take_left, List.drop_left]

theorem fileStreamWrite_cut (bytes : List UInt8) : fileStreamWrite (cut before after) bytes =
    (bytes.length, cut (before ++ bytes) (after.drop bytes.length)) := by
  refine Prod.ext rfl (eq_cut ?_ ?_)
  · simp only [fileStreamWrite, storageFileWrite, cut_data, cut_pos, List.take_left]
    rw [← List.drop_drop, List.drop_left]
  · simp only [fileStreamWrite, storageFileWrite, cut_pos, List.length_append]

theorem fileStreamSeek_cut {file : FileStream} {offset : Int} {offsetType : StreamOffset}
    (bytes : file.data = before ++ after) (small : (before ++ after).length < 2 ^ 31)
    (target : seekTarget file offset offsetType = before.length) :
    fileStreamSeek file offset offsetType = (true, cut before after) := by
  rw [fileStreamSeek_inside before.length (by rw [bytes]; exact small) target
    (by rw [bytes, List.length_append]; omega)]
  exact congrArg _ (eq_cut bytes rfl)

theorem fileStreamRewind_cut {file : FileStream} (bytes : file.data = after)
    (small : after.length < 2 ^ 31) : fileStreamRewind file = (true, cut [] after) :=
  fileStreamSeek_cut [] after bytes small rfl

theorem streamCopy_cut (before' after' : List UInt8) :
    streamCopy (cut before (passed ++ after)) (cut before' after') passed.length =
      (passed.length, cut (before ++ passed) after,
        cut (before' ++ passed) (after'.drop passed.length)) := by
  rw [streamCopy_eq (by simp), fileStreamRead_cut, fileStreamWrite_cut]

theorem storageFileTruncate_cut : storageFileTruncate (cut before after) = cut before [] :=
  eq_cut (by simp [storageFileTruncate]) rfl

end Cut

theorem fileStreamDeleteAndInsert_steps {stream s₁ s₂ s₃ s₄ s₅ s₆ t₁ t₂ t₃ t₄ t₅ : FileStream}
    {deleteSize toDelete : Nat} {callback : FileStream → Bool × FileStream}
    (deletes : min deleteSize (fileStreamSize stream - fileStreamTell stream) = toDelete)
    (rewind : fileStreamRewind stream = (true, s₁))
    (copyBefore : streamCopy s₁ ⟨[], 0, Nat.le_refl 0⟩ (fileStreamTell stream) = (fileStreamTell stream, s₂, t₁))
    (writes : callback t₁ = (true, t₂))
    (skip : fileStreamSeek s₂ (int32 toDelete) .fromCurrent = (true, s₃))
    (copyAfter : streamCopy s₃ t₂ (fileStreamSize stream - fileStreamTell stream - toDelete) =
      (fileStreamSize stream - fileStreamTell stream - toDelete, s₄, t₃))
    (rewind' : fileStreamRewind s₄ = (true, s₅)) (rewindScratch : fileStreamRewind t₃ = (true, t₄))
    (copyBack : streamCopy t₄ s₅ (fileStreamSize t₃) = (fileStreamSize t₃, t₅, s₆)) :
    fileStreamDeleteAndInsert stream deleteSize (some callback) =
      fileStreamSeek (storageFileTruncate s₆) (int32 (fileStreamTell t₂)) .fromStart := by
  simp only [fileStreamDeleteAndInsert, deletes, rewind, copyBefore, writes, skip, copyAfter, rewind',
    rewindScratch, copyBack, Bool.not_true, Bool.false_eq_true, if_false, ne_eq, not_true]

/-- Below 2 GiB the bytes after the cursor are deleted and the new ones inserted,
and the cursor ends behind them. -/
theorem fileStreamDeleteAndInsert_cut (before deleted after line : List UInt8)
    {callback : FileStream → Bool × FileStream}
    (writes : callback (cut before []) = (true, cut (before ++ line) []))
    (small : (before ++ (deleted ++ after)).length < 2 ^ 31)
    (small' : (before ++ line ++ after).length < 2 ^ 31) :
    fileStreamDeleteAndInsert (cut before (deleted ++ after)) deleted.length (some callback) =
      (true, cut (before ++ line) after) := by
  have lengths : (before ++ (deleted ++ after)).length = before.length + (deleted.length + after.length) := by
    simp only [List.length_append]
  have lengths' : (before ++ line ++ after).length = before.length + line.length + after.length := by
    simp only [List.length_append]
  have rest : fileStreamSize (cut before (deleted ++ after)) -
      fileStreamTell (cut before (deleted ++ after)) = deleted.length + after.length := by
    rw [fileStreamSize, fileStreamTell, cut_data, lengths]
    exact Nat.add_sub_cancel_left _ _
  have whole : (before ++ deleted ++ after).length < 2 ^ 31 := by
    rw [List.append_assoc]
    exact small
  have narrow : int32 deleted.length = deleted.length := int32_of_range (by omega) (by omega)
  have narrow' : int32 (before ++ line).length = (before ++ line).length :=
    int32_of_range (by omega) (by rw [List.length_append]; omega)
  have copyBefore := streamCopy_cut [] before (deleted ++ after) [] []
  have copyAfter := streamCopy_cut (before ++ deleted) after [] (before ++ line) []
  have copyBack := streamCopy_cut [] (before ++ line ++ after) [] [] (before ++ deleted ++ after)
  rw [List.drop_nil] at copyBefore
  rw [List.append_nil, List.drop_nil] at copyAfter
  rw [List.append_nil] at copyBack
  have skip : fileStreamSeek (cut before (deleted ++ after)) (int32 deleted.length) .fromCurrent =
      (true, cut (before ++ deleted) after) := by
    refine fileStreamSeek_cut _ _ (List.append_assoc _ _ _).symm whole ?_
    rw [seekTarget, cut_pos, List.length_append]
    omega
  rw [fileStreamDeleteAndInsert_steps (by rw [rest]; exact Nat.min_eq_left (Nat.le_add_right _ _))
    (fileStreamRewind_cut _ (cut_data _ _) small) copyBefore writes skip
    (by rw [rest, Nat.add_sub_cancel_left]; exact copyAfter)
    (fileStreamRewind_cut _ ((cut_data _ _).trans (List.append_nil _)) whole)
    (fileStreamRewind_cut _ ((cut_data _ _).trans (List.append_nil _)) small')
    (by rw [fileStreamSize, cut_data, List.append_nil]; exact copyBack), storageFileTruncate_cut]
  exact fileStreamSeek_cut _ _ (List.append_nil _) small' narrow'

end Xtreme.Stream
