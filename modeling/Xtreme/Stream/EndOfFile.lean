import Xtreme.Stream.AnyStream

/-! Where a buffered stream says that it has ended. What `buffered_file_stream_eof`
answers while a write-back is pending does not depend on the cursor, so that it is
right only at the end; otherwise it is right, in every state that calls lead to. -/
namespace Xtreme.Stream
open Library Library.Machine

/-- A pending cache holds something, and one read ahead lies before the file's pointer. -/
structure Sound (stream : BufferedFileStream) : Prop where
  pending : stream.syncPending = true → stream.cache.data ≠ []
  readAhead : stream.syncPending = false → stream.cache.data.length ≤ stream.fileStream.pos

/-- The cursor is at the end, as a client can tell. -/
def AtEnd (stream : BufferedFileStream) : Prop := bufferedFileStreamSize stream ≤ bufferedFileStreamTell stream

instance (stream : BufferedFileStream) : Decidable (AtEnd stream) := inferInstanceAs (Decidable (_ ≤ _))

/-- A pending write-back reaches from the cursor's place to the end of the file. -/
def WritesToEnd (stream : BufferedFileStream) : Prop :=
  stream.syncPending = true → stream.cache.position = stream.cache.data.length ∧
      stream.fileStream.data.length ≤ stream.fileStream.pos + stream.cache.data.length

instance (stream : BufferedFileStream) : Decidable (WritesToEnd stream) :=
  inferInstanceAs (Decidable (_ → _ ∧ _))

section
variable {stream : BufferedFileStream}

theorem eof_of_pending (sound : Sound stream) (pending : stream.syncPending = true) :
    bufferedFileStreamEof stream = true := by
  have filled : 1 ≤ stream.cache.data.length := List.length_pos_of_ne_nil (sound.pending pending)
  rw [bufferedFileStreamEof, pending]
  refine decide_eq_true ?_
  exact Nat.le_trans (Bool.toNat_le _) filled

theorem size_of_pending (pending : stream.syncPending = true) : bufferedFileStreamSize stream =
      max stream.fileStream.data.length (stream.fileStream.pos + stream.cache.data.length) := by
  have inside := stream.fileStream.pos_le
  have size : bufferedFileStreamSize stream =
      if stream.fileStream.data.length - stream.fileStream.pos < stream.cache.data.length then
        stream.fileStream.data.length +
          (stream.cache.data.length - (stream.fileStream.data.length - stream.fileStream.pos))
      else stream.fileStream.data.length := by
    rw [bufferedFileStreamSize, pending]
    rfl
  rw [size]
  split <;> omega

theorem tell_of_pending (pending : stream.syncPending = true) :
    bufferedFileStreamTell stream = stream.fileStream.pos + stream.cache.position := by
  rw [bufferedFileStreamTell, pending]
  rfl

theorem atEnd_iff_of_pending (pending : stream.syncPending = true) :
    AtEnd stream ↔ stream.cache.position = stream.cache.data.length ∧
      stream.fileStream.data.length ≤ stream.fileStream.pos + stream.cache.data.length := by
  have position := stream.cache.position_le
  rw [AtEnd, size_of_pending pending, tell_of_pending pending]
  omega

theorem eof_of_readAhead (sound : Sound stream) (clean : stream.syncPending = false) :
    bufferedFileStreamEof stream = decide (AtEnd stream) := by
  have position := stream.cache.position_le
  have inside := stream.fileStream.pos_le
  have ahead := sound.readAhead clean
  rw [Bool.eq_iff_iff, decide_eq_true_iff]
  simp only [bufferedFileStreamEof, AtEnd, bufferedFileStreamSize, bufferedFileStreamTell, clean, fileStreamSize,
    fileStreamTell, streamCacheSize, streamCachePos, streamCacheAtEnd, fileStreamEof, storageFileEof, Bool.not_false,
    if_true, Bool.false_eq_true, if_false, Bool.and_eq_true, beq_iff_eq]
  omega

theorem eof_iff (sound : Sound stream) :
    bufferedFileStreamEof stream = decide (AtEnd stream) ↔ WritesToEnd stream := by
  cases clean : stream.syncPending with
  | false =>
    refine iff_of_true (eof_of_readAhead sound clean) fun pending => ?_
    rw [clean] at pending
    cases pending
  | true =>
    rw [eof_of_pending sound clean, eq_comm, decide_eq_true_iff, atEnd_iff_of_pending clean]
    exact ⟨fun ends _ => ends, fun ends => ends clean⟩

end

section
variable {stream : BufferedFileStream}

theorem sound_empty {file : FileStream} : Sound ⟨file, streamCacheAlloc, false⟩ :=
  ⟨fun pending => (nomatch pending), fun _ => Nat.zero_le _⟩

/-- A settled stream has nothing in its cache. -/
structure Emptied (stream : BufferedFileStream) : Prop where
  clean : stream.syncPending = false
  empty : stream.cache.data = []

theorem Emptied.sound (emptied : Emptied stream) (file : FileStream) : Sound { stream with fileStream := file } := by
  refine ⟨fun pending => ?_, fun _ => ?_⟩
  · rw [emptied.clean] at pending
    cases pending
  · rw [emptied.empty]
    exact Nat.zero_le _

theorem emptied_flush : Emptied (bufferedFileStreamFlush stream).2 := by
  rw [bufferedFileStreamFlush]
  dsimp only
  split
  · exact ⟨rfl, rfl⟩
  · split <;> exact ⟨rfl, rfl⟩

theorem sound_flush : Sound (bufferedFileStreamFlush stream).2 := emptied_flush.sound _

theorem sound_unread (sound : Sound stream) (clean : stream.syncPending = false) :
    Sound (bufferedFileStreamUnread stream).2 := by
  rw [bufferedFileStreamUnread]
  dsimp only
  rw [clean]
  split
  · split <;> exact sound_empty
  · exact sound

theorem sound_sync (sound : Sound stream) : Sound (bufferedFileStreamSync stream).2 := by
  rw [bufferedFileStreamSync]
  split
  · exact sound_flush
  · exact sound

theorem sound_writeLoop (sound : Sound stream) (bytes : List UInt8) :
    Sound (bufferedFileStreamWriteLoop stream bytes).2 := by
  fun_induction bufferedFileStreamWriteLoop stream bytes with
  | case1 => exact sound
  | case2 stream bytes filled written rest done =>
    refine ⟨fun _ empty => ?_, fun clean => Bool.noConfusion clean⟩
    have whole : bytes.length ≤ written.1 := Nat.sub_eq_zero_iff_le.mp (List.length_drop ▸ done)
    have parts : (stream.cache.data.take stream.cache.position ++ bytes.take written.1 ++
        stream.cache.data.drop (stream.cache.position + written.1)) = [] := empty
    rw [List.take_of_length_le whole] at parts
    exact filled (congrArg List.length (List.append_eq_nil_iff.mp (List.append_eq_nil_iff.mp parts).1).2)
  | case3 => exact sound_empty
  | case4 stream bytes filled written rest left flushed next ready ih => exact ih sound_empty

theorem sound_write (sound : Sound stream) (bytes : List UInt8) : Sound (bufferedFileStreamWrite stream bytes).2 := by
  have ready : Sound (if !stream.syncPending then bufferedFileStreamUnread stream else (true, stream)).2 := by
    cases clean : stream.syncPending with
    | true => exact sound
    | false => exact sound_unread sound clean
  rw [bufferedFileStreamWrite]
  generalize (if !stream.syncPending then bufferedFileStreamUnread stream else (true, stream)) = start at ready ⊢
  dsimp only
  split
  · exact ready
  · exact sound_writeLoop ready bytes

theorem sound_fill (file : FileStream) :
    Sound ⟨(streamCacheFill file).2.2, (streamCacheFill file).2.1, false⟩ := by
  refine ⟨fun pending => Bool.noConfusion pending, fun _ => ?_⟩
  dsimp only [streamCacheFill]
  rw [fileStreamRead_pos, List.length_take]
  omega

theorem sound_readLoop (sound : Sound stream) (count : Nat) : Sound (bufferedFileStreamReadLoop stream count).2 := by
  have kept : ∀ (stream : BufferedFileStream) size, Sound stream →
      Sound { stream with cache := (streamCacheRead stream.cache size).2 } :=
    fun _ _ sound => ⟨sound.pending, sound.readAhead⟩
  fun_induction bufferedFileStreamReadLoop stream count with
  | case1 => exact sound
  | case2 stream count _ taken left stream' done => exact kept stream count sound
  | case3 stream count _ taken left stream' more settled failed => exact sound_sync (kept stream count sound)
  | case4 stream count _ taken left stream' more settled ready filled next ended =>
    have clean : settled.2.syncPending = false := bufferedFileStreamSync_settled
    have filled := sound_fill settled.2.fileStream
    rwa [← clean] at filled
  | case5 stream count _ taken left stream' more settled ready filled next some_bytes read ih =>
    have clean : settled.2.syncPending = false := bufferedFileStreamSync_settled
    have filled := sound_fill settled.2.fileStream
    rw [← clean] at filled
    exact ih filled

theorem emptied_settle : Emptied (bufferedFileStreamSettle stream).2 := by
  rw [bufferedFileStreamSettle]
  cases clean : stream.syncPending with
  | true => exact emptied_flush
  | false =>
    rw [if_neg Bool.false_ne_true, bufferedFileStreamUnread]
    dsimp only
    split
    · split <;> exact ⟨clean, rfl⟩
    · rename_i empty
      exact ⟨clean, List.length_eq_zero_iff.mp (Nat.eq_zero_of_not_pos empty)⟩

theorem sound_seek (sound : Sound stream) (offset : Int) (offsetType : StreamOffset) :
    Sound (bufferedFileStreamSeek stream offset offsetType).2 := by
  have away : ∀ (cache : StreamCache) (newOffset : Int), cache.data = stream.cache.data →
      Sound (if newOffset ≠ 0 ∨ offsetType ≠ .fromCurrent then
        let settled := if stream.syncPending then bufferedFileStreamSync { stream with cache }
          else (true, { stream with cache := streamCacheDrop cache })
        let sought := fileStreamSeek settled.2.fileStream newOffset offsetType
        if settled.1 then (sought.1, { settled.2 with fileStream := sought.2 }) else (false, settled.2)
      else (true, { stream with cache })).2 := by
    intro cache newOffset same
    dsimp only
    split
    · cases pending : stream.syncPending with
      | true =>
        rw [if_pos rfl, bufferedFileStreamSync, if_pos rfl]
        split
        · exact emptied_flush.sound _
        · exact sound_flush
      | false => exact Emptied.sound ⟨rfl, rfl⟩ _
    · refine ⟨fun pending => ?_, fun clean => ?_⟩
      · rw [same]
        exact sound.pending pending
      · rw [same]
        exact sound.readAhead clean
  cases offsetType with
  | fromCurrent => exact away (streamCacheSeek stream.cache offset).2 _ rfl
  | fromStart | fromEnd => exact away stream.cache offset rfl

theorem sound_deleteAndInsert (deleteSize : Nat) (callback : Option (FileStream → Bool × FileStream)) :
    Sound (bufferedFileStreamDeleteAndInsert stream deleteSize callback).2 := by
  rw [bufferedFileStreamDeleteAndInsert]
  dsimp only
  split
  · exact emptied_settle.sound _
  · exact emptied_settle.sound _

theorem sound_call (sound : Sound stream) (call : StreamCall) : Sound (bufferedFileStreamCall stream call).2 := by
  cases call with
  | write bytes => exact sound_write sound bytes
  | read count => exact sound_readLoop sound count
  | seek offset offsetType => exact sound_seek sound _ _
  | tell => exact sound
  | size => exact sound
  | deleteAndInsert deleteSize callback => exact sound_deleteAndInsert deleteSize callback

end

theorem sound_run {stream : BufferedFileStream} (sound : Sound stream) (calls : List StreamCall) :
    Sound (run bufferedFileStreamCall stream calls).2 := by
  induction calls generalizing stream with
  | nil => exact sound
  | cons call calls next => exact next (sound_call sound call)

end Xtreme.Stream
