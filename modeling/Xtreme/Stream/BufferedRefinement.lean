import Xtreme.Library.Simulation
import Xtreme.Stream.BufferedFileStream

/-! The buffered stream answers every call as the plain file stream does, as
long as no relative seek leaves a pending write-back cache through its start.
In that one case `buffered_file_stream_seek` subtracts the cache size although
`buffered_file_stream_flush` has already moved the pointer back. -/
namespace Xtreme.Stream
open Library Library.Machine

/-- The plain file a buffered stream stands for: a read-ahead cache ends at the
file's pointer, a write-back cache lies over the bytes from the pointer on. -/
inductive Represents (stream : BufferedFileStream) (plain : FileStream) : Prop where
  | readAhead (clean : stream.syncPending = false) (bytes : stream.fileStream.data = plain.data)
      (cursor : plain.pos + stream.cache.data.length = stream.fileStream.pos + stream.cache.position)
      (held : stream.cache.data <:+ plain.data.take stream.fileStream.pos)
  | writeBack (pending : stream.syncPending = true)
      (bytes : plain.data = (fileStreamWrite stream.fileStream stream.cache.data).2.data)
      (cursor : plain.pos = stream.fileStream.pos + stream.cache.position)

section Represents
variable {stream : BufferedFileStream} {plain : FileStream}

theorem represents_open (file : FileStream) : Represents (bufferedFileStreamOpen file) file :=
  .readAhead rfl rfl (by simp [bufferedFileStreamOpen, streamCacheAlloc]) (List.nil_suffix)

theorem represents_self (clean : stream.syncPending = false) (empty : stream.cache = streamCacheAlloc)
    (same : stream.fileStream = plain) : Represents stream plain := by
  subst same
  refine .readAhead clean rfl ?_ ?_
  · simp [empty, streamCacheAlloc]
  · simp [empty, streamCacheAlloc]

variable (rep : Represents stream plain)
include rep

theorem represents_file (clean : stream.syncPending = false) (empty : stream.cache.data = []) :
    stream.fileStream = plain := by
  cases rep with
  | readAhead _ bytes cursor _ =>
    have position := stream.cache.position_le
    simp only [empty, List.length_nil] at cursor position
    exact File.ext bytes (by omega)
  | writeBack pending _ _ => simp [clean] at pending

/-- The bytes after the cursor begin with the unread part of the cache. -/
theorem represents_rest :
    ∃ beyond, plain.data.drop plain.pos = stream.cache.data.drop stream.cache.position ++ beyond := by
  have position := stream.cache.position_le
  have inside := stream.fileStream.pos_le
  cases rep with
  | readAhead clean bytes cursor held =>
    obtain ⟨before, taken⟩ := held
    have long := congrArg List.length taken
    rw [bytes] at inside
    simp only [List.length_append, List.length_take] at long
    refine ⟨plain.data.drop stream.fileStream.pos, ?_⟩
    have start : plain.pos = before.length + stream.cache.position := by omega
    conv_lhs => rw [← List.take_append_drop stream.fileStream.pos plain.data, ← taken, start,
      List.append_assoc, ← List.drop_drop, List.drop_left]
    rw [List.drop_append_of_le_length position]
  | writeBack pending bytes cursor =>
    refine ⟨stream.fileStream.data.drop (stream.fileStream.pos + stream.cache.data.length), ?_⟩
    rw [bytes, cursor]
    simp only [fileStreamWrite, storageFileWrite]
    rw [List.append_assoc, ← List.drop_drop, List.drop_left' (by simp; omega),
      List.drop_append_of_le_length position]

theorem represents_size :
    bufferedFileStreamSize stream = fileStreamSize plain := by
  cases rep with
  | readAhead clean bytes cursor held =>
    simp [bufferedFileStreamSize, fileStreamSize, clean, bytes]
  | writeBack pending bytes cursor =>
    have size : fileStreamSize plain = min stream.fileStream.pos stream.fileStream.data.length +
        stream.cache.data.length +
        (stream.fileStream.data.length - (stream.fileStream.pos + stream.cache.data.length)) := by
      simp [fileStreamSize, bytes, fileStreamWrite, storageFileWrite, Nat.add_assoc]
    simp only [bufferedFileStreamSize, pending, ↓reduceIte]
    split <;> simp only [fileStreamSize, fileStreamTell, streamCacheSize] at * <;> omega

theorem represents_tell :
    bufferedFileStreamTell stream = fileStreamTell plain := by
  cases rep with
  | readAhead clean bytes cursor held =>
    simp only [bufferedFileStreamTell, fileStreamTell, streamCachePos, streamCacheSize, clean,
      Bool.not_false, ↓reduceIte]
    omega
  | writeBack pending bytes cursor =>
    simp [bufferedFileStreamTell, fileStreamTell, streamCachePos, pending, cursor]

omit rep

theorem streamCacheFlush_eq (cache : StreamCache) (file : FileStream) :
    streamCacheFlush cache file = (true, streamCacheAlloc, (fileStreamWrite file cache.data).2) := by
  simp [streamCacheFlush, fileStreamWrite, storageFileWrite]

include rep

theorem represents_flush (pending : stream.syncPending = true) (small : plain.data.length < 2 ^ 31) :
    bufferedFileStreamFlush stream = (true, ⟨plain, streamCacheAlloc, false⟩) := by
  have position := stream.cache.position_le
  cases rep with
  | readAhead clean _ _ _ => simp [clean] at pending
  | writeBack _ bytes cursor =>
    have written : (fileStreamWrite stream.fileStream stream.cache.data).2.pos =
        stream.fileStream.pos + stream.cache.data.length := rfl
    simp only [bufferedFileStreamFlush, streamCacheFlush_eq, streamCacheSize, streamCachePos, Bool.not_true,
      Bool.false_eq_true, ↓reduceIte]
    split
    · rw [fileStreamSeek_inside plain.pos (by rw [← bytes]; exact small)
        (by simp only [seekTarget]; omega) (by rw [← bytes]; exact plain.pos_le)]
      simp only [Prod.mk.injEq, BufferedFileStream.mk.injEq, true_and, and_true]
      exact File.ext bytes.symm rfl
    · simp only [Prod.mk.injEq, BufferedFileStream.mk.injEq, true_and, and_true]
      exact File.ext bytes.symm (by omega)

theorem represents_unread (clean : stream.syncPending = false) (small : plain.data.length < 2 ^ 31) :
    bufferedFileStreamUnread stream = (true, ⟨plain, streamCacheAlloc, false⟩) := by
  have position := stream.cache.position_le
  by_cases empty : stream.cache.data = []
  · have file := represents_file rep clean empty
    have cache : stream.cache = streamCacheAlloc :=
      StreamCache.ext empty (by simpa [empty, streamCacheAlloc] using position)
    simp only [bufferedFileStreamUnread, streamCacheSize, empty, List.length_nil, Nat.lt_irrefl,
      ↓reduceIte, Prod.mk.injEq, true_and]
    exact BufferedFileStream.ext file cache clean
  · have some_cached : 0 < stream.cache.data.length := List.length_pos_of_ne_nil empty
    cases rep with
    | writeBack pending _ _ => simp [clean] at pending
    | readAhead _ bytes cursor held =>
      simp only [bufferedFileStreamUnread, streamCacheSize, streamCachePos, some_cached, ↓reduceIte,
        streamCacheDrop, clean]
      split
      · rw [fileStreamSeek_inside plain.pos (by rw [bytes]; exact small)
          (by simp only [seekTarget]; omega) (by rw [bytes]; exact plain.pos_le)]
        simp only [Prod.mk.injEq, BufferedFileStream.mk.injEq, true_and, and_true]
        exact File.ext bytes rfl
      · simp only [Prod.mk.injEq, BufferedFileStream.mk.injEq, true_and, and_true]
        exact File.ext bytes (by omega)

theorem represents_settle (small : plain.data.length < 2 ^ 31) :
    bufferedFileStreamSettle stream = (true, ⟨plain, streamCacheAlloc, false⟩) := by
  unfold bufferedFileStreamSettle
  cases pending : stream.syncPending with
  | true => exact represents_flush rep pending small
  | false => exact represents_unread rep pending small

theorem represents_cacheRead (size : Nat) :
    let taken := streamCacheRead stream.cache size
    let count := min size (stream.cache.data.length - stream.cache.position)
    taken.1 = (fileStreamRead plain count).1 ∧ taken.1.length = count ∧
      Represents { stream with cache := taken.2 } (fileStreamRead plain count).2 := by
  intro taken count
  obtain ⟨beyond, rest⟩ := represents_rest rep
  have fits : count ≤ (stream.cache.data.drop stream.cache.position).length := by
    simp only [List.length_drop]
    omega
  have length : taken.1.length = count := by
    simp only [taken, streamCacheRead, List.length_take]
    exact Nat.min_eq_left fits
  have same : taken.1 = (fileStreamRead plain count).1 := by
    rw [fileStreamRead_bytes, rest, List.take_append_of_le_length fits]
    rfl
  have moved : (fileStreamRead plain count).2.pos = plain.pos + count := by
    rw [fileStreamRead_pos, ← same, length]
  refine ⟨same, length, ?_⟩
  cases rep with
  | readAhead clean bytes cursor held =>
    refine .readAhead clean bytes ?_ held
    rw [moved]
    simp only [taken, streamCacheRead]
    omega
  | writeBack pending bytes cursor =>
    refine .writeBack pending bytes ?_
    rw [moved, cursor]
    exact Nat.add_assoc ..

omit rep

theorem cacheRead_uses_up {cache : StreamCache} {size : Nat}
    (unfinished : ¬ size - (streamCacheRead cache size).1.length = 0) :
    (streamCacheRead cache size).2.position = (streamCacheRead cache size).2.data.length := by
  have position := cache.position_le
  simp only [streamCacheRead, List.length_take, List.length_drop] at unfinished ⊢
  omega

/-- A refill caches the next bytes of the file without moving the cursor. -/
theorem represents_fill (file : FileStream) :
    Represents ⟨(streamCacheFill file).2.2, (streamCacheFill file).2.1, false⟩ file := by
  have bytes : (streamCacheFill file).2.1.data = (file.data.drop file.pos).take streamCacheMaxSize := by
    simp [streamCacheFill, fileStreamRead, storageFileRead, List.take_take]
  have moved : (streamCacheFill file).2.2.pos =
      file.pos + ((file.data.drop file.pos).take streamCacheMaxSize).length := rfl
  refine .readAhead rfl rfl ?_ ?_
  · rw [bytes]
    rfl
  · rw [moved, bytes, List.take_add]
    simp only [List.length_take, ← List.take_take, List.take_length]
    exact ⟨_, rfl⟩

theorem fileStreamRead_exhausted {file : FileStream} (empty : (streamCacheFill file).1 = 0)
    (count : Nat) : fileStreamRead file count = ([], file) := by
  have rest : file.data.drop file.pos = [] := by
    have : ((file.data.drop file.pos).take streamCacheMaxSize).length = 0 := empty
    rw [List.length_take] at this
    exact List.eq_nil_of_length_eq_zero (by have : streamCacheMaxSize = 1024 := rfl; omega)
  simp [fileStreamRead, storageFileRead, rest]

include rep

/-- With the cache used up, what is pending can be written and the file's own
pointer is then the cursor. -/
theorem represents_exhausted (small : plain.data.length < 2 ^ 31)
    (used : stream.cache.position = stream.cache.data.length) :
    (bufferedFileStreamSync stream).1 = true ∧ (bufferedFileStreamSync stream).2.fileStream = plain ∧
      (bufferedFileStreamSync stream).2.syncPending = false := by
  unfold bufferedFileStreamSync
  cases pending : stream.syncPending with
  | true => simp [represents_flush rep pending small]
  | false =>
    cases rep with
    | readAhead _ bytes cursor _ =>
      refine ⟨rfl, File.ext bytes ?_, pending⟩
      simp only [Bool.false_eq_true, ↓reduceIte]
      omega
    | writeBack contrary _ _ => simp [pending] at contrary

/-- The read loop hands out what the plain file would, over any number of
cache refills and after writing back what was pending. -/
theorem represents_readLoop (small : plain.data.length < 2 ^ 31) (count : Nat) :
    (bufferedFileStreamReadLoop stream count).1 = (fileStreamRead plain count).1 ∧
      Represents (bufferedFileStreamReadLoop stream count).2 (fileStreamRead plain count).2 := by
  fun_induction bufferedFileStreamReadLoop stream count generalizing plain with
  | case1 stream => exact ⟨rfl, rep⟩
  | case2 stream count _ taken left done =>
    obtain ⟨same, length, kept⟩ := represents_cacheRead rep count
    have whole : min count (stream.cache.data.length - stream.cache.position) = count := by
      have : taken.1.length = _ := length
      omega
    rw [whole] at same kept
    exact ⟨same, kept⟩
  | case3 =>
    rename_i stream count _ taken left stream' unfinished settled failed
    obtain ⟨_, _, kept⟩ := represents_cacheRead rep count
    have written := (represents_exhausted kept small (cacheRead_uses_up unfinished)).1
    simp only [settled, stream', taken, written, Bool.not_true, Bool.false_eq_true] at failed
  | case4 =>
    rename_i stream count _ taken left stream' unfinished settled _ filled next exhausted
    obtain ⟨same, length, kept⟩ := represents_cacheRead rep count
    obtain ⟨_, file, clean⟩ := represents_exhausted kept small (cacheRead_uses_up unfinished)
    have next_eq : next = ⟨(streamCacheFill settled.2.fileStream).2.2,
        (streamCacheFill settled.2.fileStream).2.1, false⟩ :=
      BufferedFileStream.ext rfl rfl clean
    have ended : (streamCacheFill settled.2.fileStream).1 = 0 := exhausted
    have parts := fileStreamRead_add plain (min count (stream.cache.data.length - stream.cache.position))
      (count - min count (stream.cache.data.length - stream.cache.position))
    rw [file] at ended
    rw [Nat.add_sub_cancel' (Nat.min_le_left _ _), fileStreamRead_exhausted ended, List.append_nil] at parts
    rw [next_eq, file, parts]
    exact ⟨same, represents_fill _⟩
  | case5 =>
    rename_i stream count _ taken left stream' unfinished settled _ filled next _ more ih
    obtain ⟨same, length, kept⟩ := represents_cacheRead rep count
    obtain ⟨_, file, clean⟩ := represents_exhausted kept small (cacheRead_uses_up unfinished)
    have next_eq : next = ⟨(streamCacheFill settled.2.fileStream).2.2,
        (streamCacheFill settled.2.fileStream).2.1, false⟩ :=
      BufferedFileStream.ext rfl rfl clean
    have next_rep := represents_fill settled.2.fileStream
    rw [← next_eq, file] at next_rep
    obtain ⟨answers, final⟩ := ih next_rep small
    have left_eq : left = count - min count (stream.cache.data.length - stream.cache.position) :=
      congrArg (count - ·) length
    have parts := fileStreamRead_add plain (min count (stream.cache.data.length - stream.cache.position)) left
    rw [left_eq, Nat.add_sub_cancel' (Nat.min_le_left _ _), ← left_eq] at parts
    rw [parts]
    exact ⟨congrArg₂ (· ++ ·) same answers, final⟩

omit rep

/-- The cache lies over the file from its pointer on: pending bytes, or none at all. -/
def Overlays (stream : BufferedFileStream) (plain : FileStream) : Prop :=
  plain.data = (fileStreamWrite stream.fileStream stream.cache.data).2.data ∧
    plain.pos = stream.fileStream.pos + stream.cache.position

theorem overlays_self (file : FileStream) (pending : Bool) :
    Overlays ⟨file, streamCacheAlloc, pending⟩ file := by
  simp [Overlays, streamCacheAlloc, fileStreamWrite, storageFileWrite]

theorem overlays_cacheWrite (lies : Overlays stream plain) (bytes : List UInt8) :
    let written := streamCacheWrite stream.cache bytes
    Overlays { stream with cache := written.2, syncPending := true }
      (fileStreamWrite plain (bytes.take written.1)).2 := by
  obtain ⟨data, cursor⟩ := lies
  have position := stream.cache.position_le
  have inside := stream.fileStream.pos_le
  intro written
  have length : (bytes.take written.1).length = written.1 := by
    simp only [written, streamCacheWrite, List.length_take]
    omega
  generalize chunk_eq : bytes.take written.1 = chunk at length
  have cached : written.2.data = stream.cache.data.take stream.cache.position ++ chunk ++
      stream.cache.data.drop (stream.cache.position + chunk.length) := by
    rw [length, ← chunk_eq]
    rfl
  have moved : written.2.position = stream.cache.position + chunk.length := by
    rw [length]
    rfl
  simp only [fileStreamWrite, storageFileWrite] at data
  have front : plain.data.take plain.pos = stream.fileStream.data.take stream.fileStream.pos ++
        stream.cache.data.take stream.cache.position := by
    rw [data, cursor, List.append_assoc, List.take_append, List.length_take,
      Nat.min_eq_left inside, Nat.add_sub_cancel_left,
      List.take_append_of_le_length position,
      List.take_of_length_le (Nat.le_trans (List.length_take_le _ _) (Nat.le_add_right _ _))]
  have back : plain.data.drop (plain.pos + chunk.length) =
      stream.cache.data.drop (stream.cache.position + chunk.length) ++
        stream.fileStream.data.drop (stream.fileStream.pos + written.2.data.length) := by
    have size : written.2.data.length =
        max (stream.cache.position + chunk.length) stream.cache.data.length := by
      simp only [cached, List.length_append, List.length_take, List.length_drop]
      omega
    rw [data, cursor, List.append_assoc, Nat.add_assoc, ← List.drop_drop,
      List.drop_left' (by simp; omega), List.drop_append, List.drop_drop]
    congr 2
    omega
  constructor
  · simp only [fileStreamWrite, storageFileWrite, front, back, cached, List.append_assoc]
  · simp only [fileStreamWrite, storageFileWrite, moved, cursor, Nat.add_assoc]

theorem overlays_writeLoop (lies : Overlays stream plain) (bytes : List UInt8) (some_bytes : bytes ≠ []) :
    (bufferedFileStreamWriteLoop stream bytes).1 = 0 ∧
      Represents (bufferedFileStreamWriteLoop stream bytes).2 (fileStreamWrite plain bytes).2 := by
  fun_induction bufferedFileStreamWriteLoop stream bytes generalizing plain with
  | case1 stream bytes empty => exact absurd (List.eq_nil_of_length_eq_zero empty) some_bytes
  | case2 =>
    rename_i stream bytes _ written rest done
    have whole : bytes.take written.1 = bytes :=
      List.take_of_length_le (by simpa [rest, Nat.sub_eq_zero_iff_le] using done)
    obtain ⟨data, cursor⟩ := overlays_cacheWrite lies bytes
    rw [whole] at data cursor
    exact ⟨rfl, .writeBack rfl data cursor⟩
  | case3 =>
    rename_i stream bytes _ written rest _ flushed next failed
    simp [flushed, streamCacheFlush_eq] at failed
  | case4 =>
    rename_i stream bytes _ written rest unfinished flushed next _ ih
    obtain ⟨data, cursor⟩ := overlays_cacheWrite lies bytes
    -- the cache is full now, so the cursor stands where the flush leaves the pointer
    have full : written.2.position = written.2.data.length := by
      have position := written.2.position_le
      have size := written.2.size_le
      have moved : written.2.position = stream.cache.position + written.1 := rfl
      have count : written.1 = min bytes.length (streamCacheMaxSize - stream.cache.position) := rfl
      have left : rest.length = bytes.length - written.1 := List.length_drop
      omega
    have file : (fileStreamWrite plain (bytes.take written.1)).2 = next.fileStream :=
      File.ext data (by rw [cursor, full]; rfl)
    have more : rest ≠ [] := fun empty => unfinished (by rw [empty]; rfl)
    have step := ih (overlays_self next.fileStream false) more
    rw [← file, ← fileStreamWrite_append, List.take_append_drop] at step
    exact step

include rep

theorem represents_write (small : plain.data.length < 2 ^ 31) (bytes : List UInt8) :
    (bufferedFileStreamWrite stream bytes).1 = (fileStreamWrite plain bytes).1 ∧
      Represents (bufferedFileStreamWrite stream bytes).2 (fileStreamWrite plain bytes).2 := by
  by_cases empty : bytes = []
  · subst empty
    rw [fileStreamWrite_nil]
    cases clean : stream.syncPending with
    | true => simpa [bufferedFileStreamWrite, clean, bufferedFileStreamWriteLoop] using rep
    | false =>
      simpa [bufferedFileStreamWrite, clean, bufferedFileStreamWriteLoop,
        represents_unread rep clean small] using represents_self rfl rfl rfl
  · have lies : ∃ ready, (if !stream.syncPending then bufferedFileStreamUnread stream
        else (true, stream)) = (true, ready) ∧ Overlays ready plain := by
      cases clean : stream.syncPending with
      | true =>
        cases rep with
        | readAhead contrary _ _ _ => simp [clean] at contrary
        | writeBack _ data cursor => exact ⟨stream, rfl, data, cursor⟩
      | false => exact ⟨_, represents_unread rep clean small, overlays_self _ _⟩
    obtain ⟨ready, settled, lies⟩ := lies
    obtain ⟨none_left, final⟩ := overlays_writeLoop lies bytes empty
    simp only [bufferedFileStreamWrite, settled, none_left]
    exact ⟨rfl, final⟩

/-! ## Seeking -/

theorem represents_move (cache : StreamCache) (same : cache.data = stream.cache.data) :
    ∃ moved : FileStream, moved.data = plain.data ∧
      (moved.pos : Int) = plain.pos + ((cache.position : Int) - stream.cache.position) ∧
      Represents { stream with cache } moved := by
  have new_position := cache.position_le
  have inside := stream.fileStream.pos_le
  cases rep with
  | readAhead clean bytes cursor held =>
    have fits := held.length_le
    rw [bytes] at inside
    simp only [List.length_take] at fits
    rw [same] at new_position
    exact ⟨⟨plain.data, stream.fileStream.pos + cache.position - stream.cache.data.length, by omega⟩,
      rfl, by simp only; omega, .readAhead clean bytes (by simp only [same]; omega)
        (by simp only [same]; exact held)⟩
  | writeBack pending bytes cursor =>
    have size : stream.fileStream.pos + stream.cache.data.length ≤ plain.data.length := by
      simp only [bytes, fileStreamWrite, storageFileWrite, List.length_append, List.length_take]
      omega
    rw [same] at new_position
    exact ⟨⟨plain.data, stream.fileStream.pos + cache.position, by omega⟩, rfl,
      by simp only; omega, .writeBack pending (by simp only [same]; exact bytes) rfl⟩

theorem represents_seek_absolute (small : plain.data.length < 2 ^ 31) {offset : Int} {offsetType : StreamOffset}
    (absolute : offsetType ≠ .fromCurrent) :
    (bufferedFileStreamSeek stream offset offsetType).1 = (fileStreamSeek plain offset offsetType).1 ∧
      Represents (bufferedFileStreamSeek stream offset offsetType).2
        (fileStreamSeek plain offset offsetType).2 := by
  have settled : ∃ file : FileStream, file.data = plain.data ∧
      (if stream.syncPending then bufferedFileStreamSync stream
        else (true, { stream with cache := streamCacheDrop stream.cache })) =
          (true, ⟨file, streamCacheAlloc, false⟩) := by
    cases pending : stream.syncPending with
    | true => exact ⟨plain, rfl, by simp [bufferedFileStreamSync, pending, represents_flush rep pending small]⟩
    | false =>
      cases rep with
      | readAhead _ bytes _ _ => exact ⟨stream.fileStream, bytes, by simp [streamCacheDrop]⟩
      | writeBack contrary _ _ => simp [pending] at contrary
  obtain ⟨file, data, settled⟩ := settled
  have result : bufferedFileStreamSeek stream offset offsetType = ((fileStreamSeek plain offset offsetType).1,
        ⟨(fileStreamSeek plain offset offsetType).2, streamCacheAlloc, false⟩) := by
    rw [← fileStreamSeek_forgets data absolute]
    cases offsetType with
    | fromCurrent => exact absurd rfl absolute
    | fromStart => simp [bufferedFileStreamSeek, settled]
    | fromEnd => simp [bufferedFileStreamSeek, settled]
  rw [result]
  exact ⟨rfl, represents_self rfl rfl rfl⟩

omit rep

theorem streamCacheSeek_position (cache : StreamCache) (offset : Int) :
    ((streamCacheSeek cache offset).2.position : Int) =
      cache.position + (streamCacheSeek cache offset).1 := by
  simp only [streamCacheSeek]
  split
  · omega
  · split <;> omega

theorem streamCacheSeek_left (cache : StreamCache) (offset : Int) :
    let moved := (streamCacheSeek cache offset).1
    (0 < offset - moved → moved = (cache.data.length : Int) - cache.position) ∧
      (offset - moved < 0 → moved = -(cache.position : Int)) ∧
      (0 ≤ offset → 0 ≤ moved ∧ moved ≤ offset) ∧ (offset ≤ 0 → offset ≤ moved ∧ moved ≤ 0) := by
  have position := cache.position_le
  simp only [streamCacheSeek]
  split
  · omega
  · split <;> omega

/-- A relative seek agrees with the plain file's unless it leaves pending bytes
through the start of the cache. -/
theorem represents_seek_current (rep : Represents stream plain)
    (small : plain.data.length < 2 ^ 31) {offset : Int} (low : -2 ^ 31 ≤ offset)
    (high : offset < 2 ^ 31)
    (stays : stream.syncPending = true → -(stream.cache.position : Int) ≤ offset) :
    (bufferedFileStreamSeek stream offset .fromCurrent).1 = (fileStreamSeek plain offset .fromCurrent).1 ∧
      Represents (bufferedFileStreamSeek stream offset .fromCurrent).2
        (fileStreamSeek plain offset .fromCurrent).2 := by
  have cached := stream.cache.size_le
  have limit : streamCacheMaxSize = 1024 := rfl
  obtain ⟨ahead, behind, forward, backward⟩ := streamCacheSeek_left stream.cache offset
  have cursor := streamCacheSeek_position stream.cache offset
  obtain ⟨inner, inner_data, inner_pos, inner_rep⟩ :=
    represents_move rep (streamCacheSeek stream.cache offset).2 rfl
  generalize moved_eq : (streamCacheSeek stream.cache offset).1 = moved at *
  generalize cache_eq : (streamCacheSeek stream.cache offset).2 = cache at *
  have bytes : cache.data = stream.cache.data := by rw [← cache_eq]; rfl
  have pair : streamCacheSeek stream.cache offset = (moved, cache) := by rw [← moved_eq, ← cache_eq]
  have left : int32 (offset - moved) = offset - moved := int32_of_range (by omega) (by omega)
  -- what the seek does once the cache is left at one of its ends
  have leave (newOffset : Int) (file : FileStream) (data : file.data = plain.data)
      (nonzero : newOffset ≠ 0) (named : int32 (file.pos + newOffset) = int32 (plain.pos + offset))
      (asked : (if offset - moved < 0 then int32 (offset - moved - streamCacheSize cache)
        else offset - moved) = newOffset)
      (settled : (if stream.syncPending then bufferedFileStreamSync { stream with cache }
        else (true, { stream with cache := streamCacheDrop cache })) = (true, ⟨file, streamCacheAlloc, false⟩)) :
      (bufferedFileStreamSeek stream offset .fromCurrent).1 = (fileStreamSeek plain offset .fromCurrent).1 ∧
        Represents (bufferedFileStreamSeek stream offset .fromCurrent).2
          (fileStreamSeek plain offset .fromCurrent).2 := by
    have result : bufferedFileStreamSeek stream offset .fromCurrent = ((fileStreamSeek plain offset .fromCurrent).1,
          ⟨(fileStreamSeek plain offset .fromCurrent).2, streamCacheAlloc, false⟩) := by
      rw [← fileStreamSeek_current_congr data named]
      simp only [bufferedFileStreamSeek, pair, left, asked, settled, if_pos (Or.inl nonzero), if_true]
    rw [result]
    exact ⟨rfl, represents_self rfl rfl rfl⟩
  rcases Int.lt_trichotomy (offset - moved) 0 with negative | zero | positive
  · -- the cache is left through its start, which only the read-ahead mode may do
    cases rep with
    | writeBack pending _ _ => exact absurd (stays pending) (by omega)
    | readAhead clean data place held =>
      have fold : int32 (stream.fileStream.pos + int32 (offset - moved - streamCacheSize cache)) =
          int32 (plain.pos + offset) := by
        unfold int32 streamCacheSize
        rw [Int.add_bmod_bmod, bytes]
        congr 1
        omega
      refine leave (int32 (offset - moved - streamCacheSize cache)) stream.fileStream data ?_ fold
        (if_pos negative) (by simp [clean, streamCacheDrop])
      intro wrapped
      have words := int32_emod (offset - moved - streamCacheSize cache)
      rw [wrapped, streamCacheSize, bytes] at words
      omega
  · -- the seek stays inside the cache
    have seek : bufferedFileStreamSeek stream offset .fromCurrent = (true, { stream with cache }) := by
      simp [bufferedFileStreamSeek, pair, left.trans zero]
    rw [seek, fileStreamSeek_inside inner.pos small
      (by simp only [seekTarget]; omega) (by rw [← inner_data]; exact inner.pos_le)]
    exact ⟨rfl, by simpa only [← inner_data] using inner_rep⟩
  · -- the cache is left through its end
    refine leave (offset - moved) inner inner_data (by omega) (by congr 1; omega) (if_neg (by omega)) ?_
    cases pending : stream.syncPending with
    | true =>
      simpa [bufferedFileStreamSync, pending] using
        represents_flush inner_rep pending (by rw [inner_data]; exact small)
    | false =>
      cases rep with
      | readAhead _ data place _ =>
        simp only [Bool.false_eq_true, ↓reduceIte, streamCacheDrop, Prod.mk.injEq, true_and,
          BufferedFileStream.mk.injEq, and_true]
        exact File.ext (data.trans inner_data.symm) (by omega)
      | writeBack contrary _ _ => simp [pending] at contrary

end Represents

/-! ## Calls and runs -/

/-- The calls a client makes on a stream; a seek carries an `int32_t`. -/
inductive StreamCall where
  | write (bytes : List UInt8)
  | read (count : Nat)
  | seek (offset : Int32) (offsetType : StreamOffset)
  | tell
  | size
  | deleteAndInsert (deleteSize : Nat) (writeCallback : Option (FileStream → Bool × FileStream))

/-- What a call hands back. -/
inductive StreamAnswer where
  | bytes (bytes : List UInt8)
  | count (count : Nat)
  | success (success : Bool)
  deriving DecidableEq, Repr

def fileStreamCall : Machine FileStream StreamCall StreamAnswer
  | stream, .write bytes => let (count, next) := fileStreamWrite stream bytes; (.count count, next)
  | stream, .read count => let (bytes, next) := fileStreamRead stream count; (.bytes bytes, next)
  | stream, .seek offset offsetType =>
    let (success, next) := fileStreamSeek stream offset.toInt offsetType
    (.success success, next)
  | stream, .tell => (.count (fileStreamTell stream), stream)
  | stream, .size => (.count (fileStreamSize stream), stream)
  | stream, .deleteAndInsert deleteSize callback =>
    let (success, next) := fileStreamDeleteAndInsert stream deleteSize callback
    (.success success, next)

def bufferedFileStreamCall : Machine BufferedFileStream StreamCall StreamAnswer
  | stream, .write bytes =>
    let (count, next) := bufferedFileStreamWrite stream bytes
    (.count count, next)
  | stream, .read count =>
    let (bytes, next) := bufferedFileStreamRead stream count
    (.bytes bytes, next)
  | stream, .seek offset offsetType =>
    let (success, next) := bufferedFileStreamSeek stream offset.toInt offsetType
    (.success success, next)
  | stream, .tell => (.count (bufferedFileStreamTell stream), stream)
  | stream, .size => (.count (bufferedFileStreamSize stream), stream)
  | stream, .deleteAndInsert deleteSize callback =>
    let (success, next) := bufferedFileStreamDeleteAndInsert stream deleteSize callback
    (.success success, next)

/-- The call does not go back through the start of a pending write-back cache. -/
def SeekStays (stream : BufferedFileStream) : StreamCall → Prop
  | .seek offset .fromCurrent =>
    stream.syncPending = true → -(stream.cache.position : Int) ≤ offset.toInt
  | _ => True

/-- The condition on a call: positions fit an `int32_t`, and it is not the seek
that subtracts the cache size twice. -/
def CallStays (stream : BufferedFileStream) (call : StreamCall) : Prop :=
  bufferedFileStreamSize stream < 2 ^ 31 ∧ SeekStays stream call

instance (stream : BufferedFileStream) : ∀ call, Decidable (SeekStays stream call)
  | .seek offset .fromCurrent =>
    inferInstanceAs (Decidable (stream.syncPending = true → -(stream.cache.position : Int) ≤ offset.toInt))
  | .seek _ .fromStart | .seek _ .fromEnd | .write _ | .read _ | .tell | .size
  | .deleteAndInsert _ _ => isTrue trivial

instance (stream : BufferedFileStream) (call : StreamCall) : Decidable (CallStays stream call) :=
  inferInstanceAs (Decidable (_ ∧ _))

theorem bufferedFileStreamCall_agrees :
    StepAgrees bufferedFileStreamCall fileStreamCall CallStays Represents := by
  intro stream plain call rep meets
  obtain ⟨small, stays⟩ := meets
  rw [represents_size rep] at small
  cases call with
  | write bytes =>
    obtain ⟨same, kept⟩ := represents_write rep small bytes
    exact ⟨congrArg StreamAnswer.count same, kept⟩
  | read count =>
    obtain ⟨same, kept⟩ := represents_readLoop rep small count
    exact ⟨congrArg StreamAnswer.bytes same, kept⟩
  | seek offset offsetType =>
    have agree : (bufferedFileStreamSeek stream offset.toInt offsetType).1 =
          (fileStreamSeek plain offset.toInt offsetType).1 ∧
        Represents (bufferedFileStreamSeek stream offset.toInt offsetType).2
          (fileStreamSeek plain offset.toInt offsetType).2 := by
      by_cases absolute : offsetType = .fromCurrent
      · subst absolute
        exact represents_seek_current rep small offset.le_toInt offset.toInt_lt stays
      · exact represents_seek_absolute rep small absolute
    exact ⟨congrArg StreamAnswer.success agree.1, agree.2⟩
  | tell => exact ⟨congrArg StreamAnswer.count (represents_tell rep), rep⟩
  | size => exact ⟨congrArg StreamAnswer.count (represents_size rep), rep⟩
  | deleteAndInsert deleteSize callback =>
    simp only [bufferedFileStreamCall, fileStreamCall, bufferedFileStreamDeleteAndInsert,
      represents_settle rep small, Bool.not_true, Bool.false_eq_true, ↓reduceIte]
    exact ⟨trivial, represents_self rfl rfl rfl⟩

/-- The bytes a sync leaves in the file are those of the plain file, whatever
its size. -/
theorem bufferedFileStreamSync_data {stream : BufferedFileStream} {plain : FileStream}
    (rep : Represents stream plain) :
    (bufferedFileStreamSync stream).2.fileStream.data = plain.data := by
  unfold bufferedFileStreamSync
  cases rep with
  | readAhead clean bytes _ _ => simpa [clean] using bytes
  | writeBack pending bytes _ =>
    simp only [pending, ↓reduceIte, bytes, bufferedFileStreamFlush, streamCacheFlush_eq,
      Bool.not_true, Bool.false_eq_true]
    split <;> simp

/-- **The buffered stream is the plain stream.** Every call of a run answers as
it does on the plain file, and a sync leaves the same bytes, when every call of
the run meets `CallStays`. -/
theorem buffered_file_stream_runs_as_file (file : FileStream) (calls : List StreamCall)
    (stays : RunMeets bufferedFileStreamCall CallStays (bufferedFileStreamOpen file) calls) :
    (run bufferedFileStreamCall (bufferedFileStreamOpen file) calls).1 = (run fileStreamCall file calls).1 ∧
      (bufferedFileStreamSync
          (run bufferedFileStreamCall (bufferedFileStreamOpen file) calls).2).2.fileStream.data =
        (run fileStreamCall file calls).2.data := by
  obtain ⟨answers, final⟩ :=
    run_agrees bufferedFileStreamCall_agrees (represents_open file) stays
  exact ⟨answers, bufferedFileStreamSync_data final⟩

/-- A run that stays: overwrite a byte, step back inside the pending cache, read on. -/
theorem buffered_file_stream_overwrites_and_reads :
    let file : FileStream := ⟨[65, 66, 67, 68], 0, by decide⟩
    let calls : List StreamCall :=
      [.seek 1 .fromStart, .write [120], .seek (-1) .fromCurrent, .read 2, .size]
    (run bufferedFileStreamCall (bufferedFileStreamOpen file) calls).1 = (run fileStreamCall file calls).1 ∧
      (bufferedFileStreamSync
          (run bufferedFileStreamCall (bufferedFileStreamOpen file) calls).2).2.fileStream.data =
        (run fileStreamCall file calls).2.data :=
  buffered_file_stream_runs_as_file _ _ (by decide +kernel)

/-- Five bytes in, two bytes pending, four back: the plain file is at 3, the
buffered stream at 1. -/
theorem buffered_file_stream_seeks_back_too_far : ¬ ∀ (content : List UInt8) (calls : List StreamCall),
      let file : FileStream := ⟨content, 0, Nat.zero_le _⟩
      (run bufferedFileStreamCall (bufferedFileStreamOpen file) calls).1 = (run fileStreamCall file calls).1 ∧
        (bufferedFileStreamSync
            (run bufferedFileStreamCall (bufferedFileStreamOpen file) calls).2).2.fileStream.data =
          (run fileStreamCall file calls).2.data := by
  intro same
  have answers := (same [65, 66, 67, 68, 69, 70, 71, 72, 73, 74]
    [.seek 5 .fromStart, .write [120, 121], .seek (-4) .fromCurrent, .tell]).1
  revert answers
  decide +kernel

end Xtreme.Stream
