import Xtreme.Library.Scan
import Xtreme.Stream.BufferedRefinement
import Xtreme.Stream.StringStream

/-! Streams behind their table of functions (`lib/toolbox/stream/stream.c`): the
callers of `stream_read` and the others do not know which stream they have. All
three kinds behave as a tape below 2 GiB (`Shows`), a buffered stream in the middle
of a write-back only where the cursor is not moved relative to itself (`Holds`). -/
namespace Xtreme.Stream
open Xtreme.Library

inductive AnyStream where
  | file (stream : FileStream)
  | buffered (stream : BufferedFileStream)
  | string (stream : StringStream)
  deriving DecidableEq, Repr

/-- The streams a `StreamWriteCB` can be called with; it only writes. -/
class StreamWrite (σ : Type) where
  write : σ → List UInt8 → Nat × σ

instance : StreamWrite FileStream := ⟨fileStreamWrite⟩
instance : StreamWrite StringStream := ⟨stringStreamWrite⟩

def streamWrite : AnyStream → List UInt8 → Nat × AnyStream
  | .file stream, data => let written := fileStreamWrite stream data; (written.1, .file written.2)
  | .buffered stream, data =>
    let written := bufferedFileStreamWrite stream data; (written.1, .buffered written.2)
  | .string stream, data =>
    let written := stringStreamWrite stream data; (written.1, .string written.2)

instance : StreamWrite AnyStream := ⟨streamWrite⟩

def streamRead : AnyStream → Nat → List UInt8 × AnyStream
  | .file stream, size => let read := fileStreamRead stream size; (read.1, .file read.2)
  | .buffered stream, size =>
    let read := bufferedFileStreamRead stream size; (read.1, .buffered read.2)
  | .string stream, size => let read := stringStreamRead stream size; (read.1, .string read.2)

def streamSeek : AnyStream → Int → StreamOffset → Bool × AnyStream
  | .file stream, offset, offsetType =>
    let sought := fileStreamSeek stream offset offsetType; (sought.1, .file sought.2)
  | .buffered stream, offset, offsetType =>
    let sought := bufferedFileStreamSeek stream offset offsetType; (sought.1, .buffered sought.2)
  | .string stream, offset, offsetType =>
    let sought := stringStreamSeek stream offset offsetType; (sought.1, .string sought.2)

def streamTell : AnyStream → Nat
  | .file stream => fileStreamTell stream
  | .buffered stream => bufferedFileStreamTell stream
  | .string stream => stringStreamTell stream

def streamSize : AnyStream → Nat
  | .file stream => fileStreamSize stream
  | .buffered stream => bufferedFileStreamSize stream
  | .string stream => stringStreamSize stream

def streamEof : AnyStream → Bool
  | .file stream => fileStreamEof stream
  | .buffered stream => bufferedFileStreamEof stream
  | .string stream => stringStreamEof stream

/-- `stream_rewind`. -/
def streamRewind (stream : AnyStream) : Bool × AnyStream := streamSeek stream 0 .fromStart

/-- `stream_delete_and_insert`: what the callback writes goes to a scratch file or,
for a string, to the string itself. -/
def streamDeleteAndInsert (stream : AnyStream) (deleteSize : Nat)
    (writeCallback : ∀ (σ : Type) [StreamWrite σ], σ → Bool × σ) : Bool × AnyStream :=
  match stream with
  | .file stream =>
    let done := fileStreamDeleteAndInsert stream deleteSize (some (writeCallback FileStream))
    (done.1, .file done.2)
  | .buffered stream =>
    let done := bufferedFileStreamDeleteAndInsert stream deleteSize (some (writeCallback FileStream))
    (done.1, .buffered done.2)
  | .string stream =>
    let done := stringStreamDeleteAndInsert stream deleteSize (some (writeCallback StringStream))
    (done.1, .string done.2)

def Holds : AnyStream → Tape UInt8 → Prop
  | .file stream, tape => stream = cut tape.before tape.after
  | .buffered stream, tape => Represents stream (cut tape.before tape.after)
  | .string stream, tape => stream = .cut tape.before tape.after

def Settled : AnyStream → Prop
  | .buffered stream => stream.syncPending = false
  | _ => True

/-- The stream stands for a tape shorter than 2 GiB and is not in a write-back. -/
structure Shows (stream : AnyStream) (tape : Tape UInt8) : Prop where
  holds : Holds stream tape
  settled : Settled stream
  small : tape.text.length < 2 ^ 31

section Buffered
variable {stream : BufferedFileStream}

theorem bufferedFileStreamSync_settled : (bufferedFileStreamSync stream).2.syncPending = false := by
  cases pending : stream.syncPending with
  | false => rw [bufferedFileStreamSync, pending, if_neg Bool.false_ne_true, pending]
  | true =>
    rw [bufferedFileStreamSync, bufferedFileStreamFlush]
    dsimp only
    split_ifs <;> rfl

theorem bufferedFileStreamReadLoop_settled (clean : stream.syncPending = false) (count : Nat) :
    (bufferedFileStreamReadLoop stream count).2.syncPending = false := by
  fun_induction bufferedFileStreamReadLoop stream count with
  | case1 => exact clean
  | case2 => exact clean
  | case3 => exact bufferedFileStreamSync_settled
  | case4 => exact bufferedFileStreamSync_settled
  | case5 stream count _ taken rest stream' _ settled _ filled next _ more ih =>
    exact ih bufferedFileStreamSync_settled

/-- A seek leaves no write-back pending, unless it stays inside the cache. -/
theorem bufferedFileStreamSeek_settled (offset : Int) {offsetType : StreamOffset}
    (settles : stream.syncPending = false ∨ offsetType ≠ .fromCurrent) :
    (bufferedFileStreamSeek stream offset offsetType).2.syncPending = false := by
  cases pending : stream.syncPending with
  | true =>
    have absolute := settles.resolve_left (by rw [pending]; decide)
    cases offsetType with
    | fromCurrent => exact absurd rfl absolute
    | fromStart | fromEnd =>
      simp only [bufferedFileStreamSeek]
      split_ifs <;> first | exact bufferedFileStreamSync_settled | simp_all
  | false =>
    cases offsetType <;> simp only [bufferedFileStreamSeek, pending, Bool.false_eq_true, if_false] <;>
      split_ifs <;> rfl

end Buffered

section Calls
variable {stream : AnyStream} {before after : List UInt8}

theorem Shows.text_small (shown : Shows stream ⟨before, after⟩) : (before ++ after).length < 2 ^ 31 :=
  shown.small

theorem Shows.read (shown : Shows stream ⟨before, after⟩) (size : Nat) :
    ∃ next, streamRead stream size = (after.take size, next) ∧
      Shows next ⟨before ++ after.take size, after.drop size⟩ := by
  obtain ⟨holds, settled, small⟩ := shown
  have small' : (before ++ after.take size ++ after.drop size).length < 2 ^ 31 := by
    rw [List.append_assoc, List.take_append_drop]
    exact small
  have plain := fileStreamRead_cut_take before after size
  cases stream with
  | file stream =>
    obtain rfl : stream = cut before after := holds
    exact ⟨.file _, by rw [streamRead, plain], rfl, trivial, small'⟩
  | buffered stream =>
    obtain ⟨same, next⟩ := represents_readLoop holds small size
    rw [plain] at same next
    exact ⟨.buffered (bufferedFileStreamReadLoop stream size).2,
      by rw [streamRead, bufferedFileStreamRead, same],
      next, bufferedFileStreamReadLoop_settled settled size, small'⟩
  | string stream =>
    obtain rfl : stream = .cut before after := holds
    exact ⟨.string _, by rw [streamRead, stringStreamRead_cut small], rfl, trivial, small'⟩

section Seek
variable {before' after' : List UInt8} {offset : Int} {offsetType : StreamOffset}

/-- A seek inside the text. A pending write-back allows it only from one of the ends. -/
theorem Holds.seek (holds : Holds stream ⟨before, after⟩) (small : (before ++ after).length < 2 ^ 31)
    (settles : Settled stream ∨ offsetType ≠ .fromCurrent) (low : -2 ^ 31 ≤ offset)
    (high : offset < 2 ^ 31) (split : before ++ after = before' ++ after')
    (target : seekTarget (cut before after) offset offsetType = before'.length) :
    ∃ next, streamSeek stream offset offsetType = (true, next) ∧ Shows next ⟨before', after'⟩ := by
  have small' : (before' ++ after').length < 2 ^ 31 := split ▸ small
  have plain : fileStreamSeek (cut before after) offset offsetType = (true, cut before' after') :=
    fileStreamSeek_cut _ _ split small' target
  cases stream with
  | file stream =>
    obtain rfl : stream = cut before after := holds
    exact ⟨.file _, by rw [streamSeek, plain], rfl, trivial, small'⟩
  | buffered stream =>
    have agrees : (bufferedFileStreamSeek stream offset offsetType).1 =
          (fileStreamSeek (cut before after) offset offsetType).1 ∧
        Represents (bufferedFileStreamSeek stream offset offsetType).2
          (fileStreamSeek (cut before after) offset offsetType).2 := by
      by_cases absolute : offsetType = .fromCurrent
      · subst absolute
        have settled : stream.syncPending = false := settles.resolve_right (not_not_intro rfl)
        exact represents_seek_current holds small low high (by simp [settled])
      · exact represents_seek_absolute holds small absolute
    rw [plain] at agrees
    exact ⟨.buffered (bufferedFileStreamSeek stream offset offsetType).2, by rw [streamSeek, agrees.1],
      agrees.2, bufferedFileStreamSeek_settled offset settles, small'⟩
  | string stream =>
    obtain rfl : stream = .cut before after := holds
    have sought : stringStreamSeek (.cut before after) offset offsetType = (true, .cut before' after') :=
      stringStreamSeek_cut _ _ (by simp [StringStream.cut]) split small' (by
        cases offsetType <;> exact target)
    exact ⟨.string _, by rw [streamSeek, sought], rfl, trivial, small'⟩

theorem Shows.seek (shown : Shows stream ⟨before, after⟩) (low : -2 ^ 31 ≤ offset)
    (high : offset < 2 ^ 31) (split : before ++ after = before' ++ after')
    (target : seekTarget (cut before after) offset offsetType = before'.length) :
    ∃ next, streamSeek stream offset offsetType = (true, next) ∧ Shows next ⟨before', after'⟩ :=
  shown.holds.seek shown.small (.inl shown.settled) low high split target

/-- The way to a place counted from the start. -/
theorem Holds.seekTo (holds : Holds stream ⟨before, after⟩) (small : (before ++ after).length < 2 ^ 31)
    (split : before ++ after = before' ++ after') :
    ∃ next, streamSeek stream before'.length .fromStart = (true, next) ∧
      Shows next ⟨before', after'⟩ := by
  have inside : before'.length < 2 ^ 31 := by
    rw [split, List.length_append] at small
    omega
  exact holds.seek small (.inr (by decide)) (by omega) (by omega) split rfl

theorem Holds.rewind (holds : Holds stream ⟨before, after⟩) (small : (before ++ after).length < 2 ^ 31) :
    ∃ next, streamRewind stream = (true, next) ∧ Shows next ⟨[], before ++ after⟩ :=
  holds.seekTo small (List.nil_append _).symm

end Seek

theorem Shows.eof (shown : Shows stream ⟨before, after⟩) : streamEof stream = after.isEmpty := by
  obtain ⟨holds, settled, small⟩ := shown
  have plain : (before.length = (before ++ after).length) ↔ after.isEmpty := by
    rw [List.length_append, List.isEmpty_iff_length_eq_zero]
    omega
  cases stream with
  | file stream =>
    obtain rfl : stream = cut before after := holds
    rw [Bool.eq_iff_iff, ← plain]
    simp only [streamEof, fileStreamEof, storageFileEof, cut_data, cut_pos, beq_iff_eq]
  | buffered stream =>
    rw [Bool.eq_iff_iff, ← plain]
    have position := stream.cache.position_le
    have inside := stream.fileStream.pos_le
    cases holds with
    | readAhead clean bytes cursor _ =>
      rw [bytes, cut_data] at inside
      rw [cut_pos] at cursor
      dsimp only at inside cursor
      simp only [streamEof, bufferedFileStreamEof, fileStreamEof, storageFileEof, streamCacheAtEnd, clean,
        bytes, cut_data, Bool.not_false, if_true, Bool.and_eq_true, beq_iff_eq]
      omega
    | writeBack pending _ _ =>
      rw [settled] at pending
      cases pending
  | string stream =>
    obtain rfl : stream = .cut before after := holds
    exact stringStreamEof_cut before after

theorem Holds.tell (holds : Holds stream ⟨before, after⟩) : streamTell stream = before.length := by
  cases stream with
  | file stream =>
    obtain rfl : stream = cut before after := holds
    rfl
  | buffered stream => exact represents_tell holds
  | string stream =>
    obtain rfl : stream = .cut before after := holds
    rfl

theorem Holds.size (holds : Holds stream ⟨before, after⟩) :
    streamSize stream = (before ++ after).length := by
  cases stream with
  | file stream =>
    obtain rfl : stream = cut before after := holds
    rfl
  | buffered stream => exact represents_size holds
  | string stream =>
    obtain rfl : stream = .cut before after := holds
    rfl

theorem Holds.write (holds : Holds stream ⟨before, after⟩) (small : (before ++ after).length < 2 ^ 31)
    (data : List UInt8) :
    ∃ next, streamWrite stream data = (data.length, next) ∧
      Holds next ⟨before ++ data, after.drop data.length⟩ := by
  have plain := fileStreamWrite_cut before after data
  cases stream with
  | file stream =>
    obtain rfl : stream = cut before after := holds
    exact ⟨.file _, by rw [streamWrite, plain], rfl⟩
  | buffered stream =>
    obtain ⟨same, next⟩ := represents_write holds small data
    rw [plain] at same next
    exact ⟨.buffered (bufferedFileStreamWrite stream data).2, by rw [streamWrite, same], next⟩
  | string stream =>
    obtain rfl : stream = .cut before after := holds
    exact ⟨.string _, by rw [streamWrite, stringStreamWrite_cut], rfl⟩

def Writes (callback : ∀ (σ : Type) [StreamWrite σ], σ → Bool × σ) (line : List UInt8) : Prop :=
  (∀ before, callback FileStream (cut before []) = (true, cut (before ++ line) [])) ∧
    ∀ before, callback StringStream (.cut before []) = (true, .cut (before ++ line) [])

/-- The bytes after the cursor are deleted, and what the callback writes is put in
their place. A string stream needs text without zero bytes for this. -/
theorem Shows.deleteAndInsert {deleted line : List UInt8} (shown : Shows stream ⟨before, deleted ++ after⟩)
    {callback : ∀ (σ : Type) [StreamWrite σ], σ → Bool × σ} (writes : Writes callback line)
    (small : (before ++ line ++ after).length < 2 ^ 31) (text : ∀ byte ∈ after, byte ≠ 0) :
    ∃ next, streamDeleteAndInsert stream deleted.length callback = (true, next) ∧
      Shows next ⟨before ++ line, after⟩ := by
  obtain ⟨holds, settled, small'⟩ := shown
  have plain := fileStreamDeleteAndInsert_cut before deleted after line (writes.1 before) small' small
  cases stream with
  | file stream =>
    obtain rfl : stream = cut before (deleted ++ after) := holds
    exact ⟨.file _, by rw [streamDeleteAndInsert, plain], rfl, trivial, small⟩
  | buffered stream =>
    have done : bufferedFileStreamDeleteAndInsert stream deleted.length
        (some (callback FileStream)) = (true, ⟨cut (before ++ line) after, streamCacheAlloc, false⟩) := by
      simp only [bufferedFileStreamDeleteAndInsert, represents_settle holds small', plain, Bool.not_true,
        Bool.false_eq_true, if_false]
    exact ⟨.buffered ⟨cut (before ++ line) after, streamCacheAlloc, false⟩,
      by rw [streamDeleteAndInsert, done], represents_self rfl rfl rfl, rfl, small⟩
  | string stream =>
    obtain rfl : stream = .cut before (deleted ++ after) := holds
    have done := stringStreamDeleteAndInsert_cut before after deleted line (writes.2 before) text
    exact ⟨.string _, by rw [streamDeleteAndInsert, done], rfl, trivial, small⟩

def lineReader : ChunkReader AnyStream UInt8 where
  read stream := streamRead stream 32
  back stream count := streamSeek stream (-count) .fromCurrent

theorem lineReader_chunked : Chunked lineReader Shows where
  read {stream before after} shown := by
    obtain ⟨next, read, shown⟩ := shown.read 32
    refine ⟨_, _, next, (List.take_append_drop 32 after).symm, read, fun empty => ?_, shown⟩
    rw [List.take_eq_nil_iff] at empty
    rw [empty.resolve_left (by decide), List.drop_nil]
  back {stream before passed after} shown _ := by
    have small := shown.small
    simp only [Tape.text_mk, List.length_append] at small
    refine shown.seek (by omega) (by omega) (List.append_assoc _ _ _) ?_
    rw [seekTarget, cut_pos, List.length_append]
    omega

end Calls

end Xtreme.Stream
