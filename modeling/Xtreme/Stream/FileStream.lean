import Mathlib.Algebra.Group.Int.Defs
import Mathlib.Algebra.GroupWithZero.Nat
import Mathlib.Data.List.Basic

/-! The plain file stream (`lib/toolbox/stream/file_stream.c`) over a storage
file that behaves as a plain byte file and never fails. Positions are `Nat`;
the places where the C code narrows them to `int32_t` or `size_t` are written
out, since they decide what a seek does near 2 GiB. -/
namespace Xtreme.Stream

/-- A storage file: its bytes and its read/write pointer, which never leaves them. -/
@[ext] structure File where
  data : List UInt8
  pos : Nat
  pos_le : pos ≤ data.length
  deriving DecidableEq, Repr

abbrev FileStream := File

inductive StreamOffset where
  | fromCurrent
  | fromStart
  | fromEnd
  deriving DecidableEq, Repr

/-- The cast of a 32-bit word to `int32_t`. -/
def int32 (x : Int) : Int := x.bmod (2 ^ 32)

/-- The cast of an integer to the 32-bit `size_t`. -/
def sizeT (x : Int) : Nat := (x % 2 ^ 32).toNat

theorem int32_of_range {x : Int} (low : -2 ^ 31 ≤ x) (high : x < 2 ^ 31) : int32 x = x := by
  exact Int.bmod_eq_of_le (by omega) (by omega)

theorem sizeT_of_range {x : Int} (low : 0 ≤ x) (high : x < 2 ^ 32) : sizeT x = x.toNat := by
  unfold sizeT
  rw [Int.emod_eq_of_lt low high]

theorem int32_emod (x : Int) : int32 x % 2 ^ 32 = x % 2 ^ 32 := by
  unfold int32
  rw [Int.bmod_def]
  split <;> omega

theorem sizeT_eq_int32 {x : Int} (nonneg : 0 ≤ int32 x) : (sizeT x : Int) = int32 x := by
  unfold int32 at *
  unfold sizeT
  rw [Int.bmod_def] at *
  split at nonneg <;> split <;> omega

def storageFileRead (file : File) (count : Nat) : List UInt8 × File :=
  let bytes := (file.data.drop file.pos).take count
  (bytes, ⟨file.data, file.pos + bytes.length, by
    have := file.pos_le
    simp only [bytes, List.length_take, List.length_drop]
    omega⟩)

def storageFileWrite (file : File) (bytes : List UInt8) : Nat × File :=
  (bytes.length, ⟨file.data.take file.pos ++ bytes ++ file.data.drop (file.pos + bytes.length),
      file.pos + bytes.length, by
    have := file.pos_le
    simp only [List.length_append, List.length_take, List.length_drop]
    omega⟩)

/-- Seeking from the start of the file. The streams never ask for a position
past the end (`fileStreamSeek_position_le`), where a real file would grow. -/
def storageFileSeek (file : File) (offset : Nat) : File :=
  ⟨file.data, min offset file.data.length, Nat.min_le_right _ _⟩

def storageFileTruncate (file : File) : File :=
  ⟨file.data.take file.pos, file.pos, by simp [file.pos_le]⟩

def storageFileEof (file : File) : Bool := file.pos == file.data.length

def fileStreamTell (stream : FileStream) : Nat := stream.pos

def fileStreamSize (stream : FileStream) : Nat := stream.data.length

def fileStreamEof (stream : FileStream) : Bool := storageFileEof stream

/-- `file_stream_clean`. -/
def fileStreamClean (stream : FileStream) : FileStream := storageFileTruncate (storageFileSeek stream 0)

def fileStreamRead (stream : FileStream) (count : Nat) : List UInt8 × FileStream :=
  storageFileRead stream count

def fileStreamWrite (stream : FileStream) (bytes : List UInt8) : Nat × FileStream :=
  storageFileWrite stream bytes

/-- The position a seek asks for, when the `int32_t` checks let it through. -/
def seekPosition (currentPosition size : Nat) (offset : Int) : StreamOffset → Option Nat
  | .fromCurrent =>
    if 0 ≤ int32 (currentPosition + offset) then some (sizeT (currentPosition + offset)) else none
  | .fromStart => if 0 ≤ offset then some offset.toNat else none
  | .fromEnd => if 0 ≤ int32 (size + offset) then some (sizeT (size + offset)) else none

/-- `file_stream_seek`: `offset` is an `int32_t`. A position past the end
stops at the end, one before the start stops at the start; both report failure. -/
def fileStreamSeek (stream : FileStream) (offset : Int) (offsetType : StreamOffset) :
    Bool × FileStream :=
  let size := fileStreamSize stream
  match seekPosition (fileStreamTell stream) size offset offsetType with
  | some position =>
    if 0 < int32 ((position : Int) - size) then (false, storageFileSeek stream size)
    else (true, storageFileSeek stream position)
  | none => (false, storageFileSeek stream 0)

theorem seekPosition_lt {currentPosition size position : Nat} {offset : Int}
    {offsetType : StreamOffset} (narrow : offset < 2 ^ 31)
    (found : seekPosition currentPosition size offset offsetType = some position) :
    (position : Int) < 2 ^ 31 := by
  have upper (x : Int) : int32 x < 2 ^ 31 := by
    have := Int.bmod_lt (x := x) (m := 2 ^ 32) (by omega)
    unfold int32
    omega
  cases offsetType with
  | fromCurrent =>
    simp only [seekPosition, Option.ite_none_right_eq_some, Option.some.injEq] at found
    rw [← found.2, sizeT_eq_int32 found.1]
    exact upper _
  | fromStart =>
    simp only [seekPosition, Option.ite_none_right_eq_some, Option.some.injEq] at found
    omega
  | fromEnd =>
    simp only [seekPosition, Option.ite_none_right_eq_some, Option.some.injEq] at found
    rw [← found.2, sizeT_eq_int32 found.1]
    exact upper _

/-- `stream_rewind`. -/
def fileStreamRewind (stream : FileStream) : Bool × FileStream := fileStreamSeek stream 0 .fromStart

/-- `STREAM_CACHE_SIZE`: the block `stream_copy` moves at a time. -/
def streamBlockSize : Nat := 512

/-- The loop of `stream_copy`, with `copied` bytes moved so far. -/
def streamCopyFrom (source target : FileStream) (size copied : Nat) :
    Nat × FileStream × FileStream :=
  let bytesCount := min streamBlockSize (size - copied)
  if bytesCount = 0 then (copied, source, target)
  else
    let (bytes, source) := fileStreamRead source bytesCount
    if bytes.length ≠ bytesCount then (copied, source, target)
    else
      let (written, target) := fileStreamWrite target bytes
      if written ≠ bytesCount then (copied, source, target)
      else streamCopyFrom source target size (copied + bytesCount)
termination_by size - copied
decreasing_by omega

/-- `stream_copy`. -/
def streamCopy (source target : FileStream) (size : Nat) : Nat × FileStream × FileStream :=
  streamCopyFrom source target size 0

/-- `file_stream_delete_and_insert`: the file is rebuilt in a scratch file (the
bytes before the cursor, what the callback writes, the bytes after the deleted
ones), copied back and cut to its new length. -/
def fileStreamDeleteAndInsert (stream : FileStream) (deleteSize : Nat)
    (writeCallback : Option (FileStream → Bool × FileStream)) : Bool × FileStream :=
  let scratch : FileStream := ⟨[], 0, Nat.le_refl 0⟩
  let currentPosition := fileStreamTell stream
  let fileSize := fileStreamSize stream
  let sizeToDelete := min deleteSize (fileSize - currentPosition)
  let sizeToCopyBefore := currentPosition
  let sizeToCopyAfter := fileSize - currentPosition - sizeToDelete
  let rewound := fileStreamRewind stream
  if !rewound.1 then (false, rewound.2) else
  let copied := streamCopy rewound.2 scratch sizeToCopyBefore
  if copied.1 ≠ sizeToCopyBefore then (false, copied.2.1) else
  let written := match writeCallback with
    | some callback => callback copied.2.2
    | none => (true, copied.2.2)
  if !written.1 then (false, copied.2.1) else
  let newPosition := fileStreamTell written.2
  let skipped := fileStreamSeek copied.2.1 (int32 sizeToDelete) .fromCurrent
  if !skipped.1 then (false, skipped.2) else
  let copied := streamCopy skipped.2 written.2 sizeToCopyAfter
  if copied.1 ≠ sizeToCopyAfter then (false, copied.2.1) else
  let newFileSize := fileStreamSize copied.2.2
  let rewound := fileStreamRewind copied.2.1
  if !rewound.1 then (false, rewound.2) else
  let rewoundScratch := fileStreamRewind copied.2.2
  if !rewoundScratch.1 then (false, rewound.2) else
  let copied := streamCopy rewoundScratch.2 rewound.2 newFileSize
  if copied.1 ≠ newFileSize then (false, copied.2.2) else
  fileStreamSeek (storageFileTruncate copied.2.2) (int32 newPosition) .fromStart

section Seeks
variable {stream : FileStream} {offset : Int}

/-- The position `offset` names, counted from the chosen origin. -/
def seekTarget (stream : FileStream) (offset : Int) : StreamOffset → Int
  | .fromCurrent => stream.pos + offset
  | .fromStart => offset
  | .fromEnd => stream.data.length + offset

theorem fileStreamSeek_inside (position : Nat) {offsetType : StreamOffset} (small : stream.data.length < 2 ^ 31)
    (target : seekTarget stream offset offsetType = position)
    (inside : position ≤ stream.data.length) :
    fileStreamSeek stream offset offsetType = (true, ⟨stream.data, position, inside⟩) := by
  have found : seekPosition stream.pos stream.data.length offset offsetType = some position := by
    cases offsetType with
    | fromCurrent =>
      simp only [seekTarget] at target
      rw [seekPosition, target, int32_of_range (by omega) (by omega),
        sizeT_of_range (by omega) (by omega), if_pos (by omega), Int.toNat_natCast]
    | fromStart =>
      simp only [seekTarget] at target
      rw [seekPosition, target, if_pos (by omega), Int.toNat_natCast]
    | fromEnd =>
      simp only [seekTarget] at target
      rw [seekPosition, target, int32_of_range (by omega) (by omega),
        sizeT_of_range (by omega) (by omega), if_pos (by omega), Int.toNat_natCast]
  have kept : ¬ 0 < int32 ((position : Int) - stream.data.length) := by
    rw [int32_of_range (by omega) (by omega)]
    omega
  simp [fileStreamSeek, fileStreamTell, fileStreamSize, found, kept, storageFileSeek, inside]

theorem fileStreamSeek_current_congr {first second : FileStream} {x y : Int}
    (bytes : first.data = second.data) (named : int32 (first.pos + x) = int32 (second.pos + y)) :
    fileStreamSeek first x .fromCurrent = fileStreamSeek second y .fromCurrent := by
  have words : ((first.pos : Int) + x) % 2 ^ 32 = ((second.pos : Int) + y) % 2 ^ 32 := by
    rw [← int32_emod, named, int32_emod]
  obtain ⟨data, pos, _⟩ := first
  obtain ⟨_, pos', _⟩ := second
  subst bytes
  have asked : seekPosition pos data.length x .fromCurrent =
      seekPosition pos' data.length y .fromCurrent := by
    simp only [seekPosition, sizeT, named, words]
  simp only [fileStreamSeek, fileStreamTell, fileStreamSize, asked]
  rfl

theorem fileStreamSeek_forgets {first second : FileStream} {offsetType : StreamOffset}
    (bytes : first.data = second.data) (absolute : offsetType ≠ .fromCurrent) :
    fileStreamSeek first offset offsetType = fileStreamSeek second offset offsetType := by
  obtain ⟨_, pos', _⟩ := second
  subst bytes
  cases offsetType with
  | fromCurrent => exact absurd rfl absolute
  | fromStart => rfl
  | fromEnd => rfl

@[simp] theorem fileStreamSeek_data (stream : FileStream) (offset : Int) (offsetType : StreamOffset) :
    (fileStreamSeek stream offset offsetType).2.data = stream.data := by
  unfold fileStreamSeek
  dsimp only
  split
  · split <;> rfl
  · rfl

end Seeks

section Files
variable {file : File}

@[simp] theorem fileStreamRead_data (file : FileStream) (count : Nat) :
    (fileStreamRead file count).2.data = file.data := rfl

variable (file : FileStream)

theorem fileStreamRead_bytes (count : Nat) :
    (fileStreamRead file count).1 = (file.data.drop file.pos).take count := rfl

theorem fileStreamRead_pos (count : Nat) :
    (fileStreamRead file count).2.pos = file.pos + (fileStreamRead file count).1.length := rfl

theorem fileStreamRead_zero : fileStreamRead file 0 = ([], file) := by
  simp [fileStreamRead, storageFileRead]

theorem fileStreamRead_add (first second : Nat) : fileStreamRead file (first + second) =
      ((fileStreamRead file first).1 ++ (fileStreamRead (fileStreamRead file first).2 second).1,
        (fileStreamRead (fileStreamRead file first).2 second).2) := by
  have bytes : (file.data.drop file.pos).take (first + second) = (file.data.drop file.pos).take first ++
        (file.data.drop (file.pos + ((file.data.drop file.pos).take first).length)).take second := by
    rw [List.take_add, ← List.drop_drop, List.length_take]
    generalize file.data.drop file.pos = rest
    by_cases long : first ≤ rest.length
    · rw [Nat.min_eq_left long]
    · rw [Nat.min_eq_right (by omega), List.drop_of_length_le (Nat.le_of_lt (Nat.not_le.mp long)), List.drop_length]
  refine Prod.ext bytes (File.ext rfl ?_)
  simp only [fileStreamRead, storageFileRead, bytes, List.length_append]
  omega

theorem fileStreamWrite_nil : fileStreamWrite file [] = (0, file) := by
  simp [fileStreamWrite, storageFileWrite]

theorem fileStreamWrite_append (first second : List UInt8) : (fileStreamWrite file (first ++ second)).2 =
      (fileStreamWrite (fileStreamWrite file first).2 second).2 := by
  have inside := file.pos_le
  have cut : (file.data.take file.pos ++ first ++ file.data.drop (file.pos + first.length)).take
      (file.pos + first.length) = file.data.take file.pos ++ first := by
    have length : (file.data.take file.pos ++ first).length = file.pos + first.length := by
      rw [List.length_append, List.length_take, Nat.min_eq_left inside]
    rw [← length, List.take_left]
  have rest : (file.data.take file.pos ++ first ++ file.data.drop (file.pos + first.length)).drop
      (file.pos + first.length + second.length) =
        file.data.drop (file.pos + (first ++ second).length) := by
    rw [← List.drop_drop, List.drop_left' (by simp; omega), List.drop_drop, List.length_append, Nat.add_assoc]
  refine File.ext ?_ ?_
  · simp only [fileStreamWrite, storageFileWrite, cut, rest]
    simp [List.append_assoc]
  · simp only [fileStreamWrite, storageFileWrite, List.length_append]
    omega

end Files

end Xtreme.Stream
