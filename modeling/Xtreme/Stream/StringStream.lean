import Mathlib.Data.List.TakeWhile
import Xtreme.Stream.FileSplice

/-! The string stream (`lib/toolbox/stream/string_stream.c`): a stream over a
string in memory. Over text without zero bytes it does what the file stream does. -/
namespace Xtreme.Stream

@[ext] structure StringStream where
  string : List UInt8
  index : Nat
  deriving DecidableEq, Repr

def stringStreamAlloc : StringStream := ⟨[], 0⟩

def stringStreamTell (stream : StringStream) : Nat := stream.index

def stringStreamSize (stream : StringStream) : Nat := stream.string.length

def stringStreamEof (stream : StringStream) : Bool :=
  decide (stringStreamSize stream ≤ stringStreamTell stream)

/-- `string_stream_clean`. -/
def stringStreamClean (_stream : StringStream) : StringStream := stringStreamAlloc

/-- The index a seek asks for, and whether it lies behind the start. -/
def stringStreamTarget (stream : StringStream) (offset : Int) : StreamOffset → Bool × Nat
  | .fromStart => if 0 ≤ offset then (true, sizeT offset) else (false, 0)
  | .fromCurrent =>
    if 0 ≤ int32 (int32 stream.index + offset) then (true, sizeT (stream.index + offset)) else (false, 0)
  | .fromEnd =>
    if 0 ≤ int32 (int32 (stringStreamSize stream) + offset) then
      (true, sizeT (stringStreamSize stream + offset))
    else (false, 0)

/-- `string_stream_seek`: an index past the end stops at the end. -/
def stringStreamSeek (stream : StringStream) (offset : Int) (offsetType : StreamOffset) :
    Bool × StringStream :=
  let (result, index) := stringStreamTarget stream offset offsetType
  let diff := int32 ((index : Int) - stringStreamSize stream)
  if 0 < diff then (false, { stream with index := sizeT (index - diff) })
  else (result, { stream with index })

/-- `string_stream_write_char`. -/
def stringStreamWriteChar (stream : StringStream) (c : UInt8) : StringStream :=
  if stringStreamEof stream then ⟨stream.string ++ [c], stream.index + 1⟩
  else ⟨stream.string.set stream.index c, stream.index + 1⟩

def stringStreamWrite (stream : StringStream) (data : List UInt8) : Nat × StringStream :=
  (data.length, data.foldl stringStreamWriteChar stream)

/-- The loop of `string_stream_read`, entered before the end of the string. -/
def stringStreamReadLoop (stream : StringStream) : Nat → List UInt8 × StringStream
  | 0 => ([], stream)
  | size + 1 =>
    let c := stream.string.getD stream.index 0
    let stream := (stringStreamSeek stream 1 .fromCurrent).2
    if stringStreamEof stream then ([c], stream)
    else
      let more := stringStreamReadLoop stream size
      (c :: more.1, more.2)

def stringStreamRead (stream : StringStream) (size : Nat) : List UInt8 × StringStream :=
  if !stringStreamEof stream then stringStreamReadLoop stream size else ([], stream)

/-- `string_stream_delete_and_insert`: the text after the deleted bytes is put
aside as a C string while the callback writes. -/
def stringStreamDeleteAndInsert (stream : StringStream) (deleteSize : Nat)
    (writeCallback : Option (StringStream → Bool × StringStream)) : Bool × StringStream :=
  let remainSize := min deleteSize (stringStreamSize stream - stringStreamTell stream)
  let stream : StringStream :=
    { stream with
      string := stream.string.take stream.index ++ stream.string.drop (stream.index + remainSize) }
  match writeCallback with
  | none => (true, stream)
  | some callback =>
    let right := (stream.string.drop stream.index).takeWhile (· ≠ 0)
    let written := callback { stream with string := stream.string.take (stringStreamTell stream) }
    (written.1, { written.2 with string := written.2.string ++ right })

/-- A string stream over a text cut in two by the cursor. -/
def StringStream.cut (before after : List UInt8) : StringStream := ⟨before ++ after, before.length⟩

section Cut
variable (before passed after : List UInt8)

theorem stringStreamEof_cut : stringStreamEof (.cut before after) = after.isEmpty := by
  simp only [stringStreamEof, stringStreamSize, stringStreamTell, StringStream.cut]
  cases after with
  | nil => simp
  | cons byte after => simp

/-- The place an offset names, counted from the chosen origin. -/
def stringSeekTarget (stream : StringStream) (offset : Int) : StreamOffset → Int
  | .fromCurrent => stream.index + offset
  | .fromStart => offset
  | .fromEnd => stream.string.length + offset

theorem stringStreamSeek_cut {stream : StringStream} {offset : Int} {offsetType : StreamOffset}
    (inside : stream.index ≤ stream.string.length)
    (bytes : stream.string = before ++ after) (small : (before ++ after).length < 2 ^ 31)
    (target : stringSeekTarget stream offset offsetType = before.length) :
    stringStreamSeek stream offset offsetType = (true, .cut before after) := by
  have length : stream.string.length = before.length + after.length := by
    rw [bytes, List.length_append]
  rw [List.length_append] at small
  have asked : stringStreamTarget stream offset offsetType = (true, before.length) := by
    cases offsetType with
    | fromStart =>
      simp only [stringSeekTarget] at target
      rw [stringStreamTarget, if_pos (by omega), sizeT_of_range (by omega) (by omega)]
      exact congrArg _ (by omega)
    | fromCurrent =>
      simp only [stringSeekTarget] at target
      have cursor : int32 stream.index = stream.index := int32_of_range (by omega) (by omega)
      rw [stringStreamTarget, int32_of_range (by omega) (by omega), if_pos (by omega), sizeT_of_range (by omega) (by omega)]
      exact congrArg _ (by omega)
    | fromEnd =>
      simp only [stringSeekTarget] at target
      have size : int32 stream.string.length = stream.string.length :=
        int32_of_range (by omega) (by omega)
      rw [stringStreamTarget, stringStreamSize, int32_of_range (by omega) (by omega), if_pos (by omega), sizeT_of_range (by omega) (by omega)]
      exact congrArg _ (by omega)
  have kept : ¬ 0 < int32 ((before.length : Int) - stringStreamSize stream) := by
    rw [stringStreamSize, int32_of_range (by omega) (by omega)]
    omega
  simp only [stringStreamSeek, asked, if_neg kept]
  exact congrArg _ (StringStream.ext bytes rfl)

theorem stringStreamWriteChar_cut (c : UInt8) :
    stringStreamWriteChar (.cut before after) c = .cut (before ++ [c]) (after.drop 1) := by
  rw [stringStreamWriteChar, stringStreamEof_cut]
  cases after with
  | nil => exact StringStream.ext (by simp [StringStream.cut]) (by simp [StringStream.cut])
  | cons byte after =>
    simp [StringStream.cut]

theorem stringStreamWrite_cut (data : List UInt8) : stringStreamWrite (.cut before after) data =
    (data.length, .cut (before ++ data) (after.drop data.length)) := by
  refine Prod.ext rfl ?_
  dsimp only [stringStreamWrite]
  induction data generalizing before after with
  | nil => rw [List.foldl_nil, List.append_nil, List.length_nil, List.drop_zero]
  | cons c data ih =>
    rw [List.foldl_cons, stringStreamWriteChar_cut, ih, List.append_assoc, List.drop_drop,
      List.singleton_append, List.length_cons, Nat.add_comm]

variable {before after} in
theorem stringStreamReadLoop_cut (small : (before ++ after).length < 2 ^ 31) (more : after ≠ [])
    (size : Nat) : stringStreamReadLoop (.cut before after) size =
      (after.take size, .cut (before ++ after.take size) (after.drop size)) := by
  induction size generalizing before after with
  | zero => rw [stringStreamReadLoop, List.take_zero, List.append_nil, List.drop_zero]
  | succ size ih =>
    obtain ⟨c, rest, rfl⟩ := List.exists_cons_of_ne_nil more
    have here : (StringStream.cut before (c :: rest)).string.getD before.length 0 = c := by
      simp [StringStream.cut]
    have small' : (before ++ [c] ++ rest).length < 2 ^ 31 := by simpa using small
    have seek : stringStreamSeek (.cut before (c :: rest)) 1 .fromCurrent =
        (true, .cut (before ++ [c]) rest) :=
      stringStreamSeek_cut _ _ (by simp [StringStream.cut]) (by simp [StringStream.cut]) small'
        (by simp [stringSeekTarget, StringStream.cut])
    rw [stringStreamReadLoop]
    simp only [show (StringStream.cut before (c :: rest)).index = before.length from rfl, here, seek,
      stringStreamEof_cut]
    cases rest with
    | nil => simp
    | cons d rest =>
      have next := ih small' (List.cons_ne_nil d rest)
      simp only [List.isEmpty_cons, Bool.false_eq_true, if_false, next, List.take_succ_cons,
        List.drop_succ_cons, List.append_assoc, List.singleton_append]

variable {before after} in
theorem stringStreamRead_cut (small : (before ++ after).length < 2 ^ 31) (size : Nat) :
    stringStreamRead (.cut before after) size =
      (after.take size, .cut (before ++ after.take size) (after.drop size)) := by
  rw [stringStreamRead, stringStreamEof_cut]
  cases after with
  | nil => simp
  | cons c rest => exact stringStreamReadLoop_cut small (List.cons_ne_nil c rest) size

/-- Without zero bytes behind the cursor a C string holds all of it. -/
theorem stringStreamDeleteAndInsert_cut (deleted line : List UInt8)
    {callback : StringStream → Bool × StringStream}
    (writes : callback (.cut before []) = (true, .cut (before ++ line) []))
    (text : ∀ byte ∈ after, byte ≠ 0) :
    stringStreamDeleteAndInsert (.cut before (deleted ++ after)) deleted.length (some callback) =
      (true, .cut (before ++ line) after) := by
  have remain : min deleted.length ((before ++ (deleted ++ after)).length - before.length) =
      deleted.length := by
    simp only [List.length_append]
    omega
  have right : after.takeWhile (· ≠ 0) = after :=
    List.takeWhile_eq_self_iff.mpr fun byte inside => by simpa using text byte inside
  have beyond : (before ++ (deleted ++ after)).drop (before.length + deleted.length) = after := by
    rw [← List.drop_drop, List.drop_left, List.drop_left]
  have scratch : (⟨before, before.length⟩ : StringStream) = .cut before [] :=
    StringStream.ext (List.append_nil _).symm rfl
  rw [stringStreamDeleteAndInsert]
  dsimp only [stringStreamSize, stringStreamTell, StringStream.cut]
  rw [remain, beyond, List.take_left, List.drop_left, List.take_left, right, scratch, writes]
  exact congrArg _ (StringStream.ext (by simp [StringStream.cut]) rfl)

end Cut

end Xtreme.Stream
