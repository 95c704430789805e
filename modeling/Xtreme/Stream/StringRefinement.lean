import Xtreme.Library.Simulation
import Xtreme.Stream.AnyStream

/-! The string stream answers every call as the plain file stream does, over text
without zero bytes and as long as that is shorter than 2 GiB: there the sizes leave
the `int32_t` that both compute positions in, and each wraps around in its own way. -/
namespace Xtreme.Stream
open Library Library.Machine

/-- The calls a client makes on either stream. What a callback of `stream_delete_and_insert`
writes is given by the chunks that it hands to `stream_write`; it may be left out. -/
inductive TextCall where
  | write (bytes : List UInt8)
  | read (count : Nat)
  | seek (offset : Int32) (offsetType : StreamOffset)
  | tell
  | size
  | eof
  | clean
  | deleteAndInsert (deleteSize : Nat) (chunks : Option (List (List UInt8)))
  deriving DecidableEq

def writeChunks {σ : Type} [StreamWrite σ] (chunks : List (List UInt8)) (stream : σ) : Bool × σ :=
  (true, chunks.foldl (fun stream chunk => (StreamWrite.write stream chunk).2) stream)

def fileTextCall : Machine FileStream TextCall StreamAnswer
  | stream, .write bytes => let (count, next) := fileStreamWrite stream bytes; (.count count, next)
  | stream, .read count => let (bytes, next) := fileStreamRead stream count; (.bytes bytes, next)
  | stream, .seek offset offsetType =>
    let (success, next) := fileStreamSeek stream offset.toInt offsetType
    (.success success, next)
  | stream, .tell => (.count (fileStreamTell stream), stream)
  | stream, .size => (.count (fileStreamSize stream), stream)
  | stream, .eof => (.success (fileStreamEof stream), stream)
  | stream, .clean => (.success true, fileStreamClean stream)
  | stream, .deleteAndInsert deleteSize chunks =>
    let (success, next) := fileStreamDeleteAndInsert stream deleteSize (chunks.map writeChunks)
    (.success success, next)

def stringTextCall : Machine StringStream TextCall StreamAnswer
  | stream, .write bytes => let (count, next) := stringStreamWrite stream bytes; (.count count, next)
  | stream, .read count => let (bytes, next) := stringStreamRead stream count; (.bytes bytes, next)
  | stream, .seek offset offsetType =>
    let (success, next) := stringStreamSeek stream offset.toInt offsetType
    (.success success, next)
  | stream, .tell => (.count (stringStreamTell stream), stream)
  | stream, .size => (.count (stringStreamSize stream), stream)
  | stream, .eof => (.success (stringStreamEof stream), stream)
  | stream, .clean => (.success true, stringStreamClean stream)
  | stream, .deleteAndInsert deleteSize chunks =>
    let (success, next) := stringStreamDeleteAndInsert stream deleteSize (chunks.map writeChunks)
    (.success success, next)

def TextCall.IsText : TextCall → Prop
  | write bytes => ∀ byte ∈ bytes, byte ≠ 0
  | deleteAndInsert _ (some chunks) => ∀ byte ∈ chunks.flatten, byte ≠ 0
  | _ => True

instance : DecidablePred TextCall.IsText
  | .write bytes => inferInstanceAs (Decidable (∀ byte ∈ bytes, byte ≠ 0))
  | .deleteAndInsert _ (some chunks) => inferInstanceAs (Decidable (∀ byte ∈ chunks.flatten, byte ≠ 0))
  | .deleteAndInsert _ none | .read _ | .seek _ _ | .tell | .size | .eof | .clean => isTrue trivial

def SameText (string : StringStream) (file : FileStream) : Prop :=
  ∃ before after, string = .cut before after ∧ file = cut before after ∧ ∀ byte ∈ before ++ after, byte ≠ 0

section
variable {before after : List UInt8}

theorem sameText_cut (text : ∀ byte ∈ before ++ after, byte ≠ 0) : SameText (.cut before after) (cut before after) :=
  ⟨before, after, rfl, rfl, text⟩

theorem sameText_place (text : ∀ byte ∈ before ++ after, byte ≠ 0) {place : Nat}
    (inside : place ≤ (before ++ after).length) :
    SameText ⟨before ++ after, place⟩ (storageFileSeek (cut before after) place) := by
  have parts : (before ++ after).take place ++ (before ++ after).drop place = before ++ after := List.take_append_drop _ _
  have length : ((before ++ after).take place).length = place := List.length_take_of_le inside
  refine ⟨(before ++ after).take place, (before ++ after).drop place, ?_, ?_, by rwa [parts]⟩
  · exact StringStream.ext parts.symm length.symm
  · exact eq_cut parts.symm ((Nat.min_eq_left inside).trans length.symm)

theorem stringStreamTarget_eq (small : (before ++ after).length < 2 ^ 31) {offset : Int} (low : -2 ^ 31 ≤ offset)
    (high : offset < 2 ^ 31) (offsetType : StreamOffset) :
    stringStreamTarget (.cut before after) offset offsetType =
      match seekPosition before.length (before ++ after).length offset offsetType with
      | some position => (true, position)
      | none => (false, 0) := by
  have cursor : int32 before.length = before.length := by
    rw [List.length_append] at small
    exact int32_of_range (by omega) (by omega)
  have size : int32 (before ++ after).length = (before ++ after).length := int32_of_range (by omega) (by omega)
  cases offsetType with
  | fromStart =>
    rw [stringStreamTarget, seekPosition]
    by_cases ahead : 0 ≤ offset
    · rw [if_pos ahead, if_pos ahead, sizeT_of_range ahead (by omega)]
    · rw [if_neg ahead, if_neg ahead]
  | fromCurrent =>
    rw [stringStreamTarget, seekPosition]
    change (if 0 ≤ int32 (int32 before.length + offset) then _ else _) = _
    rw [cursor]
    split <;> rfl
  | fromEnd =>
    rw [stringStreamTarget, seekPosition]
    change (if 0 ≤ int32 (int32 (before ++ after).length + offset) then _ else _) = _
    rw [size]
    split <;> rfl

theorem seek_agrees (text : ∀ byte ∈ before ++ after, byte ≠ 0) (small : (before ++ after).length < 2 ^ 31)
    {offset : Int} (low : -2 ^ 31 ≤ offset) (high : offset < 2 ^ 31) (offsetType : StreamOffset) :
    (stringStreamSeek (.cut before after) offset offsetType).1 = (fileStreamSeek (cut before after) offset offsetType).1 ∧
      SameText (stringStreamSeek (.cut before after) offset offsetType).2
        (fileStreamSeek (cut before after) offset offsetType).2 := by
  have size : stringStreamSize (.cut before after) = (before ++ after).length := rfl
  have file : fileStreamSize (cut before after) = (before ++ after).length := rfl
  rw [stringStreamSeek, stringStreamTarget_eq small low high, fileStreamSeek, fileStreamTell, cut_pos, file, size]
  cases found : seekPosition before.length (before ++ after).length offset offsetType with
  | none =>
    have stays : ¬ 0 < int32 (((0 : Nat) : Int) - (before ++ after).length) := by
      rw [int32_of_range (by omega) (by omega)]
      omega
    dsimp only
    rw [if_neg stays]
    exact ⟨rfl, sameText_place text (Nat.zero_le _)⟩
  | some position =>
    have low := seekPosition_lt high found
    have diff : int32 ((position : Int) - (before ++ after).length) = position - (before ++ after).length :=
      int32_of_range (by omega) (by omega)
    dsimp only
    rw [diff]
    by_cases beyond : 0 < (position : Int) - (before ++ after).length
    · rw [if_pos beyond, if_pos beyond]
      have stop : sizeT (position - (position - (before ++ after).length : Int)) = (before ++ after).length := by
        rw [sizeT_of_range (by omega) (by omega)]
        omega
      rw [stop]
      exact ⟨rfl, sameText_place text (Nat.le_refl _)⟩
    · rw [if_neg beyond, if_neg beyond]
      exact ⟨rfl, sameText_place text (by omega)⟩

theorem writeChunks_file (chunks : List (List UInt8)) (before : List UInt8) :
    writeChunks chunks (cut before []) = (true, cut (before ++ chunks.flatten) []) := by
  dsimp only [writeChunks]
  induction chunks generalizing before with
  | nil => rw [List.foldl_nil, List.flatten_nil, List.append_nil]
  | cons chunk chunks next =>
    have written : (StreamWrite.write (cut before []) chunk).2 = cut (before ++ chunk) [] := by
      rw [show StreamWrite.write (cut before []) chunk = _ from fileStreamWrite_cut before [] chunk, List.drop_nil]
    rw [List.foldl_cons, written, next, List.flatten_cons, List.append_assoc]

theorem writeChunks_string (chunks : List (List UInt8)) (before : List UInt8) :
    writeChunks chunks (StringStream.cut before []) = (true, .cut (before ++ chunks.flatten) []) := by
  dsimp only [writeChunks]
  induction chunks generalizing before with
  | nil => rw [List.foldl_nil, List.flatten_nil, List.append_nil]
  | cons chunk chunks next =>
    have written : (StreamWrite.write (StringStream.cut before []) chunk).2 = .cut (before ++ chunk) [] := by
      rw [show StreamWrite.write (StringStream.cut before []) chunk = _ from stringStreamWrite_cut before [] chunk,
        List.drop_nil]
    rw [List.foldl_cons, written, next, List.flatten_cons, List.append_assoc]

theorem fileStreamDeleteAndInsert_min (stream : FileStream) (deleteSize : Nat)
    (callback : Option (FileStream → Bool × FileStream)) :
    fileStreamDeleteAndInsert stream deleteSize callback =
      fileStreamDeleteAndInsert stream (min deleteSize (fileStreamSize stream - fileStreamTell stream)) callback := by
  rw [fileStreamDeleteAndInsert, fileStreamDeleteAndInsert, Nat.min_assoc, Nat.min_self]

theorem stringStreamDeleteAndInsert_min (stream : StringStream) (deleteSize : Nat)
    (callback : Option (StringStream → Bool × StringStream)) :
    stringStreamDeleteAndInsert stream deleteSize callback =
      stringStreamDeleteAndInsert stream (min deleteSize (stringStreamSize stream - stringStreamTell stream))
        callback := by
  unfold stringStreamDeleteAndInsert
  rw [Nat.min_assoc, Nat.min_self]

/-- What is written in place of the deleted text; without a callback nothing is. -/
def inserted (chunks : Option (List (List UInt8))) : List UInt8 := (chunks.getD []).flatten

theorem deleteAndInsert_string (text : ∀ byte ∈ before ++ after, byte ≠ 0) (deleteSize : Nat)
    (chunks : Option (List (List UInt8))) :
    stringStreamDeleteAndInsert (.cut before after) deleteSize (chunks.map writeChunks) =
      (true, .cut (before ++ inserted chunks) (after.drop deleteSize)) := by
  have there : stringStreamSize (.cut before after) - stringStreamTell (.cut before after) = after.length := by
    rw [stringStreamSize, StringStream.cut, List.length_append]
    exact Nat.add_sub_cancel_left _ _
  have length : min deleteSize after.length = (after.take deleteSize).length := List.length_take.symm
  have parts : StringStream.cut before after = .cut before (after.take deleteSize ++ after.drop deleteSize) := by
    rw [List.take_append_drop]
  rw [stringStreamDeleteAndInsert_min, there, length, parts]
  cases chunks with
  | none =>
    refine Prod.ext rfl (StringStream.ext ?_ ?_)
    · simp only [Option.map_none, stringStreamDeleteAndInsert, stringStreamSize, stringStreamTell, StringStream.cut,
        List.length_append, Nat.add_sub_cancel_left, List.take_left, inserted, Option.getD_none, List.flatten_nil,
        List.append_nil]
      rw [Nat.min_eq_left (Nat.le_add_right _ _), ← List.drop_drop, List.drop_left, List.drop_left]
    · simp [stringStreamDeleteAndInsert, StringStream.cut, inserted]
  | some chunks =>
    exact stringStreamDeleteAndInsert_cut before _ _ _ (writeChunks_string chunks before) fun byte member =>
      text byte (List.mem_append_right _ (List.mem_of_mem_drop member))

theorem deleteAndInsert_file (small : (before ++ after).length < 2 ^ 31) (deleteSize : Nat)
    (chunks : Option (List (List UInt8)))
    (small' : (before ++ inserted chunks ++ after.drop deleteSize).length < 2 ^ 31) :
    fileStreamDeleteAndInsert (cut before after) deleteSize (chunks.map writeChunks) =
      (true, cut (before ++ inserted chunks) (after.drop deleteSize)) := by
  have there : fileStreamSize (cut before after) - fileStreamTell (cut before after) = after.length := by
    rw [fileStreamSize, fileStreamTell, cut_data, List.length_append]
    exact Nat.add_sub_cancel_left _ _
  have length : min deleteSize after.length = (after.take deleteSize).length := List.length_take.symm
  have parts : cut before after = cut before (after.take deleteSize ++ after.drop deleteSize) := by
    rw [List.take_append_drop]
  have given : fileStreamDeleteAndInsert (cut before after) deleteSize (chunks.map writeChunks) =
      fileStreamDeleteAndInsert (cut before after) deleteSize (some (writeChunks (chunks.getD []))) := by
    cases chunks <;> rfl
  rw [given, fileStreamDeleteAndInsert_min, there, length, parts]
  exact fileStreamDeleteAndInsert_cut before _ _ _ (writeChunks_file _ before)
    (by rwa [List.take_append_drop]) small'

end

def CallFits (stream : StringStream) (call : TextCall) : Prop :=
  call.IsText ∧ stream.string.length < 2 ^ 31 ∧ (stringTextCall stream call).2.string.length < 2 ^ 31

instance (stream : StringStream) (call : TextCall) : Decidable (CallFits stream call) :=
  inferInstanceAs (Decidable (_ ∧ _ ∧ _))

theorem textCall_agrees : StepAgrees stringTextCall fileTextCall CallFits SameText := by
  rintro _ _ call ⟨before, after, rfl, rfl, text⟩ ⟨isText, small, small'⟩
  cases call with
  | write bytes =>
    simp only [stringTextCall, fileTextCall, stringStreamWrite_cut, fileStreamWrite_cut]
    refine ⟨trivial, sameText_cut fun byte member => ?_⟩
    rcases List.mem_append.mp member with front | behind
    · rcases List.mem_append.mp front with old | new
      · exact text byte (List.mem_append_left _ old)
      · exact isText byte new
    · exact text byte (List.mem_append_right _ (List.mem_of_mem_drop behind))
  | read count =>
    simp only [stringTextCall, fileTextCall, stringStreamRead_cut small, fileStreamRead_cut_take]
    refine ⟨trivial, sameText_cut ?_⟩
    rwa [List.append_assoc, List.take_append_drop]
  | seek offset offsetType =>
    obtain ⟨same, kept⟩ := seek_agrees text small offset.le_toInt offset.toInt_lt offsetType
    exact ⟨congrArg StreamAnswer.success same, kept⟩
  | tell => exact ⟨rfl, sameText_cut text⟩
  | size => exact ⟨rfl, sameText_cut text⟩
  | eof =>
    refine ⟨?_, sameText_cut text⟩
    have file : fileStreamEof (cut before after) = after.isEmpty :=
      (Shows.mk rfl trivial small : Shows (.file (cut before after)) ⟨before, after⟩).eof
    exact congrArg StreamAnswer.success ((stringStreamEof_cut before after).trans file.symm)
  | clean =>
    exact ⟨rfl, [], [], rfl, eq_cut rfl rfl, fun _ member => (List.not_mem_nil member).elim⟩
  | deleteAndInsert deleteSize chunks =>
    have string := deleteAndInsert_string text deleteSize chunks
    simp only [stringTextCall, string] at small'
    have file := deleteAndInsert_file small deleteSize chunks small'
    simp only [stringTextCall, fileTextCall, string, file]
    refine ⟨trivial, sameText_cut fun byte member => ?_⟩
    rcases List.mem_append.mp member with front | behind
    · rcases List.mem_append.mp front with old | new
      · exact text byte (List.mem_append_left _ old)
      · cases chunks with
        | none => cases new
        | some chunks => exact isText byte new
    · exact text byte (List.mem_append_right _ (List.mem_of_mem_drop behind))

/-- **The string stream is the file stream**, over text without zero bytes that stays
shorter than 2 GiB: every call of a run answers alike, and the text and the cursor are
the same in the end. -/
theorem string_stream_runs_as_file (content : List UInt8) (calls : List TextCall)
    (text : ∀ byte ∈ content, byte ≠ 0)
    (fits : RunMeets stringTextCall CallFits (.cut [] content) calls) :
    (run stringTextCall (.cut [] content) calls).1 = (run fileTextCall (cut [] content) calls).1 ∧
      (run stringTextCall (.cut [] content) calls).2.string = (run fileTextCall (cut [] content) calls).2.data ∧
      (run stringTextCall (.cut [] content) calls).2.index = (run fileTextCall (cut [] content) calls).2.pos := by
  obtain ⟨answers, before, after, string, file, -⟩ := run_agrees textCall_agrees (sameText_cut text) fits
  rw [string, file]
  exact ⟨answers, rfl, rfl⟩

/-- Two bytes exchanged for three, read from behind the start. -/
theorem string_stream_exchanges_and_reads :
    let calls : List TextCall :=
      [.seek 1 .fromStart, .deleteAndInsert 2 (some [[120, 121], [122]]), .seek (-9) .fromCurrent, .read 9, .eof]
    (run stringTextCall (.cut [] [65, 66, 67, 68]) calls).1 = (run fileTextCall (cut [] [65, 66, 67, 68]) calls).1 ∧
      (run stringTextCall (.cut [] [65, 66, 67, 68]) calls).2.string =
        (run fileTextCall (cut [] [65, 66, 67, 68]) calls).2.data ∧
      (run stringTextCall (.cut [] [65, 66, 67, 68]) calls).2.index =
        (run fileTextCall (cut [] [65, 66, 67, 68]) calls).2.pos :=
  string_stream_runs_as_file _ _ (by decide +kernel) (by decide +kernel)

theorem stringTextCall_seek (stream : StringStream) (offset : Int32) (offsetType : StreamOffset) :
    (stringTextCall stream (.seek offset offsetType)).2 = (stringStreamSeek stream offset.toInt offsetType).2 :=
  rfl

theorem stringTextCall_tell (stream : StringStream) : (stringTextCall stream .tell).1 = .count stream.index :=
  rfl

theorem fileTextCall_seek (stream : FileStream) (offset : Int32) (offsetType : StreamOffset) :
    (fileTextCall stream (.seek offset offsetType)).2 = (fileStreamSeek stream offset.toInt offsetType).2 :=
  rfl

theorem fileTextCall_tell (stream : FileStream) : (fileTextCall stream .tell).1 = .count stream.pos :=
  rfl

theorem int32_wraps {x : Int} (low : 2 ^ 31 ≤ x) (high : x < 2 ^ 32) : int32 x = x - 2 ^ 32 := by
  unfold int32
  rw [Int.bmod_def]
  split <;> omega

section
variable {bytes : List UInt8} (beyond : 2 ^ 31 < bytes.length) (under : bytes.length < 2 ^ 32)
include beyond under

theorem string_seek_beyond : (stringStreamSeek (.cut bytes []) 0 .fromEnd).2.index = bytes.length := by
  have size : stringStreamSize (.cut bytes []) = bytes.length := by
    rw [stringStreamSize, StringStream.cut, List.append_nil]
  have wraps : int32 bytes.length = bytes.length - 2 ^ 32 := int32_wraps (by omega) (by omega)
  have asked : stringStreamTarget (.cut bytes []) 0 .fromEnd = (false, 0) := by
    rw [stringStreamTarget, size, int32_of_range (by omega) (by omega), if_neg (by omega)]
  obtain ⟨diff, named⟩ : ∃ diff, int32 (((0 : Nat) : Int) - bytes.length) = diff := ⟨_, rfl⟩
  have value : diff = 2 ^ 32 - bytes.length := by
    rw [← named]
    unfold int32
    rw [Int.bmod_def]
    split <;> omega
  have positive : 0 < diff := by omega
  have stop : sizeT (((0 : Nat) : Int) - diff) = bytes.length := by
    unfold sizeT
    omega
  rw [stringStreamSeek, asked, size]
  simp only [named, if_pos positive, stop]

theorem file_seek_beyond : (fileStreamSeek (cut bytes []) 0 .fromEnd).2.pos = 0 := by
  have size : fileStreamSize (cut bytes []) = bytes.length := by
    rw [fileStreamSize, cut_data, List.append_nil]
  have wraps : int32 (bytes.length + 0) = bytes.length - 2 ^ 32 := by
    exact int32_wraps (by omega) (by omega)
  have asked : seekPosition (fileStreamTell (cut bytes [])) bytes.length 0 .fromEnd = none := by
    rw [seekPosition, if_neg (by omega)]
  have start : fileStreamSeek (cut bytes []) 0 .fromEnd = (false, storageFileSeek (cut bytes []) 0) := by
    rw [fileStreamSeek, size, asked]
  rw [start]
  exact Nat.zero_min _

theorem answers_differ_beyond : (run stringTextCall stringStreamAlloc [.write bytes, .seek 0 .fromEnd, .tell]).1 ≠
      (run fileTextCall (cut [] []) [.write bytes, .seek 0 .fromEnd, .tell]).1 := by
  intro answers
  have string : stringTextCall stringStreamAlloc (.write bytes) = (.count bytes.length, .cut bytes []) := by
    simp only [stringTextCall, show stringStreamAlloc = .cut [] [] from rfl, stringStreamWrite_cut,
      List.nil_append, List.drop_nil]
  have file : fileTextCall (cut [] []) (.write bytes) = (.count bytes.length, cut bytes []) := by
    simp only [fileTextCall, fileStreamWrite_cut, List.nil_append, List.drop_nil]
  have stringTell : (stringTextCall (stringTextCall (.cut bytes []) (.seek 0 .fromEnd)).2 .tell).1 =
      .count bytes.length := by
    rw [stringTextCall_tell, stringTextCall_seek, Int32.toInt_zero, string_seek_beyond beyond under]
  have fileTell : (fileTextCall (fileTextCall (cut bytes []) (.seek 0 .fromEnd)).2 .tell).1 = .count 0 := by
    rw [fileTextCall_tell, fileTextCall_seek, Int32.toInt_zero, file_seek_beyond beyond under]
  rw [run_thrice, run_thrice, string, file, stringTell, fileTell] at answers
  simp only [List.cons.injEq, StreamAnswer.count.injEq] at answers
  have empty : bytes.length = 0 := answers.2.2.1
  rw [empty] at beyond
  exact Nat.not_lt_zero _ beyond

end

theorem exists_text (n : Nat) : ∃ bytes : List UInt8, bytes.length = n ∧ ∀ byte ∈ bytes, byte ≠ 0 := by
  refine ⟨List.replicate n 65, List.length_replicate, fun byte member => ?_⟩
  rw [List.eq_of_mem_replicate member]
  decide

/-- From 2 GiB and a byte on, a seek to the end leaves the string stream at the end
and the file stream at the start. -/
theorem streams_differ_beyond : ¬ ∀ calls : List TextCall, (∀ call ∈ calls, call.IsText) →
      (run stringTextCall stringStreamAlloc calls).1 = (run fileTextCall (cut [] []) calls).1 := by
  intro same
  obtain ⟨bytes, length, text⟩ := exists_text (2 ^ 31 + 1)
  have beyond : 2 ^ 31 < bytes.length := by
    rw [length]
    exact Nat.lt_succ_self _
  have under : bytes.length < 2 ^ 32 := by omega
  refine answers_differ_beyond beyond under (same [.write bytes, .seek 0 .fromEnd, .tell] ?_)
  intro call member
  simp only [List.mem_cons, List.not_mem_nil, or_false] at member
  rcases member with rfl | rfl | rfl
  · exact text
  · trivial
  · trivial

end Xtreme.Stream
