import Xtreme.Stream.StringRefinement

/-! Writing, inserting and deleting at the cursor (`stream_write_char`,
`stream_insert_string` and `stream_delete` of `stream.c`), on a stream of any kind. -/
namespace Xtreme.Stream
open Library

def streamWriteChar (stream : AnyStream) (c : UInt8) : Nat × AnyStream := streamWrite stream [c]

/-- `stream_write_struct`: a callback that succeeds if all of the data is written. -/
def streamWriteStruct (data : List UInt8) (σ : Type) [StreamWrite σ] (stream : σ) : Bool × σ :=
  let written := StreamWrite.write stream data
  (written.1 = data.length, written.2)

def streamInsertString (stream : AnyStream) (string : List UInt8) : Bool × AnyStream :=
  streamDeleteAndInsert stream 0 (streamWriteStruct string)

/-- `stream_delete`, which has no callback. -/
def streamDelete (stream : AnyStream) (size : Nat) : Bool × AnyStream :=
  match stream with
  | .file stream => let done := fileStreamDeleteAndInsert stream size none; (done.1, .file done.2)
  | .buffered stream => let done := bufferedFileStreamDeleteAndInsert stream size none; (done.1, .buffered done.2)
  | .string stream => let done := stringStreamDeleteAndInsert stream size none; (done.1, .string done.2)

theorem streamWriteStruct_writes (data : List UInt8) : Writes (streamWriteStruct data) data := by
  constructor
  · intro before
    have written : StreamWrite.write (cut before []) data = _ := fileStreamWrite_cut before [] data
    simp only [streamWriteStruct, written, List.drop_nil, decide_true]
  · intro before
    have written : StreamWrite.write (StringStream.cut before []) data = _ := stringStreamWrite_cut before [] data
    simp only [streamWriteStruct, written, List.drop_nil, decide_true]

section
variable {stream : AnyStream} {before after : List UInt8}

theorem Shows.insertString (shown : Shows stream ⟨before, after⟩) {string : List UInt8}
    (small : (before ++ string ++ after).length < 2 ^ 31) (text : ∀ byte ∈ after, byte ≠ 0) :
    ∃ next, streamInsertString stream string = (true, next) ∧ Shows next ⟨before ++ string, after⟩ :=
  @Shows.deleteAndInsert stream before after [] string shown _ (streamWriteStruct_writes string) small text

theorem Shows.delete (shown : Shows stream ⟨before, after⟩) (text : ∀ byte ∈ before ++ after, byte ≠ 0) (size : Nat) :
    ∃ next, streamDelete stream size = (true, next) ∧ Shows next ⟨before, after.drop size⟩ := by
  obtain ⟨holds, settled, small⟩ := shown
  have small : (before ++ after).length < 2 ^ 31 := small
  have inserted_none : inserted none = [] := rfl
  have shorter : (before ++ after.drop size).length < 2 ^ 31 := by
    rw [List.length_append] at small ⊢
    rw [List.length_drop]
    omega
  have fewer : (before ++ inserted none ++ after.drop size).length < 2 ^ 31 := by
    rwa [inserted_none, List.append_nil]
  have plain : fileStreamDeleteAndInsert (cut before after) size none = (true, cut before (after.drop size)) := by
    have done := deleteAndInsert_file small size none fewer
    rwa [inserted_none, List.append_nil] at done
  cases stream with
  | file stream =>
    obtain rfl : stream = cut before after := holds
    exact ⟨.file _, by rw [streamDelete, plain], rfl, trivial, shorter⟩
  | buffered stream =>
    have done : bufferedFileStreamDeleteAndInsert stream size none =
        (true, ⟨cut before (after.drop size), streamCacheAlloc, false⟩) := by
      simp only [bufferedFileStreamDeleteAndInsert, represents_settle holds small, plain, Bool.not_true,
        Bool.false_eq_true, if_false]
    exact ⟨.buffered ⟨cut before (after.drop size), streamCacheAlloc, false⟩, by rw [streamDelete, done],
      represents_self rfl rfl rfl, rfl, shorter⟩
  | string stream =>
    obtain rfl : stream = .cut before after := holds
    have done : stringStreamDeleteAndInsert (.cut before after) size none =
        (true, .cut before (after.drop size)) := by
      have done := deleteAndInsert_string text size none
      rwa [inserted_none, List.append_nil] at done
    exact ⟨.string _, by rw [streamDelete, done], rfl, trivial, shorter⟩

end
end Xtreme.Stream
