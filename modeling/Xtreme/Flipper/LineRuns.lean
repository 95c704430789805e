import Xtreme.Flipper.FlipperText

/-! Reading a file of valid lines: what a program that reads sees, in terms of the
lines, and where it leaves the cursor. -/
namespace Xtreme.Flipper
open Xtreme.Library
open Effect (Yields)

/-- The keys that the cursor has in front of it are those of `lines`. -/
structure Ahead (all lines : List Line) (ff : FlipperFormat) : Prop where
  valid : ∀ line ∈ all, line.Valid
  content : ff.content = fileText all
  within : lines <:+ all
  next : nextKey ff.rest = nextKey (fileText lines)
  room : lines.length ≤ ff.rest.length

theorem length_le_fileText (lines : List Line) : lines.length ≤ (fileText lines).length := by
  induction lines with
  | nil => exact Nat.le_refl 0
  | cons line lines next =>
    have ends : 0 < line.text.length := by
      cases line <;> rw [Line.text, List.length_append] <;> exact Nat.succ_pos _
    rw [fileText_cons, List.length_append, List.length_cons]
    omega

theorem opened_ahead {all : List Line} (valid : ∀ line ∈ all, line.Valid) :
    Ahead all all (FlipperFormat.opened (fileText all)) :=
  ⟨valid, rfl, List.suffix_refl _, rfl, length_le_fileText all⟩

theorem length_le_valuesText {values : List Text} (valid : ∀ value ∈ values, ValidValue value) :
    values.length ≤ (valuesText values).length := by
  induction values with
  | nil => exact Nat.le_refl 0
  | cons value values next =>
    have filled : 0 < value.length := List.length_pos_iff.mpr (valid value List.mem_cons_self).1
    have there := next fun other member => valid other (List.mem_cons_of_mem value member)
    cases values with
    | nil => rwa [valuesText_singleton]
    | cons other values =>
      rw [valuesText_cons_cons, List.length_append, List.length_cons (a := value), List.length_cons (a := ' ')]
      omega

theorem writeCommentCstr_valid {data : String} (oneLine : eoln ∉ data.toList) :
    (flipperFormatWriteCommentCstr data).Valid := oneLine

section
variable {key : Text} (valid : ValidKey key)
include valid

theorem writeHex_valid (data : List (BitVec 8)) : (flipperFormatWriteHex key data).Valid := by
  refine ⟨valid, fun value member => ?_⟩
  obtain ⟨byte, -, rfl⟩ := List.mem_map.mp member
  exact (hexText_scans byte).1

theorem writeUint32_valid (data : BitVec 32) : (flipperFormatWriteUint32 key data).Valid := by
  refine ⟨valid, fun value member => ?_⟩
  rw [List.mem_singleton.mp member]
  exact (decimalText_scans data).1

theorem writeBool_valid (data : Bool) : (flipperFormatWriteBool key data).Valid := by
  refine ⟨valid, fun value member => ?_⟩
  rw [List.mem_singleton.mp member]
  exact (boolText_scans data).1

end

def hasKey (key : Text) (lines : List Line) : Bool := (seekLine key lines).isSome

theorem seekLine_append {key : Text} {lines : List Line} (missing : seekLine key lines = none) (later : List Line) :
    seekLine key (lines ++ later) = seekLine key later := by
  induction lines with
  | nil => rfl
  | cons line lines next =>
    cases line with
    | comment data => exact next missing
    | value readKey values =>
      rw [seekLine] at missing
      split at missing
      · cases missing
      · rename_i other
        rw [List.cons_append, seekLine, if_neg other, next missing]

theorem seekLine_suffix {key : Text} {lines later : List Line} {values : List Text}
    (found : seekLine key lines = some (values, later)) : later <:+ lines := by
  induction lines with
  | nil => cases found
  | cons line lines next =>
    cases line with
    | comment data => exact (next found).trans (List.suffix_cons _ _)
    | value readKey values' =>
      rw [seekLine] at found
      split at found
      · cases found
        exact List.suffix_cons _ _
      · exact (next found).trans (List.suffix_cons _ _)

theorem seekLine_valid {key : Text} {lines later : List Line} {values : List Text}
    (valid : ∀ line ∈ lines, line.Valid) (found : seekLine key lines = some (values, later)) :
    ∀ value ∈ values, ValidValue value := by
  induction lines with
  | nil => cases found
  | cons line lines next =>
    have there := fun other member => valid other (List.mem_cons_of_mem line member)
    cases line with
    | comment data => exact next there found
    | value readKey values' =>
      rw [seekLine] at found
      split at found
      · cases found
        exact (valid _ List.mem_cons_self).2
      · exact next there found

section
variable {α : Type} {print : α → Text} {scan : Text → Option α} {items : List α}

theorem readValueLine_printed {key rest : Text} {ff : FlipperFormat}
    (found : flipperFormatStreamSeekToKey key ff.rest = some (valuesText (items.map print) ++ eoln :: rest))
    (scans : ∀ item ∈ items, Scans print scan item) :
    flipperFormatStreamReadValueLine scan key items.length ff = (.ok items, { ff with rest := eoln :: rest }) := by
  have read : (flipperFormatStreamSeekToKey key ff.rest).bind (readValues scan items.length) =
      some (items, eoln :: rest) := by
    rw [found]
    exact readValues_printed scans _
  unfold flipperFormatStreamReadValueLine
  rw [Effect.observe_bind, id_eq, read]
  rfl

end

namespace Ahead
variable {all lines later : List Line} {ff : FlipperFormat} {key : Text} {values : List Text}

theorem seek (ahead : Ahead all lines ff) (key : Text) : flipperFormatStreamSeekToKey key ff.rest =
      (seekLine key lines).map fun (values, later) => behindKey values later := by
  have plain := fun line member => (ahead.valid line (ahead.within.subset member)).plain
  have found := @seekToKeyLoop_lines key lines plain _ ahead.room ff.rest [] (by rw [List.append_nil, ahead.next])
    fun _ fuel text last => seekToKeyLoop_none last
  simp only [List.append_nil] at found
  exact found

theorem comment {data : Text} (ahead : Ahead all (.comment data :: lines) ff) : Ahead all lines ff where
  valid := ahead.valid
  content := ahead.content
  within := (List.suffix_cons _ _).trans ahead.within
  next := ahead.next.trans (nextKey_comment (ahead.valid _ (ahead.within.subset List.mem_cons_self)) _)
  room := Nat.le_of_succ_le ahead.room

variable (ahead : Ahead all lines ff)
include ahead

theorem keyExist (key : Text) :
    Yields (flipperFormatKeyExist key) (fun found after => found = hasKey key all ∧ after = ff) ff := by
  have start : Ahead all all (FlipperFormat.opened ff.content) := by
    rw [ahead.content]
    exact opened_ahead ahead.valid
  have found : flipperFormatStreamSeekToKey key ff.content = _ := start.seek key
  refine ⟨?_, rfl⟩
  beta_reduce
  rw [found, Option.isSome_map]
  rfl

theorem valueCount (found : seekLine key lines = some (values, later)) : Yields (flipperFormatGetValueCount key)
      (fun count after => count = (if values = [] then none else some values.length) ∧ after = ff) ff := by
  have valid := seekLine_valid (fun line member => ahead.valid line (ahead.within.subset member)) found
  refine ⟨?_, rfl⟩
  beta_reduce
  rw [ahead.seek, found]
  change countValues ((behindKey values later).length + 1) (behindKey values later) = _
  rw [behindKey]
  by_cases empty : values = []
  · rw [empty]
    exact countValues_eoln _ _
  · rw [if_neg empty]
    refine countValues_values empty valid ?_ _
    have short := length_le_valuesText valid
    rw [List.length_append]
    omega

/-- A number of which the key is not found. -/
theorem readUint32_missing (missing : seekLine key lines = none) :
    flipperFormatReadUint32 key ff = (.error .refused, ff) := by
  have line : flipperFormatStreamReadValueLine scanUint32 key 1 ff = (.error .refused, ff) := by
    unfold flipperFormatStreamReadValueLine
    rw [Effect.observe_bind, id_eq, ahead.seek, missing]
    rfl
  rw [flipperFormatReadUint32, Effect.bind_run, line]

omit ahead

section
variable {α : Type} {print : α → Text} {scan : Text → Option α} {items : List α}

theorem readValueLine (ahead : Ahead all lines ff) (found : seekLine key lines = some (items.map print, later))
    (scans : ∀ item ∈ items, Scans print scan item) :
    Yields (flipperFormatStreamReadValueLine scan key items.length)
      (fun data after => data = items ∧ Ahead all later after) ff := by
  have read := readValueLine_printed ((ahead.seek key).trans (by rw [found]; rfl)) scans
  exact (Yields.iff_of_ok read).mpr ⟨rfl, ahead.valid, ahead.content, (seekLine_suffix found).trans ahead.within,
    nextKey_eoln _, Nat.le_succ_of_le (length_le_fileText later)⟩

end

include ahead

theorem readHex {data : List (BitVec 8)}
    (found : seekLine key lines = some ((data.take (data.length % 2 ^ 16)).map hexText, later)) :
    Yields (flipperFormatReadHex key data.length)
      (fun read after => read = data.take (data.length % 2 ^ 16) ∧ Ahead all later after) ff := by
  have line := ahead.readValueLine found fun byte _ => hexText_scans byte
  rwa [List.length_take, Nat.min_eq_left (Nat.mod_le _ _)] at line

theorem readHexByte {byte : BitVec 8} (found : seekLine key lines = some ([hexText byte], later)) :
    Yields (flipperFormatReadHexByte key) (fun read after => read = byte ∧ Ahead all later after) ff := by
  have line := @readHex all lines later ff key ahead [byte] found
  refine line.bind ?_
  rintro _ after ⟨rfl, ahead⟩
  exact ⟨rfl, ahead⟩

theorem readUint32 {number : BitVec 32} (found : seekLine key lines = some ([decimalText number.toNat], later)) :
    Yields (flipperFormatReadUint32 key) (fun read after => read = number ∧ Ahead all later after) ff := by
  have line := @readValueLine all lines later ff key _ (fun number : BitVec 32 => decimalText number.toNat) scanUint32
    [number] ahead found fun number _ => decimalText_scans number
  refine line.bind ?_
  rintro _ after ⟨rfl, ahead⟩
  exact ⟨rfl, ahead⟩

theorem readBool {data : Bool} (found : seekLine key lines = some ([boolText data], later)) :
    Yields (flipperFormatReadBool key) (fun read after => read = data ∧ Ahead all later after) ff := by
  have line := @readValueLine all lines later ff key _ _ scanBool [data] ahead found fun data _ => boolText_scans data
  refine line.bind ?_
  rintro _ after ⟨rfl, ahead⟩
  exact ⟨rfl, ahead⟩

end Ahead

end Xtreme.Flipper
