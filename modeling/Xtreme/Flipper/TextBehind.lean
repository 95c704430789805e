import Xtreme.Flipper.LineRuns

/-! Reading the lines at the start of a file that goes on with any text: each value is
read, and the cursor stays at the end of its line. -/
namespace Xtreme.Flipper
open Xtreme.Library

/-- The cursor has the keys of `lines` in front of it, and `behind` comes behind them. -/
structure Heads (lines : List Line) (behind : Text) (ff : FlipperFormat) : Prop where
  plain : ∀ line ∈ lines, line.Plain
  next : nextKey ff.rest = nextKey (fileText lines ++ behind)
  room : lines.length ≤ ff.rest.length

def FlipperFormat.atLineEnd (ff : FlipperFormat) (behind : Text) : FlipperFormat := { ff with rest := eoln :: behind }

section
variable {lines later : List Line} {behind key : Text} {values : List Text} {ff : FlipperFormat}

theorem length_le_fileText_append (lines : List Line) (behind : Text) :
    lines.length ≤ (fileText lines ++ behind).length := by
  rw [List.length_append]
  exact Nat.le_add_right_of_le (length_le_fileText lines)

theorem opened_heads (plain : ∀ line ∈ lines, line.Plain) (behind : Text) :
    Heads lines behind (FlipperFormat.opened (fileText lines ++ behind)) :=
  ⟨plain, rfl, length_le_fileText_append lines behind⟩

theorem atLineEnd_heads (plain : ∀ line ∈ lines, line.Plain) (ff : FlipperFormat) (behind : Text) :
    Heads lines behind (ff.atLineEnd (fileText lines ++ behind)) :=
  ⟨plain, nextKey_eoln _, Nat.le_succ_of_le (length_le_fileText_append lines behind)⟩

namespace Heads
variable (heads : Heads lines behind ff)
include heads

theorem seek (found : seekLine key lines = some (values, later)) :
    flipperFormatStreamSeekToKey key ff.rest = some (valuesText values ++ eoln :: (fileText later ++ behind)) := by
  have there := seekToKeyLoop_lines key heads.plain heads.room heads.next fun missing => by
    rw [found] at missing
    cases missing
  rw [flipperFormatStreamSeekToKey, there, found]
  simp [behindKey]

theorem goesOn (found : seekLine key lines = some (values, later)) :
    Heads later behind (ff.atLineEnd (fileText later ++ behind)) :=
  atLineEnd_heads (fun line member => heads.plain line ((seekLine_suffix found).subset member)) ff behind

theorem readHex {data : List (BitVec 8)} (few : data.length < 2 ^ 16)
    (found : seekLine key lines = some (data.map hexText, later)) :
    flipperFormatReadHex key data.length ff = (.ok data, ff.atLineEnd (fileText later ++ behind)) := by
  rw [flipperFormatReadHex, Nat.mod_eq_of_lt few]
  exact readValueLine_printed (heads.seek found) fun byte _ => hexText_scans byte

theorem readUint32 {number : BitVec 32} (found : seekLine key lines = some ([decimalText number.toNat], later)) :
    flipperFormatReadUint32 key ff = (.ok number, ff.atLineEnd (fileText later ++ behind)) := by
  have line := @readValueLine_printed _ (fun number : BitVec 32 => decimalText number.toNat) scanUint32 [number] key
    _ ff (heads.seek found) fun number _ => decimalText_scans number
  exact Effect.bind_of_ok line

theorem readString {data : Text} (filled : data ≠ []) (oneLine : eoln ∉ data) (plainEnd : eolr ∉ data)
    (found : seekLine key lines = some ([data], later)) :
    flipperFormatReadString key ff = (.ok data, ff.atLineEnd (fileText later ++ behind)) := by
  have line : flipperFormatStreamReadLine (data ++ eoln :: (fileText later ++ behind)) =
      some (data, eoln :: (fileText later ++ behind)) := by
    have reads : ∀ c ∈ data, decide (c ≠ eoln) = true := fun c member =>
      decide_eq_true fun same => oneLine (same ▸ member)
    have keeps : data.filter (· ≠ eolr) = data := List.filter_eq_self.mpr fun c member =>
      decide_eq_true fun same => plainEnd (same ▸ member)
    rw [flipperFormatStreamReadLine, List.takeWhile_append_of_pos reads, List.dropWhile_append_of_pos reads,
      List.takeWhile_cons_of_neg (by simp), List.append_nil, keeps, if_neg filled, List.dropWhile_cons_of_neg (by simp)]
  have read : (flipperFormatStreamSeekToKey key ff.rest).bind flipperFormatStreamReadLine =
      some (data, eoln :: (fileText later ++ behind)) := by
    rw [heads.seek found, valuesText_singleton]
    exact line
  unfold flipperFormatReadString
  rw [Effect.observe_bind, id_eq, read]
  rfl

end Heads
end
end Xtreme.Flipper
