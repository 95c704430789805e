import Xtreme.Flipper.FlipperFormat
import Xtreme.Stream.StreamSearch

/-! Files of keys and values on a stream (`flipper_format_stream.c`): the scanners as the
source has them, over blocks of 32 bytes with a seek back to the byte that they stop at.
On a stream that shows a text they do what the functions of `FlipperFormat` do on the
text behind the cursor, wherever the blocks begin and end. -/
namespace Xtreme.Flipper.OnStream
open Xtreme.Library Xtreme.Stream

def toChar (byte : UInt8) : Char := Char.ofUInt8 byte
def asText (bytes : List UInt8) : Text := bytes.map toChar

/-- The flags of `flipper_format_stream_read_valid_key` and the key so far. -/
structure KeyScan where
  key : List UInt8
  accumulate : Bool
  newLine : Bool
  deriving DecidableEq, Repr

def keyStep (scan : KeyScan) (data : UInt8) : Scan KeyScan (List UInt8) :=
  if data = 10 then .more ⟨[], true, true⟩
  else if data = 13 then .more scan
  else if data = 35 ∧ scan.newLine then .more { scan with accumulate := false, newLine := false }
  else if data = 58 then
    if scan.newLine then .more ⟨[], false, false⟩
    else if scan.accumulate then .stop scan.key
    else .more scan
  else .more ⟨if scan.accumulate then scan.key ++ [data] else scan.key, scan.accumulate, false⟩

/-- The next key, if there is one; nothing at all when the fuel runs out. -/
def flipperFormatStreamReadValidKey (fuel : Nat) (stream : AnyStream) : Option (Option (List UInt8) × AnyStream) :=
  match scanStream lineReader keyStep fuel ⟨[], true, true⟩ stream with
  | none => none
  | some (.more _, stream) => some (none, stream)
  | some (.stop (key, ok), stream) => some (if ok then some key else none, stream)

/-- A C string ends at its first zero. -/
def cString (bytes : List UInt8) : List UInt8 := bytes.takeWhile (· ≠ 0)

/-- `flipper_format_stream_seek_to_key`, in the mode that is not strict. -/
def flipperFormatStreamSeekToKey (scanFuel : Nat) (key : List UInt8) : Nat → AnyStream → Option (Bool × AnyStream)
  | 0, _ => none
  | fuel + 1, stream =>
    if streamEof stream then some (false, stream)
    else
      match flipperFormatStreamReadValidKey scanFuel stream with
      | none => none
      | some (none, stream) => flipperFormatStreamSeekToKey scanFuel key fuel stream
      | some (some readKey, stream) =>
        if cString readKey = key then some (streamSeek stream 2 .fromCurrent)
        else flipperFormatStreamSeekToKey scanFuel key fuel stream

def flipperFormatStreamIsSpace (data : UInt8) : Bool := data = 32 || data = 9 || data = 13

/-- The state of `flipper_format_stream_read_value` and the value so far. -/
structure ValueScan where
  state : ReadValueState
  value : List UInt8
  deriving DecidableEq, Repr

/-- A stop with a value and whether it is the last one of its line, or with an error. -/
def valueStep (scan : ValueScan) (data : UInt8) : Scan ValueScan (Option (List UInt8 × Bool)) :=
  match scan.state with
  | .leadingSpace =>
    if flipperFormatStreamIsSpace data then .more scan
    else if data = 10 then .stop none
    else .more ⟨.readValue, scan.value ++ [data]⟩
  | .readValue =>
    if flipperFormatStreamIsSpace data then .more { scan with state := .trailingSpace }
    else if data = 10 then .stop (some (scan.value, true))
    else .more { scan with value := scan.value ++ [data] }
  | .trailingSpace =>
    if flipperFormatStreamIsSpace data then .more scan
    else .stop (some (scan.value, data = 10))

def flipperFormatStreamReadValue (fuel : Nat) (stream : AnyStream) :
    Option (Option (List UInt8 × Bool) × AnyStream) :=
  match scanStream lineReader valueStep fuel ⟨.leadingSpace, []⟩ stream with
  | none => none
  | some (.more scan, stream) =>
    some (if scan.state ≠ .leadingSpace ∧ streamEof stream then some (scan.value, true) else none, stream)
  | some (.stop (result, ok), stream) => some (if ok then result else none, stream)

/-- The loop of `flipper_format_stream_get_value_count`; the count is a `uint32_t`. -/
def countLoop (scanFuel : Nat) : Nat → AnyStream → Nat → Option (Option Nat × AnyStream)
  | 0, _, _ => none
  | fuel + 1, stream, count =>
    match flipperFormatStreamReadValue scanFuel stream with
    | none => none
    | some (none, stream) => some (none, stream)
    | some (some (_, last), stream) =>
      let count := (count + 1) % 2 ^ 32
      if last then some (some count, stream) else countLoop scanFuel fuel stream count

/-- `flipper_format_stream_get_value_count`: the count, where the source returns true. -/
def flipperFormatStreamGetValueCount (fuel : Nat) (stream : AnyStream) (key : List UInt8) :
    Option (Option Nat × AnyStream) :=
  let position := streamTell stream
  match flipperFormatStreamSeekToKey fuel key fuel stream with
  | none => none
  | some (found, stream) =>
    match if found then countLoop fuel fuel stream 0 else some (none, stream) with
    | none => none
    | some (count, stream) =>
      let (ok, stream) := streamSeek stream (int32 position) .fromStart
      some (if ok then count else none, stream)

/-- The loop of `flipper_format_stream_read_value_line` over values that are not strings;
`scan` is the function of the type that reads a value from its text. -/
def readLoop {α : Type} (scanFuel : Nat) (scan : Text → Option α) : Nat → AnyStream → Option (Option (List α) × AnyStream)
  | 0, stream => some (some [], stream)
  | size + 1, stream =>
    match flipperFormatStreamReadValue scanFuel stream with
    | none => none
    | some (none, stream) => some (none, stream)
    | some (some (value, last), stream) =>
      match scan (asText value) with
      | none => some (none, stream)
      | some item =>
        if last ∧ size ≠ 0 then some (none, stream)
        else (readLoop scanFuel scan size stream).map fun (items, stream) => (items.map (item :: ·), stream)

def flipperFormatStreamReadValueLine {α : Type} (fuel : Nat) (scan : Text → Option α) (stream : AnyStream)
    (key : List UInt8) (dataSize : Nat) : Option (Option (List α) × AnyStream) :=
  match flipperFormatStreamSeekToKey fuel key fuel stream with
  | none => none
  | some (false, stream) => some (none, stream)
  | some (true, stream) => readLoop fuel scan dataSize stream

theorem toChar_inj {first second : UInt8} : toChar first = toChar second ↔ first = second := by
  constructor
  · intro same
    have value : (toChar first).toNat = (toChar second).toNat := congrArg Char.toNat same
    have toNat (byte : UInt8) : (toChar byte).toNat = byte.toNat := UInt8.toNat_toUInt32 byte
    exact UInt8.toNat_inj.mp value
  · exact congrArg _

@[simp] theorem asText_nil : asText [] = [] := rfl

@[simp] theorem asText_cons (byte : UInt8) (bytes : List UInt8) : asText (byte :: bytes) = toChar byte :: asText bytes :=
  rfl

@[simp] theorem asText_append (first second : List UInt8) : asText (first ++ second) = asText first ++ asText second :=
  List.map_append

@[simp] theorem length_asText (bytes : List UInt8) : (asText bytes).length = bytes.length := List.length_map _

theorem asText_inj {first second : List UInt8} : asText first = asText second ↔ first = second :=
  (List.map_injective_iff.mpr fun _ _ => toChar_inj.mp).eq_iff

variable (byte : UInt8)

theorem toChar_eoln : toChar byte = eoln ↔ byte = 10 := @toChar_inj byte 10
theorem toChar_eolr : toChar byte = eolr ↔ byte = 13 := @toChar_inj byte 13
theorem toChar_commentMark : toChar byte = commentMark ↔ byte = 35 := @toChar_inj byte 35
theorem toChar_delimiter : toChar byte = delimiter ↔ byte = 58 := @toChar_inj byte 58
theorem toChar_space : toChar byte = ' ' ↔ byte = 32 := @toChar_inj byte 32
theorem toChar_tab : toChar byte = '\t' ↔ byte = 9 := @toChar_inj byte 9
theorem toChar_zero : toChar byte = '\x00' ↔ byte = 0 := @toChar_inj byte 0

theorem asText_cString (bytes : List UInt8) : Flipper.cString (asText bytes) = asText (cString bytes) := by
  induction bytes with
  | nil => rfl
  | cons byte bytes next =>
    rw [asText_cons, Flipper.cString, cString, List.takeWhile_cons, List.takeWhile_cons]
    by_cases ends : byte = 0
    · rw [if_neg (by simpa using (toChar_zero byte).mpr ends), if_neg (by simpa using ends)]
      rfl
    · rw [if_pos (by simpa using mt (toChar_zero byte).mp ends), if_pos (by simpa using ends)]
      exact congrArg _ next

theorem isSpace_toChar : Flipper.flipperFormatStreamIsSpace (toChar byte) = flipperFormatStreamIsSpace byte := by
  simp only [Flipper.flipperFormatStreamIsSpace, flipperFormatStreamIsSpace, toChar_space, toChar_tab, toChar_eolr]

/-! ## The scanners on a text -/

theorem scanText_key (scan : KeyScan) (bytes : List UInt8) :
    Flipper.flipperFormatStreamReadValidKey scan.accumulate scan.newLine (asText scan.key) (asText bytes) =
      match scanText keyStep scan bytes with
      | (.more _, _) => none
      | (.stop key, rest) => some (asText key, asText rest) := by
  induction bytes generalizing scan with
  | nil => rfl
  | cons data bytes next =>
    rw [asText_cons, Flipper.flipperFormatStreamReadValidKey, scanText, keyStep]
    simp only [toChar_eoln, toChar_eolr, toChar_commentMark, toChar_delimiter]
    split
    · exact next ⟨[], true, true⟩
    · split
      · exact next scan
      · split
        · exact next { scan with accumulate := false, newLine := false }
        · split
          · split
            · exact next ⟨[], false, false⟩
            · split
              · rfl
              · exact next scan
          · have longer : (if scan.accumulate then asText scan.key ++ [toChar data] else asText scan.key) =
                asText (if scan.accumulate then scan.key ++ [data] else scan.key) := by
              split
              · rw [asText_append]
                rfl
              · rfl
            rw [longer]
            exact next ⟨_, scan.accumulate, false⟩

theorem scanText_value (scan : ValueScan) (bytes : List UInt8) :
    Flipper.flipperFormatStreamReadValue scan.state (asText scan.value) (asText bytes) =
      match scanText valueStep scan bytes with
      | (.more scan, _) => if scan.state = .leadingSpace then none else some (asText scan.value, true, [])
      | (.stop none, _) => none
      | (.stop (some (value, last)), rest) => some (asText value, last, asText rest) := by
  induction bytes generalizing scan with
  | nil => rfl
  | cons data bytes next =>
    obtain ⟨state, value⟩ := scan
    have longer : asText value ++ [toChar data] = asText (value ++ [data]) := by
      rw [asText_append]
      rfl
    rw [asText_cons, scanText, valueStep]
    cases state with
    | leadingSpace =>
      rw [Flipper.flipperFormatStreamReadValue]
      simp only [toChar_eoln, isSpace_toChar, longer]
      split
      · exact next ⟨.leadingSpace, value⟩
      · split
        · rfl
        · exact next ⟨.readValue, value ++ [data]⟩
    | readValue =>
      rw [Flipper.flipperFormatStreamReadValue]
      simp only [toChar_eoln, isSpace_toChar, longer]
      split
      · exact next ⟨.trailingSpace, value⟩
      · split
        · rfl
        · exact next ⟨.readValue, value ++ [data]⟩
    | trailingSpace =>
      rw [Flipper.flipperFormatStreamReadValue]
      simp only [toChar_eoln, isSpace_toChar]
      split
      · exact next ⟨.trailingSpace, value⟩
      · rfl

/-! Both scanners go on: the one for keys stops at a delimiter behind the first character,
the one for values behind a character of a value. -/

theorem readValidKey_behind {accumulate newLine : Bool} {key text readKey behind : Text}
    (found : Flipper.flipperFormatStreamReadValidKey accumulate newLine key text = some (readKey, behind)) :
    (∃ rest, behind = delimiter :: rest) ∧ behind.length ≤ text.length ∧
      (newLine = true → behind.length < text.length) := by
  induction text generalizing accumulate newLine key with
  | nil => cases found
  | cons data text next =>
    have onward : ∀ {accumulate newLine key},
        Flipper.flipperFormatStreamReadValidKey accumulate newLine key text = some (readKey, behind) →
          (∃ rest, behind = delimiter :: rest) ∧ behind.length ≤ (data :: text).length ∧
            behind.length < (data :: text).length := by
      intro accumulate newLine key found
      obtain ⟨starts, shorter, -⟩ := next found
      exact ⟨starts, Nat.le_succ_of_le shorter, Nat.lt_succ_of_le shorter⟩
    have later : ∀ {accumulate' newLine' key'},
        Flipper.flipperFormatStreamReadValidKey accumulate' newLine' key' text = some (readKey, behind) →
          (∃ rest, behind = delimiter :: rest) ∧ behind.length ≤ (data :: text).length ∧
            (newLine = true → behind.length < (data :: text).length) :=
      fun found => ⟨(onward found).1, (onward found).2.1, fun _ => (onward found).2.2⟩
    rw [Flipper.flipperFormatStreamReadValidKey] at found
    split at found
    · exact later found
    · split at found
      · exact later found
      · split at found
        · exact later found
        · split at found
          · rename_i here
            split at found
            · exact later found
            · rename_i inside
              split at found
              · cases found
                exact ⟨⟨text, congrArg (· :: text) here⟩, Nat.le_refl _, fun starts => absurd starts inside⟩
              · exact later found
          · exact later found

theorem nextKey_behind {text readKey behind : Text} (found : nextKey text = some (readKey, behind)) :
    (∃ rest, behind = delimiter :: rest) ∧ behind.length < text.length :=
  ⟨(readValidKey_behind found).1, (readValidKey_behind found).2.2 rfl⟩

theorem readValue_behind {state : ReadValueState} {value text readValue behind : Text} {last : Bool}
    (found : Flipper.flipperFormatStreamReadValue state value text = some (readValue, last, behind)) :
    behind.length ≤ text.length ∧ (state = .leadingSpace → behind.length < text.length) := by
  induction text generalizing state value with
  | nil =>
    rw [Flipper.flipperFormatStreamReadValue] at found
    split at found
    · cases found
    · rename_i further
      cases found
      exact ⟨Nat.le_refl 0, fun leading => absurd leading further⟩
  | cons data text next =>
    have later : ∀ {state' value'},
        Flipper.flipperFormatStreamReadValue state' value' text = some (readValue, last, behind) →
          behind.length ≤ (data :: text).length ∧ (state = .leadingSpace → behind.length < (data :: text).length) :=
      fun found => ⟨Nat.le_succ_of_le (next found).1, fun _ => Nat.lt_succ_of_le (next found).1⟩
    cases state with
    | leadingSpace =>
      rw [Flipper.flipperFormatStreamReadValue] at found
      split at found
      · exact later found
      · split at found
        · cases found
        · exact later found
    | readValue =>
      rw [Flipper.flipperFormatStreamReadValue] at found
      split at found
      · exact later found
      · split at found
        · cases found
          exact ⟨Nat.le_refl _, fun leading => nomatch leading⟩
        · exact later found
    | trailingSpace =>
      rw [Flipper.flipperFormatStreamReadValue] at found
      split at found
      · exact later found
      · cases found
        exact ⟨Nat.le_refl _, fun leading => nomatch leading⟩

theorem nextValue_behind {text value behind : Text} {last : Bool} (found : nextValue text = some (value, last, behind)) :
    behind.length < text.length :=
  (readValue_behind found).2 rfl

/-! ## The functions on a stream -/

section OnStream
variable {stream : AnyStream} {before after key : List UInt8} {scanFuel fuel : Nat}

theorem readValidKey_shows (shown : Shows stream ⟨before, after⟩) (enough : after.length < fuel) :
    (∃ readKey passed rest next, after = passed ++ rest ∧
        nextKey (asText after) = some (asText readKey, asText rest) ∧
        flipperFormatStreamReadValidKey fuel stream = some (some readKey, next) ∧
        Shows next ⟨before ++ passed, rest⟩) ∨
      ∃ next, nextKey (asText after) = none ∧ flipperFormatStreamReadValidKey fuel stream = some (none, next) ∧
        Shows next ⟨before ++ after, []⟩ := by
  obtain ⟨outcome, passed, rest, scanned, split, ends⟩ := scanText_rest keyStep ⟨[], true, true⟩ after
  obtain ⟨next, scan, there⟩ := scanStream_shows lineReader_chunked shown (KeyScan.mk [] true true) enough scanned split
  have text := scanText_key ⟨[], true, true⟩ after
  rw [scanned] at text
  rw [flipperFormatStreamReadValidKey, scan]
  cases outcome with
  | more state =>
    obtain rfl : rest = [] := ends
    rw [List.append_nil] at split
    subst split
    exact Or.inr ⟨next, text, rfl, there⟩
  | stop readKey => exact Or.inl ⟨readKey, passed, rest, next, split, text, rfl, there⟩

theorem readValue_shows (shown : Shows stream ⟨before, after⟩) (enough : after.length < fuel) :
    (∃ value last passed rest next, after = passed ++ rest ∧
        nextValue (asText after) = some (asText value, last, asText rest) ∧
        flipperFormatStreamReadValue fuel stream = some (some (value, last), next) ∧
        Shows next ⟨before ++ passed, rest⟩) ∨
      ∃ passed rest next, after = passed ++ rest ∧ nextValue (asText after) = none ∧
        flipperFormatStreamReadValue fuel stream = some (none, next) ∧ Shows next ⟨before ++ passed, rest⟩ := by
  obtain ⟨outcome, passed, rest, scanned, split, ends⟩ := scanText_rest valueStep ⟨.leadingSpace, []⟩ after
  obtain ⟨next, scan, there⟩ := scanStream_shows lineReader_chunked shown (ValueScan.mk .leadingSpace []) enough scanned split
  have text := scanText_value ⟨.leadingSpace, []⟩ after
  rw [scanned] at text
  rw [flipperFormatStreamReadValue, scan]
  cases outcome with
  | more state =>
    obtain rfl : rest = [] := ends
    have ended : streamEof next = true := there.eof
    dsimp only [Scan.reached] at text ⊢
    by_cases leading : state.state = .leadingSpace
    · rw [if_pos leading] at text
      rw [if_neg fun read => read.1 leading]
      exact Or.inr ⟨passed, [], next, split, text, rfl, there⟩
    · rw [if_neg leading] at text
      rw [if_pos ⟨leading, ended⟩]
      exact Or.inl ⟨state.value, true, passed, [], next, split, text, rfl, there⟩
  | stop result =>
    cases result with
    | none => exact Or.inr ⟨passed, rest, next, split, text, rfl, there⟩
    | some result => exact Or.inl ⟨result.1, result.2, passed, rest, next, split, text, rfl, there⟩

theorem seekToKeyLoop_shows (shown : Shows stream ⟨before, after⟩) (scans : after.length < scanFuel)
    (enough : after.length < fuel) {rounds : Nat} (covers : after.length ≤ rounds) :
    (∃ passed rest next, after = passed ++ rest ∧
        seekToKeyLoop (asText key) rounds (asText after) = some (asText rest) ∧
        flipperFormatStreamSeekToKey scanFuel key fuel stream = some (true, next) ∧
        Shows next ⟨before ++ passed, rest⟩) ∨
      ∃ before' after' next, before' ++ after' = before ++ after ∧
        seekToKeyLoop (asText key) rounds (asText after) = none ∧
        flipperFormatStreamSeekToKey scanFuel key fuel stream = some (false, next) ∧
        Holds next ⟨before', after'⟩ := by
  induction fuel generalizing stream before after rounds with
  | zero => exact absurd enough (Nat.not_lt_zero _)
  | succ fuel onward =>
    rw [flipperFormatStreamSeekToKey, shown.eof]
    by_cases ended : after = []
    · subst ended
      refine Or.inr ⟨before, [], stream, rfl, ?_, rfl, shown.holds⟩
      cases rounds <;> rfl
    · obtain ⟨rounds, rfl⟩ := Nat.exists_eq_succ_of_ne_zero
        (Nat.ne_of_gt (Nat.lt_of_lt_of_le (List.length_pos_of_ne_nil ended) covers))
      rw [if_neg (by simpa using ended), seekToKeyLoop]
      rcases readValidKey_shows shown scans with
        ⟨readKey, passed, rest, middle, rfl, text, read, there⟩ | ⟨middle, text, read, there⟩
      · obtain ⟨⟨behind, starts⟩, shorter⟩ := nextKey_behind text
        rw [length_asText, length_asText] at shorter
        rw [text, read]
        dsimp only
        rw [asText_cString]
        by_cases same : cString readKey = key
        · rw [if_pos same, if_pos (asText_inj.mpr same), length_asText]
          by_cases room : 2 ≤ rest.length
          · obtain ⟨first, second, rest, rfl⟩ : ∃ first second rest', rest = first :: second :: rest' := by
              match rest, room with
              | first :: second :: rest', _ => exact ⟨first, second, rest', rfl⟩
            obtain ⟨next, seek, shown⟩ := there.seek (by decide) (by decide)
              (show _ = before ++ passed ++ [first, second] ++ rest by
                simp only [List.append_assoc, List.cons_append, List.nil_append])
              (show seekTarget _ 2 .fromCurrent = _ by
                rw [seekTarget, cut_pos]
                simp only [List.length_append, List.length_cons, List.length_nil]
                omega)
            refine Or.inl ⟨passed ++ [first, second], rest, next, ?_, ?_, by rw [seek], by rwa [← List.append_assoc]⟩
            · simp only [List.append_assoc, List.cons_append, List.nil_append]
            · rfl
          · obtain ⟨next, place, seek, shown⟩ := there.holds.seek_past_end there.text_small
              (show (rest.length : Int) < 2 by omega) (by decide)
            refine Or.inr ⟨_, _, next, (List.take_append_drop _ _).trans (List.append_assoc _ _ _), ?_, by rw [seek], shown⟩
            rw [if_neg room]
        · rw [if_neg same, if_neg (mt asText_inj.mp same)]
          rcases onward there (by omega) (by omega) (show rest.length ≤ rounds by omega) with
            ⟨passed', rest', next, rfl, loop, seek, shown⟩ | ⟨before', after', next, whole, loop, seek, held⟩
          · exact Or.inl ⟨passed ++ passed', rest', next, (List.append_assoc _ _ _).symm, loop, seek,
              by rwa [← List.append_assoc]⟩
          · exact Or.inr ⟨before', after', next, whole.trans (List.append_assoc _ _ _), loop, seek, held⟩
      · have again : flipperFormatStreamSeekToKey scanFuel key fuel middle = some (false, middle) := by
          have filled := List.length_pos_of_ne_nil ended
          obtain ⟨fuel, rfl⟩ := Nat.exists_eq_succ_of_ne_zero (show fuel ≠ 0 by omega)
          rw [flipperFormatStreamSeekToKey, there.eof]
          rfl
        rw [text, read]
        exact Or.inr ⟨before ++ after, [], middle, List.append_nil _, rfl, again, there.holds⟩

theorem seekToKey_shows (key : List UInt8) (shown : Shows stream ⟨before, after⟩) (scans : after.length < scanFuel)
    (enough : after.length < fuel) :
    (∃ passed rest next, after = passed ++ rest ∧
        Flipper.flipperFormatStreamSeekToKey (asText key) (asText after) = some (asText rest) ∧
        flipperFormatStreamSeekToKey scanFuel key fuel stream = some (true, next) ∧
        Shows next ⟨before ++ passed, rest⟩) ∨
      ∃ before' after' next, before' ++ after' = before ++ after ∧
        Flipper.flipperFormatStreamSeekToKey (asText key) (asText after) = none ∧
        flipperFormatStreamSeekToKey scanFuel key fuel stream = some (false, next) ∧
        Holds next ⟨before', after'⟩ :=
  seekToKeyLoop_shows shown scans enough (Nat.le_of_eq (length_asText after).symm)

theorem countLoop_shows (shown : Shows stream ⟨before, after⟩) (scans : after.length < scanFuel)
    (enough : after.length < fuel) {rounds count : Nat} (covers : after.length < rounds)
    (fits : count + after.length < 2 ^ 32) :
    ∃ before' after' next, before' ++ after' = before ++ after ∧ Holds next ⟨before', after'⟩ ∧
      countLoop scanFuel fuel stream count =
        some ((countValues rounds (asText after)).map (count + ·), next) := by
  induction fuel generalizing stream before after rounds count with
  | zero => exact absurd enough (Nat.not_lt_zero _)
  | succ fuel onward =>
    obtain ⟨rounds, rfl⟩ := Nat.exists_eq_succ_of_ne_zero (Nat.ne_of_gt (Nat.lt_of_le_of_lt (Nat.zero_le _) covers))
    rw [countLoop, countValues]
    rcases readValue_shows shown scans with
      ⟨value, last, passed, rest, middle, rfl, text, read, there⟩ | ⟨passed, rest, middle, rfl, text, read, there⟩
    · have shorter := nextValue_behind text
      rw [length_asText, length_asText] at shorter
      have counts : (count + 1) % 2 ^ 32 = count + 1 := Nat.mod_eq_of_lt (by omega)
      rw [text, read]
      dsimp only
      rw [counts]
      cases last with
      | true => exact ⟨before ++ passed, rest, middle, List.append_assoc _ _ _, there.holds, rfl⟩
      | false =>
        obtain ⟨before', after', next, whole, held, loop⟩ :=
          onward there (by omega) (by omega) (show rest.length < rounds by omega) (show count + 1 + rest.length < _ by omega)
        refine ⟨before', after', next, whole.trans (List.append_assoc _ _ _), held, ?_⟩
        rw [if_neg Bool.false_ne_true, if_neg Bool.false_ne_true, loop, Option.map_map]
        refine congrArg (fun counted => some (counted, next)) (Option.map_congr fun n _ => ?_)
        rw [Function.comp_apply]
        omega
    · rw [text, read]
      exact ⟨before ++ passed, rest, middle, List.append_assoc _ _ _, there.holds, rfl⟩

/-- The way back to a place, from anywhere. -/
theorem getValueCount_shows (key : List UInt8) (shown : Shows stream ⟨before, after⟩) (enough : after.length < fuel) :
    ∃ next, flipperFormatStreamGetValueCount fuel stream key =
        some ((Flipper.flipperFormatStreamSeekToKey (asText key) (asText after)).bind
          fun text => countValues (text.length + 1) text, next) ∧
      Shows next ⟨before, after⟩ := by
  have small := shown.text_small
  have back : ∀ {middle before' after'}, before' ++ after' = before ++ after → Holds middle ⟨before', after'⟩ →
      ∃ next, streamSeek middle (int32 before.length) .fromStart = (true, next) ∧ Shows next ⟨before, after⟩ := by
    intro middle before' after' whole held
    rw [List.length_append] at small
    rw [int32_of_range (by omega) (by omega)]
    exact held.seekTo (by rw [whole]; exact shown.text_small) whole
  rw [flipperFormatStreamGetValueCount, shown.holds.tell]
  rcases seekToKey_shows key shown enough enough with
    ⟨passed, rest, middle, rfl, text, seek, there⟩ | ⟨before', after', middle, whole, text, seek, held⟩
  · rw [List.length_append] at enough
    rw [List.length_append, List.length_append] at small
    obtain ⟨before', after', last, whole, held, count⟩ := countLoop_shows there
      (show rest.length < fuel by omega) (show rest.length < fuel by omega) (Nat.lt_succ_self rest.length)
      (show 0 + rest.length < _ by omega)
    obtain ⟨next, seek', there'⟩ := back (whole.trans (List.append_assoc _ _ _)) held
    refine ⟨next, ?_, there'⟩
    rw [seek]
    dsimp only
    rw [if_pos rfl, count]
    dsimp only
    rw [seek', text, Option.bind_some]
    simp
  · obtain ⟨next, seek', there'⟩ := back whole held
    refine ⟨next, ?_, there'⟩
    rw [seek]
    dsimp only
    rw [if_neg Bool.false_ne_true]
    dsimp only
    rw [seek', text]
    rfl

theorem readLoop_shows {α : Type} {scan : Text → Option α} (shown : Shows stream ⟨before, after⟩)
    (scans : after.length < scanFuel) (size : Nat) :
    ∃ next, readLoop scanFuel scan size stream = some ((readValues scan size (asText after)).map Prod.fst, next) := by
  induction size generalizing stream before after with
  | zero => exact ⟨stream, rfl⟩
  | succ size onward =>
    rw [readLoop, readValues]
    rcases readValue_shows shown scans with
      ⟨value, last, passed, rest, middle, rfl, text, read, there⟩ | ⟨passed, rest, middle, rfl, text, read, there⟩
    · rw [List.length_append] at scans
      rw [text, read]
      dsimp only
      cases scan (asText value) with
      | none => exact ⟨middle, rfl⟩
      | some item =>
        dsimp only
        by_cases ends : last = true ∧ size ≠ 0
        · rw [if_pos ends, if_pos ends]
          exact ⟨middle, rfl⟩
        · obtain ⟨next, loop⟩ := onward there (by omega)
          rw [if_neg ends, if_neg ends, loop]
          refine ⟨next, ?_⟩
          rw [Option.map_some, Option.map_map, Option.map_map]
          rfl
    · rw [text, read]
      exact ⟨middle, rfl⟩

theorem readValueLine_shows {α : Type} (key : List UInt8) (scan : Text → Option α)
    (shown : Shows stream ⟨before, after⟩) (enough : after.length < fuel) (size : Nat) :
    ∃ next, flipperFormatStreamReadValueLine fuel scan stream key size =
      some (((Flipper.flipperFormatStreamSeekToKey (asText key) (asText after)).bind (readValues scan size)).map Prod.fst,
        next) := by
  rw [flipperFormatStreamReadValueLine]
  rcases seekToKey_shows key shown enough enough with
    ⟨passed, rest, middle, rfl, text, seek, there⟩ | ⟨before', after', middle, whole, text, seek, held⟩
  · rw [List.length_append] at enough
    rw [text, seek]
    exact readLoop_shows there (by omega) size
  · rw [text, seek]
    exact ⟨middle, rfl⟩

end OnStream

end Xtreme.Flipper.OnStream
