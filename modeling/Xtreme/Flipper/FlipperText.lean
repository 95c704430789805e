import Mathlib.Data.List.TakeWhile
import Xtreme.Flipper.FlipperFormat

/-! What is read from a file that was written line by line. A file of valid lines
is known by its lines: the scanner of keys finds the first line of a key
(`seekToKeyLoop_lines`), and the scanner of values finds what was printed on it
(`readValues_printed`, `countValues_printed`). -/
namespace Xtreme.Flipper
open Xtreme.Library

/-- A key that the scanner can find: it is told apart from a comment and from the
delimiter that ends it, and a C string. -/
def ValidKey (key : Text) : Prop :=
  key ≠ [] ∧ key.head? ≠ some commentMark ∧ (∀ c ∈ key, c ≠ delimiter ∧ c ≠ eoln ∧ c ≠ eolr) ∧ '\x00' ∉ key

instance (key : Text) : Decidable (ValidKey key) :=
  haveI : Decidable (∀ c ∈ key, c ≠ delimiter ∧ c ≠ eoln ∧ c ≠ eolr) := List.decidableBAll _ key
  inferInstanceAs (Decidable (_ ∧ _ ∧ _ ∧ _))

/-- A value that the scanner takes for one. -/
def ValidValue (value : Text) : Prop :=
  value ≠ [] ∧ ∀ c ∈ value, flipperFormatStreamIsSpace c = false ∧ c ≠ eoln

instance (value : Text) : Decidable (ValidValue value) :=
  haveI : Decidable (∀ c ∈ value, flipperFormatStreamIsSpace c = false ∧ c ≠ eoln) := List.decidableBAll _ value
  inferInstanceAs (Decidable (_ ∧ _))

def Line.Valid : Line → Prop
  | comment data => eoln ∉ data
  | value key values => ValidKey key ∧ ∀ value ∈ values, ValidValue value

instance : (line : Line) → Decidable line.Valid
  | .comment data => inferInstanceAs (Decidable (eoln ∉ data))
  | .value key values =>
    haveI : Decidable (∀ value ∈ values, ValidValue value) := List.decidableBAll _ values
    inferInstanceAs (Decidable (ValidKey key ∧ ∀ value ∈ values, ValidValue value))

def seekLine (key : Text) : List Line → Option (List Text × List Line)
  | [] => none
  | .comment _ :: lines => seekLine key lines
  | .value readKey values :: lines => if readKey = key then some (values, lines) else seekLine key lines

@[simp] theorem valuesText_nil : valuesText [] = [] := rfl

@[simp] theorem valuesText_singleton (value : Text) : valuesText [value] = value := by
  simp [valuesText]

@[simp] theorem valuesText_cons_cons (value next : Text) (values : List Text) :
    valuesText (value :: next :: values) = value ++ ' ' :: valuesText (next :: values) := by
  simp [valuesText]

@[simp] theorem fileText_nil : fileText [] = [] := rfl

@[simp] theorem fileText_cons (line : Line) (lines : List Line) :
    fileText (line :: lines) = line.text ++ fileText lines := rfl

theorem eoln_notMem_valuesText {values : List Text} (valid : ∀ value ∈ values, ValidValue value) :
    eoln ∉ valuesText values := by
  have alone : ∀ value ∈ values, eoln ∉ value := fun value member found => ((valid value member).2 eoln found).2 rfl
  clear valid
  induction values with
  | nil => exact List.not_mem_nil
  | cons value rest next =>
    have here := alone value List.mem_cons_self
    have there := next fun other member => alone other (List.mem_cons_of_mem _ member)
    cases rest with
    | nil => rwa [valuesText_singleton]
    | cons other rest =>
      rw [valuesText_cons_cons, List.mem_append, List.mem_cons]
      rintro (found | same | found)
      · exact here found
      · revert same
        decide
      · exact there found

theorem readValidKey_skip {skipped : Text} (oneLine : eoln ∉ skipped) (key rest : Text) :
    flipperFormatStreamReadValidKey false false key (skipped ++ eoln :: rest) = nextKey rest := by
  induction skipped with
  | nil =>
    rw [List.nil_append, flipperFormatStreamReadValidKey, if_pos rfl, nextKey]
  | cons data skipped next =>
    obtain ⟨other, later⟩ := List.ne_and_not_mem_of_not_mem_cons oneLine
    rw [List.cons_append, flipperFormatStreamReadValidKey, if_neg (Ne.symm other)]
    simp [next later]

theorem readValidKey_key {key : Text} (valid : ∀ c ∈ key, c ≠ delimiter ∧ c ≠ eoln ∧ c ≠ eolr)
    (before rest : Text) :
    flipperFormatStreamReadValidKey true false before (key ++ delimiter :: rest) =
      some (before ++ key, delimiter :: rest) := by
  induction key generalizing before with
  | nil =>
    rw [List.append_nil]
    rfl
  | cons data key next =>
    obtain ⟨notDelimiter, notEoln, notEolr⟩ := valid data List.mem_cons_self
    rw [List.cons_append, flipperFormatStreamReadValidKey, if_neg notEoln, if_neg notEolr,
      if_neg (fun comment => Bool.noConfusion comment.2), if_neg notDelimiter, if_pos rfl,
      next fun c member => valid c (List.mem_cons_of_mem _ member)]
    rw [List.append_assoc, List.singleton_append]

theorem nextKey_key {key : Text} (valid : ValidKey key) (rest : Text) :
    nextKey (key ++ delimiter :: rest) = some (key, delimiter :: rest) := by
  obtain ⟨filled, told, plain, -⟩ := valid
  obtain ⟨data, key, rfl⟩ := List.exists_cons_of_ne_nil filled
  obtain ⟨notDelimiter, notEoln, notEolr⟩ := plain data List.mem_cons_self
  have notComment : ¬ (data = commentMark ∧ true) := fun comment => told (congrArg some comment.1)
  rw [nextKey, List.cons_append, flipperFormatStreamReadValidKey, if_neg notEoln, if_neg notEolr,
    if_neg notComment, if_neg notDelimiter, readValidKey_key fun c member => plain c (List.mem_cons_of_mem _ member)]
  rfl

theorem cString_eq {text : Text} (plain : '\x00' ∉ text) : cString text = text := by
  refine List.takeWhile_eq_self_iff.mpr fun c member => decide_eq_true fun zero => plain ?_
  rwa [← zero]

theorem nextKey_comment {data : Text} (valid : eoln ∉ data) (rest : Text) :
    nextKey ((Line.comment data).text ++ rest) = nextKey rest := by
  have oneLine : eoln ∉ ' ' :: data := List.not_mem_cons_of_ne_of_not_mem (by decide) valid
  have skips := readValidKey_skip oneLine [] rest
  rw [← skips]
  simp [Line.text, nextKey, flipperFormatStreamReadValidKey, commentMark, eoln, eolr]

theorem nextKey_delimiter {skipped : Text} (oneLine : eoln ∉ skipped) (rest : Text) :
    nextKey (delimiter :: (skipped ++ eoln :: rest)) = nextKey rest := by
  rw [← readValidKey_skip oneLine [] rest]
  rfl

@[simp] theorem nextKey_eoln (rest : Text) : nextKey (eoln :: rest) = nextKey rest := rfl

def behindKey (values : List Text) (lines : List Line) : Text :=
  valuesText values ++ eoln :: fileText lines

theorem fileText_value (key : Text) (values : List Text) (lines : List Line) :
    fileText (.value key values :: lines) = key ++ delimiter :: ' ' :: behindKey values lines := by
  simp [Line.text, behindKey]

theorem seekToKeyLoop_none {key text : Text} {fuel : Nat} (absent : nextKey text = none) :
    seekToKeyLoop key fuel text = none := by
  cases fuel with
  | zero => rfl
  | succ fuel => rw [seekToKeyLoop, absent]

/-- A line that the scanner of keys passes as one, whatever its values are. -/
def Line.Plain : Line → Prop
  | comment data => eoln ∉ data
  | value key values => ValidKey key ∧ eoln ∉ valuesText values

theorem Line.Valid.plain {line : Line} (valid : line.Valid) : line.Plain := by
  cases line with
  | comment data => exact valid
  | value key values => exact ⟨valid.1, eoln_notMem_valuesText valid.2⟩

/-- The lines say where a key is found, for a text in front of them that holds no key.
What is behind them counts only where they do not have the key. -/
theorem seekToKeyLoop_lines (key : Text) {lines : List Line} (plain : ∀ line ∈ lines, line.Plain)
    {fuel : Nat} (enough : lines.length ≤ fuel) {text behind : Text}
    (start : nextKey text = nextKey (fileText lines ++ behind))
    (ends : seekLine key lines = none →
      ∀ fuel text, nextKey text = nextKey behind → seekToKeyLoop key fuel text = none) :
    seekToKeyLoop key fuel text =
      (seekLine key lines).map fun (values, later) => behindKey values later ++ behind := by
  induction lines generalizing fuel text with
  | nil => exact ends rfl fuel text start
  | cons line lines next =>
    have here := plain line List.mem_cons_self
    have there := fun other member => plain other (List.mem_cons_of_mem line member)
    cases line with
    | comment data =>
      rw [fileText_cons, List.append_assoc] at start
      exact next there (Nat.le_of_succ_le enough) (start.trans (nextKey_comment here _)) ends
    | value readKey values =>
      obtain ⟨fuel, rfl⟩ := Nat.exists_eq_succ_of_ne_zero (Nat.ne_of_gt (Nat.lt_of_lt_of_le (Nat.succ_pos _) enough))
      rw [fileText_value, List.append_assoc, List.cons_append, List.cons_append, nextKey_key here.1] at start
      rw [seekLine] at ends
      rw [seekToKeyLoop, start, seekLine]
      simp only [cString_eq here.1.2.2.2]
      by_cases found : readKey = key
      · simp [found]
      · rw [if_neg found] at ends ⊢
        simp only [if_neg found]
        have oneLine : eoln ∉ ' ' :: valuesText values := List.not_mem_cons_of_ne_of_not_mem (by decide) here.2
        have skips := nextKey_delimiter oneLine (fileText lines ++ behind)
        refine next there (Nat.le_of_succ_le_succ enough) ?_ ends
        rw [behindKey, List.append_assoc]
        exact skips

theorem readValue_value {value : Text}
    (valid : ∀ c ∈ value, flipperFormatStreamIsSpace c = false ∧ c ≠ eoln) (before rest : Text) :
    flipperFormatStreamReadValue .readValue before (value ++ rest) =
      flipperFormatStreamReadValue .readValue (before ++ value) rest := by
  induction value generalizing before with
  | nil => rw [List.nil_append, List.append_nil]
  | cons data value next =>
    obtain ⟨noSpace, notEoln⟩ := valid data List.mem_cons_self
    rw [List.cons_append, flipperFormatStreamReadValue, noSpace, if_neg Bool.false_ne_true, if_neg notEoln,
      next fun c member => valid c (List.mem_cons_of_mem _ member), List.append_assoc, List.singleton_append]

theorem nextValue_value {value : Text} (valid : ValidValue value) (rest : Text) :
    nextValue (value ++ rest) = flipperFormatStreamReadValue .readValue value rest := by
  obtain ⟨filled, plain⟩ := valid
  obtain ⟨data, value, rfl⟩ := List.exists_cons_of_ne_nil filled
  obtain ⟨noSpace, notEoln⟩ := plain data List.mem_cons_self
  rw [nextValue, List.cons_append, flipperFormatStreamReadValue, noSpace, if_neg notEoln, readValue_value fun c member => plain c (List.mem_cons_of_mem _ member)]
  rfl

theorem nextValue_last {value : Text} (valid : ValidValue value) (rest : Text) :
    nextValue (value ++ eoln :: rest) = some (value, true, eoln :: rest) := by
  rw [nextValue_value valid]
  rfl

theorem nextValue_before {value next : Text} (valid : ValidValue value) (valid' : ValidValue next) (rest : Text) :
    nextValue (value ++ ' ' :: (next ++ rest)) = some (value, false, next ++ rest) := by
  obtain ⟨filled, plain⟩ := valid'
  obtain ⟨data, next, rfl⟩ := List.exists_cons_of_ne_nil filled
  obtain ⟨noSpace, notEoln⟩ := plain data List.mem_cons_self
  rw [nextValue_value valid, flipperFormatStreamReadValue, if_pos (by decide), List.cons_append,
    flipperFormatStreamReadValue, noSpace, if_neg Bool.false_ne_true, decide_eq_false notEoln]

theorem valuesText_cons (value : Text) (values : List Text) :
    ∃ text, valuesText (value :: values) = value ++ text := by
  cases values with
  | nil => exact ⟨[], by rw [valuesText_singleton, List.append_nil]⟩
  | cons next values => exact ⟨_, valuesText_cons_cons value next values⟩

theorem nextValue_several {value next : Text} {values : List Text} (valid : ValidValue value)
    (valid' : ValidValue next) (rest : Text) :
    nextValue (valuesText (value :: next :: values) ++ rest) =
      some (value, false, valuesText (next :: values) ++ rest) := by
  obtain ⟨text, shape⟩ := valuesText_cons next values
  rw [valuesText_cons_cons, shape, List.append_assoc, List.cons_append, List.append_assoc]
  exact nextValue_before valid valid' _

theorem countValues_values {values : List Text} (filled : values ≠ []) (valid : ∀ value ∈ values, ValidValue value)
    {fuel : Nat} (enough : values.length ≤ fuel) (rest : Text) :
    countValues fuel (valuesText values ++ eoln :: rest) = some values.length := by
  induction values generalizing fuel with
  | nil => exact absurd rfl filled
  | cons value values next =>
    have here := valid value List.mem_cons_self
    obtain ⟨fuel, rfl⟩ := Nat.exists_eq_succ_of_ne_zero (Nat.ne_of_gt (Nat.lt_of_lt_of_le (Nat.succ_pos _) enough))
    cases values with
    | nil =>
      rw [valuesText_singleton, countValues, nextValue_last here]
      rfl
    | cons other values =>
      have there := fun item member => valid item (List.mem_cons_of_mem value member)
      rw [countValues, nextValue_several here (there other List.mem_cons_self)]
      simp [next (List.cons_ne_nil _ _) there (Nat.le_of_succ_le_succ enough)]

theorem countValues_eoln (fuel : Nat) (rest : Text) : countValues fuel (eoln :: rest) = none := by
  cases fuel <;> rfl

section
variable {α : Type} {print : α → Text} {scan : Text → Option α} {items : List α}

def Scans (print : α → Text) (scan : Text → Option α) (item : α) : Prop :=
  ValidValue (print item) ∧ scan (print item) = some item

theorem readValues_printed (scans : ∀ item ∈ items, Scans print scan item) (rest : Text) :
    readValues scan items.length (valuesText (items.map print) ++ eoln :: rest) = some (items, eoln :: rest) := by
  induction items with
  | nil => rfl
  | cons item items next =>
    obtain ⟨valid, back⟩ := scans item List.mem_cons_self
    have later := next fun other member => scans other (List.mem_cons_of_mem _ member)
    cases items with
    | nil =>
      rw [List.map_cons, List.map_nil, valuesText_singleton, List.length_singleton, readValues, nextValue_last valid]
      simp [back, readValues]
    | cons other items =>
      obtain ⟨valid', -⟩ := scans other (List.mem_cons_of_mem _ List.mem_cons_self)
      rw [List.map_cons, List.map_cons, List.length_cons, readValues, nextValue_several valid valid',
        ← List.map_cons]
      simp only [back, later]
      simp

end

theorem hexDigit_nibble {digit : Nat} (small : digit < 16) :
    hexCharToHexNibble (hexDigit digit) = some digit ∧ flipperFormatStreamIsSpace (hexDigit digit) = false ∧
      hexDigit digit ≠ eoln := by
  revert digit
  decide

theorem hexText_scans (byte : BitVec 8) : Scans hexText scanHex byte := by
  have high := @hexDigit_nibble (byte.toNat / 16) (by omega)
  have low := @hexDigit_nibble (byte.toNat % 16) (by omega)
  refine ⟨⟨List.cons_ne_nil _ _, ?_⟩, ?_⟩
  · simp only [hexText, List.mem_cons, List.not_mem_nil, or_false, forall_eq_or_imp, forall_eq]
    exact ⟨high.2, low.2⟩
  · have whole : 16 * (byte.toNat / 16) + byte.toNat % 16 = byte.toNat := Nat.div_add_mod _ _
    simp [hexText, scanHex, hexCharToUint8, high.1, low.1, whole]

theorem boolText_scans (data : Bool) : Scans boolText scanBool data := by
  cases data <;> exact ⟨by decide, by decide⟩

theorem digit_char {digit : Nat} (small : digit < 10) :
    isDigit (Char.ofNat (digit + 48)) = true ∧ (Char.ofNat (digit + 48)).toNat - 48 = digit ∧
      isVerticalSpace (Char.ofNat (digit + 48)) = false ∧
      flipperFormatStreamIsSpace (Char.ofNat (digit + 48)) = false ∧ Char.ofNat (digit + 48) ≠ eoln ∧
      Char.ofNat (digit + 48) ≠ '-' ∧ Char.ofNat (digit + 48) ≠ '+' := by
  revert digit
  decide

theorem scanSign_digit {c : Char} (noMinus : c ≠ '-') (noPlus : c ≠ '+') (rest : Text) :
    scanSign (c :: rest) = (false, c :: rest) := by
  unfold scanSign
  split
  · rename_i same
    exact absurd (List.cons.inj same).1 noMinus
  · rename_i same
    exact absurd (List.cons.inj same).1 noPlus
  · rfl

theorem scanUint32_digits {digits : List Nat} (small : ∀ digit ∈ digits, digit < 10) (filled : digits ≠ [])
    (room : numeralValue 10 digits < 2 ^ 32) :
    scanUint32 (digits.map fun digit => Char.ofNat (digit + 48)) =
      some (BitVec.ofNat 32 (numeralValue 10 digits)) := by
  have chars : ∀ c ∈ digits.map (fun digit => Char.ofNat (digit + 48)), isDigit c = true := by
    intro c member
    obtain ⟨digit, inside, rfl⟩ := List.mem_map.mp member
    exact (digit_char (small digit inside)).1
  have back : (digits.map fun digit => Char.ofNat (digit + 48)).map (fun c => c.toNat - 48) = digits := by
    rw [List.map_map]
    exact (List.map_congr_left fun digit inside => (digit_char (small digit inside)).2.1).trans (List.map_id _)
  have sign : scanSign ((digits.map fun digit => Char.ofNat (digit + 48)).dropWhile isVerticalSpace) =
      (false, digits.map fun digit => Char.ofNat (digit + 48)) := by
    obtain ⟨first, rest, rfl⟩ := List.exists_cons_of_ne_nil filled
    obtain ⟨-, -, noVertical, -, -, noMinus, noPlus⟩ := digit_char (small first List.mem_cons_self)
    rw [List.map_cons, List.dropWhile_cons_of_neg (by rw [noVertical]; exact Bool.false_ne_true)]
    exact scanSign_digit noMinus noPlus _
  unfold scanUint32
  simp only [sign, List.takeWhile_eq_self_iff.mpr chars, back, filled, ↓reduceIte, Nat.not_le.mpr room,
    Bool.false_eq_true]

theorem decimalText_scans (number : BitVec 32) :
    Scans (fun number : BitVec 32 => decimalText number.toNat) scanUint32 number := by
  have value := @numeralValue_numeral 10 9 number.toNat (Nat.lt_of_lt_of_le number.isLt (by decide))
  have small : ∀ digit ∈ numeral 10 9 number.toNat, digit < 10 :=
    fun digit member => digit_lt_of_mem_numeral (by decide) member
  have filled := @numeral_ne_nil 10 9 number.toNat
  refine ⟨⟨?_, ?_⟩, ?_⟩
  · exact mt List.map_eq_nil_iff.mp filled
  · intro c member
    obtain ⟨digit, inside, rfl⟩ := List.mem_map.mp member
    obtain ⟨-, -, -, noSpace, notEoln, -⟩ := digit_char (small digit inside)
    exact ⟨noSpace, notEoln⟩
  · have scanned := scanUint32_digits small filled (by rw [value]; exact number.isLt)
    rw [value, BitVec.ofNat_toNat] at scanned
    exact scanned

end Xtreme.Flipper
