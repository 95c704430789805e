import Xtreme.Flipper.KeyLines

/-! How many values a key has. The count of a line is that of its pieces between spaces,
and a read of several values never goes past the last of them, from whatever place in
front of the line it is asked for. -/
namespace Xtreme.Flipper
open Xtreme.Stream

/-- The values of a line: what stands between spaces. -/
def valuesOf (raw : Text) : List Text := (raw.splitOnP flipperFormatStreamIsSpace).filter (· ≠ [])

section Values
variable {c : Char} {raw value more : Text}

@[simp] theorem valuesOf_nil : valuesOf [] = [] := rfl

theorem valuesOf_space (space : flipperFormatStreamIsSpace c = true) : valuesOf (c :: raw) = valuesOf raw := by
  rw [valuesOf, List.splitOnP_cons_eq_if_modifyHead, if_pos space]
  rfl

theorem valuesOf_filled (plain : flipperFormatStreamIsSpace c = false) : valuesOf (c :: raw) ≠ [] := by
  obtain ⟨first, others, pieces⟩ := List.exists_cons_of_ne_nil (List.splitOnP_ne_nil flipperFormatStreamIsSpace raw)
  rw [valuesOf, List.splitOnP_cons_eq_if_modifyHead, if_neg (by rw [plain]; decide), pieces]
  exact List.cons_ne_nil _ _

theorem valuesOf_value (plain : ∀ c ∈ value, flipperFormatStreamIsSpace c = false) (filled : value ≠ []) :
    valuesOf value = [value] := by
  rw [valuesOf, List.splitOnP_eq_singleton plain]
  exact List.filter_cons_of_pos (decide_eq_true filled)

theorem valuesOf_value_space (plain : ∀ c ∈ value, flipperFormatStreamIsSpace c = false) (filled : value ≠ [])
    (space : flipperFormatStreamIsSpace c = true) : valuesOf (value ++ c :: raw) = value :: valuesOf raw := by
  rw [valuesOf, List.splitOnP_append_cons_of_forall_mem plain c space]
  exact List.filter_cons_of_pos (decide_eq_true filled)

structure ReadsFirst (line more value later : Text) (read : Option (Text × Bool × Text)) : Prop where
  values : valuesOf line = value :: valuesOf later
  oneLine : eoln ∉ later
  read : read = some (value, decide (valuesOf later = []), later ++ eoln :: more)

theorem readValue_trailing (oneLine : eoln ∉ raw) (value more : Text) :
    ∃ later, valuesOf raw = valuesOf later ∧ eoln ∉ later ∧
      flipperFormatStreamReadValue .trailingSpace value (raw ++ eoln :: more) =
        some (value, decide (valuesOf later = []), later ++ eoln :: more) := by
  induction raw with
  | nil => exact ⟨[], rfl, List.not_mem_nil, rfl⟩
  | cons c raw next =>
    obtain ⟨notEoln, later⟩ := List.ne_and_not_mem_of_not_mem_cons oneLine
    rw [List.cons_append, flipperFormatStreamReadValue]
    cases space : flipperFormatStreamIsSpace c with
    | true =>
      rw [valuesOf_space space]
      exact next later
    | false =>
      refine ⟨c :: raw, rfl, oneLine, ?_⟩
      rw [decide_eq_false (Ne.symm notEoln), decide_eq_false (valuesOf_filled space)]
      rfl

theorem readValue_reading (oneLine : eoln ∉ raw) (plain : ∀ c ∈ value, flipperFormatStreamIsSpace c = false)
    (filled : value ≠ []) (more : Text) :
    ∃ value' later, ReadsFirst (value ++ raw) more value' later
      (flipperFormatStreamReadValue .readValue value (raw ++ eoln :: more)) := by
  induction raw generalizing value with
  | nil =>
    refine ⟨value, [], ?_, List.not_mem_nil, rfl⟩
    rw [List.append_nil, valuesOf_value plain filled, valuesOf_nil]
  | cons c raw next =>
    obtain ⟨notEoln, later⟩ := List.ne_and_not_mem_of_not_mem_cons oneLine
    rw [List.cons_append, flipperFormatStreamReadValue]
    cases space : flipperFormatStreamIsSpace c with
    | true =>
      obtain ⟨rest, same, oneLine, read⟩ := readValue_trailing later value more
      refine ⟨value, rest, ?_, oneLine, ?_⟩
      · rw [valuesOf_value_space plain filled space, same]
      · rw [if_pos rfl, read]
    | false =>
      rw [if_neg (Ne.symm notEoln)]
      have plain' : ∀ c' ∈ value ++ [c], flipperFormatStreamIsSpace c' = false := by
        intro c' member
        rcases List.mem_append.mp member with inside | last
        · exact plain c' inside
        · rwa [List.mem_singleton.mp last]
      obtain ⟨value', rest, reads⟩ := next later plain' (List.append_ne_nil_of_right_ne_nil _ (List.cons_ne_nil _ _))
      rw [List.append_assoc] at reads
      exact ⟨value', rest, reads⟩

theorem nextValue_line (oneLine : eoln ∉ raw) (more : Text) :
    (valuesOf raw = [] ∧ nextValue (raw ++ eoln :: more) = none) ∨
      ∃ value later, ReadsFirst raw more value later (nextValue (raw ++ eoln :: more)) := by
  induction raw with
  | nil => exact Or.inl ⟨rfl, rfl⟩
  | cons c raw next =>
    obtain ⟨notEoln, later⟩ := List.ne_and_not_mem_of_not_mem_cons oneLine
    have step : nextValue (c :: raw ++ eoln :: more) =
        if flipperFormatStreamIsSpace c then nextValue (raw ++ eoln :: more)
        else flipperFormatStreamReadValue .readValue [c] (raw ++ eoln :: more) := by
      rw [nextValue, List.cons_append, flipperFormatStreamReadValue, if_neg (Ne.symm notEoln)]
      rfl
    rw [step]
    cases space : flipperFormatStreamIsSpace c with
    | true =>
      rcases next later with ⟨empty, none⟩ | ⟨value, rest, reads⟩
      · exact Or.inl ⟨(valuesOf_space space).trans empty, none⟩
      · exact Or.inr ⟨value, rest, (valuesOf_space space).trans reads.values, reads.oneLine, reads.read⟩
    | false =>
      have plain : ∀ c' ∈ [c], flipperFormatStreamIsSpace c' = false := by
        intro c' member
        rwa [List.mem_singleton.mp member]
      exact Or.inr (readValue_reading later plain (List.cons_ne_nil _ _) more)

theorem countValues_line (oneLine : eoln ∉ raw) (filled : valuesOf raw ≠ []) {fuel : Nat}
    (enough : (valuesOf raw).length ≤ fuel) (more : Text) :
    countValues fuel (raw ++ eoln :: more) = some (valuesOf raw).length := by
  induction fuel generalizing raw with
  | zero => exact absurd (List.eq_nil_of_length_eq_zero (Nat.le_zero.mp enough)) filled
  | succ fuel onward =>
    rcases nextValue_line oneLine more with ⟨empty, -⟩ | ⟨value, later, reads⟩
    · exact absurd empty filled
    · rw [reads.values] at enough ⊢
      rw [countValues, reads.read]
      dsimp only
      by_cases last : valuesOf later = []
      · rw [decide_eq_true last, last]
        rfl
      · rw [decide_eq_false last, onward reads.oneLine last (Nat.le_of_succ_le_succ enough)]
        rfl

theorem readValues_line {α : Type} {scan : Text → Option α} (oneLine : eoln ∉ raw) {size : Nat} {items : List α}
    {rest : Text} (read : readValues scan size (raw ++ eoln :: more) = some (items, rest)) :
    size ≤ (valuesOf raw).length := by
  induction size generalizing raw items rest with
  | zero => exact Nat.zero_le _
  | succ size onward =>
    rw [readValues] at read
    rcases nextValue_line oneLine more with ⟨-, none⟩ | ⟨value, later, reads⟩
    · rw [none] at read
      cases read
    · rw [reads.read] at read
      rw [reads.values]
      dsimp only at read
      cases scanned : scan value with
      | none =>
        rw [scanned] at read
        cases read
      | some item =>
        rw [scanned] at read
        dsimp only at read
        split at read
        · cases read
        · obtain ⟨⟨items', rest'⟩, read', -⟩ := Option.map_eq_some_iff.mp read
          exact Nat.succ_le_succ (onward reads.oneLine read')

theorem length_valuesOf_le (raw : Text) : (valuesOf raw).length ≤ raw.length + 1 := by
  have pieces : (raw.splitOnP flipperFormatStreamIsSpace).length ≤ raw.length + 1 := by
    induction raw with
    | nil => exact Nat.le_refl 1
    | cons c raw next =>
      rw [List.splitOnP_cons_eq_if_modifyHead]
      split
      · exact Nat.succ_le_succ next
      · rw [List.length_modifyHead]
        exact Nat.le_succ_of_le next
  exact Nat.le_trans (List.length_filter_le _ _) pieces

end Values

structure ValueLine (key content front raw : Text) : Prop where
  found : ∃ name more, FirstKeyLine key content front name (' ' :: (raw ++ eoln :: more))
  oneLine : eoln ∉ raw

/-- The text does not start with something that reads as a line of the key. -/
def Aside (key text : Text) : Prop :=
  ∀ name behind, text = name ++ delimiter :: behind → Keyed name → cString (shownName name) ≠ key

section Lines
variable {key front raw before after : Text}

theorem ValueLine.seek (line : ValueLine key (before ++ after) front raw) (cursor : before.length ≤ front.length)
    (aside : before.length < front.length → Aside key after) :
    ∃ more, flipperFormatStreamSeekToKey key after = some (raw ++ eoln :: more) := by
  obtain ⟨name, more, found⟩ := line.found
  -- the text between the cursor and the line
  obtain ⟨front', rfl, split⟩ : ∃ front', front = before ++ front' ∧
      after = front' ++ (name ++ delimiter :: ' ' :: (raw ++ eoln :: more)) := by
    rcases List.append_eq_append_iff.mp found.split with ⟨tail, longer, rest⟩ | ⟨tail, longer, rest⟩
    · exact ⟨tail, longer, rest⟩
    · have none : tail = [] := by
        rw [longer, List.length_append] at cursor
        exact List.eq_nil_of_length_eq_zero (by omega)
      subst none
      exact ⟨[], by rw [longer, List.append_nil, List.append_nil], by simpa using rest.symm⟩
  have here : FirstKeyLine key after front' name (' ' :: (raw ++ eoln :: more)) := by
    refine ⟨⟨?_, split, found.keyed, found.names⟩, fun {other name' behind'} other_line => ?_⟩
    · rcases found.starts with empty | ends
      · exact Or.inl (List.append_eq_nil_iff.mp empty).2
      · by_cases empty : front' = []
        · exact Or.inl empty
        · rw [List.getLast?_append_of_ne_nil _ empty] at ends
          exact Or.inr ends
    · rw [List.length_append] at aside
      rcases other_line.starts with rfl | ends
      · by_contra shorter
        exact aside (by omega) name' behind' other_line.split other_line.keyed other_line.names
      · have whole : KeyLine key (before ++ after) (before ++ other) name' behind' :=
          ⟨Or.inr (by rw [List.getLast?_append, ends]; rfl), by rw [other_line.split, List.append_assoc],
            other_line.keyed, other_line.names⟩
        have longer := found.first whole
        rw [List.length_append, List.length_append] at longer
        omega
  have finds : Finds key after (flipperFormatStreamSeekToKey key after) := seekToKeyLoop_finds _ (Nat.le_refl _)
  rcases finds with ⟨_, _, behind, found', value⟩ | ⟨absent, -⟩
  · obtain rfl := here.unique found'
    exact ⟨more, value⟩
  · exact absurd here.toKeyLine (absent _ _ _)

theorem ValueLine.aside (line : ValueLine key (before ++ after) front raw)
    (starts : before = [] ∨ before.getLast? = some eoln) (cursor : before.length < front.length) : Aside key after := by
  intro name behind split keyed names
  obtain ⟨_, _, found⟩ := line.found
  have here : KeyLine key (before ++ after) before name behind := ⟨starts, by rw [split], keyed, names⟩
  exact absurd (found.first here) (Nat.not_le.mpr cursor)

theorem shownName_eq {name : Text} (plain : eolr ∉ name) : shownName name = name :=
  List.filter_eq_self.mpr fun _ member => decide_eq_true fun here => plain (here ▸ member)

theorem ValidKey.shown (valid : ValidKey key) : shownName key = key :=
  shownName_eq fun member => (valid.2.2.1 eolr member).2.2 rfl

theorem ValidKey.keyed (valid : ValidKey key) : Keyed key :=
  ⟨fun member => (valid.2.2.1 eoln member).2.1 rfl, fun member => (valid.2.2.1 delimiter member).1 rfl,
    valid.shown.symm ▸ valid.1, valid.shown.symm ▸ valid.2.1⟩

theorem ValidKey.names (valid : ValidKey key) : cString (shownName key) = key := by
  rw [valid.shown, cString_eq valid.2.2.2]

theorem comment_not_keyed {name tail data : Text} (split : commentMark :: data = name ++ delimiter :: tail) :
    ¬ Keyed name := by
  intro keyed
  cases name with
  | nil => exact keyed.filled rfl
  | cons c name =>
    obtain ⟨rfl, -⟩ := List.cons.inj split
    refine keyed.told ?_
    rw [shownName_cons (by decide), List.head?_cons]

theorem written_valueLine {lines later : List Line} {values : List Text}
    (valid : ∀ line ∈ lines ++ .value key values :: later, line.Valid) (first : seekLine key lines = none) :
    ValueLine key (fileText (lines ++ .value key values :: later)) (fileText lines) (valuesText values) := by
  have here := valid (.value key values) (List.mem_append_right _ List.mem_cons_self)
  refine ⟨⟨key, fileText later, ?_⟩, eoln_notMem_valuesText here.2⟩
  induction lines with
  | nil =>
    rw [List.nil_append, fileText_value]
    exact keyLine_here here.1.keyed here.1.names
  | cons line lines next =>
    have there := valid line List.mem_cons_self
    have valid' := fun other member => valid other (List.mem_cons_of_mem line member)
    rw [List.cons_append, fileText_cons, fileText_cons]
    cases line with
    | comment data =>
      have found := next valid' first
      have oneLine : eoln ∉ commentMark :: ' ' :: data :=
        List.not_mem_cons_of_ne_of_not_mem (by decide) (List.not_mem_cons_of_ne_of_not_mem (by decide) there)
      have behind := found.behind_line oneLine fun name tail split keyed => absurd keyed (comment_not_keyed split)
      rw [Line.text, List.append_assoc, List.append_assoc]
      exact behind
    | value other others =>
      rw [seekLine] at first
      split at first
      · cases first
      · rename_i differs
        have found := next valid' first
        have oneLine : eoln ∉ other ++ delimiter :: ' ' :: valuesText others := by
          rw [List.mem_append, not_or]
          exact ⟨there.1.keyed.oneLine, List.not_mem_cons_of_ne_of_not_mem (by decide)
            (List.not_mem_cons_of_ne_of_not_mem (by decide) (eoln_notMem_valuesText there.2))⟩
        have behind := found.behind_line oneLine fun name tail split keyed => by
          rw [← name_unique there.1.keyed keyed split, there.1.names]
          exact differs
        have text : ∀ rest, (Line.value other others).text ++ rest =
            other ++ delimiter :: ' ' :: valuesText others ++ eoln :: rest := by
          simp [Line.text]
        rw [text, text]
        exact behind

end Lines

section OnStream
open OnStream (asText)
variable {stream : AnyStream} {before after : List UInt8} {fuel : Nat} {front raw : Text}

/-- **The values of a key are counted** from a place in front of its line, which the count
leaves, and a read succeeds only for as many as there are. -/
theorem counts_the_values (key : List UInt8) (shown : Shows stream ⟨before, after⟩) (enough : after.length < fuel)
    (line : ValueLine (asText key) (asText (before ++ after)) front raw) (cursor : before.length ≤ front.length)
    (aside : before.length < front.length → Aside (asText key) (asText after)) (filled : valuesOf raw ≠ []) :
    (∃ next, OnStream.flipperFormatStreamGetValueCount fuel stream key = some (some (valuesOf raw).length, next) ∧
        Shows next ⟨before, after⟩) ∧
      ∀ (α : Type) (scan : Text → Option α) (size : Nat) (items : List α) (next : AnyStream),
        OnStream.flipperFormatStreamReadValueLine fuel scan stream key size = some (some items, next) →
          size ≤ (valuesOf raw).length := by
  rw [OnStream.asText_append] at line
  rw [← OnStream.length_asText before] at cursor aside
  obtain ⟨more, seek⟩ := line.seek cursor aside
  constructor
  · obtain ⟨next, count, there⟩ := OnStream.getValueCount_shows key shown enough
    refine ⟨next, ?_, there⟩
    have short := length_valuesOf_le raw
    rw [count, seek, Option.bind_some, countValues_line line.oneLine filled ?_ more]
    rw [List.length_append]
    omega
  · intro α scan size items next read
    obtain ⟨next', loop⟩ := OnStream.readValueLine_shows key scan shown enough size
    rw [loop, seek] at read
    obtain ⟨same, -⟩ := Prod.mk.inj (Option.some.inj read)
    obtain ⟨⟨items', rest⟩, values, -⟩ := Option.map_eq_some_iff.mp same
    exact readValues_line line.oneLine values

/-- The values of `K` in a file with another key in front, from its beginning. -/
theorem two_values_counted : (∃ next, OnStream.flipperFormatStreamGetValueCount 13
          (.file (cut [] [65, 58, 32, 49, 10, 75, 58, 32, 49, 32, 50, 10])) [75] = some (some 2, next) ∧
        Shows next ⟨[], [65, 58, 32, 49, 10, 75, 58, 32, 49, 32, 50, 10]⟩) ∧
      ∀ (α : Type) (scan : Text → Option α) (size : Nat) (items : List α) (next : AnyStream),
        OnStream.flipperFormatStreamReadValueLine 13 scan
            (.file (cut [] [65, 58, 32, 49, 10, 75, 58, 32, 49, 32, 50, 10])) [75] size = some (some items, next) →
          size ≤ 2 := by
  have line : ValueLine (asText [75]) (asText ([] ++ [65, 58, 32, 49, 10, 75, 58, 32, 49, 32, 50, 10]))
      (fileText [.value ['A'] [['1']]]) (valuesText [['1'], ['2']]) := by
    have written : ValueLine ['K'] (fileText ([.value ['A'] [['1']]] ++ .value ['K'] [['1'], ['2']] :: []))
        (fileText [.value ['A'] [['1']]]) (valuesText [['1'], ['2']]) := written_valueLine (by decide) (by decide)
    exact written
  have shown : Shows (.file (cut [] [65, 58, 32, 49, 10, 75, 58, 32, 49, 32, 50, 10]))
      ⟨[], [65, 58, 32, 49, 10, 75, 58, 32, 49, 32, 50, 10]⟩ := ⟨rfl, trivial, by decide⟩
  exact counts_the_values [75] shown (by decide) line (Nat.zero_le _) (line.aside (Or.inl rfl)) (by decide)

/-- From within a line, the rest of it may read as a line of the key. -/
theorem count_reads_rest_of_line :
    ¬ ∀ (key before after : List UInt8) (front raw : Text) (fuel : Nat), after.length < fuel →
      ValueLine (asText key) (asText (before ++ after)) front raw → before.length ≤ front.length → valuesOf raw ≠ [] →
      ∃ next, OnStream.flipperFormatStreamGetValueCount fuel (.file (cut before after)) key =
        some (some (valuesOf raw).length, next) := by
  intro counts
  have line : ValueLine (asText [75]) (asText ([65] ++ [75, 58, 32, 49, 10, 75, 58, 32, 49, 32, 50, 10]))
      (fileText [.value ['A', 'K'] [['1']]]) (valuesText [['1'], ['2']]) := by
    have written : ValueLine ['K'] (fileText ([.value ['A', 'K'] [['1']]] ++ .value ['K'] [['1'], ['2']] :: []))
        (fileText [.value ['A', 'K'] [['1']]]) (valuesText [['1'], ['2']]) := written_valueLine (by decide) (by decide)
    exact written
  obtain ⟨next, count⟩ := counts [75] [65] [75, 58, 32, 49, 10, 75, 58, 32, 49, 32, 50, 10] _ _ 13 (by decide) line
    (by decide) (by decide)
  have one : (OnStream.flipperFormatStreamGetValueCount 13
      (.file (cut [65] [75, 58, 32, 49, 10, 75, 58, 32, 49, 32, 50, 10])) [75]).map Prod.fst = some (some 1) := by
    decide +kernel
  rw [count] at one
  exact absurd (Option.some.inj (Option.some.inj one)) (by decide)

end OnStream

end Xtreme.Flipper
