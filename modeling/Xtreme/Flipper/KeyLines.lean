import Xtreme.Flipper.FlipperFormatStream
import Xtreme.Flipper.FlipperText

/-! Which line a search for a key finds. A key line starts a line, is not a comment and
has a delimiter behind a name that is not empty, carriage returns apart; the search goes
to the first one of its key, and two characters on from the delimiter. -/
namespace Xtreme.Flipper
open Xtreme.Stream

/-- What the scanner keeps of a name. -/
def shownName (name : Text) : Text := name.filter (· ≠ eolr)

/-- A name that the scanner takes for a key, in front of a delimiter. -/
structure Keyed (name : Text) : Prop where
  oneLine : eoln ∉ name
  first : delimiter ∉ name
  filled : shownName name ≠ []
  told : (shownName name).head? ≠ some commentMark

structure KeyLine (key text front name behind : Text) : Prop where
  starts : front = [] ∨ front.getLast? = some eoln
  split : text = front ++ (name ++ delimiter :: behind)
  keyed : Keyed name
  names : cString (shownName name) = key

structure FirstKeyLine (key text front name behind : Text) : Prop extends KeyLine key text front name behind where
  first : ∀ {front' name' behind'}, KeyLine key text front' name' behind' → front.length ≤ front'.length

/-- No delimiter of the line stands behind a name. -/
def Keyless (line : Text) : Prop := ∀ name behind, line = name ++ delimiter :: behind → ¬ Keyed name

theorem shownName_cons {c : Char} (kept : c ≠ eolr) (name : Text) : shownName (c :: name) = c :: shownName name :=
  List.filter_cons_of_pos (decide_eq_true kept)

@[simp] theorem shownName_eolr (name : Text) : shownName (eolr :: name) = shownName name := rfl

theorem readValidKey_passes {accumulate : Bool} {line : Text} (quiet : accumulate = false ∨ delimiter ∉ line)
    (oneLine : eoln ∉ line) (key rest : Text) :
    flipperFormatStreamReadValidKey accumulate false key (line ++ eoln :: rest) = nextKey rest ∧
      flipperFormatStreamReadValidKey accumulate false key line = none := by
  induction line generalizing key with
  | nil => exact ⟨by rw [List.nil_append, flipperFormatStreamReadValidKey, if_pos rfl, nextKey], rfl⟩
  | cons data line next =>
    obtain ⟨notEoln, later⟩ := List.ne_and_not_mem_of_not_mem_cons oneLine
    have quiet' : accumulate = false ∨ delimiter ∉ line := quiet.imp_right fun absent member =>
      absent (List.mem_cons_of_mem _ member)
    rw [List.cons_append, flipperFormatStreamReadValidKey, flipperFormatStreamReadValidKey, if_neg (Ne.symm notEoln),
      if_neg (Ne.symm notEoln)]
    by_cases ignored : data = eolr
    · rw [if_pos ignored, if_pos ignored]
      exact next quiet' later key
    · have inside : ¬ (data = commentMark ∧ false = true) := fun comment => Bool.noConfusion comment.2
      rw [if_neg ignored, if_neg ignored, if_neg inside, if_neg inside]
      by_cases here : data = delimiter
      · have off : accumulate = false := quiet.resolve_right fun absent => absent (here ▸ List.mem_cons_self)
        subst off
        rw [if_pos here, if_pos here]
        exact next (Or.inl rfl) later key
      · rw [if_neg here, if_neg here]
        exact next quiet' later _

theorem keyless_eolr {line : Text} (keyless : Keyless (eolr :: line)) : Keyless line := by
  intro name behind split keyed
  refine keyless (eolr :: name) behind (congrArg (eolr :: ·) split) ⟨?_, ?_, keyed.filled, keyed.told⟩
  · exact List.not_mem_cons_of_ne_of_not_mem (by decide) keyed.oneLine
  · exact List.not_mem_cons_of_ne_of_not_mem (by decide) keyed.first

theorem nextKey_keyless {line : Text} (keyless : Keyless line) (oneLine : eoln ∉ line) (rest : Text) :
    nextKey (line ++ eoln :: rest) = nextKey rest ∧ nextKey line = none := by
  induction line with
  | nil => exact ⟨rfl, rfl⟩
  | cons data line next =>
    obtain ⟨notEoln, later⟩ := List.ne_and_not_mem_of_not_mem_cons oneLine
    change flipperFormatStreamReadValidKey true true [] (data :: (line ++ eoln :: rest)) = nextKey rest ∧
      flipperFormatStreamReadValidKey true true [] (data :: line) = none
    rw [flipperFormatStreamReadValidKey, flipperFormatStreamReadValidKey, if_neg (Ne.symm notEoln),
      if_neg (Ne.symm notEoln)]
    by_cases ignored : data = eolr
    · subst ignored
      exact next (keyless_eolr keyless) later
    · rw [if_neg ignored, if_neg ignored]
      by_cases comment : data = commentMark ∧ true
      · rw [if_pos comment, if_pos comment]
        exact readValidKey_passes (Or.inl rfl) later _ _
      · rw [if_neg comment, if_neg comment]
        by_cases here : data = delimiter
        · rw [if_pos here, if_pos here]
          exact readValidKey_passes (Or.inl rfl) later _ _
        · rw [if_neg here, if_neg here]
          refine readValidKey_passes (Or.inr fun member => ?_) later _ _
          -- a delimiter behind the first character would make it a key
          obtain ⟨name, behind, rfl, absent⟩ := List.eq_append_cons_of_mem member
          refine keyless (data :: name) behind rfl ⟨?_, ?_, ?_, ?_⟩
          · exact fun found => oneLine (List.mem_append_left _ found)
          · exact List.not_mem_cons_of_ne_of_not_mem (Ne.symm here) absent
          · rw [shownName_cons ignored]
            exact List.cons_ne_nil _ _
          · rw [shownName_cons ignored]
            exact fun same => comment ⟨Option.some.inj same, rfl⟩

theorem readValidKey_name {name : Text} (oneLine : eoln ∉ name) (first : delimiter ∉ name) (key rest : Text) :
    flipperFormatStreamReadValidKey true false key (name ++ delimiter :: rest) =
      some (key ++ shownName name, delimiter :: rest) := by
  induction name generalizing key with
  | nil =>
    rw [shownName, List.filter_nil, List.append_nil]
    rfl
  | cons data name next =>
    obtain ⟨notEoln, oneLine⟩ := List.ne_and_not_mem_of_not_mem_cons oneLine
    obtain ⟨notDelimiter, first⟩ := List.ne_and_not_mem_of_not_mem_cons first
    rw [List.cons_append, flipperFormatStreamReadValidKey, if_neg (Ne.symm notEoln)]
    by_cases ignored : data = eolr
    · rw [ignored]
      exact next oneLine first key
    · rw [if_neg ignored, if_neg fun comment => Bool.noConfusion comment.2, if_neg (Ne.symm notDelimiter), if_pos rfl,
        next oneLine first, shownName_cons ignored, List.append_assoc, List.singleton_append]

theorem nextKey_keyed {name : Text} (keyed : Keyed name) (rest : Text) :
    nextKey (name ++ delimiter :: rest) = some (shownName name, delimiter :: rest) := by
  induction name with
  | nil => exact absurd rfl keyed.filled
  | cons data name next =>
    obtain ⟨notEoln, oneLine⟩ := List.ne_and_not_mem_of_not_mem_cons keyed.oneLine
    obtain ⟨notDelimiter, first⟩ := List.ne_and_not_mem_of_not_mem_cons keyed.first
    rw [List.cons_append, nextKey, flipperFormatStreamReadValidKey, if_neg (Ne.symm notEoln)]
    by_cases ignored : data = eolr
    · subst ignored
      exact next ⟨oneLine, first, keyed.filled, keyed.told⟩
    · have told := keyed.told
      rw [shownName_cons ignored] at told ⊢
      rw [if_neg ignored, if_neg fun comment => told (congrArg some comment.1), if_neg (Ne.symm notDelimiter),
        readValidKey_name oneLine first]
      rfl

theorem nextKey_rest {line : Text} (oneLine : eoln ∉ line) (rest : Text) :
    nextKey (delimiter :: (line ++ eoln :: rest)) = nextKey rest ∧ nextKey (delimiter :: line) = none :=
  readValidKey_passes (Or.inl rfl) oneLine [] rest

section Lines
variable {key text line rest front name behind : Text}

theorem keyLine_here (keyed : Keyed name) (names : cString (shownName name) = key) :
    FirstKeyLine key (name ++ delimiter :: behind) [] name behind :=
  ⟨⟨Or.inl rfl, rfl, keyed, names⟩, fun _ => Nat.zero_le _⟩

theorem keyLine_cases (oneLine : eoln ∉ line) (found : KeyLine key (line ++ eoln :: rest) front name behind) :
    (∃ tail, front = [] ∧ line = name ++ delimiter :: tail) ∨
      ∃ front', front = line ++ eoln :: front' ∧ KeyLine key rest front' name behind := by
  rcases found.starts with rfl | ends
  · have split : name ++ delimiter :: behind = line ++ eoln :: rest := found.split.symm
    rcases List.append_eq_append_iff.mp split with ⟨tail, here, there⟩ | ⟨tail, here, there⟩
    · cases tail with
      | nil => exact absurd (List.cons.inj there).1 (by decide)
      | cons c tail =>
        obtain ⟨rfl, -⟩ := List.cons.inj there
        exact Or.inl ⟨tail, rfl, here⟩
    · cases tail with
      | nil => exact absurd (List.cons.inj there).1 (by decide)
      | cons c tail =>
        obtain ⟨rfl, -⟩ := List.cons.inj there
        exact absurd (here ▸ List.mem_append_right _ List.mem_cons_self) found.keyed.oneLine
  · have inside : eoln ∈ front := List.mem_of_getLast? ends
    rcases List.append_eq_append_iff.mp found.split with ⟨tail, here, there⟩ | ⟨tail, here, there⟩
    · cases tail with
      | nil => exact absurd (by rwa [here, List.append_nil] at inside) oneLine
      | cons c front' =>
        obtain ⟨rfl, behindLine⟩ := List.cons.inj there
        refine Or.inr ⟨front', here, ?_, behindLine, found.keyed, found.names⟩
        rw [here, List.getLast?_append] at ends
        cases front' with
        | nil => exact Or.inl rfl
        | cons c front' =>
          rw [List.getLast?_cons_cons] at ends
          refine Or.inr ?_
          cases last : (c :: front').getLast? with
          | none => exact absurd (List.getLast?_eq_none_iff.mp last) (List.cons_ne_nil _ _)
          | some c' =>
            rw [last] at ends
            exact ends
    · exact absurd (here ▸ List.mem_append_left _ inside) oneLine

theorem KeyLine.behind_line (line : Text) (found : KeyLine key rest front name behind) :
    KeyLine key (line ++ eoln :: rest) (line ++ eoln :: front) name behind := by
  refine ⟨Or.inr ?_, ?_, found.keyed, found.names⟩
  · rcases found.starts with rfl | ends
    · exact List.getLast?_concat
    · rw [List.getLast?_append, List.getLast?_cons, ends]
      rfl
  · rw [found.split, List.append_assoc, List.cons_append]

theorem FirstKeyLine.behind_line (oneLine : eoln ∉ line)
    (other : ∀ name tail, line = name ++ delimiter :: tail → Keyed name → cString (shownName name) ≠ key)
    (found : FirstKeyLine key rest front name behind) :
    FirstKeyLine key (line ++ eoln :: rest) (line ++ eoln :: front) name behind := by
  refine ⟨found.toKeyLine.behind_line line, fun {front' name' behind'} found' => ?_⟩
  rcases keyLine_cases oneLine found' with ⟨tail, rfl, here⟩ | ⟨front', rfl, there⟩
  · exact absurd found'.names (other name' tail here found'.keyed)
  · have shorter := found.first there
    rw [List.length_append, List.length_append, List.length_cons, List.length_cons]
    omega

theorem seekToKeyLoop_congr {fuel : Nat} {text text' : Text} (same : nextKey text = nextKey text') :
    seekToKeyLoop key fuel text = seekToKeyLoop key fuel text' := by
  cases fuel with
  | zero => rfl
  | succ fuel => rw [seekToKeyLoop, seekToKeyLoop, same]

end Lines

/-- What a search comes to: two characters behind the delimiter of the first key line, or nothing. -/
def Finds (key text : Text) (result : Option Text) : Prop :=
  (∃ front name behind, FirstKeyLine key text front name behind ∧
      result = if behind = [] then none else some behind.tail) ∨
    (∀ front name behind, ¬ KeyLine key text front name behind) ∧ result = none

section Search
variable {key text line rest : Text} {fuel : Nat} {result : Option Text}

theorem Finds.behind_line (oneLine : eoln ∉ line)
    (other : ∀ name tail, line = name ++ delimiter :: tail → Keyed name → cString (shownName name) ≠ key)
    (finds : Finds key rest result) : Finds key (line ++ eoln :: rest) result := by
  rcases finds with ⟨front, name, behind, found, value⟩ | ⟨absent, value⟩
  · exact Or.inl ⟨line ++ eoln :: front, name, behind, found.behind_line oneLine other, value⟩
  · refine Or.inr ⟨fun front name behind found => ?_, value⟩
    rcases keyLine_cases oneLine found with ⟨tail, rfl, here⟩ | ⟨front', rfl, there⟩
    · exact other name tail here found.keyed found.names
    · exact absent front' name behind there

/-- The last line of a text, without its end. -/
theorem finds_none (oneLine : eoln ∉ line)
    (other : ∀ name tail, line = name ++ delimiter :: tail → Keyed name → cString (shownName name) ≠ key) :
    Finds key line none := by
  refine Or.inr ⟨fun front name behind found => ?_, rfl⟩
  rcases found.starts with rfl | ends
  · exact other name behind found.split found.keyed found.names
  · exact oneLine (found.split ▸ List.mem_append_left _ (List.mem_of_getLast? ends))

theorem finds_here {name behind : Text} (keyed : Keyed name) (names : cString (shownName name) = key) :
    Finds key (name ++ delimiter :: behind)
      (if 2 ≤ (delimiter :: behind).length then some ((delimiter :: behind).drop 2) else none) := by
  refine Or.inl ⟨[], name, behind, keyLine_here keyed names, ?_⟩
  cases behind with
  | nil => rfl
  | cons c behind => rfl

theorem name_unique {name name' tail tail' : Text} (keyed : Keyed name) (keyed' : Keyed name')
    (same : name ++ delimiter :: tail = name' ++ delimiter :: tail') : name = name' := by
  rcases List.append_eq_append_iff.mp same with ⟨more, longer, starts⟩ | ⟨more, longer, starts⟩
  · cases more with
    | nil => rw [longer, List.append_nil]
    | cons c more =>
      obtain ⟨rfl, -⟩ := List.cons.inj starts
      exact absurd (longer ▸ List.mem_append_right _ List.mem_cons_self) keyed'.first
  · cases more with
    | nil => rw [longer, List.append_nil]
    | cons c more =>
      obtain ⟨rfl, -⟩ := List.cons.inj starts
      exact absurd (longer ▸ List.mem_append_right _ List.mem_cons_self) keyed.first

/-- **A search goes to the first key line.** -/
theorem seekToKeyLoop_finds (key : Text) {text : Text} {fuel : Nat} (enough : text.length ≤ fuel) :
    Finds key text (seekToKeyLoop key fuel text) := by
  induction length : text.length using Nat.strong_induction_on generalizing text fuel with
  | _ size onward =>
    subst length
    -- the first line, with what stands behind its end if it has one
    rcases Classical.em (eoln ∈ text) with feed | oneLine
    · obtain ⟨line, rest, rfl, oneLine⟩ := List.eq_append_cons_of_mem feed
      have shorter : rest.length < (line ++ eoln :: rest).length := by
        rw [List.length_append, List.length_cons]
        omega
      by_cases keyless : Keyless line
      · rw [seekToKeyLoop_congr (nextKey_keyless keyless oneLine rest).1]
        exact (onward _ shorter (by omega) rfl).behind_line oneLine fun name tail split keyed =>
          absurd keyed (keyless name tail split)
      · obtain ⟨name, tail, rfl, keyed⟩ : ∃ name tail, line = name ++ delimiter :: tail ∧ Keyed name := by
          simpa only [Keyless, not_forall, not_not, exists_prop] using keyless
        obtain ⟨fuel, rfl⟩ := Nat.exists_eq_succ_of_ne_zero (show fuel ≠ 0 by omega)
        rw [List.append_assoc, List.cons_append, seekToKeyLoop, nextKey_keyed keyed]
        dsimp only
        by_cases names : cString (shownName name) = key
        · rw [if_pos names]
          exact finds_here keyed names
        · have later : eoln ∉ tail := fun member => oneLine (List.mem_append_right _ (List.mem_cons_of_mem _ member))
          rw [if_neg names, seekToKeyLoop_congr (nextKey_rest later rest).1, ← List.cons_append, ← List.append_assoc]
          refine (onward _ shorter (by omega) rfl).behind_line oneLine fun name' tail' split keyed' => ?_
          rw [← name_unique keyed keyed' split]
          exact names
    · by_cases keyless : Keyless text
      · rw [seekToKeyLoop_none (nextKey_keyless keyless oneLine []).2]
        exact finds_none oneLine fun name tail split keyed => absurd keyed (keyless name tail split)
      · obtain ⟨name, tail, rfl, keyed⟩ : ∃ name tail, text = name ++ delimiter :: tail ∧ Keyed name := by
          simpa only [Keyless, not_forall, not_not, exists_prop] using keyless
        obtain ⟨fuel, rfl⟩ := Nat.exists_eq_succ_of_ne_zero (show fuel ≠ 0 by
          rw [List.length_append, List.length_cons] at enough
          omega)
        rw [seekToKeyLoop, nextKey_keyed keyed]
        dsimp only
        by_cases names : cString (shownName name) = key
        · rw [if_pos names]
          exact finds_here keyed names
        · have later : eoln ∉ tail := fun member => oneLine (List.mem_append_right _ (List.mem_cons_of_mem _ member))
          rw [if_neg names, seekToKeyLoop_none (nextKey_rest later []).2]
          refine finds_none oneLine fun name' tail' split keyed' => ?_
          rw [← name_unique keyed keyed' split]
          exact names

end Search

theorem FirstKeyLine.unique {key text front name behind front' name' behind' : Text}
    (found : FirstKeyLine key text front name behind) (found' : FirstKeyLine key text front' name' behind') :
    behind = behind' := by
  have length : front.length = front'.length := Nat.le_antisymm (found.first found'.toKeyLine) (found'.first found.toKeyLine)
  obtain ⟨-, lines⟩ := List.append_inj (found.split.symm.trans found'.split) length
  obtain rfl := name_unique found.keyed found'.keyed lines
  exact (List.cons.inj (List.append_cancel_left lines)).2

section OnStream
open OnStream (asText length_asText)
variable {stream : AnyStream} {before after : List UInt8} {fuel : Nat}

/-- **A search on a stream goes to the first key line**, two bytes on from its delimiter, or
fails if there is none or fewer than two bytes follow; where the blocks lie plays no part. -/
theorem seek_finds_first_key_line (key : List UInt8) (shown : Shows stream ⟨before, after⟩)
    (enough : after.length < fuel) :
    (∃ front name c behind passed rest next, FirstKeyLine (asText key) (asText after) front name (c :: behind) ∧
        OnStream.flipperFormatStreamSeekToKey fuel key fuel stream = some (true, next) ∧ after = passed ++ rest ∧
        passed.length = front.length + name.length + 2 ∧ Shows next ⟨before ++ passed, rest⟩) ∨
      ∃ next, OnStream.flipperFormatStreamSeekToKey fuel key fuel stream = some (false, next) ∧
        ∀ front name behind, FirstKeyLine (asText key) (asText after) front name behind → behind = [] := by
  have finds : Finds (asText key) (asText after) (flipperFormatStreamSeekToKey (asText key) (asText after)) :=
    seekToKeyLoop_finds _ (Nat.le_refl _)
  rcases OnStream.seekToKey_shows key shown enough enough with
    ⟨passed, rest, next, split, text, seek, there⟩ | ⟨before', after', next, -, text, seek, -⟩
  · rw [text] at finds
    rcases finds with ⟨front, name, behind, found, value⟩ | ⟨-, value⟩
    · cases behind with
      | nil => cases value
      | cons c behind =>
        obtain rfl : asText rest = behind := Option.some.inj value
        refine Or.inl ⟨front, name, c, asText rest, passed, rest, next, found, seek, split, ?_, there⟩
        have lengths := congrArg List.length found.split
        simp only [length_asText, split, List.length_append, List.length_cons] at lengths
        omega
    · cases value
  · rw [text] at finds
    refine Or.inr ⟨next, seek, fun front name behind found => ?_⟩
    rcases finds with ⟨front', name', behind', found', value⟩ | ⟨absent, -⟩
    · rw [found.unique found']
      by_contra filled
      rw [if_neg filled] at value
      cases value
    · exact absurd found.toKeyLine (absent front name behind)

/-- The second line of a text is the first of its key. -/
theorem seek_finds_second_line :
    (∃ front name c behind passed rest next, FirstKeyLine (asText [75]) (asText [65, 58, 10, 75, 58, 32, 49]) front name
          (c :: behind) ∧
        OnStream.flipperFormatStreamSeekToKey 8 [75] 8 (.file (cut [] [65, 58, 10, 75, 58, 32, 49])) = some (true, next) ∧
        [65, 58, 10, 75, 58, 32, 49] = passed ++ rest ∧ passed.length = front.length + name.length + 2 ∧
        Shows next ⟨[] ++ passed, rest⟩) ∨
      ∃ next, OnStream.flipperFormatStreamSeekToKey 8 [75] 8 (.file (cut [] [65, 58, 10, 75, 58, 32, 49])) =
          some (false, next) ∧
        ∀ front name behind, FirstKeyLine (asText [75]) (asText [65, 58, 10, 75, 58, 32, 49]) front name behind →
          behind = [] :=
  seek_finds_first_key_line [75] ⟨rfl, trivial, by decide⟩ (show 7 < 8 by decide)

/-- A delimiter that starts its line has no name in front, so that an empty key is not found there. -/
theorem empty_key_not_found : ¬ ∀ (content key : List UInt8) (fuel : Nat), content.length < fuel →
      (∃ name behind, asText content = name ++ delimiter :: behind ∧ eoln ∉ name ∧ delimiter ∉ name ∧
        (shownName name).head? ≠ some commentMark ∧ shownName name = asText key ∧ behind ≠ []) →
      ∃ next, OnStream.flipperFormatStreamSeekToKey fuel key fuel (.file (cut [] content)) = some (true, next) := by
  intro found
  obtain ⟨next, seek⟩ := found [58, 97] [] 3 (by decide)
    ⟨[], ['a'], rfl, List.not_mem_nil, List.not_mem_nil, by decide, rfl, by decide⟩
  have fails : (OnStream.flipperFormatStreamSeekToKey 3 [] 3 (.file (cut [] [58, 97]))).map Prod.fst = some false := by
    decide +kernel
  rw [seek] at fails
  cases fails

end OnStream

end Xtreme.Flipper
