import Mathlib.Data.Nat.Notation
import Xtreme.Toolbox.FuriString

/-! Words of a command line (`lib/toolbox/args.c`), which may be between quotes. What is read
word by word of a line that was put together from words are these words, if no word's ends
are trimmed with the blanks around it (`readsWords_rendered`). -/
namespace Xtreme.Toolbox

/-- What a read gives, with the arguments and the word that it leaves. -/
structure ArgsRead where
  result : Bool
  args : List Char
  word : List Char
  deriving DecidableEq, Repr

def argsGetFirstWordLength (args : List Char) : Nat :=
  match furiStringSearchChar args ' ' 0 with
  | some ws => ws
  | none => args.length

def argsReadStringAndTrim (args word : List Char) : ArgsRead :=
  let cmdLength := argsGetFirstWordLength args
  if cmdLength = 0 then ⟨false, args, word⟩
  else ⟨true, furiStringTrim blanks (furiStringRight args cmdLength), furiStringSetN args 0 cmdLength⟩

/-- Without a second quote, its position is the failure as a `size_t`. -/
def argsReadProbablyQuotedStringAndTrim (args word : List Char) : ArgsRead :=
  if 1 < args.length ∧ args.head? = some '"' then
    let secondQuotePos := sizeT (furiStringSearchChar args '"' 1)
    if secondQuotePos = 0 then ⟨false, args, word⟩
    else
      ⟨true, furiStringTrim blanks (furiStringRight args ((secondQuotePos + 1) % 4294967296)),
        furiStringSetN args 1 (secondQuotePos - 1)⟩
  else argsReadStringAndTrim args word

/-- A word as it is written: between quotes if it has a space. -/
def renderWord (word : List Char) : List Char := if ' ' ∈ word then '"' :: word ++ ['"'] else word

def renderWords : List (List Char) → List Char
  | [] => []
  | [word] => renderWord word
  | word :: rest => renderWord word ++ ' ' :: renderWords rest

/-- A word that has something in it, and no quote. -/
structure PlainWord (word : List Char) : Prop where
  ne_nil : word ≠ []
  noQuote : '"' ∉ word

/-- Words behind another one: the blanks around a bare word are none of its own. -/
structure BareEnds (words : List (List Char)) : Prop where
  first : ∀ word ∈ words, ' ' ∉ word → ∀ c ∈ word.head?, c ∉ blanks
  last : ∀ word ∈ words.getLast?, ' ' ∉ word → ∀ c ∈ word.getLast?, c ∉ blanks

inductive ReadsWords : List Char → List Char → List (List Char) → Prop
  | stop {args word : List Char} (none : argsReadProbablyQuotedStringAndTrim args word = ⟨false, args, word⟩) :
      ReadsWords args word []
  | next {args word : List Char} {rest : List (List Char)} {left first : List Char}
      (gives : argsReadProbablyQuotedStringAndTrim args word = ⟨true, left, first⟩)
      (more : ReadsWords left first rest) : ReadsWords args word (first :: rest)

theorem argsGetFirstWordLength_word {word behind : List Char} (bare : ' ' ∉ word) (apart : ∀ c ∈ behind.head?, c = ' ') :
    argsGetFirstWordLength (word ++ behind) = word.length := by
  cases behind with
  | nil =>
    rw [List.append_nil, argsGetFirstWordLength, furiStringSearchChar_of_not_mem 0 bare]
  | cons c behind =>
    rw [apart c rfl, argsGetFirstWordLength, furiStringSearchChar_append bare]

theorem argsRead_word {word : List Char} (plain : PlainWord word) (before : List Char) {behind rest : List Char}
    (small : (renderWord word ++ behind).length < 4294967296) (apart : ∀ c ∈ behind.head?, c = ' ')
    (left : furiStringTrim blanks behind = rest) :
    argsReadProbablyQuotedStringAndTrim (renderWord word ++ behind) before = ⟨true, rest, word⟩ := by
  by_cases spaced : ' ' ∈ word
  · rw [renderWord, if_pos spaced] at small ⊢
    have quoted : '"' :: word ++ ['"'] ++ behind = '"' :: (word ++ '"' :: behind) := by
      rw [List.cons_append, List.cons_append, List.append_assoc]
      rfl
    rw [quoted] at small ⊢
    have length : ('"' :: (word ++ '"' :: behind)).length = word.length + behind.length + 2 := by
      rw [List.length_cons, List.length_append, List.length_cons]
      omega
    have found : furiStringSearchChar ('"' :: (word ++ '"' :: behind)) '"' 1 = some (word.length + 1) := by
      rw [furiStringSearchChar_cons, furiStringSearchChar_append plain.noQuote]
      rfl
    have behindQuote : furiStringRight ('"' :: (word ++ '"' :: behind)) ((word.length + 1 + 1) % 4294967296) = behind := by
      have parts : '"' :: (word ++ '"' :: behind) = ('"' :: word ++ ['"']) ++ behind := quoted.symm
      rw [Nat.mod_eq_of_lt (by omega), parts]
      refine List.drop_left' ?_
      rw [List.length_append, List.length_cons, List.length_singleton]
    have between : furiStringSetN ('"' :: (word ++ '"' :: behind)) 1 (word.length + 1 - 1) = word := List.take_left
    rw [argsReadProbablyQuotedStringAndTrim, if_pos ⟨by omega, rfl⟩, found, sizeT_some,
      if_neg (Nat.succ_ne_zero _), behindQuote, between, left]
  · rw [renderWord, if_neg spaced]
    have width := argsGetFirstWordLength_word spaced apart
    obtain ⟨first, more, rfl⟩ := List.exists_cons_of_ne_nil plain.ne_nil
    have bare : ¬(1 < (first :: more ++ behind).length ∧ (first :: more ++ behind).head? = some '"') := by
      rintro ⟨-, quote⟩
      obtain rfl : first = '"' := Option.some.inj quote
      exact plain.noQuote List.mem_cons_self
    have word : furiStringSetN (first :: more ++ behind) 0 (first :: more).length = first :: more := List.take_left
    have right : furiStringRight (first :: more ++ behind) (first :: more).length = behind := List.drop_left
    have some : ¬(first :: more).length = 0 := Nat.succ_ne_zero _
    rw [argsReadProbablyQuotedStringAndTrim, if_neg bare, argsReadStringAndTrim, width, if_neg some, right, word, left]

theorem renderWord_ne_nil {word : List Char} (plain : PlainWord word) : renderWord word ≠ [] := by
  rw [renderWord]
  split
  · exact List.cons_ne_nil _ _
  · exact plain.ne_nil

theorem quote_not_blank : '"' ∉ blanks := by decide

theorem renderWord_first {word : List Char} (first : ' ' ∉ word → ∀ c ∈ word.head?, c ∉ blanks) :
    ∀ c ∈ (renderWord word).head?, c ∉ blanks := by
  rw [renderWord]
  split
  · intro c quote
    rw [← Option.some.inj quote]
    exact quote_not_blank
  · rename_i bare
    exact first bare

theorem renderWord_last {word : List Char} (last : ' ' ∉ word → ∀ c ∈ word.getLast?, c ∉ blanks) :
    ∀ c ∈ (renderWord word).getLast?, c ∉ blanks := by
  rw [renderWord]
  split
  · intro c quote
    rw [List.getLast?_concat] at quote
    rw [← Option.some.inj quote]
    exact quote_not_blank
  · rename_i bare
    exact last bare

theorem renderWords_ne_nil {word : List Char} (plain : PlainWord word) (rest : List (List Char)) :
    renderWords (word :: rest) ≠ [] := by
  cases rest with
  | nil => exact renderWord_ne_nil plain
  | cons second rest => exact List.append_ne_nil_of_left_ne_nil (renderWord_ne_nil plain) _

/-- Words behind another one are not trimmed. -/
theorem BareEnds.untrimmed {words : List (List Char)} (plain : ∀ word ∈ words, PlainWord word) (ends : BareEnds words) :
    Untrimmed blanks (renderWords words) := by
  induction words with
  | nil => exact ⟨(fun c first => by cases first), (fun c last => by cases last)⟩
  | cons word rest next =>
    obtain ⟨here, later⟩ := List.forall_mem_cons.mp plain
    have first := renderWord_first (ends.first word List.mem_cons_self)
    cases rest with
    | nil => exact ⟨first, renderWord_last (ends.last word rfl)⟩
    | cons second rest =>
      have some : renderWords (second :: rest) ≠ [] :=
        renderWords_ne_nil (later second List.mem_cons_self) rest
      have joined : renderWords (word :: second :: rest) = renderWord word ++ ' ' :: renderWords (second :: rest) := rfl
      have rests : BareEnds (second :: rest) := by
        refine ⟨fun other member => ends.first other (List.mem_cons_of_mem _ member), fun other last => ?_⟩
        refine ends.last other ?_
        rwa [List.getLast?_cons_cons]
      rw [joined]
      refine ⟨fun c member => first c ?_, fun c member => (next later rests).last c ?_⟩
      · rwa [List.head?_append_of_ne_nil _ (renderWord_ne_nil here)] at member
      · have back : renderWord word ++ ' ' :: renderWords (second :: rest) =
            (renderWord word ++ [' ']) ++ renderWords (second :: rest) := by
          rw [List.append_assoc]
          rfl
        rwa [back, List.getLast?_append_of_ne_nil _ some] at member

/-- Words that are rendered, joined and read again; the blanks at the ends of bare words may
get lost, but not at the beginning of the first one, and between quotes. -/
theorem readsWords_rendered {words : List (List Char)} (plain : ∀ word ∈ words, PlainWord word)
    (ends : BareEnds words.tail) (small : (renderWords words).length < 4294967296) (before : List Char) :
    ReadsWords (renderWords words) before words := by
  induction words generalizing before with
  | nil => exact .stop rfl
  | cons word rest next =>
    obtain ⟨here, later⟩ := List.forall_mem_cons.mp plain
    cases rest with
    | nil =>
      have small : (renderWord word).length < 4294967296 := small
      rw [← List.append_nil (renderWord word)] at small
      have given := argsRead_word here before small (fun c first => by cases first) rfl
      rw [List.append_nil] at given
      exact .next given (.stop rfl)
    | cons second rest =>
      have joined : renderWords (word :: second :: rest) = renderWord word ++ ' ' :: renderWords (second :: rest) := rfl
      have ends : BareEnds (second :: rest) := ends
      rw [joined] at small ⊢
      have trimmed := furiStringTrim_cons (by decide : ' ' ∈ blanks) (ends.untrimmed later)
      have given := argsRead_word here before small (fun c first => (Option.some.inj first).symm) trimmed
      rw [List.length_append, List.length_cons] at small
      have tails : BareEnds (second :: rest).tail := by
        refine ⟨fun other member => ends.first other (List.mem_cons_of_mem _ member), fun other last => ?_⟩
        refine ends.last other ?_
        cases rest with
        | nil => cases last
        | cons third rest => rwa [List.getLast?_cons_cons]
      exact .next given (next later tails (by omega) word)

theorem argsRead_false {args word : List Char}
    (none : (argsReadProbablyQuotedStringAndTrim args word).result = false) :
    argsReadProbablyQuotedStringAndTrim args word = ⟨false, args, word⟩ := by
  rw [argsReadProbablyQuotedStringAndTrim] at none ⊢
  by_cases quoted : 1 < args.length ∧ args.head? = some '"'
  · rw [if_pos quoted] at none ⊢
    by_cases zero : sizeT (furiStringSearchChar args '"' 1) = 0
    · exact if_pos zero
    · rw [if_neg zero] at none
      cases none
  · rw [if_neg quoted, argsReadStringAndTrim] at none ⊢
    by_cases zero : argsGetFirstWordLength args = 0
    · exact if_pos zero
    · rw [if_neg zero] at none
      cases none

/-- Words are read as they were rendered, unless a bare one has blanks that are trimmed, and a
read that gives nothing changes nothing. -/
theorem argsRead_words (before : List Char) :
    (∀ words, (∀ word ∈ words, PlainWord word) → BareEnds words.tail → (renderWords words).length < 4294967296 →
      ReadsWords (renderWords words) before words) ∧
    ∀ args, (argsReadProbablyQuotedStringAndTrim args before).result = false →
      argsReadProbablyQuotedStringAndTrim args before = ⟨false, args, before⟩ :=
  ⟨fun _ plain ends small => readsWords_rendered plain ends small before, fun _ => argsRead_false⟩

theorem argsRead_words_three :
    ReadsWords (renderWords [['a'], ['b', ' ', 'c'], ['d']]) [] [['a'], ['b', ' ', 'c'], ['d']] ∧
      argsReadProbablyQuotedStringAndTrim [' ', 'a'] [] = ⟨false, [' ', 'a'], []⟩ := by
  have word {word : List Char} (some : word ≠ []) (noQuote : '"' ∉ word) : PlainWord word := ⟨some, noQuote⟩
  have ends : BareEnds [['b', ' ', 'c'], ['d']] := by
    refine ⟨List.forall_mem_cons.mpr ⟨fun _ c first => Option.some.inj first ▸ by decide,
      List.forall_mem_singleton.mpr fun _ c first => Option.some.inj first ▸ by decide⟩, fun word last _ c ends => ?_⟩
    obtain rfl := Option.some.inj last
    exact Option.some.inj ends ▸ by decide
  refine ⟨(argsRead_words []).1 _ ?_ ends (by decide), (argsRead_words []).2 _ (by decide)⟩
  exact List.forall_mem_cons.mpr ⟨word (by decide) (by decide), List.forall_mem_cons.mpr
    ⟨word (by decide) (by decide), List.forall_mem_singleton.mpr (word (by decide) (by decide))⟩⟩

/-- A word that begins with a tab loses it if it is not the first one. -/
theorem argsRead_tab : (∀ word ∈ [['a'], ['\t', 'b']], PlainWord word) ∧
      ReadsWords (renderWords [['a'], ['\t', 'b']]) [] [['a'], ['b']] ∧
      ¬ReadsWords (renderWords [['a'], ['\t', 'b']]) [] [['a'], ['\t', 'b']] := by
  have first : argsReadProbablyQuotedStringAndTrim (renderWords [['a'], ['\t', 'b']]) [] = ⟨true, ['b'], ['a']⟩ := by decide
  have second : argsReadProbablyQuotedStringAndTrim ['b'] ['a'] = ⟨true, [], ['b']⟩ := by decide
  refine ⟨?_, .next first (.next second (.stop rfl)), fun reads => ?_⟩
  · exact List.forall_mem_cons.mpr ⟨⟨by decide, by decide⟩, List.forall_mem_singleton.mpr ⟨by decide, by decide⟩⟩
  · cases reads with
    | next gives more =>
      cases gives
      cases more with
      | next gives more =>
        cases gives

end Xtreme.Toolbox
