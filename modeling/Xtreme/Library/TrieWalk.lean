import Mathlib.Data.List.Nodup
import Mathlib.Data.List.Perm.Basic

/-! Depth-first walks of a binary trie that remember one word. A finite set of
words of one length is walked in the order of its trie, the zero branch first.
The walk keeps no stack: from the word it has just visited and the place where it
last went into a zero branch beside a one branch (`lastTurn`), `descend` finds the
next word and the next such place. It does so for every set of words
(`descend_next`), and the place is 0 exactly at the last word. -/
namespace Xtreme.Library

/-- The words under one branch of a set, without their first letter. -/
def branch (letter : Bool) (words : List (List Bool)) : List (List Bool) :=
  words.filterMap fun word =>
    match word with
    | [] => none
    | first :: rest => if first = letter then some rest else none

@[simp] theorem mem_branch {letter : Bool} {words : List (List Bool)} {rest : List Bool} :
    rest ∈ branch letter words ↔ letter :: rest ∈ words := by
  simp only [branch, List.mem_filterMap]
  constructor
  · rintro ⟨_ | ⟨first, tail⟩, held, found⟩
    · cases found
    · obtain ⟨rfl, rfl⟩ : first = letter ∧ tail = rest := by
        by_cases same : first = letter
        · simpa [same] using found
        · simp [same] at found
      exact held
  · intro held
    exact ⟨letter :: rest, held, by simp⟩

variable {words : List (List Bool)}

theorem branch_sized {n : Nat} (letter : Bool) (sized : ∀ word ∈ words, word.length = n + 1) :
    ∀ word ∈ branch letter words, word.length = n := by
  intro word held
  simpa using sized _ (mem_branch.mp held)

/-- The words of a set in the order of the walk, each once. -/
def visited : Nat → List (List Bool) → List (List Bool)
  | 0, words => if words = [] then [] else [[]]
  | n + 1, words =>
    (visited n (branch false words)).map (List.cons false) ++ (visited n (branch true words)).map (List.cons true)

theorem mem_visited {n : Nat} (sized : ∀ word ∈ words, word.length = n) {word : List Bool} :
    word ∈ visited n words ↔ word ∈ words := by
  induction n generalizing words word with
  | zero =>
    have empty : ∀ word ∈ words, word = [] := fun word held =>
      List.eq_nil_of_length_eq_zero (sized word held)
    rw [visited]
    cases words with
    | nil => simp
    | cons first rest =>
      rw [if_neg (by simp), List.mem_singleton]
      constructor
      · rintro rfl
        rw [← empty first (by simp)]
        exact List.mem_cons_self
      · exact empty word
  | succ n ih =>
    simp only [visited, List.mem_append, List.mem_map, ih (branch_sized _ sized), mem_branch]
    constructor
    · rintro (⟨rest, held, rfl⟩ | ⟨rest, held, rfl⟩) <;> exact held
    · intro held
      match word, sized word held with
      | false :: rest, _ => exact .inl ⟨rest, held, rfl⟩
      | true :: rest, _ => exact .inr ⟨rest, held, rfl⟩

theorem visited_nodup (n : Nat) (words : List (List Bool)) : (visited n words).Nodup := by
  induction n generalizing words with
  | zero => rw [visited]; split <;> simp
  | succ n ih =>
    refine List.nodup_append.mpr
      ⟨List.Nodup.map List.cons_injective (ih _), List.Nodup.map List.cons_injective (ih _), ?_⟩
    intro word first other second
    obtain ⟨rest, -, rfl⟩ := List.mem_map.mp first
    obtain ⟨rest', -, rfl⟩ := List.mem_map.mp second
    simp

/-- The walk visits the words of a set without repetition in some order. -/
theorem visited_perm {n : Nat} (sized : ∀ word ∈ words, word.length = n) (distinct : words.Nodup) :
    (visited n words).Perm words :=
  (List.perm_ext_iff_of_nodup (visited_nodup n words) distinct).mpr fun _ => mem_visited sized

theorem visited_nonempty {n : Nat} (sized : ∀ word ∈ words, word.length = n) : visited n words = [] ↔ words = [] := by
  rw [List.eq_nil_iff_forall_not_mem, List.eq_nil_iff_forall_not_mem]
  exact forall_congr' fun word => not_congr (mem_visited sized)

/-- Words go on with either letter. -/
def Forks (words : List (List Bool)) : Prop :=
  branch false words ≠ [] ∧ branch true words ≠ []

instance (words : List (List Bool)) : Decidable (Forks words) :=
  inferInstanceAs (Decidable (_ ∧ _))

/-- The letter the walk takes: the only one there is, and where the words fork the
letter of the last word before the turn, one at the turn, and zero after it. The
turn is counted from one, and 0 stands for none. -/
def heading (words : List (List Bool)) (turn : Nat) (last : Bool) : Bool :=
  if Forks words then
    if 1 < turn then last else turn == 1
  else
    branch false words = []

/-- Places below a letter, seen from the letter: a place found below is one letter
further, and if there is none it may be the letter itself. -/
def placeAbove (below : Nat) (here : Prop) [Decidable here] : Nat :=
  if 0 < below then below + 1 else if here then 1 else 0

theorem placeAbove_below {below : Nat} (found : 0 < below) (here : Prop) [Decidable here] :
    placeAbove below here = below + 1 := if_pos found

theorem placeAbove_here {here : Prop} [Decidable here] (holds : here) : placeAbove 0 here = 1 :=
  if_pos holds

theorem placeAbove_none {here : Prop} [Decidable here] (fails : ¬here) : placeAbove 0 here = 0 :=
  if_neg fails

/-- The word found by the walk, and the last place where it took the zero branch of a fork. -/
def descend : Nat → List (List Bool) → Nat → List Bool → List Bool × Nat
  | 0, _, _, _ => ([], 0)
  | n + 1, words, turn, last =>
    let letter := heading words turn (last.headD false)
    let (word, place) := descend n (branch letter words) (turn - 1) last.tail
    (letter :: word, placeAbove place (Forks words ∧ letter = false))

def lastTurn : Nat → List (List Bool) → List Bool → Nat
  | 0, _, _ => 0
  | n + 1, words, word =>
    placeAbove (lastTurn n (branch (word.headD false) words) word.tail) (Forks words ∧ word.headD false = false)

theorem descend_turn (n : Nat) (words : List (List Bool)) (turn : Nat) (last : List Bool) :
    (descend n words turn last).2 = lastTurn n words (descend n words turn last).1 := by
  induction n generalizing words turn last with
  | zero => rfl
  | succ n ih => simp only [descend, lastTurn, List.headD_cons, List.tail_cons, ih]

/-- The walk stays among the words. -/
theorem heading_nonempty {n : Nat} (turn : Nat) (last : Bool)
    (sized : ∀ word ∈ words, word.length = n + 1) (some : words ≠ []) :
    branch (heading words turn last) words ≠ [] := by
  by_cases forks : Forks words
  · cases heading words turn last with
    | false => exact forks.1
    | true => exact forks.2
  · rw [heading, if_neg forks]
    by_cases left : branch false words = []
    · simp only [left, decide_true]
      intro right
      obtain ⟨word, held⟩ := List.exists_mem_of_ne_nil _ some
      match word, sized word held with
      | false :: rest, _ => exact absurd (mem_branch.mpr held) (by simp [left])
      | true :: rest, _ => exact absurd (mem_branch.mpr held) (by simp [right])
    · simp [left]

theorem descend_first {n : Nat} (sized : ∀ word ∈ words, word.length = n) (some : words ≠ []) (last : List Bool) :
    (visited n words)[0]? = Option.some (descend n words 0 last).1 := by
  induction n generalizing words last with
  | zero => simp [visited, descend, some]
  | succ n ih =>
    have below := heading_nonempty 0 (last.headD false) sized some
    have found := ih (branch_sized _ sized) below last.tail
    simp only [visited, descend]
    by_cases left : branch false words = []
    · have straight : heading words 0 (last.headD false) = true := by
        simp [heading, Forks, left]
      rw [straight] at found ⊢
      rw [left, (visited_nonempty (by simp)).mpr rfl]
      simp [found]
    · have straight : heading words 0 (last.headD false) = false := by
        simp [heading, left]
      rw [straight] at found ⊢
      have filled := mt (visited_nonempty (branch_sized false sized)).mp left
      rw [List.getElem?_append_left (by simpa using List.length_pos_iff.mpr filled)]
      simp [found]

theorem lastTurn_cons (n : Nat) (words : List (List Bool)) (letter : Bool) (rest : List Bool) :
    lastTurn (n + 1) words (letter :: rest) =
      placeAbove (lastTurn n (branch letter words) rest) (Forks words ∧ letter = false) := rfl

theorem heading_keeps {turn : Nat} {letter : Bool} {rest : List Bool} (later : 1 < turn) (held : letter :: rest ∈ words) :
    heading words turn letter = letter := by
  have filled : branch letter words ≠ [] := List.ne_nil_of_mem (mem_branch.mpr held)
  rw [heading, if_pos later]
  by_cases forks : Forks words
  · rw [if_pos forks]
  · cases letter with
    | false => simp [filled]
    | true =>
      have alone : branch false words = [] := by simpa [Forks, filled] using forks
      simp [alone]

/-- Below a turn the walk goes on as it does among the words under the letter. -/
theorem descend_keeps {n place : Nat} {letter : Bool} {rest : List Bool}
    (later : 0 < place) (held : letter :: rest ∈ words) :
    (descend (n + 1) words (place + 1) (letter :: rest)).1 =
      letter :: (descend n (branch letter words) place rest).1 := by
  simp only [descend, List.headD_cons, List.tail_cons, Nat.add_sub_cancel,
    heading_keeps (show 1 < place + 1 by omega) held]

/-- **The walk goes from each word to the next.** It needs the word and its last turn
only; without a turn there is no word after it. -/
theorem descend_next {n : Nat} (sized : ∀ word ∈ words, word.length = n)
    {i : Nat} {word : List Bool} (reached : (visited n words)[i]? = some word) :
    (visited n words)[i + 1]? =
      if lastTurn n words word = 0 then none
      else some (descend n words (lastTurn n words word) word).1 := by
  induction n generalizing words i word with
  | zero =>
    have short : (visited 0 words).length ≤ 1 := by rw [visited]; split <;> simp
    rw [List.getElem?_eq_none (by omega)]
    rfl
  | succ n ih =>
    have held : word ∈ words := (mem_visited sized).mp (List.mem_of_getElem? reached)
    rw [visited] at reached ⊢
    by_cases left : i < (visited n (branch false words)).length
    -- the word is in the zero branch: so is the next one, unless it is the first of the other
    · rw [List.getElem?_append_left (by simpa using left), List.getElem?_map, Option.map_eq_some_iff] at reached
      obtain ⟨rest, reached, rfl⟩ := reached
      have next := ih (branch_sized _ sized) reached
      rw [lastTurn_cons]
      generalize lastTurn n (branch false words) rest = place at next ⊢
      obtain rfl | more := Nat.eq_zero_or_pos place
      · rw [List.getElem?_append_right (by simpa using next), List.length_map,
          show i + 1 - (visited n (branch false words)).length = 0 by omega, List.getElem?_map]
        by_cases forks : Forks words
        · have ahead : heading words 1 false = true := by simp [heading, forks]
          rw [placeAbove_here ⟨forks, rfl⟩, descend_first (branch_sized _ sized) forks.2 rest]
          simp only [descend, List.headD_cons, ahead]
          rfl
        · have alone : branch true words = [] := by
            have filled : branch false words ≠ [] := List.ne_nil_of_mem (mem_branch.mpr held)
            simpa [Forks, filled] using forks
          rw [placeAbove_none (fun both => forks both.1), alone, (visited_nonempty (by simp)).mpr rfl]
          rfl
      · rw [if_neg (by omega)] at next
        have inside := (List.getElem?_eq_some_iff.mp next).1
        rw [placeAbove_below more, descend_keeps more held,
          List.getElem?_append_left (by simpa using inside), List.getElem?_map, next]
        rfl
    -- the word is in the one branch, and nothing comes after that
    · rw [List.getElem?_append_right (by simpa using left), List.getElem?_map, List.length_map,
        Option.map_eq_some_iff] at reached
      obtain ⟨rest, reached, rfl⟩ := reached
      have next := ih (branch_sized _ sized) reached
      rw [lastTurn_cons, List.getElem?_append_right (by simp; omega), List.length_map,
        show i + 1 - (visited n (branch false words)).length =
          i - (visited n (branch false words)).length + 1 by omega, List.getElem?_map, next]
      generalize lastTurn n (branch true words) rest = place
      obtain rfl | more := Nat.eq_zero_or_pos place
      · rw [placeAbove_none (fun both => Bool.noConfusion both.2)]
        rfl
      · rw [placeAbove_below more, if_neg (by omega), descend_keeps more held]
        rfl

end Xtreme.Library
