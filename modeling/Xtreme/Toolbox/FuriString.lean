import Mathlib.Data.List.Basic

/-! Strings as `furi/core/string.h` documents them, one character a byte. A search that
finds nothing (`FURI_STRING_FAILURE`) gives `none`. -/
namespace Xtreme.Toolbox

/-- The first `c` from the start on. -/
def furiStringSearchChar (string : List Char) (c : Char) (start : Nat) : Option Nat :=
  ((string.drop start).findIdx? (· == c)).map (· + start)

/-- The last `c`. -/
def furiStringSearchRchar (c : Char) : List Char → Option Nat
  | [] => none
  | first :: rest =>
    match furiStringSearchRchar c rest with
    | some place => some (place + 1)
    | none => if first = c then some 0 else none

def furiStringLeft (string : List Char) (index : Nat) : List Char := string.take index

def furiStringRight (string : List Char) (index : Nat) : List Char := string.drop index

def furiStringMid (string : List Char) (index size : Nat) : List Char := (string.drop index).take size

def furiStringSetN (source : List Char) (offset length : Nat) : List Char := (source.drop offset).take length

/-- Without the characters at both ends that are among the given ones. -/
def furiStringTrim (chars string : List Char) : List Char :=
  ((string.reverse.dropWhile (· ∈ chars)).reverse).dropWhile (· ∈ chars)

/-- The characters that are trimmed by default. -/
def blanks : List Char := [' ', ' ', '\n', '\r', '\t']

def sizeT (position : Option Nat) : Nat := position.getD 4294967295

@[simp] theorem sizeT_some (position : Nat) : sizeT (some position) = position := rfl

@[simp] theorem sizeT_none : sizeT none = 4294967295 := rfl

theorem furiStringSearchRchar_of_not_mem {string : List Char} {c : Char} (absent : c ∉ string) :
    furiStringSearchRchar c string = none := by
  induction string with
  | nil => rfl
  | cons first rest next =>
    obtain ⟨other, later⟩ := List.ne_and_not_mem_of_not_mem_cons absent
    rw [furiStringSearchRchar, next later]
    exact if_neg (Ne.symm other)

theorem furiStringSearchRchar_append_of_not_mem {c : Char} (front : List Char) {back : List Char} (absent : c ∉ back) :
    furiStringSearchRchar c (front ++ back) = furiStringSearchRchar c front := by
  induction front with
  | nil => exact furiStringSearchRchar_of_not_mem absent
  | cons first front next => rw [List.cons_append, furiStringSearchRchar, next, furiStringSearchRchar]

theorem lt_of_furiStringSearchRchar {c : Char} {string : List Char} {place : Nat}
    (found : furiStringSearchRchar c string = some place) : place < string.length := by
  induction string generalizing place with
  | nil => cases found
  | cons first rest next =>
    rw [furiStringSearchRchar] at found
    cases later : furiStringSearchRchar c rest with
    | some before =>
      rw [later] at found
      cases found
      exact Nat.succ_lt_succ (next later)
    | none =>
      rw [later] at found
      dsimp only at found
      split at found
      · cases found
        exact Nat.succ_pos _
      · cases found

theorem furiStringSearchRchar_append {c : Char} (front : List Char) {back : List Char} (last : c ∉ back) :
    furiStringSearchRchar c (front ++ c :: back) = some front.length := by
  induction front with
  | nil =>
    rw [List.nil_append, furiStringSearchRchar, furiStringSearchRchar_of_not_mem last]
    exact if_pos rfl
  | cons first front next => rw [List.cons_append, furiStringSearchRchar, next, List.length_cons]

theorem furiStringSearchChar_of_not_mem {string : List Char} {c : Char} (start : Nat) (absent : c ∉ string.drop start) :
    furiStringSearchChar string c start = none := by
  have none : (string.drop start).findIdx? (· == c) = none := by
    refine List.findIdx?_eq_none_iff.mpr fun other member => beq_false_of_ne ?_
    rintro rfl
    exact absent member
  rw [furiStringSearchChar, none, Option.map_none]

theorem furiStringSearchChar_append {c : Char} {front : List Char} (first : c ∉ front) (back : List Char) :
    furiStringSearchChar (front ++ c :: back) c 0 = some front.length := by
  have found : (front ++ c :: back).findIdx? (· == c) = some front.length := by
    have none : front.findIdx? (· == c) = none := by
      refine List.findIdx?_eq_none_iff.mpr fun other member => beq_false_of_ne ?_
      rintro rfl
      exact first member
    rw [List.findIdx?_append, none, List.findIdx?_cons, if_pos (beq_self_eq_true c)]
    exact congrArg some (Nat.zero_add _)
  rw [furiStringSearchChar, List.drop_zero, found]
  rfl

theorem furiStringSearchChar_cons (first : Char) (string : List Char) (c : Char) :
    furiStringSearchChar (first :: string) c 1 = (furiStringSearchChar string c 0).map (· + 1) := by
  rw [furiStringSearchChar, furiStringSearchChar, Option.map_map]
  rfl

/-- Neither end is among the characters. -/
structure Untrimmed (chars string : List Char) : Prop where
  first : ∀ c ∈ string.head?, c ∉ chars
  last : ∀ c ∈ string.getLast?, c ∉ chars

theorem dropWhile_of_head {drops : Char → Bool} {string : List Char} (first : ∀ c ∈ string.head?, ¬drops c = true) :
    string.dropWhile drops = string := by
  cases string with
  | nil => rfl
  | cons c rest => exact List.dropWhile_cons_of_neg (first c rfl)

theorem Untrimmed.dropWhile {chars string : List Char} (ends : Untrimmed chars string) :
    string.dropWhile (· ∈ chars) = string :=
  dropWhile_of_head fun c first member => ends.first c first (of_decide_eq_true member)

theorem Untrimmed.reverse {chars string : List Char} (ends : Untrimmed chars string) : Untrimmed chars string.reverse where
  first := by
    rw [List.head?_reverse]
    exact ends.last
  last := by
    rw [List.getLast?_reverse]
    exact ends.first

theorem furiStringTrim_of_untrimmed {chars string : List Char} (ends : Untrimmed chars string) :
    furiStringTrim chars string = string := by
  rw [furiStringTrim, ends.reverse.dropWhile, List.reverse_reverse, ends.dropWhile]

theorem furiStringTrim_cons {chars string : List Char} {c : Char} (member : c ∈ chars) (ends : Untrimmed chars string) :
    furiStringTrim chars (c :: string) = string := by
  have gone : (c :: string).dropWhile (· ∈ chars) = string.dropWhile (· ∈ chars) :=
    List.dropWhile_cons_of_pos (decide_eq_true member)
  cases string with
  | nil =>
    have alone : [c].dropWhile (· ∈ chars) = [] := gone
    rw [furiStringTrim, List.reverse_singleton, alone]
    rfl
  | cons next rest =>
    have back : (c :: next :: rest).reverse.dropWhile (· ∈ chars) = (c :: next :: rest).reverse := by
      refine dropWhile_of_head fun other first member => ends.last other ?_ (of_decide_eq_true member)
      rwa [List.head?_reverse] at first
    rw [furiStringTrim, back, List.reverse_reverse, gone, ends.dropWhile]

end Xtreme.Toolbox
