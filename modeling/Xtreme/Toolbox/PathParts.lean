import Mathlib.Data.Nat.Notation
import Xtreme.Toolbox.FuriString

/-! Parts of a path (`lib/toolbox/path.c`): the name of a file without its extension, and the
directory and the name that together are the path again (`path_parts`). -/
namespace Xtreme.Toolbox

def pathExtractFilenameNoExt (path : List Char) : List Char :=
  let startPosition :=
    match furiStringSearchRchar '/' path with
    | some position => position + 1
    | none => 0
  let endPosition :=
    match furiStringSearchRchar '.' path with
    | some position => position
    | none => path.length
  furiStringMid path startPosition ((endPosition + 4294967296 - startPosition) % 4294967296)

/-- The name stays as it was if the last slash is the first character. -/
def pathExtractFilename (path name : List Char) (trimExt : Bool) : List Char :=
  let filenameStart := sizeT (furiStringSearchRchar '/' path)
  let name :=
    if 0 < filenameStart then
      let filenameStart := (filenameStart + 1) % 4294967296
      furiStringSetN path filenameStart (path.length - filenameStart)
    else name
  if trimExt then
    let dot := sizeT (furiStringSearchRchar '.' name)
    if 0 < dot then furiStringLeft name dot else name
  else name

def pathCleanup (path : List Char) : List Char :=
  ((furiStringTrim blanks path).reverse.dropWhile (· = '/')).reverse

def pathExtractBasename (path : List Char) : List Char :=
  let basename := pathCleanup path
  match furiStringSearchRchar '/' basename with
  | some pos => furiStringRight basename (pos + 1)
  | none => basename

def pathExtractDirname (path : List Char) : List Char :=
  let dirname := pathCleanup path
  match furiStringSearchRchar '/' dirname with
  | some pos => furiStringLeft dirname pos
  | none => dirname

def pathAppend (path suffix : List Char) : List Char :=
  pathCleanup path ++ '/' :: furiStringTrim ['/'] (furiStringTrim blanks suffix)

def pathConcat (path suffix : List Char) : List Char := pathAppend path suffix

inductive StemOf : List Char → List Char → Prop
  | dotless {name : List Char} (absent : '.' ∉ name) : StemOf name name
  | dotted (stem : List Char) {ext : List Char} (last : '.' ∉ ext) : StemOf (stem ++ '.' :: ext) stem

theorem pathExtractFilenameNoExt_eq {front last stem : List Char} (name : '/' ∉ last)
    (small : (front ++ '/' :: last).length < 4294967296) (stemOf : StemOf last stem) :
    pathExtractFilenameNoExt (front ++ '/' :: last) = stem := by
  have behind : furiStringRight (front ++ '/' :: last) (front.length + 1) = last := by
    have split : front ++ '/' :: last = (front ++ ['/']) ++ last := by
      rw [List.append_assoc]
      rfl
    rw [split]
    refine List.drop_left' ?_
    rw [List.length_append, List.length_singleton]
  have length : (front ++ '/' :: last).length = front.length + 1 + last.length := by
    rw [List.length_append, List.length_cons]
    omega
  have middle (size : Nat) : furiStringMid (front ++ '/' :: last) (front.length + 1) size = last.take size :=
    congrArg (List.take size) behind
  rw [pathExtractFilenameNoExt, furiStringSearchRchar_append front name]
  rw [middle]
  cases stemOf with
  | @dotted _ ext noDot =>
    have dot : furiStringSearchRchar '.' (front ++ '/' :: (stem ++ '.' :: ext)) = some (front.length + 1 + stem.length) := by
      have split : front ++ '/' :: (stem ++ '.' :: ext) = (front ++ '/' :: stem) ++ '.' :: ext := by
        rw [List.append_assoc]
        rfl
      rw [split, furiStringSearchRchar_append _ noDot, List.length_append, List.length_cons]
      exact congrArg some (by omega)
    have inner : (stem ++ '.' :: ext).length = stem.length + (ext.length + 1) := List.length_append
    have width : (front.length + 1 + stem.length + 4294967296 - (front.length + 1)) % 4294967296 = stem.length := by omega
    rw [dot]
    rw [width, List.take_left]
  | dotless absent =>
    have dot : furiStringSearchRchar '.' (front ++ '/' :: last) = furiStringSearchRchar '.' front :=
      furiStringSearchRchar_append_of_not_mem front (List.not_mem_cons_of_ne_of_not_mem (by decide) absent)
    rw [dot]
    refine List.take_of_length_le ?_
    cases found : furiStringSearchRchar '.' front with
    | none =>
      have width : last.length ≤ ((front ++ '/' :: last).length + 4294967296 - (front.length + 1)) % 4294967296 := by
        omega
      exact width
    | some position =>
      have before := lt_of_furiStringSearchRchar found
      -- the difference wraps
      have width : last.length ≤ (position + 4294967296 - (front.length + 1)) % 4294967296 := by omega
      exact width

theorem pathExtractFilename_eq {front last stem : List Char} (deep : front ≠ []) (slash : '/' ∉ last)
    (visible : last.head? ≠ some '.') (small : (front ++ '/' :: last).length < 4294967296) (stemOf : StemOf last stem)
    (name : List Char) : pathExtractFilename (front ++ '/' :: last) name true = stem := by
  have length : (front ++ '/' :: last).length = front.length + 1 + last.length := by
    rw [List.length_append, List.length_cons]
    omega
  have front_pos : 0 < front.length := List.length_pos_iff.mpr deep
  have behind : furiStringSetN (front ++ '/' :: last) (front.length + 1)
      ((front ++ '/' :: last).length - (front.length + 1)) = last := by
    have split : front ++ '/' :: last = (front ++ ['/']) ++ last := by
      rw [List.append_assoc]
      rfl
    have drop : (front ++ '/' :: last).drop (front.length + 1) = last := by
      rw [split]
      refine List.drop_left' ?_
      rw [List.length_append, List.length_singleton]
    rw [furiStringSetN, drop, length, Nat.add_sub_cancel_left, List.take_length]
  have wrapped : (front.length + 1) % 4294967296 = front.length + 1 := Nat.mod_eq_of_lt (by omega)
  rw [pathExtractFilename, furiStringSearchRchar_append front slash, sizeT_some]
  rw [if_pos front_pos, wrapped, behind]
  cases stemOf with
  | dotted _ noDot =>
    have stem_pos : 0 < stem.length := by
      refine List.length_pos_iff.mpr fun none => visible ?_
      rw [none]
      rfl
    rw [furiStringSearchRchar_append stem noDot, sizeT_some, if_pos stem_pos]
    exact List.take_left
  | dotless absent =>
    rw [furiStringSearchRchar_of_not_mem absent, sizeT_none]
    exact List.take_of_length_le (by omega)

def absolutePath : List (List Char) → List Char
  | [] => ['/']
  | components => components.flatMap ('/' :: ·)

def ProperComponent (component : List Char) : Prop := component ≠ [] ∧ '/' ∉ component

instance (component : List Char) : Decidable (ProperComponent component) :=
  inferInstanceAs (Decidable (component ≠ [] ∧ '/' ∉ component))

/-- The last component has no blanks at its ends, and the one before none at its end. -/
structure PlainEnds (components : List (List Char)) : Prop where
  last : ∀ component ∈ components.getLast?, Untrimmed blanks component
  before : ∀ component ∈ components.dropLast.getLast?, ∀ c ∈ component.getLast?, c ∉ blanks

/-- A path that is clean already: its ends are no blanks, and it does not end with a slash. -/
structure Clean (path : List Char) : Prop where
  ends : Untrimmed blanks path
  noSlash : ∀ c ∈ path.getLast?, c ≠ '/'

theorem Clean.pathCleanup {path : List Char} (clean : Clean path) : Toolbox.pathCleanup path = path := by
  have back : path.reverse.dropWhile (· = '/') = path.reverse := by
    refine dropWhile_of_head fun c first slash => clean.noSlash c ?_ (of_decide_eq_true slash)
    rwa [List.head?_reverse] at first
  rw [Toolbox.pathCleanup, furiStringTrim_of_untrimmed clean.ends, back, List.reverse_reverse]

/-- What a path is cut to is put together to it again. -/
theorem pathConcat_parts {front last : List Char} (whole : Clean (front ++ '/' :: last)) (directory : Clean front)
    (name : ProperComponent last) (plain : Untrimmed blanks last) :
    pathConcat (pathExtractDirname (front ++ '/' :: last)) (pathExtractBasename (front ++ '/' :: last)) =
      front ++ '/' :: last := by
  have found := furiStringSearchRchar_append front name.2
  have dirname : pathExtractDirname (front ++ '/' :: last) = front := by
    rw [pathExtractDirname, whole.pathCleanup, found]
    exact List.take_left
  have basename : pathExtractBasename (front ++ '/' :: last) = last := by
    have split : front ++ '/' :: last = (front ++ ['/']) ++ last := by
      rw [List.append_assoc]
      rfl
    rw [pathExtractBasename, whole.pathCleanup, found]
    rw [split]
    refine List.drop_left' ?_
    rw [List.length_append, List.length_singleton]
  have noSlash : Untrimmed ['/'] last := by
    refine ⟨fun c first slash => name.2 ?_, fun c last slash => name.2 ?_⟩
    · rw [← List.mem_singleton.mp slash]
      exact List.mem_of_head? first
    · rw [← List.mem_singleton.mp slash]
      exact List.mem_of_getLast? last
  rw [dirname, basename, pathConcat, pathAppend, directory.pathCleanup, furiStringTrim_of_untrimmed plain,
    furiStringTrim_of_untrimmed noSlash]

theorem slash_not_blank : '/' ∉ blanks := by decide

theorem clean_of_last (front : List Char) {last : List Char} (name : ProperComponent last)
    (ends : ∀ c ∈ last.getLast?, c ∉ blanks) (first : ∀ c ∈ front.head?, c = '/') : Clean (front ++ '/' :: last) := by
  obtain ⟨c, rest, rfl⟩ := List.exists_cons_of_ne_nil name.1
  have back : (front ++ '/' :: c :: rest).getLast? = (c :: rest).getLast? := by
    rw [List.getLast?_append_cons, List.getLast?_cons_cons]
  refine ⟨⟨fun c head => ?_, fun c tail => ends c (by rwa [back] at tail)⟩, fun c tail slash => name.2 ?_⟩
  · cases front with
    | nil =>
      rw [← Option.some.inj head]
      exact slash_not_blank
    | cons other front =>
      rw [← Option.some.inj head, first other rfl]
      exact slash_not_blank
  · rw [back] at tail
    rw [← slash]
    exact List.mem_of_getLast? tail

theorem head_flatMap_slash (components : List (List Char)) : ∀ c ∈ (components.flatMap ('/' :: ·)).head?, c = '/' := by
  intro c first
  cases components with
  | nil => cases first
  | cons component rest => exact (Option.some.inj first).symm

theorem pathConcat_absolutePath {components : List (List Char)} (proper : ∀ component ∈ components, ProperComponent component)
    (plain : PlainEnds components) :
    pathConcat (pathExtractDirname (absolutePath components)) (pathExtractBasename (absolutePath components)) =
      absolutePath components := by
  rcases List.eq_nil_or_concat components with rfl | ⟨front, last, rfl⟩
  · decide
  · rw [List.concat_eq_append] at proper plain ⊢
    obtain ⟨properFront, properLast⟩ := List.forall_mem_append.mp proper
    have name : ProperComponent last := properLast last List.mem_cons_self
    have path : absolutePath (front ++ [last]) = front.flatMap ('/' :: ·) ++ '/' :: last := by
      have some : absolutePath (front ++ [last]) = (front ++ [last]).flatMap ('/' :: ·) := by
        cases front <;> rfl
      rw [some, List.flatMap_append, List.flatMap_singleton]
    have lastPlain : Untrimmed blanks last := plain.last last List.getLast?_concat
    have directory : Clean (front.flatMap ('/' :: ·)) := by
      rcases List.eq_nil_or_concat front with rfl | ⟨deeper, before, rfl⟩
      · exact ⟨⟨(fun c first => by cases first), (fun c last => by cases last)⟩, (fun c last => by cases last)⟩
      · rw [List.concat_eq_append] at properFront plain ⊢
        rw [List.flatMap_append, List.flatMap_singleton]
        refine clean_of_last _ (properFront before (List.mem_append_right _ List.mem_cons_self)) ?_
          (head_flatMap_slash deeper)
        refine plain.before before ?_
        rw [List.dropLast_concat]
        exact List.getLast?_concat
    rw [path]
    exact pathConcat_parts (clean_of_last _ name lastPlain.last (head_flatMap_slash front)) directory name lastPlain

/-- A path with a directory whose last component is no hidden file, and that fits the memory. -/
structure FilePath (front last stem : List Char) : Prop where
  name : ProperComponent last
  visible : last.head? ≠ some '.'
  small : (front ++ '/' :: last).length < 4294967296
  stem : StemOf last stem

theorem path_parts : (∀ {front last stem : List Char}, FilePath front last stem →
      pathExtractFilenameNoExt (front ++ '/' :: last) = stem ∧
        (front ≠ [] → ∀ name : List Char, pathExtractFilename (front ++ '/' :: last) name true = stem)) ∧
    ∀ components : List (List Char), (∀ component ∈ components, ProperComponent component) → PlainEnds components →
      pathConcat (pathExtractDirname (absolutePath components)) (pathExtractBasename (absolutePath components)) =
        absolutePath components := by
  refine ⟨fun file => ⟨?_, fun deep name => ?_⟩, fun components => pathConcat_absolutePath⟩
  · exact pathExtractFilenameNoExt_eq file.name.2 file.small file.stem
  · exact pathExtractFilename_eq deep file.name.2 file.visible file.small file.stem name

/-- `/d.x/a.b.c`, a name with two dots under a directory with one, and `/a b/c`. -/
theorem path_parts_dotted :
    (pathExtractFilenameNoExt ['/', 'd', '.', 'x', '/', 'a', '.', 'b', '.', 'c'] = ['a', '.', 'b'] ∧
      pathExtractFilename ['/', 'd', '.', 'x', '/', 'a', '.', 'b', '.', 'c'] [] true = ['a', '.', 'b']) ∧
    pathConcat (pathExtractDirname ['/', 'a', ' ', 'b', '/', 'c']) (pathExtractBasename ['/', 'a', ' ', 'b', '/', 'c']) =
      ['/', 'a', ' ', 'b', '/', 'c'] := by
  have file : FilePath ['/', 'd', '.', 'x'] ['a', '.', 'b', '.', 'c'] ['a', '.', 'b'] :=
    ⟨by decide, by decide, by decide, StemOf.dotted ['a', '.', 'b'] (by decide)⟩
  have parts := path_parts.1 file
  refine ⟨⟨parts.1, parts.2 (by decide) []⟩, path_parts.2 [['a', ' ', 'b'], ['c']] (by decide) ?_⟩
  refine ⟨fun component last => ?_, fun component before => ?_⟩
  · obtain rfl := Option.some.inj last
    exact ⟨fun c first => Option.some.inj first ▸ by decide, fun c last => Option.some.inj last ▸ by decide⟩
  · obtain rfl := Option.some.inj before
    exact fun c last => Option.some.inj last ▸ by decide

/-- The blank at the end of a name is trimmed, and the directory and the name of `/a/b ` are those of `/a/b`. -/
theorem path_parts_blank : (∀ component ∈ [['a'], ['b', ' ']], ProperComponent component) ∧
      absolutePath [['a'], ['b', ' ']] = ['/', 'a', '/', 'b', ' '] ∧
      pathConcat (pathExtractDirname ['/', 'a', '/', 'b', ' ']) (pathExtractBasename ['/', 'a', '/', 'b', ' ']) =
        ['/', 'a', '/', 'b'] := by
  refine ⟨by decide, rfl, by decide⟩

end Xtreme.Toolbox
