import Xtreme.Library.Records
import Xtreme.Library.WordBytes
import Xtreme.Toolbox.KeysDict

/-! A key dictionary as a list of lines. Each call is described by what it does to the
lines and to the cursor, which stays between two lines (`AtLine`). -/
namespace Xtreme.Toolbox
open Xtreme.Library Xtreme.Stream BitLib
open Effect (bind_of_ok)

def TextLine (line : List UInt8) : Prop := 10 ∉ line ∧ 0 ∉ line

instance (line : List UInt8) : Decidable (TextLine line) := inferInstanceAs (Decidable (_ ∧ _))

def linesText (lines : List (List UInt8)) : List UInt8 := lines.flatMap (· ++ [10])

/-- The characters of a line that are taken for a key. The line feed is one of them if
the line is short of one. -/
def keyText (keySize : Nat) (line : List UInt8) : Option (List UInt8) :=
  let read := withoutReturns line ++ [10]
  if read.headD 0 ≠ 35 ∧ 2 * keySize ≤ read.length then some (read.take (2 * keySize)) else none

/-- The key that some characters stand for. -/
def readKey (keySize : Nat) (keyStr : List UInt8) : Option (Bytes keySize) :=
  (keysDictStrToInt keySize keyStr).map keyOfInt

def lineKey (keySize : Nat) (line : List UInt8) : Option (Bytes keySize) :=
  (keyText keySize line).bind (readKey keySize)

/-- The keys of a file, in their order. -/
def lineKeys (keySize : Nat) (lines : List (List UInt8)) : List (Bytes keySize) := lines.filterMap (lineKey keySize)

/-- A line that is taken for a key starts with two digits. -/
def Determined (keySize : Nat) (line : List UInt8) : Prop :=
  ∀ keyStr ∈ keyText keySize line, ∃ byte, argsCharToHex (keyStr.getD 0 0) (keyStr.getD 1 0) = some byte

instance (keySize : Nat) (line : List UInt8) : Decidable (Determined keySize line) :=
  decidable_of_iff (∀ keyStr ∈ (keyText keySize line).toList,
    (argsCharToHex (keyStr.getD 0 0) (keyStr.getD 1 0)).isSome = true)
    (by simp only [Determined, Option.mem_toList, Option.mem_def, Option.isSome_iff_exists])

@[simp] theorem linesText_nil : linesText [] = [] := rfl

theorem linesText_cons (line : List UInt8) (lines : List (List UInt8)) :
    linesText (line :: lines) = line ++ 10 :: linesText lines := by
  rw [linesText, List.flatMap_cons, ← linesText, List.append_assoc, List.singleton_append]

@[simp] theorem linesText_append (lines more : List (List UInt8)) :
    linesText (lines ++ more) = linesText lines ++ linesText more := List.flatMap_append

theorem linesText_singleton (line : List UInt8) : linesText [line] = line ++ [10] := List.flatMap_singleton _ _

theorem length_le_linesText (lines : List (List UInt8)) : lines.length ≤ (linesText lines).length := by
  induction lines with
  | nil => exact Nat.le_refl 0
  | cons line lines next =>
    rw [linesText_cons, List.length_append, List.length_cons, List.length_cons]
    omega

theorem linesText_notZero {lines : List (List UInt8)} (text : ∀ line ∈ lines, TextLine line) :
    ∀ byte ∈ linesText lines, byte ≠ 0 := by
  rintro byte member rfl
  obtain ⟨line, there, zero⟩ := List.mem_flatMap.mp member
  rcases List.mem_append.mp zero with inside | feed
  · exact (text line there).2 inside
  · rw [List.mem_singleton] at feed
    cases feed

section
variable {keySize : Nat}

theorem hexPair_plain (byte : BitVec 8) : ∀ c ∈ hexPair byte, c ≠ 0 ∧ c ≠ 10 ∧ c ≠ 13 ∧ c ≠ 35 := by
  have plain : ∀ digit < 16, chars.getD digit 0 ≠ 0 ∧ chars.getD digit 0 ≠ 10 ∧ chars.getD digit 0 ≠ 13 ∧
      chars.getD digit 0 ≠ 35 := by decide
  have low (nibble : BitVec 8) : (nibble &&& 0xF#8).toNat < 16 := by
    exact Nat.lt_succ_of_le Nat.and_le_right
  intro c member
  simp only [hexPair, List.mem_cons, List.not_mem_nil, or_false] at member
  rcases member with rfl | rfl
  · exact plain _ (low _)
  · exact plain _ (low _)

theorem intToStr_plain (key : Bytes keySize) : ∀ c ∈ keysDictIntToStr key, c ≠ 0 ∧ c ≠ 10 ∧ c ≠ 13 ∧ c ≠ 35 := by
  intro c member
  obtain ⟨symbol, there, rfl⟩ := List.mem_map.mp member
  obtain ⟨byte, -, pair⟩ := List.mem_flatMap.mp there
  obtain ⟨zero, feed, carriage, comment⟩ := hexPair_plain byte symbol pair
  exact ⟨fun same => zero (congrArg UInt8.toBitVec same), fun same => feed (congrArg UInt8.toBitVec same),
    fun same => carriage (congrArg UInt8.toBitVec same), fun same => comment (congrArg UInt8.toBitVec same)⟩

theorem length_intToStr (key : Bytes keySize) : (keysDictIntToStr key).length = 2 * keySize := by
  have two (byte : BitVec 8) : (hexPair byte).length = 2 := rfl
  rw [keysDictIntToStr, List.length_map, length_records two, Vector.length_toList]

theorem intToStr_textLine (key : Bytes keySize) : TextLine (keysDictIntToStr key) :=
  ⟨fun member => (intToStr_plain key 10 member).2.1 rfl, fun member => (intToStr_plain key 0 member).1 rfl⟩

theorem keyText_printed (key : Bytes keySize) : keyText keySize (keysDictIntToStr key) = some (keysDictIntToStr key) := by
  have plain := intToStr_plain key
  have length := length_intToStr key
  have kept : withoutReturns (keysDictIntToStr key) = keysDictIntToStr key :=
    List.filter_eq_self.mpr fun c member => decide_eq_true (plain c member).2.2.1
  have first : (keysDictIntToStr key ++ [10]).headD 0 ≠ 35 := by
    cases shown : keysDictIntToStr key with
    | nil => decide
    | cons c rest => exact (plain c (shown ▸ List.mem_cons_self)).2.2.2
  have long : 2 * keySize ≤ (keysDictIntToStr key ++ [10]).length := by
    rw [List.length_append, length]
    exact Nat.le_add_right _ _
  rw [keyText, kept, if_pos ⟨first, long⟩, ← length, List.take_left]

theorem strToIntLoop_printed (bytes : List (BitVec 8)) (keyByteTmp : Option (BitVec 8)) (front : List (BitVec 8)) :
    strToIntLoop ((bytes.flatMap hexPair).map UInt8.ofBitVec) keyByteTmp bytes.length
      ((joinBytes front : BitVec 64) <<< (8 * bytes.length)) = some (joinBytes (front ++ bytes)) := by
  induction bytes generalizing keyByteTmp front with
  | nil => simp [strToIntLoop]
  | cons byte bytes next =>
    have pair : argsCharToHex (UInt8.ofBitVec (chars.getD ((byte >>> 4) &&& 0xF#8).toNat 0))
        (UInt8.ofBitVec (chars.getD (byte &&& 0xF#8).toNat 0)) = some byte := hexPair_parsed byte
    have joined : (joinBytes (front ++ [byte]) : BitVec 64) = (joinBytes front <<< 8) ||| byte.setWidth 64 := by
      rw [joinBytes, List.foldl_append]
      rfl
    have shifted : ((joinBytes front : BitVec 64) <<< (8 * (bytes.length + 1))) |||
        (byte.setWidth 64 <<< (8 * bytes.length)) = joinBytes (front ++ [byte]) <<< (8 * bytes.length) := by
      rw [joined, BitVec.shiftLeft_or_distrib, ← BitVec.shiftLeft_add, Nat.mul_succ, Nat.add_comm]
    rw [List.flatMap_cons, hexPair, List.map_append, List.map_cons, List.map_cons, List.map_nil, List.cons_append,
      List.cons_append, List.nil_append, strToIntLoop, pair]
    dsimp only [Option.or]
    rw [List.length_cons, Nat.add_sub_cancel, shifted, next, List.append_assoc, List.singleton_append]

theorem readKey_printed (few : keySize ≤ 8) (key : Bytes keySize) :
    readKey keySize (keysDictIntToStr key) = some key := by
  have length : key.toList.length = keySize := Vector.length_toList
  have parsed := strToIntLoop_printed key.toList none []
  have none : (joinBytes [] : BitVec 64) <<< (8 * key.toList.length) = 0 := BitVec.zero_shiftLeft _
  rw [none, length, List.nil_append] at parsed
  rw [readKey, keysDictStrToInt, keysDictIntToStr, parsed, Option.map_some, Option.some.injEq]
  refine Vector.ext fun place inside => ?_
  have byte : key.toList.reverse[keySize - 1 - place]? = some key[place] := by
    have back : key.toList.length - 1 - (keySize - 1 - place) = place := by omega
    rw [List.getElem?_reverse (by omega), back, Vector.getElem?_toList, Vector.getElem?_eq_getElem inside]
  rw [keyOfInt, Vector.getElem_ofFn]
  apply BitVec.eq_of_getLsbD_eq
  intro bit within
  have whole : (8 * (keySize - 1 - place) + bit) / 8 = keySize - 1 - place := by omega
  have part : (8 * (keySize - 1 - place) + bit) % 8 = bit := by omega
  rw [BitVec.getLsbD_setWidth, decide_eq_true within, Bool.true_and, BitVec.getLsbD_ushiftRight,
    getLsbD_joinBytes _ (by omega), whole, part, byte, Option.getD_some]

theorem lineKey_printed (few : keySize ≤ 8) (key : Bytes keySize) :
    lineKey keySize (keysDictIntToStr key) = some key := by
  rw [lineKey, keyText_printed, Option.bind_some, readKey_printed few]

/-- Once a byte is set, characters always stand for a number. -/
theorem strToIntLoop_isSome {keyStr : List UInt8} {keyByteTmp : Option (BitVec 8)} (set : keyByteTmp.isSome)
    (left : Nat) (keyInt : BitVec 64) : (strToIntLoop keyStr keyByteTmp left keyInt).isSome := by
  fun_induction strToIntLoop keyStr keyByteTmp left keyInt with
  | case1 h l rest keyByteTmp left keyInt unset =>
    rw [(Option.or_eq_none_iff.mp unset).2] at set
    cases set
  | case2 h l rest keyByteTmp left keyInt byte pair next => exact next rfl
  | case3 => rfl

theorem lineKey_isSome (filled : 0 < keySize) {line : List UInt8} (determined : Determined keySize line) :
    (lineKey keySize line).isSome = (keyText keySize line).isSome := by
  rw [lineKey]
  cases taken : keyText keySize line with
  | none => rfl
  | some keyStr =>
    obtain ⟨byte, digits⟩ := determined keyStr taken
    have long : 2 * keySize = keyStr.length := by
      rw [keyText] at taken
      split at taken
      · rename_i key
        rw [← Option.some.inj taken, List.length_take, Nat.min_eq_left key.2]
      · cases taken
    obtain ⟨h, others, rfl⟩ := List.exists_cons_of_length_pos (by omega : 0 < keyStr.length)
    rw [List.length_cons] at long
    obtain ⟨l, rest, rfl⟩ := List.exists_cons_of_length_pos (by omega : 0 < others.length)
    have pair : argsCharToHex h l = some byte := digits
    rw [Option.bind_some, readKey, Option.isSome_map, keysDictStrToInt, strToIntLoop, pair]
    exact @strToIntLoop_isSome _ (some byte) rfl _ _

end

section
variable {keySize : Nat} {dict : KeysDict keySize} {total : BitVec 32} {done ahead rest : List (List UInt8)}
  {line : List UInt8}

/-- The cursor is behind the lines `done` and in front of `ahead`. -/
structure AtLine (dict : KeysDict keySize) (total : BitVec 32) (done ahead : List (List UInt8)) : Prop where
  counted : dict.totalKeys = total
  shown : Shows dict.stream ⟨linesText done, linesText ahead⟩
  text : ∀ line ∈ done ++ ahead, TextLine line

namespace AtLine

theorem size (here : AtLine dict total done ahead) : streamSize dict.stream = (linesText (done ++ ahead)).length := by
  rw [here.shown.holds.size, linesText_append]

theorem lines_le (here : AtLine dict total done ahead) : (done ++ ahead).length ≤ streamSize dict.stream := by
  rw [here.size]
  exact length_le_linesText _

theorem small (here : AtLine dict total done ahead) : (linesText (done ++ ahead)).length < 2 ^ 31 := by
  rw [linesText_append]
  exact here.shown.text_small

theorem move {α : Type} (here : AtLine dict total done ahead) {call : AnyStream → α × AnyStream} {answer : α}
    {done' ahead' : List (List UInt8)} (same : done' ++ ahead' = done ++ ahead)
    (moved : ∃ next, call dict.stream = (answer, next) ∧ Shows next ⟨linesText done', linesText ahead'⟩) :
    ∃ next, onStream call dict = (.ok answer, next) ∧ AtLine next total done' ahead' := by
  obtain ⟨stream, call, shown⟩ := moved
  refine ⟨{ dict with stream }, ?_, here.counted, shown, ?_⟩
  · rw [onStream, call]
  · rw [same]
    exact here.text

theorem rewind (here : AtLine dict total done ahead) :
    ∃ next, onStream streamRewind dict = (.ok true, next) ∧ AtLine next total [] (done ++ ahead) := by
  refine here.move (List.nil_append _) ?_
  rw [linesText_append]
  exact here.shown.holds.rewind here.shown.text_small

theorem seekBack {done' ahead' : List (List UInt8)} (here : AtLine dict total done' ahead')
    (same : done ++ ahead = done' ++ ahead') :
    ∃ next, onStream (streamSeek · (int32 (linesText done).length) .fromStart) dict = (.ok true, next) ∧
      AtLine next total done ahead := by
  have small : (linesText (done ++ ahead)).length < 2 ^ 31 := by
    rw [same]
    exact here.small
  rw [linesText_append, List.length_append] at small
  have place : int32 (linesText done).length = (linesText done).length := int32_of_range (by omega) (by omega)
  refine here.move same ?_
  rw [place]
  refine here.shown.holds.seekTo here.shown.text_small ?_
  rw [← linesText_append, ← linesText_append, same]

theorem readLine (here : AtLine dict total done (line :: rest)) :
    ∃ next, readLine dict = (.ok (true, withoutReturns line ++ [10]), next) ∧
      AtLine next total (done ++ [line]) rest := by
  have shown := here.shown
  rw [linesText_cons] at shown
  have inside : 10 ∉ line := (here.text line (List.mem_append_right _ List.mem_cons_self)).1
  have enough : (line ++ 10 :: linesText rest).length < streamSize dict.stream + 1 := by
    rw [here.size, linesText_append, linesText_cons, @List.length_append _ (linesText done)]
    omega
  obtain ⟨stream, loop, there⟩ := streamReadLineLoop_line [] shown inside enough
  have filled : ([] ++ withoutReturns line ++ [10]).length ≠ 0 := by
    rw [List.length_append]
    exact Nat.succ_ne_zero _
  refine ⟨{ dict with stream }, ?_, here.counted, ?_, ?_⟩
  · rw [Toolbox.readLine, streamReadLine_of_loop loop, decide_eq_true filled]
    rfl
  · rwa [linesText_append, linesText_singleton, ← List.append_assoc]
  · rw [List.append_assoc]
    exact here.text

theorem readLine_end (here : AtLine dict total done []) :
    ∃ next, Toolbox.readLine dict = (.ok (false, []), next) ∧ AtLine next total done [] := by
  obtain ⟨stream, loop, there⟩ := streamReadLineLoop_end [] here.shown List.not_mem_nil
    (show [].length < streamSize dict.stream + 1 from Nat.succ_pos _)
  refine ⟨{ dict with stream }, ?_, here.counted, ?_, here.text⟩
  · rw [Toolbox.readLine, streamReadLine_of_loop loop]
    rfl
  · rwa [linesText_nil, List.append_nil] at there

theorem readKeyLine (here : AtLine dict total done (line :: rest)) :
    ∃ cut next, keysDictReadKeyLine dict = (.ok ((keyText keySize line).isSome, cut, false), next) ∧
      (∀ keyStr ∈ keyText keySize line, cut = keyStr) ∧ AtLine next total (done ++ [line]) rest := by
  obtain ⟨next, read, there⟩ := here.readLine
  have symbols : keySizeSymbols keySize - 1 = 2 * keySize := by
    rw [keySizeSymbols]
    omega
  rw [keysDictReadKeyLine, bind_of_ok read, keyText]
  generalize withoutReturns line ++ [10] = shown
  dsimp only
  rw [if_pos rfl, symbols]
  by_cases comment : shown.headD 0 = 35
  · refine ⟨shown, next, ?_, ?_, there⟩
    · rw [decide_eq_true comment, if_neg (not_and_of_not_left _ (not_not.mpr comment))]
      rfl
    · rw [if_neg (not_and_of_not_left _ (not_not.mpr comment))]
      intro keyStr none
      cases none
  · refine ⟨shown.take (2 * keySize), next, ?_, ?_, there⟩
    · have length : (shown.take (2 * keySize)).length = 2 * keySize ↔ 2 * keySize ≤ shown.length := by
        rw [List.length_take]
        omega
      rw [decide_eq_false comment, if_neg Bool.false_ne_true, Bool.not_false, decide_eq_decide.mpr length]
      by_cases long : 2 * keySize ≤ shown.length
      · rw [if_pos ⟨comment, long⟩, decide_eq_true long]
        rfl
      · rw [if_neg (not_and_of_not_right _ long), decide_eq_false long]
        rfl
    · intro keyStr cut
      split at cut
      · exact Option.some.inj cut
      · cases cut

theorem readKeyLine_end (here : AtLine dict total done []) :
    ∃ next, keysDictReadKeyLine dict = (.ok (false, [], true), next) ∧ AtLine next total done [] := by
  obtain ⟨next, read, there⟩ := here.readLine_end
  exact ⟨next, bind_of_ok read, there⟩

end AtLine
end

inductive NextLine {α : Type} (taken : List UInt8 → Option α) :
    List (List UInt8) → List (List UInt8) → List (List UInt8) → Option α → Prop
  | none {ahead : List (List UInt8)} (absent : ∀ line ∈ ahead, taken line = none) : NextLine taken ahead ahead [] none
  | some {front rest : List (List UInt8)} {line : List UInt8} {answer : α}
      (absent : ∀ other ∈ front, taken other = none) (there : taken line = some answer) :
      NextLine taken (front ++ line :: rest) (front ++ [line]) rest (some answer)

section
variable {α : Type} {taken : List UInt8 → Option α} {ahead passed rest : List (List UInt8)} {answer : Option α}
  {line : List UInt8}

theorem NextLine.split (next : NextLine taken ahead passed rest answer) : passed ++ rest = ahead := by
  cases next with
  | none absent => exact List.append_nil ahead
  | some absent there => rw [List.append_assoc, List.singleton_append]

theorem NextLine.behind {front : List (List UInt8)} (others : ∀ line ∈ front, taken line = Option.none)
    (next : NextLine taken ahead passed rest answer) : NextLine taken (front ++ ahead) (front ++ passed) rest answer := by
  have both {more : List (List UInt8)} (absent : ∀ line ∈ more, taken line = Option.none) :
      ∀ line ∈ front ++ more, taken line = Option.none :=
    fun line member => (List.mem_append.mp member).elim (others line) (absent line)
  cases next with
  | none absent => exact .none (both absent)
  | some absent there =>
    rw [← List.append_assoc, ← List.append_assoc]
    exact .some (both absent) there

end

/-! ## The loops -/

section
variable {keySize : Nat} {dict : KeysDict keySize} {total : BitVec 32} {done ahead : List (List UInt8)} {fuel : Nat}

namespace AtLine

theorem getNextKeyStr_loop (here : AtLine dict total done ahead) (enough : ahead.length < fuel) :
    ∃ answer passed rest next, getNextKeyStrLoop fuel dict = (.ok answer, next) ∧
      NextLine (keyText keySize) ahead passed rest answer ∧ AtLine next total (done ++ passed) rest := by
  induction fuel generalizing dict done ahead with
  | zero => exact absurd enough (Nat.not_lt_zero _)
  | succ fuel onward =>
    rw [getNextKeyStrLoop]
    cases ahead with
    | nil =>
      obtain ⟨next, read, there⟩ := here.readKeyLine_end
      refine ⟨none, [], [], next, bind_of_ok read, .none fun line member => ?_, ?_⟩
      · cases member
      · rwa [List.append_nil]
    | cons line rest =>
      obtain ⟨cut, next, read, same, there⟩ := here.readKeyLine
      rw [bind_of_ok read]
      cases taken : keyText keySize line with
      | some keyStr =>
        rw [same keyStr taken]
        exact ⟨some keyStr, [line], rest, next, rfl,
          @NextLine.some _ _ [] rest line keyStr (fun other member => by cases member) taken, there⟩
      | none =>
        obtain ⟨answer, passed, left, last, run, found, after⟩ := onward there (Nat.lt_of_succ_lt_succ enough)
        refine ⟨answer, [line] ++ passed, left, last, run, found.behind (List.forall_mem_singleton.mpr taken), ?_⟩
        rwa [List.append_assoc] at after

theorem rounds_enough (here : AtLine dict total done ahead) : ahead.length < streamSize dict.stream + 1 := by
  have lines := here.lines_le
  rw [List.length_append] at lines
  omega

theorem getNextKey (filled : 0 < keySize) (determined : ∀ line ∈ ahead, Determined keySize line)
    (here : AtLine dict total done ahead) :
    ∃ answer passed rest next, keysDictGetNextKey dict = (.ok answer, next) ∧
      NextLine (lineKey keySize) ahead passed rest answer ∧ AtLine next total (done ++ passed) rest := by
  obtain ⟨answer, passed, rest, next, loop, found, there⟩ := here.getNextKeyStr_loop here.rounds_enough
  have read : keysDictGetNextKeyStr dict = (.ok answer, next) := loop
  have none {line : List UInt8} (member : line ∈ ahead) (missing : keyText keySize line = none) :
      lineKey keySize line = none := by
    rw [lineKey, missing]
    rfl
  rw [keysDictGetNextKey, bind_of_ok read]
  cases found with
  | none absent => exact ⟨_, _, _, next, rfl, .none fun line member => none member (absent line member), there⟩
  | @some front rest line keyStr absent taken =>
    have known := lineKey_isSome filled (determined line (List.mem_append_right _ List.mem_cons_self))
    rw [taken] at known
    obtain ⟨key, there'⟩ := Option.isSome_iff_exists.mp known
    refine ⟨some key, _, _, next, ?_, .some (fun other member => none (List.mem_append_left _ member)
      (absent other member)) there', there⟩
    rw [lineKey, taken, Option.bind_some] at there'
    obtain ⟨keyInt, parsed, value⟩ := Option.map_eq_some_iff.mp there'
    dsimp only
    rw [parsed]
    exact congrArg (fun key => (Except.ok (some key), next)) value

theorem keys_loop (filled : 0 < keySize) (determined : ∀ line ∈ ahead, Determined keySize line)
    (here : AtLine dict total done ahead) (enough : ahead.length < fuel) :
    ∃ next, keysLoop fuel dict = (.ok (lineKeys keySize ahead), next) ∧ AtLine next total (done ++ ahead) [] := by
  induction fuel generalizing dict done ahead with
  | zero => exact absurd enough (Nat.not_lt_zero _)
  | succ fuel onward =>
    obtain ⟨answer, passed, rest, next, read, found, there⟩ := here.getNextKey filled determined
    rw [keysLoop, bind_of_ok read]
    cases found with
    | none absent =>
      have none : lineKeys keySize ahead = [] := List.filterMap_eq_nil_iff.mpr absent
      rw [none]
      exact ⟨next, rfl, there⟩
    | @some front rest line key absent value =>
      rw [List.length_append, List.length_cons] at enough
      obtain ⟨last, others, after⟩ := onward (fun line member => determined line
        (List.mem_append_right _ (List.mem_cons_of_mem _ member))) there (by omega)
      have keys : lineKeys keySize (front ++ line :: rest) = key :: lineKeys keySize rest := by
        have none : lineKeys keySize front = [] := List.filterMap_eq_nil_iff.mpr absent
        rw [lineKeys, List.filterMap_append, ← lineKeys, none, List.filterMap_cons_some value]
        rfl
      refine ⟨last, ?_, ?_⟩
      · dsimp only
        rw [bind_of_ok others, keys]
        rfl
      · simpa only [List.append_assoc, List.singleton_append, List.cons_append, List.nil_append] using after

theorem keyList (filled : 0 < keySize) (determined : ∀ line ∈ done ++ ahead, Determined keySize line)
    (here : AtLine dict total done ahead) :
    ∃ next, Toolbox.keyList dict = (.ok (lineKeys keySize (done ++ ahead)), next) ∧
      AtLine next total (done ++ ahead) [] := by
  obtain ⟨start, rewound, first⟩ := here.rewind
  obtain ⟨next, read, there⟩ := first.keys_loop filled determined first.rounds_enough
  refine ⟨next, ?_, there⟩
  have rewind : keysDictRewind dict = (.ok true, start) := rewound
  rw [Toolbox.keyList, bind_of_ok rewind]
  exact read

theorem isKeyPresent_loop (key : List UInt8) (here : AtLine dict total done ahead) (enough : ahead.length < fuel) :
    ∃ found passed rest next, isKeyPresentLoop key fuel dict = (.ok found, next) ∧ passed ++ rest = ahead ∧
      (found = true ↔ ∃ line ∈ ahead, keyText keySize line = some key) ∧ AtLine next total (done ++ passed) rest := by
  induction fuel generalizing dict done ahead with
  | zero => exact absurd enough (Nat.not_lt_zero _)
  | succ fuel onward =>
    rw [isKeyPresentLoop]
    cases ahead with
    | nil =>
      obtain ⟨next, read, there⟩ := here.readKeyLine_end
      refine ⟨false, [], [], next, bind_of_ok read, rfl, ?_, ?_⟩
      · simp
      · rwa [List.append_nil]
    | cons line rest =>
      obtain ⟨cut, next, read, same, there⟩ := here.readKeyLine
      rw [bind_of_ok read]
      dsimp only
      by_cases found : keyText keySize line = some key
      · rw [if_pos (by rw [found]; exact ⟨rfl, (same key found).symm⟩)]
        exact ⟨true, [line], rest, next, rfl, rfl, ⟨fun _ => ⟨line, List.mem_cons_self, found⟩, fun _ => rfl⟩, there⟩
      · have other : ¬ ((keyText keySize line).isSome = true ∧ key = cut) := by
          rintro ⟨taken, rfl⟩
          obtain ⟨keyStr, taken⟩ := Option.isSome_iff_exists.mp taken
          exact found (by rw [taken, same keyStr taken])
        obtain ⟨found', passed, left, last, run, split, present, after⟩ :=
          onward there (Nat.lt_of_succ_lt_succ enough)
        rw [if_neg other]
        refine ⟨found', line :: passed, left, last, run, ?_, ?_, ?_⟩
        · rw [List.cons_append, split]
        · rw [present, List.exists_mem_cons_iff]
          exact ⟨.inr, fun either => either.resolve_left found⟩
        · rwa [List.append_assoc] at after

theorem isKeyPresent (key : Bytes keySize) (here : AtLine dict total done ahead) :
    ∃ found next, keysDictIsKeyPresent key dict = (.ok found, next) ∧
      (found = true ↔ ∃ line ∈ done ++ ahead, keyText keySize line = some (keysDictIntToStr key)) ∧
      AtLine next total done ahead := by
  obtain ⟨start, rewound, first⟩ := here.rewind
  obtain ⟨found, passed, rest, middle, loop, split, present, there⟩ :=
    first.isKeyPresent_loop (keysDictIntToStr key) first.rounds_enough
  obtain ⟨next, back, after⟩ := @seekBack _ _ _ done ahead _ _ there split.symm
  refine ⟨found, next, ?_, present, after⟩
  rw [keysDictIsKeyPresent, Effect.observe_bind, here.shown.holds.tell, bind_of_ok rewound]
  exact (bind_of_ok loop).trans (bind_of_ok back)

theorem addKey (key : Bytes keySize) (here : AtLine dict total done ahead)
    (room : (linesText (done ++ ahead)).length + keySizeSymbols keySize < 2 ^ 31) :
    ∃ next, keysDictAddKey key dict = (.ok true, next) ∧
      AtLine next (total + 1) done (ahead ++ [keysDictIntToStr key]) := by
  have shown := here.shown
  have last : seekTarget (cut (linesText done) (linesText ahead)) 0 .fromEnd = (linesText (done ++ ahead)).length := by
    rw [seekTarget, cut_data, linesText_append, Int.add_zero]
  obtain ⟨atEnd, sought, there⟩ := @move _ _ _ _ _ _ here (streamSeek · 0 .fromEnd) true (done ++ ahead) []
    (List.append_nil _) (shown.seek (by decide) (by decide)
      (by rw [linesText_nil, List.append_nil, linesText_append]) last)
  have printed : linesText (done ++ ahead) ++ (keysDictIntToStr key ++ [10]) =
      linesText (done ++ ahead ++ [keysDictIntToStr key]) := by
    rw [linesText_append (done ++ ahead), linesText_singleton]
  have fits : (linesText (done ++ ahead) ++ (keysDictIntToStr key ++ [10]) ++ linesText []).length < 2 ^ 31 := by
    rw [linesText_nil, List.append_nil, List.length_append, List.length_append, length_intToStr]
    rw [keySizeSymbols] at room
    rw [List.length_singleton]
    omega
  obtain ⟨stream, insert, written⟩ := there.shown.insertString fits fun byte member => by cases member
  have inserted : insertAtEnd (keysDictIntToStr key ++ [10]) dict =
      (.ok true, { atEnd with stream }) := by
    rw [insertAtEnd, bind_of_ok sought, if_pos rfl, onStream, insert]
  have extended : AtLine ({ totalKeys := atEnd.totalKeys + 1, stream } : KeysDict keySize) (total + 1)
      (done ++ ahead ++ [keysDictIntToStr key]) [] := by
    refine ⟨congrArg (· + 1) there.counted, ?_, fun line member => ?_⟩
    · rwa [← printed]
    · rw [List.append_nil] at member
      rcases List.mem_append.mp member with old | new
      · exact here.text line old
      · rw [List.mem_singleton.mp new]
        exact intToStr_textLine key
  obtain ⟨next, back, after⟩ := @seekBack _ _ _ done (ahead ++ [keysDictIntToStr key]) _ _ extended
    (by rw [List.append_nil, List.append_assoc])
  refine ⟨next, ?_, after⟩
  have counted : countKey true ({ atEnd with stream } : KeysDict keySize) =
      (.ok (), { totalKeys := atEnd.totalKeys + 1, stream }) := rfl
  rw [keysDictAddKey, Effect.observe_bind, shown.holds.tell, bind_of_ok inserted]
  exact (bind_of_ok counted).trans (bind_of_ok back)

theorem deleteLine_run {front : List (List UInt8)} {line : List UInt8} (here : AtLine dict total (front ++ [line]) ahead)
    (wide : 2 * keySize ≤ line.length) :
    ∃ next, deleteLine dict = (.ok true, next) ∧ next.totalKeys = total - 1 ∧
      Shows next.stream ⟨linesText front ++ line.take (line.length - 2 * keySize), linesText ahead⟩ := by
  have shown := here.shown
  have small := here.small
  have parts : linesText (front ++ [line]) ++ linesText ahead =
      (linesText front ++ line.take (line.length - 2 * keySize)) ++
        (line.drop (line.length - 2 * keySize) ++ 10 :: linesText ahead) := by
    rw [linesText_append, linesText_singleton, List.append_assoc, List.append_assoc, List.append_assoc,
      ← List.append_assoc (line.take _), List.take_append_drop, List.singleton_append]
  have length : (linesText (front ++ [line])).length = (linesText front).length + (line.length + 1) := by
    rw [linesText_append, linesText_singleton, List.length_append, List.length_append]
    rfl
  have target : seekTarget (cut (linesText (front ++ [line])) (linesText ahead)) (-(keySizeSymbols keySize : Int))
      .fromCurrent = (linesText front ++ line.take (line.length - 2 * keySize)).length := by
    rw [seekTarget, cut_pos, List.length_append, List.length_take, keySizeSymbols]
    omega
  rw [linesText_append, List.length_append] at small
  obtain ⟨middle, sought, there⟩ := shown.seek (by rw [keySizeSymbols]; omega) (by omega) parts target
  have notZero : ∀ byte ∈ (linesText front ++ line.take (line.length - 2 * keySize)) ++
      (line.drop (line.length - 2 * keySize) ++ 10 :: linesText ahead), byte ≠ 0 := by
    rw [← parts, ← linesText_append]
    exact linesText_notZero here.text
  obtain ⟨stream, deleted, left⟩ := there.delete notZero (keySizeSymbols keySize)
  have whole : (line.drop (line.length - 2 * keySize) ++ 10 :: linesText ahead).drop (keySizeSymbols keySize) =
      linesText ahead := by
    have ends : keySizeSymbols keySize = (line.drop (line.length - 2 * keySize)).length + 1 := by
      rw [keySizeSymbols, List.length_drop]
      omega
    rw [ends, List.drop_length_add_append, List.drop_succ_cons, List.drop_zero]
  rw [whole] at left
  refine ⟨{ stream, totalKeys := total - 1 }, ?_, rfl, left⟩
  have seek : onStream (streamSeek · (-(keySizeSymbols keySize : Int)) .fromCurrent) dict =
      (.ok true, { dict with stream := middle }) := by
    rw [onStream, sought]
  have delete : onStream (streamDelete · (keySizeSymbols keySize)) ({ dict with stream := middle } : KeysDict keySize) =
      (.ok true, { dict with stream }) := by
    rw [onStream, deleted]
  rw [deleteLine, bind_of_ok seek, bind_of_ok delete, ← here.counted]
  rfl

theorem deleteKey_loop (filled : 0 < keySize) (key : Bytes keySize)
    (determined : ∀ line ∈ ahead, Determined keySize line) (here : AtLine dict total done ahead)
    (enough : ahead.length < fuel) :
    ∃ answer passed rest next,
      NextLine (fun line => if lineKey keySize line = some key then some () else none) ahead passed rest answer ∧
      AtLine next total (done ++ passed) rest ∧
      deleteKeyLoop key fuel dict = if answer = none then (.ok false, next) else deleteLine next := by
  induction fuel generalizing dict done ahead with
  | zero => exact absurd enough (Nat.not_lt_zero _)
  | succ fuel onward =>
    obtain ⟨answer, passed, rest, next, read, found, there⟩ := here.getNextKey filled determined
    rw [deleteKeyLoop, bind_of_ok read]
    cases found with
    | none absent =>
      refine ⟨none, ahead, [], next, .none fun line member => ?_, there, rfl⟩
      rw [absent line member]
      rfl
    | @some front rest line other absent value =>
      have before : ∀ line ∈ front, (if lineKey keySize line = some key then some () else none) = none :=
        fun line member => by
          rw [absent line member]
          rfl
      dsimp only
      by_cases same : other = key
      · rw [if_pos same]
        refine ⟨some (), front ++ [line], rest, next, .some before ?_, there, rfl⟩
        rw [value, same, if_pos rfl]
      · rw [List.length_append, List.length_cons] at enough
        obtain ⟨answer, passed, left, last, found, after, run⟩ := onward (fun line member => determined line
          (List.mem_append_right _ (List.mem_cons_of_mem _ member))) there (by omega)
        have passes : (if lineKey keySize line = some key then some () else none) = none := by
          rw [value, if_neg fun equal => same (Option.some.inj equal)]
        have found := found.behind (List.forall_mem_append.mpr ⟨before, List.forall_mem_singleton.mpr passes⟩)
        rw [List.append_assoc] at found
        refine ⟨answer, front ++ [line] ++ passed, left, last, found, ?_, ?_⟩
        · rwa [List.append_assoc] at after
        · rw [if_neg same]
          exact run

end AtLine

structure FirstLine (key : Bytes keySize) (lines front : List (List UInt8)) (line : List UInt8)
    (behind : List (List UInt8)) : Prop where
  split : lines = front ++ line :: behind
  absent : ∀ other ∈ front, lineKey keySize other ≠ some key
  value : lineKey keySize line = some key

/-- What a deletion does: nothing if no line has the key, and to the first one that has it
what `deleteLine_run` says. -/
theorem AtLine.deleteKey (filled : 0 < keySize) (key : Bytes keySize) (here : AtLine dict total done ahead)
    (determined : ∀ line ∈ done ++ ahead, Determined keySize line) :
    (∃ next, keysDictDeleteKey key dict = (.ok false, next) ∧
        (∀ line ∈ done ++ ahead, lineKey keySize line ≠ some key) ∧ AtLine next total [] (done ++ ahead)) ∨
      ∃ front line behind, FirstLine key (done ++ ahead) front line behind ∧
        (2 * keySize ≤ line.length → ∃ next, keysDictDeleteKey key dict = (.ok true, next) ∧
          next.totalKeys = total - 1 ∧
          Shows next.stream ⟨[], linesText front ++ line.take (line.length - 2 * keySize) ++ linesText behind⟩) := by
  have other {line : List UInt8} (none : (if lineKey keySize line = some key then some () else Option.none) = Option.none) :
      lineKey keySize line ≠ some key := by
    intro same
    rw [if_pos same] at none
    cases none
  obtain ⟨start, rewound, first⟩ := here.rewind
  generalize done ++ ahead = lines at first determined ⊢
  obtain ⟨answer, passed, rest, middle, found, there, run⟩ :=
    first.deleteKey_loop filled key determined first.rounds_enough
  cases found with
  | none absent =>
    obtain ⟨next, back, after⟩ := there.rewind
    rw [List.append_nil] at after
    refine .inl ⟨next, ?_, fun line member => other (absent line member), after⟩
    rw [keysDictDeleteKey, bind_of_ok rewound]
    exact (bind_of_ok run).trans (bind_of_ok back)
  | @some front _ line answer absent taken =>
    have value : lineKey keySize line = some key := by
      by_contra missing
      rw [if_neg missing] at taken
      cases taken
    refine .inr ⟨front, line, rest, ⟨rfl, fun line member => other (absent line member), value⟩, fun wide => ?_⟩
    obtain ⟨cut, deleted, counted, shown⟩ := there.deleteLine_run wide
    obtain ⟨stream, back, after⟩ := shown.holds.rewind shown.text_small
    have rewind : onStream streamRewind cut = (.ok true, { cut with stream }) := by
      rw [onStream, back]
    refine ⟨{ cut with stream }, ?_, counted, after⟩
    rw [keysDictDeleteKey, bind_of_ok rewound]
    exact (bind_of_ok (run.trans deleted)).trans (bind_of_ok rewind)

end

end Xtreme.Toolbox
