import Xtreme.Toolbox.KeysDictLines

/-! Sequences of calls of a key dictionary. As long as each call finds the lines that it
deals with written as the dictionary itself writes them, the count is that of the keys,
and a call does to the keys and to the file what its name says (`keysDict_run`). -/
namespace Xtreme.Toolbox
open Xtreme.Library Xtreme.Stream BitLib
open Effect (Yields bind_of_ok)

def linesOf : List UInt8 → List (List UInt8)
  | [] => []
  | byte :: rest =>
    if byte = 10 then [] :: linesOf rest
    else
      match linesOf rest with
      | [] => [[byte]]
      | line :: lines => (byte :: line) :: lines

/-- A text with a line feed at its end, unless it is empty. -/
def endedText (text : List UInt8) : List UInt8 :=
  if text = [] ∨ text.getLast? = some 10 then text else text ++ [10]

theorem linesOf_feed (rest : List UInt8) : linesOf (10 :: rest) = [] :: linesOf rest := rfl

theorem linesText_linesOf_cons (byte : UInt8) {rest : List UInt8} (more : rest ≠ []) :
    linesText (linesOf (byte :: rest)) = byte :: linesText (linesOf rest) := by
  rw [linesOf]
  split
  · rename_i feed
    rw [linesText_cons, feed, List.nil_append]
  · cases lines : linesOf rest with
    | nil =>
      cases rest with
      | nil => exact absurd rfl more
      | cons other rest =>
        rw [linesOf] at lines
        split at lines
        · cases lines
        · split at lines <;> cases lines
    | cons line lines => rw [linesText_cons, linesText_cons, List.cons_append]

theorem linesText_linesOf (text : List UInt8) : linesText (linesOf text) = endedText text := by
  induction text with
  | nil => rfl
  | cons byte rest next =>
    cases rest with
    | nil =>
      by_cases feed : byte = 10
      · rw [feed]
        rfl
      · simp [linesOf, feed, linesText, endedText]
    | cons other rest =>
      rw [linesText_linesOf_cons byte (List.cons_ne_nil _ _), next, endedText, endedText, List.getLast?_cons_cons]
      by_cases ends : (other :: rest).getLast? = some 10
      · rw [if_pos (.inr ends), if_pos (.inr ends)]
      · rw [if_neg (not_or.mpr ⟨List.cons_ne_nil _ _, ends⟩), if_neg (not_or.mpr ⟨List.cons_ne_nil _ _, ends⟩)]
        rfl

theorem linesOf_text {text : List UInt8} (plain : 0 ∉ text) : ∀ line ∈ linesOf text, TextLine line := by
  induction text with
  | nil => exact fun line member => by cases member
  | cons byte rest next =>
    obtain ⟨notZero, later⟩ := List.ne_and_not_mem_of_not_mem_cons plain
    have there := next later
    rw [linesOf]
    split
    · exact List.forall_mem_cons.mpr ⟨⟨List.not_mem_nil, List.not_mem_nil⟩, there⟩
    · rename_i notFeed
      split
      · refine List.forall_mem_singleton.mpr ⟨?_, ?_⟩
        · exact fun feed => notFeed (List.mem_singleton.mp feed).symm
        · exact fun zero => notZero (List.mem_singleton.mp zero)
      · rename_i line lines shape
        rw [shape] at there
        obtain ⟨first, others⟩ := List.forall_mem_cons.mp there
        exact List.forall_mem_cons.mpr ⟨⟨List.not_mem_cons_of_ne_of_not_mem (Ne.symm notFeed) first.1,
          List.not_mem_cons_of_ne_of_not_mem notZero first.2⟩, others⟩

theorem linesOf_linesText {lines : List (List UInt8)} (oneLine : ∀ line ∈ lines, 10 ∉ line) :
    linesOf (linesText lines) = lines := by
  induction lines with
  | nil => rfl
  | cons line lines next =>
    have there := next fun other member => oneLine other (List.mem_cons_of_mem _ member)
    have here := oneLine line List.mem_cons_self
    clear oneLine next
    rw [linesText_cons]
    induction line with
    | nil => rw [List.nil_append, linesOf_feed, there]
    | cons byte line onward =>
      obtain ⟨other, later⟩ := List.ne_and_not_mem_of_not_mem_cons here
      rw [List.cons_append, linesOf, if_neg (Ne.symm other), onward later]

section
variable {keySize : Nat} {dict : KeysDict keySize} {total : BitVec 32} {done ahead : List (List UInt8)} {fuel : Nat}

theorem AtLine.count_loop (here : AtLine dict total done ahead) (enough : ahead.length < fuel) :
    ∃ next, countLoop fuel dict = (.ok (), next) ∧
      AtLine next (total + BitVec.ofNat 32 (ahead.filterMap (keyText keySize)).length) (done ++ ahead) [] := by
  induction fuel generalizing dict total done ahead with
  | zero => exact absurd enough (Nat.not_lt_zero _)
  | succ fuel onward =>
    rw [countLoop]
    cases ahead with
    | nil =>
      obtain ⟨next, read, there⟩ := here.readKeyLine_end
      refine ⟨next, bind_of_ok read, ?_⟩
      rwa [List.append_nil, List.filterMap_nil, List.length_nil, BitVec.add_zero]
    | cons line rest =>
      obtain ⟨cut, next, read, -, there⟩ := here.readKeyLine
      rw [bind_of_ok read]
      cases taken : keyText keySize line with
      | none =>
        obtain ⟨last, run, after⟩ := onward there (Nat.lt_of_succ_lt_succ enough)
        refine ⟨last, run, ?_⟩
        rw [List.filterMap_cons_none taken]
        rwa [List.append_assoc] at after
      | some keyStr =>
        have counted : AtLine ({ next with totalKeys := next.totalKeys + 1 } : KeysDict keySize) (total + 1)
            (done ++ [line]) rest := ⟨congrArg (· + 1) there.counted, there.shown, there.text⟩
        obtain ⟨last, run, after⟩ := onward counted (Nat.lt_of_succ_lt_succ enough)
        refine ⟨last, run, ?_⟩
        have sum : total + 1 + BitVec.ofNat 32 (rest.filterMap (keyText keySize)).length =
            total + BitVec.ofNat 32 ((line :: rest).filterMap (keyText keySize)).length := by
          rw [List.filterMap_cons_some taken, List.length_cons, Nat.add_comm, BitVec.ofNat_add, BitVec.add_assoc]
          rfl
        rw [sum, List.append_assoc] at after
        exact after

theorem length_endedText (text : List UInt8) : (endedText text).length ≤ text.length + 1 := by
  rw [endedText]
  split
  · exact Nat.le_succ _
  · rw [List.length_append, List.length_singleton]

theorem endLine_run {front : List UInt8} {last : UInt8} (shown : Shows dict.stream ⟨front ++ [last], []⟩) :
    ∃ stream, endLine [last] dict = (.ok (), { dict with stream }) ∧ Holds stream ⟨endedText (front ++ [last]), []⟩ := by
  have there : (front ++ [last]).getLast? = some last := List.getLast?_concat
  have filled : front ++ [last] ≠ [] := List.append_ne_nil_of_right_ne_nil front (List.cons_ne_nil _ _)
  rw [endLine, endedText, there]
  by_cases feed : last = 10
  · refine ⟨dict.stream, ?_, ?_⟩
    · rw [if_neg (not_and_of_not_right _ (not_not.mpr (List.singleton_inj.mpr feed)))]
      rfl
    · rw [if_pos (.inr (congrArg some feed))]
      exact shown.holds
  · obtain ⟨stream, wrote, longer⟩ := shown.holds.write shown.text_small [10]
    have write : onStream (streamWriteChar · 10) dict = (.ok 1, { dict with stream }) := by
      rw [onStream, streamWriteChar, wrote]
      rfl
    refine ⟨stream, ?_, ?_⟩
    · rw [if_pos ⟨rfl, fun same => feed (List.singleton_inj.mp same)⟩, bind_of_ok write]
      rfl
    · rw [if_neg (not_or.mpr ⟨filled, fun same => feed (Option.some.inj same)⟩)]
      rwa [List.drop_nil] at longer

/-- The file gets its last line feed, and the cursor goes to its start. -/
theorem addEndingNewLine_run {text : List UInt8} (room : text.length + 1 < 2 ^ 31) :
    ∃ next : KeysDict keySize, keysDictAddEndingNewLine (keysDictOpened text) = (.ok (), next) ∧
      next.totalKeys = 0 ∧ Shows next.stream ⟨[], endedText text⟩ := by
  have opened : Shows (@keysDictOpened keySize text).stream ⟨[], text⟩ :=
    ⟨represents_self rfl rfl rfl, rfl, by simpa using Nat.lt_of_succ_lt room⟩
  rcases List.eq_nil_or_concat text with rfl | ⟨front, last, rfl⟩
  · exact ⟨keysDictOpened [], rfl, rfl, opened⟩
  · rw [List.concat_eq_append] at room opened ⊢
    have place : seekTarget (cut [] (front ++ [last])) (-1) .fromEnd = front.length := by
      rw [seekTarget, cut_data, List.nil_append, List.length_append, List.length_singleton]
      omega
    obtain ⟨atLast, sought, there⟩ := opened.seek (by decide) (by decide) (List.nil_append _) place
    obtain ⟨atEnd, taken, behind⟩ := there.read 1
    obtain ⟨ended, line, holds⟩ := @endLine_run _ ⟨atEnd, 0⟩ _ _ behind
    obtain ⟨start, back, shown⟩ := holds.rewind (by
      rw [List.append_nil]
      exact Nat.lt_of_le_of_lt (length_endedText _) room)
    rw [List.append_nil] at shown
    refine ⟨⟨start, 0⟩, ?_, rfl, shown⟩
    have seek : onStream (streamSeek · (-1) .fromEnd) (@keysDictOpened keySize (front ++ [last])) =
        (.ok true, ⟨atLast, 0⟩) := by
      rw [onStream, sought]
      rfl
    have read : onStream (streamRead · 1) (⟨atLast, 0⟩ : KeysDict keySize) = (.ok [last], ⟨atEnd, 0⟩) := by
      rw [onStream, taken]
      rfl
    have rewind : onStream streamRewind (⟨ended, 0⟩ : KeysDict keySize) = (.ok true, ⟨start, 0⟩) := by
      rw [onStream, back]
    rw [keysDictAddEndingNewLine, bind_of_ok seek, if_pos rfl, bind_of_ok read, bind_of_ok line, bind_of_ok rewind]
    rfl

theorem alloc_run {text : List UInt8} (plain : 0 ∉ text) (room : text.length + 1 < 2 ^ 31) :
    ∃ next, keysDictAlloc (@keysDictOpened keySize text) = (.ok (), next) ∧
      AtLine next (BitVec.ofNat 32 ((linesOf text).filterMap (keyText keySize)).length) [] (linesOf text) := by
  obtain ⟨opened, ended, zero, shown⟩ := @addEndingNewLine_run keySize text room
  have first : AtLine opened 0 [] (linesOf text) := by
    refine ⟨zero, ?_, linesOf_text plain⟩
    rw [linesText_linesOf]
    exact shown
  obtain ⟨behind, count, last⟩ := first.count_loop first.rounds_enough
  obtain ⟨next, rewind, start⟩ := last.rewind
  have sum (count : BitVec 32) : 0 + count = count := BitVec.zero_add count
  rw [List.append_nil, sum] at start
  refine ⟨next, ?_, start⟩
  rw [keysDictAlloc, bind_of_ok ended]
  exact (bind_of_ok count).trans (bind_of_ok rewind)

end

section
variable {keySize : Nat}

/-- The text of the file once nothing is pending. -/
def KeysDict.text (dict : KeysDict keySize) : List UInt8 :=
  match dict.stream with
  | .file stream => stream.data
  | .buffered stream => (bufferedFileStreamSync stream).2.fileStream.data
  | .string stream => stream.string

/-- A full pass gives `keys`, and they are counted. -/
def KeysDict.Lists (dict : KeysDict keySize) (keys : List (Bytes keySize)) : Prop :=
  Yields keyList (fun given _ => given = keys) dict ∧ dict.totalKeys.toNat = keys.length

namespace KeysDictCall

/-- What a call asks of the file: a key that is there is written as the dictionary writes
it, an added key fits, and the line of a key that is deleted has nothing else on it. -/
def Fits (call : KeysDictCall keySize) (dict : KeysDict keySize) : Prop :=
  match call with
  | .isKeyPresent key => (∃ line ∈ linesOf dict.text, lineKey keySize line = some key) →
      ∃ line ∈ linesOf dict.text, keyText keySize line = some (keysDictIntToStr key)
  | .addKey _ => dict.text.length + keySizeSymbols keySize < 2 ^ 31
  | .deleteKey key => ∀ front line behind, FirstLine key (linesOf dict.text) front line behind →
      line.length = 2 * keySize
  | _ => True

def Meets (call : KeysDictCall keySize) (keys : List (Bytes keySize)) (dict : KeysDict keySize)
    (answer : KeysDictAnswer keySize) (next : KeysDict keySize) : Prop :=
  match call with
  | .getTotalKeys => (∃ count, answer = .total count ∧ count.toNat = keys.length) ∧
      next.Lists keys ∧ next.text = dict.text
  | .rewind => next.Lists keys ∧ next.text = dict.text
  | .getNextKey => next.Lists keys ∧ next.text = dict.text
  | .isKeyPresent key => (∃ found, answer = .done found ∧ (found = true ↔ key ∈ keys)) ∧
      next.Lists keys ∧ next.text = dict.text
  | .addKey key => answer = .done true ∧ next.Lists (keys ++ [key]) ∧
      linesOf next.text = linesOf dict.text ++ [keysDictIntToStr key]
  | .deleteKey key =>
      (key ∈ keys → answer = .done true ∧ next.Lists (keys.erase key) ∧
        ∃ front line behind, FirstLine key (linesOf dict.text) front line behind ∧
          linesOf next.text = front ++ behind) ∧
      (key ∉ keys → answer = .done false ∧ next.Lists keys ∧ next.text = dict.text)

end KeysDictCall

variable {dict : KeysDict keySize} {lines : List (List UInt8)}

theorem AtLine.text_eq {total : BitVec 32} {done ahead : List (List UInt8)} (here : AtLine dict total done ahead) :
    dict.text = linesText (done ++ ahead) := by
  obtain ⟨stream, totalKeys⟩ := dict
  have holds : Holds stream ⟨linesText done, linesText ahead⟩ := here.shown.holds
  rw [linesText_append]
  cases stream with
  | file stream =>
    obtain rfl : stream = cut (linesText done) (linesText ahead) := holds
    rfl
  | buffered stream => exact bufferedFileStreamSync_data holds
  | string stream =>
    obtain rfl : stream = .cut (linesText done) (linesText ahead) := holds
    rfl

theorem determined_printed (filled : 0 < keySize) (key : Bytes keySize) : Determined keySize (keysDictIntToStr key) := by
  intro keyStr taken
  rw [keyText_printed] at taken
  obtain rfl := Option.some.inj taken
  obtain ⟨byte, rest, bytes⟩ := List.exists_cons_of_length_pos (by
    rwa [Vector.length_toList] : 0 < key.toList.length)
  refine ⟨byte, ?_⟩
  rw [keysDictIntToStr, bytes]
  exact hexPair_parsed byte

theorem mem_lineKeys {key : Bytes keySize} : key ∈ lineKeys keySize lines ↔ ∃ line ∈ lines, lineKey keySize line = some key :=
  List.mem_filterMap

theorem length_lineKeys (filled : 0 < keySize) (determined : ∀ line ∈ lines, Determined keySize line) :
    (lineKeys keySize lines).length = (lines.filterMap (keyText keySize)).length := by
  rw [lineKeys, List.length_filterMap_eq_countP, List.length_filterMap_eq_countP]
  refine List.countP_congr fun line member => ?_
  rw [lineKey_isSome filled (determined line member)]

namespace FirstLine
variable {key : Bytes keySize} {front behind : List (List UInt8)} {line : List UInt8}

theorem keys (first : FirstLine key lines front line behind) :
    lineKeys keySize lines = lineKeys keySize front ++ key :: lineKeys keySize behind := by
  rw [first.split, lineKeys, List.filterMap_append, List.filterMap_cons_some first.value]
  rfl

theorem keys_erase (first : FirstLine key lines front line behind) :
    (lineKeys keySize lines).erase key = lineKeys keySize (front ++ behind) := by
  have absent : key ∉ lineKeys keySize front := by
    rw [mem_lineKeys]
    rintro ⟨other, member, value⟩
    exact first.absent other member value
  rw [first.keys, List.erase_append_right _ absent, List.erase_cons_head]
  exact List.filterMap_append.symm

end FirstLine

/-- The cursor is between two of the lines, and the count is that of their keys. -/
structure Kept (dict : KeysDict keySize) (lines : List (List UInt8)) : Prop where
  place : ∃ done ahead, done ++ ahead = lines ∧ AtLine dict (BitVec.ofNat 32 (lineKeys keySize lines).length) done ahead
  determined : ∀ line ∈ lines, Determined keySize line

namespace Kept

theorem text_eq (kept : Kept dict lines) : dict.text = linesText lines := by
  obtain ⟨done, ahead, rfl, here⟩ := kept.place
  exact here.text_eq

theorem linesOf_text (kept : Kept dict lines) : linesOf dict.text = lines := by
  obtain ⟨done, ahead, rfl, here⟩ := kept.place
  rw [here.text_eq, linesOf_linesText fun line member => (here.text line member).1]

theorem lists (filled : 0 < keySize) (kept : Kept dict lines) : dict.Lists (lineKeys keySize lines) := by
  obtain ⟨done, ahead, rfl, here⟩ := kept.place
  obtain ⟨next, pass, -⟩ := here.keyList filled kept.determined
  refine ⟨(Yields.iff_of_ok pass).mpr rfl, ?_⟩
  have fewer : (lineKeys keySize (done ++ ahead)).length ≤ (done ++ ahead).length := List.length_filterMap_le _ _
  have lines := length_le_linesText (done ++ ahead)
  have small := here.small
  rw [here.counted, BitVec.toNat_ofNat, Nat.mod_eq_of_lt (by omega)]

/-- A call that leaves the lines. -/
theorem unchanged (filled : 0 < keySize) (kept : Kept dict lines) {next : KeysDict keySize}
    {done ahead : List (List UInt8)} (same : done ++ ahead = lines)
    (here : AtLine next (BitVec.ofNat 32 (lineKeys keySize lines).length) done ahead) :
    Kept next lines ∧ next.Lists (lineKeys keySize lines) ∧ next.text = dict.text := by
  have after : Kept next lines := ⟨⟨done, ahead, same, here⟩, kept.determined⟩
  exact ⟨after, after.lists filled, by rw [after.text_eq, kept.text_eq]⟩

/-! ## One call -/

theorem getNextKey (filled : 0 < keySize) (kept : Kept dict lines) :
    ∃ answer next, keysDictGetNextKey dict = (.ok answer, next) ∧
      Kept next lines ∧ next.Lists (lineKeys keySize lines) ∧ next.text = dict.text := by
  obtain ⟨done, ahead, same, here⟩ := kept.place
  have determined := kept.determined
  rw [← same] at determined
  obtain ⟨answer, passed, rest, next, run, found, there⟩ :=
    here.getNextKey filled fun line member => determined line (List.mem_append_right _ member)
  refine ⟨answer, next, run, kept.unchanged filled ?_ there⟩
  rw [List.append_assoc, found.split, same]

theorem isKeyPresent (filled : 0 < keySize) (few : keySize ≤ 8) (kept : Kept dict lines) (key : Bytes keySize)
    (fits : (KeysDictCall.isKeyPresent key).Fits dict) :
    ∃ found next, keysDictIsKeyPresent key dict = (.ok found, next) ∧ (found = true ↔ key ∈ lineKeys keySize lines) ∧
      Kept next lines ∧ next.Lists (lineKeys keySize lines) ∧ next.text = dict.text := by
  have printed : (∃ line ∈ linesOf dict.text, lineKey keySize line = some key) →
      ∃ line ∈ linesOf dict.text, keyText keySize line = some (keysDictIntToStr key) := fits
  rw [kept.linesOf_text] at printed
  obtain ⟨done, ahead, same, here⟩ := kept.place
  obtain ⟨found, next, run, present, there⟩ := here.isKeyPresent key
  refine ⟨found, next, run, ?_, kept.unchanged filled same there⟩
  rw [present, same, mem_lineKeys]
  refine ⟨?_, printed⟩
  rintro ⟨line, member, text⟩
  refine ⟨line, member, ?_⟩
  rw [lineKey, text, Option.bind_some, readKey_printed few]

theorem addKey (filled : 0 < keySize) (few : keySize ≤ 8) (kept : Kept dict lines) (key : Bytes keySize)
    (fits : (KeysDictCall.addKey key).Fits dict) :
    ∃ next, keysDictAddKey key dict = (.ok true, next) ∧ Kept next (lines ++ [keysDictIntToStr key]) ∧
      lineKeys keySize (lines ++ [keysDictIntToStr key]) = lineKeys keySize lines ++ [key] := by
  have room : dict.text.length + keySizeSymbols keySize < 2 ^ 31 := fits
  rw [kept.text_eq] at room
  obtain ⟨done, ahead, same, here⟩ := kept.place
  have keys : lineKeys keySize (lines ++ [keysDictIntToStr key]) = lineKeys keySize lines ++ [key] := by
    rw [lineKeys, List.filterMap_append, List.filterMap_cons_some (lineKey_printed few key)]
    rfl
  rw [← same] at room
  obtain ⟨next, run, there⟩ := here.addKey key room
  refine ⟨next, run, ⟨⟨done, ahead ++ [keysDictIntToStr key], ?_, ?_⟩, ?_⟩, keys⟩
  · rw [← List.append_assoc, same]
  · rw [keys, List.length_append]
    rwa [BitVec.ofNat_add]
  · refine List.forall_mem_append.mpr ⟨kept.determined, List.forall_mem_singleton.mpr ?_⟩
    exact determined_printed filled key

theorem deleteKey (filled : 0 < keySize) (kept : Kept dict lines) (key : Bytes keySize)
    (fits : (KeysDictCall.deleteKey key).Fits dict) :
    (∃ next, keysDictDeleteKey key dict = (.ok false, next) ∧ key ∉ lineKeys keySize lines ∧ Kept next lines) ∨
      ∃ front line behind next, FirstLine key lines front line behind ∧
        keysDictDeleteKey key dict = (.ok true, next) ∧ Kept next (front ++ behind) := by
  have alone : ∀ front line behind, FirstLine key (linesOf dict.text) front line behind → line.length = 2 * keySize := fits
  rw [kept.linesOf_text] at alone
  have determined := kept.determined
  obtain ⟨done, ahead, same, here⟩ := kept.place
  have text := here.text
  have outcome := here.deleteKey filled key (by rwa [same])
  rw [same] at outcome text
  rcases outcome with ⟨next, run, absent, there⟩ | ⟨front, line, behind, first, run⟩
  · refine .inl ⟨next, run, ?_, ⟨[], lines, rfl, there⟩, determined⟩
    rw [mem_lineKeys]
    rintro ⟨line, member, value⟩
    exact absent line member value
  · have width := alone front line behind first
    obtain ⟨next, deleted, counted, shown⟩ := run (Nat.le_of_eq width.symm)
    rw [width, Nat.sub_self, List.take_zero, List.append_nil, ← linesText_append] at shown
    have others : ∀ other ∈ front ++ behind, other ∈ lines := by
      intro other member
      rw [first.split]
      exact (List.mem_append.mp member).elim (List.mem_append_left _)
        fun later => List.mem_append_right _ (List.mem_cons_of_mem _ later)
    refine .inr ⟨front, line, behind, next, first, deleted, ⟨[], front ++ behind, rfl, ?_, shown, ?_⟩, ?_⟩
    · have fewer : (lineKeys keySize lines).length = (lineKeys keySize (front ++ behind)).length + 1 := by
        rw [first.keys, lineKeys, lineKeys, lineKeys, List.filterMap_append, List.length_append, List.length_append]
        rfl
      rw [counted, fewer, BitVec.ofNat_add]
      exact BitVec.add_sub_cancel _ _
    · exact fun other member => text other (others other member)
    · exact fun other member => determined other (others other member)

theorem call (filled : 0 < keySize) (few : keySize ≤ 8) (kept : Kept dict lines) (call : KeysDictCall keySize)
    (fits : call.Fits dict) :
    ∃ answer next lines', keysDictCall call dict = (.ok answer, next) ∧ Kept next lines' ∧
      call.Meets (lineKeys keySize lines) dict answer next := by
  have listed := kept.lists filled
  cases call with
  | getTotalKeys =>
    exact ⟨.total dict.totalKeys, dict, lines, rfl, kept, ⟨_, rfl, listed.2⟩, listed, rfl⟩
  | rewind =>
    obtain ⟨done, ahead, same, here⟩ := kept.place
    obtain ⟨next, run, there⟩ := here.rewind
    obtain ⟨after, stays⟩ := kept.unchanged filled (by rw [List.nil_append, same]) there
    exact ⟨.done true, next, lines, bind_of_ok run, after, stays⟩
  | getNextKey =>
    obtain ⟨answer, next, run, after, stays⟩ := kept.getNextKey filled
    exact ⟨.key answer, next, lines, bind_of_ok run, after, stays⟩
  | isKeyPresent key =>
    obtain ⟨found, next, run, present, after, stays⟩ := kept.isKeyPresent filled few key fits
    exact ⟨.done found, next, lines, bind_of_ok run, after, ⟨found, rfl, present⟩, stays⟩
  | addKey key =>
    obtain ⟨next, run, after, keys⟩ := kept.addKey filled few key fits
    refine ⟨.done true, next, _, bind_of_ok run, after, rfl, ?_, ?_⟩
    · rw [← keys]
      exact after.lists filled
    · rw [after.linesOf_text, kept.linesOf_text]
  | deleteKey key =>
    rcases kept.deleteKey filled key fits with ⟨next, run, absent, after⟩ | ⟨front, line, behind, next, first, run, after⟩
    · refine ⟨.done false, next, lines, bind_of_ok run, after, fun present => absurd present absent,
        fun _ => ⟨rfl, after.lists filled, ?_⟩⟩
      rw [after.text_eq, kept.text_eq]
    · have present : key ∈ lineKeys keySize lines := by
        rw [first.keys]
        exact List.mem_append_right _ List.mem_cons_self
      refine ⟨.done true, next, front ++ behind, bind_of_ok run, after, fun _ => ⟨rfl, ?_, front, line, behind, ?_, ?_⟩,
        fun absent => absurd present absent⟩
      · rw [first.keys_erase]
        exact after.lists filled
      · rwa [kept.linesOf_text]
      · exact after.linesOf_text

end Kept

/-- As long as each call finds the lines that it deals with as the dictionary writes them,
the keys of a full pass are counted, and each call does to them what its name says. -/
theorem keysDict_run {text : List UInt8} (filled : 0 < keySize) (few : keySize ≤ 8) (plain : 0 ∉ text)
    (room : text.length + 1 < 2 ^ 31) (determined : ∀ line ∈ linesOf text, Determined keySize line) :
    Yields keysDictAlloc (fun _ opened => ∀ calls dict,
      Effect.Reaches keysDictCall KeysDictCall.Fits opened calls dict →
        ∃ keys, dict.Lists keys ∧ ∀ call : KeysDictCall keySize, call.Fits dict →
          Yields (keysDictCall call) (call.Meets keys dict) dict) (@keysDictOpened keySize text) := by
  obtain ⟨opened, alloc, start⟩ := @alloc_run keySize text plain room
  refine (Yields.iff_of_ok alloc).mpr fun calls dict run => ?_
  rw [← length_lineKeys filled determined] at start
  have initially : ∃ lines, Kept opened lines := ⟨linesOf text, ⟨⟨[], linesOf text, rfl, start⟩, determined⟩⟩
  have preserved (call : KeysDictCall keySize) (dict : KeysDict keySize) (fits : call.Fits dict)
      (there : ∃ lines, Kept dict lines) : ∃ lines, Kept (keysDictCall call dict).2 lines := by
    obtain ⟨lines, kept⟩ := there
    obtain ⟨answer, next, lines', ran, after, -⟩ := kept.call filled few call fits
    rw [ran]
    exact ⟨lines', after⟩
  obtain ⟨lines, kept⟩ := Effect.reaches_preserves run initially preserved
  refine ⟨lineKeys keySize lines, kept.lists filled, fun call fits => ?_⟩
  obtain ⟨answer, next, lines', ran, -, meets⟩ := kept.call filled few call fits
  exact (Yields.iff_of_ok ran).mpr meets

end

/-- A file with a comment, a line that ends in a carriage return too, small letters, an
empty line, text behind a key, and a last line that does not end. -/
theorem keysDict_run_mixed : Yields keysDictAlloc (fun _ opened => ∀ calls dict,
      Effect.Reaches keysDictCall KeysDictCall.Fits opened calls dict →
        ∃ keys, dict.Lists keys ∧ ∀ call : KeysDictCall 2, call.Fits dict →
          Yields (keysDictCall call) (call.Meets keys dict) dict)
      (@keysDictOpened 2 ("#1\r\nA1b2\r\n\nFFFF x\nCCDD".toList.map fun c => UInt8.ofNat c.toNat)) :=
  keysDict_run (by decide) (by decide) (by decide) (by decide) (by decide)

/-- With carriage returns, a deletion takes the last byte of the line for the first: it
leaves the first digit, which then belongs to the next line. -/
theorem keysDict_delete_returns : Yields (do
        keysDictAlloc
        let keys ← keyList
        let removed ← keysDictDeleteKey #v[0xAA, 0xBB]
        let left ← keyList
        pure (keys, removed, left))
      (fun answer next => answer = ([#v[0xAA, 0xBB], #v[0xCC, 0xDD]], true, [#v[0xAC, 0xCD]]) ∧
        linesOf next.text = ["ACCDD\r".toList.map fun c => UInt8.ofNat c.toNat])
      (@keysDictOpened 2 ("AABB\r\nCCDD\r\n".toList.map fun c => UInt8.ofNat c.toNat)) := by
  obtain ⟨opened, alloc, start⟩ :=
    @alloc_run 2 ("AABB\r\nCCDD\r\n".toList.map fun c => UInt8.ofNat c.toNat) (by decide) (by decide)
  obtain ⟨listed, list, ended⟩ := start.keyList (by decide) (by decide)
  rw [Yields.bind_iff, Yields.iff_of_ok alloc, Yields.bind_iff, Yields.iff_of_ok list, Yields.bind_iff]
  rcases ended.deleteKey (by decide) #v[0xAA, 0xBB] (by decide) with
    ⟨next, delete, absent, there⟩ | ⟨front, line, behind, first, deletes⟩
  · exact absurd absent (by decide)
  · obtain ⟨rfl, rfl, rfl⟩ : front = [] ∧ line = "AABB\r".toList.map (fun c => UInt8.ofNat c.toNat) ∧
        behind = ["CCDD\r".toList.map fun c => UInt8.ofNat c.toNat] := by
      have split := first.split
      cases front with
      | nil =>
        obtain ⟨here, later⟩ := List.cons.inj split
        exact ⟨rfl, here.symm, later.symm⟩
      | cons other rest =>
        obtain ⟨here, -⟩ := List.cons.inj split
        exact absurd (first.absent other List.mem_cons_self) (by rw [← here]; decide)
    obtain ⟨next, delete, -, shown⟩ := deletes (by decide)
    have there : AtLine next next.totalKeys [] ["ACCDD\r".toList.map fun c => UInt8.ofNat c.toNat] :=
      ⟨rfl, shown, by decide⟩
    obtain ⟨final, left, after⟩ := there.keyList (by decide) (by decide)
    rw [Yields.iff_of_ok delete, Yields.bind_iff, Yields.iff_of_ok left, Yields.pure_iff, after.text_eq]
    exact ⟨by decide, by decide⟩

end Xtreme.Toolbox
