import Xtreme.Stream.StreamSearch

/-! The lines of a stream (`stream_read_line`), cut out of blocks of 32 bytes with a seek
back to just behind each line feed. Below 2 GiB, calls until one fails give the whole text
but its carriage returns, line by line. -/
namespace Xtreme.Stream
open Library

/-- What one byte does: it ends the line, is left out or joins the line. -/
def lineStep (line : List UInt8) (byte : UInt8) : Scan (List UInt8) (List UInt8) :=
  if byte = 10 then .stop line else if byte = 13 then .more line else .more (line ++ [byte])

/-- The loop of `stream_read_line`; `none` when the fuel runs out. -/
def streamReadLineLoop : Nat → AnyStream → List UInt8 → Option (List UInt8 × AnyStream)
  | 0, _, _ => none
  | fuel + 1, stream, line =>
    let (buffer, stream) := streamRead stream streamBufferSize
    if buffer.length = 0 then some (line, stream)
    else
      match scanText lineStep line buffer with
      | (.more line, _) => streamReadLineLoop fuel stream line
      | (.stop line, rest) =>
        let i := buffer.length - rest.length
        let (ok, stream) := streamSeek stream ((i : Int) - buffer.length + 1) .fromCurrent
        some (if ok then line ++ [10] else line, stream)

/-- `stream_read_line`: whether there was a line, and the line. -/
def streamReadLine (fuel : Nat) (stream : AnyStream) : Option (Bool × List UInt8 × AnyStream) :=
  (streamReadLineLoop fuel stream []).map fun (line, stream) => (decide (line.length ≠ 0), line, stream)

/-- Calls until one fails. -/
def streamReadLines (lineFuel : Nat) : Nat → AnyStream → Option (List (List UInt8) × AnyStream)
  | 0, _ => none
  | fuel + 1, stream =>
    match streamReadLine lineFuel stream with
    | some (true, line, stream) =>
      (streamReadLines lineFuel fuel stream).map fun (lines, stream) => (line :: lines, stream)
    | some (false, _, stream) => some ([], stream)
    | none => none

def withoutReturns (text : List UInt8) : List UInt8 := text.filter (· ≠ 13)

theorem withoutReturns_append (first second : List UInt8) :
    withoutReturns (first ++ second) = withoutReturns first ++ withoutReturns second :=
  List.filter_append _ _

theorem withoutReturns_cons {byte : UInt8} {text : List UInt8} (kept : byte ≠ 13) :
    withoutReturns (byte :: text) = byte :: withoutReturns text :=
  List.filter_cons_of_pos (decide_eq_true kept)

theorem scanText_line (line : List UInt8) {text : List UInt8} (inside : 10 ∉ text) :
    scanText lineStep line text = (.more (line ++ withoutReturns text), []) := by
  induction text generalizing line with
  | nil => rw [withoutReturns, List.filter_nil, List.append_nil]; rfl
  | cons byte text rest =>
    obtain ⟨other, inside⟩ := not_or.mp (mt List.mem_cons.mpr inside)
    by_cases ignored : byte = 13
    · rw [scanText_more (show lineStep line byte = .more line by rw [lineStep, if_neg (Ne.symm other), if_pos ignored]), rest line inside,
        ignored]
      rfl
    · rw [scanText_more (show lineStep line byte = .more (line ++ [byte]) by
          rw [lineStep, if_neg (Ne.symm other), if_neg ignored]),
        rest _ inside, withoutReturns_cons ignored, List.append_assoc]
      rfl

theorem scanText_line_feed (line rest : List UInt8) {text : List UInt8} (inside : 10 ∉ text) :
    scanText lineStep line (text ++ 10 :: rest) = (.stop (line ++ withoutReturns text), 10 :: rest) := by
  rw [scanText_append, scanText_line line inside]
  exact scanText_stop rfl

section Line
variable {stream : AnyStream} {before front rest line : List UInt8}

/-- What the loop needs to know of reads, at any size. -/
def Reads (shows : AnyStream → Tape UInt8 → Prop) : Prop :=
  ∀ {stream before after}, shows stream ⟨before, after⟩ →
    ∃ next, streamRead stream streamBufferSize = (after.take streamBufferSize, next) ∧
      shows next ⟨before ++ after.take streamBufferSize, after.drop streamBufferSize⟩

theorem reads_shows : Reads Shows := fun shown => shown.read _

/-- A plain file of any size. -/
def IsFile (stream : AnyStream) (tape : Tape UInt8) : Prop := stream = .file (cut tape.before tape.after)

theorem reads_file : Reads IsFile := by
  rintro stream before after rfl
  exact ⟨_, by rw [streamRead, fileStreamRead_cut_take], rfl⟩

variable {shows : AnyStream → Tape UInt8 → Prop}

theorem streamReadLineLoop_feed (line : List UInt8) (reads : Reads shows) {fuel : Nat} (shown : shows stream ⟨before, front ++ 10 :: rest⟩)
    (inside : 10 ∉ front) (enough : (front ++ 10 :: rest).length < fuel) :
    ∃ middle passed beyond, rest = passed ++ beyond ∧ passed.length < 32 ∧
      shows middle ⟨before ++ front ++ 10 :: passed, beyond⟩ ∧
      streamReadLineLoop fuel stream line =
        some (if (streamSeek middle (-(passed.length : Int)) .fromCurrent).1 then line ++ withoutReturns front ++ [10]
          else line ++ withoutReturns front, (streamSeek middle (-(passed.length : Int)) .fromCurrent).2) := by
  induction fuel generalizing stream before front line with
  | zero => exact absurd enough (Nat.not_lt_zero _)
  | succ fuel onward =>
    obtain ⟨middle, read, there⟩ := reads shown
    have parts := List.take_append_drop streamBufferSize (front ++ 10 :: rest)
    have length : ((front ++ 10 :: rest).take streamBufferSize).length = min 32 (front ++ 10 :: rest).length :=
      List.length_take
    rw [List.length_append, List.length_cons] at length enough
    generalize (front ++ 10 :: rest).take streamBufferSize = block at *
    generalize (front ++ 10 :: rest).drop streamBufferSize = beyond at *
    rw [streamReadLineLoop, read]
    dsimp only
    rw [if_neg (by omega)]
    -- the block ends before the line feed, or it holds it
    have cases : (∃ front', front = block ++ front' ∧ beyond = front' ++ 10 :: rest) ∨
        ∃ passed, block = front ++ 10 :: passed ∧ rest = passed ++ beyond := by
      rcases List.append_eq_append_iff.mp parts with ⟨front', split, split'⟩ | ⟨tail, split, split'⟩
      · exact Or.inl ⟨front', split, split'⟩
      · cases tail with
        | nil => exact Or.inl ⟨[], by rw [split, List.append_nil, List.append_nil], split'.symm⟩
        | cons byte passed =>
          obtain ⟨rfl, behind⟩ := List.cons.inj split'
          exact Or.inr ⟨passed, split, behind⟩
    rcases cases with ⟨front', rfl, rfl⟩ | ⟨passed, rfl, rfl⟩
    · obtain ⟨absent, absent'⟩ := not_or.mp (mt List.mem_append.mpr inside)
      rw [List.length_append] at length enough
      obtain ⟨middle', passed, beyond, split, few, shown', loop⟩ := onward (line ++ withoutReturns block) there
        absent' (by rw [List.length_append, List.length_cons]; omega)
      rw [scanText_line line absent]
      refine ⟨middle', passed, beyond, split, few, by rwa [← List.append_assoc before], ?_⟩
      rw [withoutReturns_append, ← List.append_assoc]
      exact loop
    · rw [scanText_line_feed line passed inside]
      dsimp only
      have sum : (front ++ 10 :: passed).length = front.length + (passed.length + 1) := by
        rw [List.length_append, List.length_cons]
      have back : (((front ++ 10 :: passed).length - (10 :: passed).length : Nat) : Int) -
          (front ++ 10 :: passed).length + 1 = -(passed.length : Int) := by
        rw [List.length_cons]
        omega
      rw [back]
      exact ⟨middle, passed, beyond, rfl, by omega, by rwa [List.append_assoc], rfl⟩

theorem streamReadLineLoop_end (line : List UInt8) {fuel : Nat} {after : List UInt8} (shown : Shows stream ⟨before, after⟩)
    (inside : 10 ∉ after) (enough : after.length < fuel) :
    ∃ next, streamReadLineLoop fuel stream line = some (line ++ withoutReturns after, next) ∧
      Shows next ⟨before ++ after, []⟩ := by
  induction fuel generalizing stream before after line with
  | zero => exact absurd enough (Nat.not_lt_zero _)
  | succ fuel onward =>
    obtain ⟨middle, read, there⟩ := shown.read streamBufferSize
    have parts := List.take_append_drop streamBufferSize after
    have length : (after.take streamBufferSize).length = min 32 after.length := List.length_take
    generalize after.take streamBufferSize = block at *
    generalize after.drop streamBufferSize = beyond at *
    subst parts
    obtain ⟨absent, absent'⟩ := not_or.mp (mt List.mem_append.mpr inside)
    rw [List.length_append] at length enough
    rw [streamReadLineLoop, read]
    dsimp only
    by_cases ended : block.length = 0
    · rw [if_pos ended]
      obtain rfl : block = [] := List.eq_nil_of_length_eq_zero ended
      obtain rfl : beyond = [] := List.eq_nil_of_length_eq_zero (by omega)
      exact ⟨middle, by rw [List.append_nil, withoutReturns, List.filter_nil, List.append_nil], there⟩
    · obtain ⟨next, loop, there⟩ := onward (line ++ withoutReturns block) there absent' (by omega)
      rw [if_neg ended, scanText_line line absent]
      refine ⟨next, ?_, by rwa [← List.append_assoc]⟩
      rw [withoutReturns_append, ← List.append_assoc]
      exact loop

/-- Below 2 GiB the seek back succeeds. -/
theorem streamReadLineLoop_line (line : List UInt8) {fuel : Nat} (shown : Shows stream ⟨before, front ++ 10 :: rest⟩)
    (inside : 10 ∉ front) (enough : (front ++ 10 :: rest).length < fuel) :
    ∃ next, streamReadLineLoop fuel stream line = some (line ++ withoutReturns front ++ [10], next) ∧
      Shows next ⟨before ++ front ++ [10], rest⟩ := by
  obtain ⟨middle, passed, beyond, rfl, few, there, loop⟩ :=
    streamReadLineLoop_feed line reads_shows shown inside enough
  obtain ⟨next, seek, shown⟩ := there.seek (by omega) (by omega)
    (show _ = before ++ front ++ [10] ++ (passed ++ beyond) by
      simp only [List.append_assoc, List.cons_append, List.nil_append])
    (show seekTarget _ (-(passed.length : Int)) .fromCurrent = _ by
      rw [seekTarget, cut_pos]
      simp only [List.length_append, List.length_cons, List.length_nil]
      omega)
  refine ⟨next, ?_, shown⟩
  rw [loop, seek]
  rfl

end Line

def IsLine (line : List UInt8) : Prop := ∃ front, 10 ∉ front ∧ line = front ++ [10]

def AreLines (lines : List (List UInt8)) : Prop := ∀ line ∈ lines.dropLast, IsLine line

theorem areLines_cons {line : List UInt8} {lines : List (List UInt8)} (first : IsLine line) (others : AreLines lines) :
    AreLines (line :: lines) := by
  intro other member
  cases lines with
  | nil => cases member
  | cons next lines =>
    rw [List.dropLast_cons_cons, List.mem_cons] at member
    rcases member with rfl | member
    · exact first
    · exact others other member

theorem not_mem_withoutReturns {text : List UInt8} (inside : 10 ∉ text) : 10 ∉ withoutReturns text :=
  fun member => inside (List.mem_of_mem_filter member)

section Lines
variable {stream : AnyStream} {before after : List UInt8} {lineFuel fuel : Nat}

theorem streamReadLine_of_loop {line : List UInt8} {next : AnyStream}
    (loop : streamReadLineLoop lineFuel stream [] = some (line, next)) :
    streamReadLine lineFuel stream = some (decide (line.length ≠ 0), line, next) := by
  rw [streamReadLine, loop]
  rfl

theorem streamReadLines_at_end (shown : Shows stream ⟨before, []⟩) (enough : 0 < lineFuel) (enough' : 0 < fuel) :
    ∃ next, streamReadLines lineFuel fuel stream = some ([], next) := by
  obtain ⟨fuel, rfl⟩ := Nat.exists_eq_succ_of_ne_zero (Nat.ne_of_gt enough')
  obtain ⟨next, loop, -⟩ := streamReadLineLoop_end [] shown List.not_mem_nil enough
  exact ⟨next, by rw [streamReadLines, streamReadLine_of_loop loop]; rfl⟩

theorem streamReadLines_shows (shown : Shows stream ⟨before, after⟩) (enough : after.length < lineFuel)
    (enough' : after.length < fuel) :
    ∃ lines next, streamReadLines lineFuel fuel stream = some (lines, next) ∧
      lines.flatten = withoutReturns after ∧ AreLines lines := by
  induction fuel generalizing stream before after with
  | zero => exact absurd enough' (Nat.not_lt_zero _)
  | succ fuel onward =>
    by_cases feed : (10 : UInt8) ∈ after
    · obtain ⟨front, rest, rfl, inside⟩ := List.eq_append_cons_of_mem feed
      obtain ⟨next, loop, there⟩ := streamReadLineLoop_line [] shown inside enough
      rw [List.length_append, List.length_cons] at enough enough'
      obtain ⟨lines, last, calls, whole, are⟩ := onward there (by omega) (by omega)
      have some_line : ([] ++ withoutReturns front ++ [10]).length ≠ 0 := by
        rw [List.length_append]
        exact Nat.succ_ne_zero _
      refine ⟨([] ++ withoutReturns front ++ [10]) :: lines, last, ?_, ?_,
        areLines_cons ⟨_, not_mem_withoutReturns inside, rfl⟩ are⟩
      · rw [streamReadLines, streamReadLine_of_loop loop, decide_eq_true some_line]
        dsimp only
        rw [calls]
        rfl
      · rw [List.flatten_cons, whole, withoutReturns_append, List.append_assoc]
        rfl
    · obtain ⟨next, loop, there⟩ := streamReadLineLoop_end [] shown feed enough
      rw [List.nil_append] at loop
      rw [streamReadLines, streamReadLine_of_loop loop]
      by_cases empty : (withoutReturns after).length = 0
      · rw [decide_eq_false (not_not.mpr empty)]
        exact ⟨[], next, rfl, (List.eq_nil_of_length_eq_zero empty).symm, fun _ member => nomatch member⟩
      · have filtered : (withoutReturns after).length ≤ after.length := List.length_filter_le _ _
        obtain ⟨last, calls⟩ := streamReadLines_at_end there (show 0 < lineFuel by omega) (show 0 < fuel by omega)
        rw [decide_eq_true empty]
        dsimp only
        rw [calls]
        exact ⟨[withoutReturns after], last, rfl, List.append_nil _, fun _ member => nomatch member⟩

end Lines

/-- **The lines of a stream are its text** but the carriage returns, and each but the last
ends in its only line feed. -/
theorem stream_read_lines_whole {stream : AnyStream} {before after : List UInt8} {lineFuel fuel : Nat}
    (holds : Holds stream ⟨before, after⟩) (small : (before ++ after).length < 2 ^ 31)
    (enough : (before ++ after).length < lineFuel) (enough' : (before ++ after).length < fuel) :
    ∃ start, streamRewind stream = (true, start) ∧
      ∃ lines next, streamReadLines lineFuel fuel start = some (lines, next) ∧
        lines.flatten = withoutReturns (before ++ after) ∧ AreLines lines := by
  obtain ⟨start, rewind, shown⟩ := holds.rewind small
  exact ⟨start, rewind, streamReadLines_shows shown enough enough'⟩

/-- Two lines, the first with a carriage return. -/
theorem two_lines_whole : ∃ start, streamRewind (.file (cut [] [97, 13, 10, 98])) = (true, start) ∧
      ∃ lines next, streamReadLines 5 5 start = some (lines, next) ∧
        lines.flatten = withoutReturns ([] ++ [97, 13, 10, 98]) ∧ AreLines lines :=
  stream_read_lines_whole (show Holds (.file (cut [] [97, 13, 10, 98])) ⟨[], [97, 13, 10, 98]⟩ from rfl)
    (by decide) (show 4 < 5 by decide) (show 4 < 5 by decide)

section Beyond
variable {front rest : List UInt8} {lineFuel : Nat}

/-- Behind 2 GiB no relative seek reaches its place: it goes to the start. -/
theorem streamSeek_beyond {before after : List UInt8} {count : Nat} (beyond : 2 ^ 31 + count ≤ before.length)
    (under : before.length < 2 ^ 32) :
    streamSeek (.file (cut before after)) (-(count : Int)) .fromCurrent =
      (false, .file (cut [] (before ++ after))) := by
  obtain ⟨position, named⟩ : ∃ position, int32 ((before.length : Int) + -(count : Int)) = position := ⟨_, rfl⟩
  have negative : ¬ 0 ≤ position := by
    rw [← named]
    unfold int32
    rw [Int.bmod_def]
    split <;> omega
  have asked : seekPosition (fileStreamTell (cut before after)) (fileStreamSize (cut before after)) (-(count : Int))
      .fromCurrent = none := by
    rw [seekPosition, fileStreamTell, cut_pos, named, if_neg negative]
  have start : storageFileSeek (cut before after) 0 = cut [] (before ++ after) := eq_cut rfl (Nat.zero_min _)
  have sought : fileStreamSeek (cut before after) (-(count : Int)) .fromCurrent =
      (false, cut [] (before ++ after)) := by
    rw [fileStreamSeek, asked, start]
  rw [streamSeek, sought]

theorem streamReadLines_repeats (far : 2 ^ 31 ≤ front.length) (under : (front ++ 10 :: rest).length < 2 ^ 32)
    (inside : 10 ∉ front) (filled : (withoutReturns front).length ≠ 0)
    (enough : (front ++ 10 :: rest).length < lineFuel) (fuel : Nat) :
    streamReadLines lineFuel fuel (.file (cut [] (front ++ 10 :: rest))) = none := by
  induction fuel with
  | zero => rfl
  | succ fuel again =>
    have shown : IsFile (.file (cut [] (front ++ 10 :: rest))) ⟨[], front ++ 10 :: rest⟩ := rfl
    obtain ⟨middle, passed, beyond, rfl, few, rfl, loop⟩ :=
      streamReadLineLoop_feed [] reads_file shown inside enough
    have sum : (front ++ 10 :: (passed ++ beyond)).length = front.length + (passed.length + beyond.length + 1) := by
      rw [List.length_append, List.length_cons, List.length_append]
    have read : ([] ++ front ++ 10 :: passed).length = front.length + (passed.length + 1) := by
      rw [List.nil_append, List.length_append, List.length_cons]
    have back := @streamSeek_beyond ([] ++ front ++ 10 :: passed) beyond passed.length (by omega) (by omega)
    have whole : [] ++ front ++ 10 :: passed ++ beyond = front ++ 10 :: (passed ++ beyond) := by
      rw [List.nil_append, List.append_assoc, List.cons_append]
    rw [whole] at back
    rw [back, List.nil_append] at loop
    rw [streamReadLines, streamReadLine_of_loop loop]
    rw [if_neg Bool.false_ne_true, decide_eq_true filled]
    dsimp only
    rw [again]
    rfl

end Beyond

theorem exists_letters (n : Nat) :
    ∃ front : List UInt8, front.length = n ∧ 10 ∉ front ∧ (withoutReturns front).length = n := by
  have letters : ∀ byte ∈ List.replicate n (97 : UInt8), byte = 97 := fun _ member => List.eq_of_mem_replicate member
  refine ⟨List.replicate n 97, List.length_replicate, fun member => ?_, ?_⟩
  · exact absurd (letters 10 member) (by decide)
  · have kept : withoutReturns (List.replicate n 97) = List.replicate n 97 := by
      refine List.filter_eq_self.mpr fun byte member => ?_
      rw [letters byte member]
      rfl
    rw [kept, List.length_replicate]

/-- Calls do not end on a file with a first line of 2 GiB. -/
theorem lines_not_all_end :
    ¬ ∀ (stream : AnyStream) (content : List UInt8) (lineFuel fuel : Nat), Holds stream ⟨[], content⟩ →
      content.length < lineFuel → content.length < fuel →
        ∃ lines next, streamReadLines lineFuel fuel stream = some (lines, next) := by
  intro ends
  obtain ⟨front, length, inside, kept⟩ := exists_letters (2 ^ 31)
  have sum : (front ++ [10, 98]).length = front.length + 2 := List.length_append
  have shorter : (front ++ [10, 98]).length < front.length + 3 := by
    rw [sum]
    exact Nat.lt_succ_self _
  have under : (front ++ [10, 98]).length < 2 ^ 32 := by
    rw [sum, length]
    exact Nat.lt_of_sub_pos (Nat.succ_pos _)
  have filled : (withoutReturns front).length ≠ 0 := by
    rw [kept]
    exact Nat.ne_of_gt (Nat.two_pow_pos 31)
  have holds : Holds (.file (cut [] (front ++ [10, 98]))) ⟨[], front ++ [10, 98]⟩ := rfl
  obtain ⟨lines, next, done⟩ := ends _ _ (front.length + 3) (front.length + 3) holds shorter shorter
  rw [streamReadLines_repeats (Nat.le_of_eq length.symm) under inside filled shorter] at done
  cases done

end Xtreme.Stream
