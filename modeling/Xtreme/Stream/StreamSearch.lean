import Xtreme.Stream.AnyStream

/-! The search for a character (`stream_seek_to_char`), in blocks of 32 bytes: forward
with a relative seek back from the end of a block, backward with an anchor that moves
down. Below 2 GiB it finds the nearest one whatever stream it runs on, in the middle of a
write-back too, as a seek back over bytes just read stays inside the cache. -/
namespace Xtreme.Stream
open Library

inductive StreamDirection where
  | forward
  | backward
  deriving DecidableEq, Repr

def streamBufferSize : Nat := 32

/-- How a search ends: with its result, at a `furi_check`, or not within the fuel. -/
inductive SearchEnd where
  | done (found : Bool) (stream : AnyStream)
  | stopped
  | unfinished
  deriving DecidableEq, Repr

/-- The loop of `stream_seek_to_char_forward`. -/
def seekForwardLoop (c : UInt8) : Nat → AnyStream → SearchEnd
  | 0, _ => .unfinished
  | fuel + 1, stream =>
    let (buffer, stream) := streamRead stream streamBufferSize
    match buffer.idxOf? c with
    | some i => .done true (streamSeek stream (int32 ((i : Int) - buffer.length)) .fromCurrent).2
    | none => if buffer.length ≠ streamBufferSize then .done false stream else seekForwardLoop c fuel stream

/-- `stream_seek_to_char_forward`. -/
def streamSeekToCharForward (fuel : Nat) (stream : AnyStream) (c : UInt8) : SearchEnd :=
  let (ok, stream) := streamSeek stream 1 .fromCurrent
  if !ok then .done false stream else seekForwardLoop c fuel stream

/-- The loop of `stream_seek_to_char_backward`; a block is searched from its end. -/
def seekBackwardLoop (c : UInt8) : Nat → AnyStream → Nat → SearchEnd
  | 0, _, _ => .unfinished
  | fuel + 1, stream, anchor =>
    let toRead := if anchor < streamBufferSize then anchor else streamBufferSize
    let anchor := anchor - toRead
    let (ok, stream) := streamSeek stream (int32 anchor) .fromStart
    if !ok then .stopped
    else
      let (buffer, stream) := streamRead stream toRead
      match buffer.reverse.idxOf? c with
      | some i =>
        let cursor := buffer.length - i - 1
        let (ok, stream) := streamSeek stream (int32 (anchor + cursor : Nat)) .fromStart
        if !ok then .stopped else .done true stream
      | none =>
        if buffer.length ≠ streamBufferSize then .done false stream else seekBackwardLoop c fuel stream anchor

/-- `stream_seek_to_char_backward`. -/
def streamSeekToCharBackward (fuel : Nat) (stream : AnyStream) (c : UInt8) : SearchEnd :=
  let anchor := streamTell stream
  if anchor = 0 then .done false stream else seekBackwardLoop c fuel stream anchor

def streamSearch (fuel : Nat) (stream : AnyStream) (c : UInt8) : StreamDirection → SearchEnd
  | .forward => streamSeekToCharForward fuel stream c
  | .backward => streamSeekToCharBackward fuel stream c

/-- `stream_seek_to_char`: a search that finds nothing is rolled back. -/
def streamSeekToChar (fuel : Nat) (stream : AnyStream) (c : UInt8) (direction : StreamDirection) : SearchEnd :=
  let oldPosition := streamTell stream
  match streamSearch fuel stream c direction with
  | .done false stream => .done false (streamSeek stream (int32 oldPosition) .fromStart).2
  | result => result

/-! ## Seeks inside a pending write-back -/

/-- A seek by the offset does not leave a pending write-back through its start. -/
def Reaches (offset : Int) : AnyStream → Prop
  | .buffered stream => stream.syncPending = true → -(stream.cache.position : Int) ≤ offset
  | _ => True

theorem bufferedFileStreamReadLoop_reaches (stream : BufferedFileStream) (count : Nat)
    (pending : (bufferedFileStreamReadLoop stream count).2.syncPending = true) :
    (bufferedFileStreamReadLoop stream count).1.length ≤
      (bufferedFileStreamReadLoop stream count).2.cache.position := by
  have loose : ∀ {stream : BufferedFileStream}, (bufferedFileStreamSync stream).2.syncPending ≠ true := by
    intro stream
    rw [bufferedFileStreamSync_settled]
    exact Bool.false_ne_true
  fun_induction bufferedFileStreamReadLoop stream count with
  | case1 => exact Nat.zero_le _
  | case2 stream count _ taken left stream' done =>
    have taken : taken.1.length ≤ taken.2.position := by
      simp only [taken, streamCacheRead, List.length_take]
      omega
    exact taken
  | case3 => exact absurd pending loose
  | case4 => exact absurd pending loose
  | case5 stream count _ taken left stream' more settled ready filled next some_bytes read ih =>
    have settled : next.syncPending = false := bufferedFileStreamSync_settled
    have clean : read.2.syncPending = false := bufferedFileStreamReadLoop_settled settled left
    rw [clean] at pending
    cases pending

section Calls
variable {stream : AnyStream} {before after before' after' : List UInt8} {offset : Int}

/-- A read in any state; the bytes can be gone back over. -/
theorem Holds.read (holds : Holds stream ⟨before, after⟩) (small : (before ++ after).length < 2 ^ 31) (size : Nat) :
    ∃ next, streamRead stream size = (after.take size, next) ∧
      Holds next ⟨before ++ after.take size, after.drop size⟩ ∧
      ∀ offset : Int, -((after.take size).length : Int) ≤ offset → Reaches offset next := by
  have plain := fileStreamRead_cut_take before after size
  cases stream with
  | file stream =>
    obtain rfl : stream = cut before after := holds
    exact ⟨.file _, by rw [streamRead, plain], rfl, fun _ _ => trivial⟩
  | buffered stream =>
    obtain ⟨same, next⟩ := represents_readLoop holds small size
    rw [plain] at same next
    refine ⟨.buffered (bufferedFileStreamReadLoop stream size).2, by rw [streamRead, bufferedFileStreamRead, same],
      next, fun offset back pending => ?_⟩
    have reaches := bufferedFileStreamReadLoop_reaches stream size pending
    rw [same] at reaches
    dsimp only at reaches
    omega
  | string stream =>
    obtain rfl : stream = .cut before after := holds
    exact ⟨.string _, by rw [streamRead, stringStreamRead_cut small], rfl, fun _ _ => trivial⟩

theorem Holds.seekBy (holds : Holds stream ⟨before, after⟩) (small : (before ++ after).length < 2 ^ 31)
    (reaches : Reaches offset stream) (low : -2 ^ 31 ≤ offset) (high : offset < 2 ^ 31)
    (split : before ++ after = before' ++ after') (target : (before.length : Int) + offset = before'.length) :
    ∃ next, streamSeek stream offset .fromCurrent = (true, next) ∧ Holds next ⟨before', after'⟩ := by
  have small' : (before' ++ after').length < 2 ^ 31 := split ▸ small
  have plain : fileStreamSeek (cut before after) offset .fromCurrent = (true, cut before' after') :=
    fileStreamSeek_cut _ _ split small' target
  cases stream with
  | file stream =>
    obtain rfl : stream = cut before after := holds
    exact ⟨.file _, by rw [streamSeek, plain], rfl⟩
  | buffered stream =>
    have agrees := represents_seek_current holds small low high reaches
    rw [plain] at agrees
    exact ⟨.buffered (bufferedFileStreamSeek stream offset .fromCurrent).2, by rw [streamSeek, agrees.1], agrees.2⟩
  | string stream =>
    obtain rfl : stream = .cut before after := holds
    have sought : stringStreamSeek (.cut before after) offset .fromCurrent = (true, .cut before' after') :=
      stringStreamSeek_cut _ _ (by simp [StringStream.cut]) split small' target
    exact ⟨.string _, by rw [streamSeek, sought], rfl⟩

theorem storageFileSeek_cut (place : Nat) :
    storageFileSeek (cut before after) place = cut ((before ++ after).take place) ((before ++ after).drop place) := by
  refine eq_cut (List.take_append_drop _ _).symm ?_
  have pos : (storageFileSeek (cut before after) place).pos = min place (before ++ after).length := rfl
  rw [pos, List.length_take]

section PastEnd
variable (small : (before ++ after).length < 2 ^ 31) (far : (after.length : Int) < offset) (high : offset < 2 ^ 31)
include small far high

/-- A seek past the end of a file is refused as being past the end or, where the sum
leaves an `int32_t`, as being negative. -/
theorem fileStreamSeek_past_end : ∃ place, fileStreamSeek (cut before after) offset .fromCurrent =
      (false, cut ((before ++ after).take place) ((before ++ after).drop place)) := by
  have size : fileStreamSize (cut before after) = (before ++ after).length := rfl
  have length : (before ++ after).length = before.length + after.length := List.length_append
  by_cases room : before.length + offset < 2 ^ 31
  · obtain ⟨position, named⟩ : ∃ position, sizeT ((before.length : Int) + offset) = position := ⟨_, rfl⟩
    have value : (position : Int) = before.length + offset := by
      rw [← named, sizeT_of_range (by omega) (by omega)]
      omega
    have asked : seekPosition (fileStreamTell (cut before after)) (before ++ after).length offset .fromCurrent =
        some position := by
      rw [seekPosition, fileStreamTell, cut_pos, int32_of_range (by omega) (by omega), if_pos (by omega), named]
    have beyond : 0 < int32 ((position : Int) - (before ++ after).length) := by
      rw [int32_of_range (by omega) (by omega)]
      omega
    refine ⟨(before ++ after).length, ?_⟩
    rw [fileStreamSeek, size, asked]
    dsimp only
    rw [if_pos beyond, storageFileSeek_cut]
  · obtain ⟨position, named⟩ : ∃ position, int32 ((before.length : Int) + offset) = position := ⟨_, rfl⟩
    have negative : ¬ 0 ≤ position := by
      rw [← named]
      unfold int32
      rw [Int.bmod_def]
      split <;> omega
    have asked : seekPosition (fileStreamTell (cut before after)) (before ++ after).length offset .fromCurrent =
        none := by
      rw [seekPosition, fileStreamTell, cut_pos, named, if_neg negative]
    refine ⟨0, ?_⟩
    rw [fileStreamSeek, size, asked]
    exact congrArg (Prod.mk false) (storageFileSeek_cut 0)

theorem stringStreamSeek_past_end : ∃ place, stringStreamSeek (.cut before after) offset .fromCurrent =
      (false, .cut ((before ++ after).take place) ((before ++ after).drop place)) := by
  have size : stringStreamSize (.cut before after) = (before ++ after).length := rfl
  have index : (StringStream.cut before after).index = before.length := rfl
  have length : (before ++ after).length = before.length + after.length := List.length_append
  have cursor : int32 before.length = before.length := int32_of_range (by omega) (by omega)
  have landed : ∀ place ≤ (before ++ after).length,
      ({ StringStream.cut before after with index := place } : StringStream) =
        .cut ((before ++ after).take place) ((before ++ after).drop place) := by
    intro place inside
    exact StringStream.ext (List.take_append_drop _ _).symm (List.length_take_of_le inside).symm
  by_cases room : before.length + offset < 2 ^ 31
  · obtain ⟨position, named⟩ : ∃ position, sizeT ((before.length : Int) + offset) = position := ⟨_, rfl⟩
    have value : (position : Int) = before.length + offset := by
      rw [← named, sizeT_of_range (by omega) (by omega)]
      omega
    have asked : stringStreamTarget (.cut before after) offset .fromCurrent = (true, position) := by
      rw [stringStreamTarget, index, int32_of_range (by omega) (by omega), if_pos (by omega), named]
    obtain ⟨diff, named'⟩ : ∃ diff, int32 ((position : Int) - (before ++ after).length) = diff := ⟨_, rfl⟩
    have apart : diff = position - (before ++ after).length := by
      rw [← named', int32_of_range (by omega) (by omega)]
    have stop : sizeT ((position : Int) - diff) = (before ++ after).length := by
      rw [sizeT_of_range (by omega) (by omega)]
      omega
    refine ⟨(before ++ after).length, ?_⟩
    rw [stringStreamSeek, asked, size]
    dsimp only
    rw [named', if_pos (by omega), stop, landed _ (Nat.le_refl _)]
  · obtain ⟨position, named⟩ : ∃ position, int32 (int32 before.length + offset) = position := ⟨_, rfl⟩
    have negative : ¬ 0 ≤ position := by
      rw [← named, cursor]
      unfold int32
      rw [Int.bmod_def]
      split <;> omega
    have asked : stringStreamTarget (.cut before after) offset .fromCurrent = (false, 0) := by
      rw [stringStreamTarget, index, named, if_neg negative]
    have stays : ¬ 0 < int32 (((0 : Nat) : Int) - (before ++ after).length) := by
      rw [int32_of_range (by omega) (by omega)]
      omega
    refine ⟨0, ?_⟩
    rw [stringStreamSeek, asked, size]
    dsimp only
    rw [if_neg stays, landed 0 (Nat.zero_le _)]

theorem Holds.seek_past_end (holds : Holds stream ⟨before, after⟩) :
    ∃ next place, streamSeek stream offset .fromCurrent = (false, next) ∧
      Holds next ⟨(before ++ after).take place, (before ++ after).drop place⟩ := by
  cases stream with
  | file stream =>
    obtain rfl : stream = cut before after := holds
    obtain ⟨place, plain⟩ := fileStreamSeek_past_end small far high
    exact ⟨.file _, place, by rw [streamSeek, plain], rfl⟩
  | buffered stream =>
    obtain ⟨place, plain⟩ := fileStreamSeek_past_end small far high
    have agrees := represents_seek_current holds small (by omega) high fun _ => by omega
    rw [plain] at agrees
    exact ⟨.buffered (bufferedFileStreamSeek stream offset .fromCurrent).2, place,
      by rw [streamSeek, agrees.1], agrees.2⟩
  | string stream =>
    obtain rfl : stream = .cut before after := holds
    obtain ⟨place, plain⟩ := stringStreamSeek_past_end small far high
    exact ⟨.string _, place, by rw [streamSeek, plain], rfl⟩

end PastEnd

end Calls

/-! ## The loops -/

/-- The first occurrence in a block. -/
theorem idxOf?_split {block : List UInt8} {c : UInt8} {i : Nat} (found : block.idxOf? c = some i) :
    ∃ front rest, block = front ++ c :: rest ∧ c ∉ front ∧ front.length = i := by
  obtain ⟨inside, here, earlier⟩ := List.idxOf?_eq_some_iff.mp found
  refine ⟨block.take i, block.drop (i + 1), ?_, ?_, List.length_take_of_le (Nat.le_of_lt inside)⟩
  · rw [← here, List.getElem_cons_drop, List.take_append_drop]
  · intro member
    obtain ⟨j, before, same⟩ := List.mem_take_iff_getElem.mp member
    exact earlier j (by omega) same

section Loops
variable {stream : AnyStream} {before after : List UInt8} {c : UInt8}

theorem seekForwardLoop_finds {fuel : Nat} (holds : Holds stream ⟨before, after⟩)
    (small : (before ++ after).length < 2 ^ 31) (enough : after.length < fuel) :
    (∃ next passed rest, seekForwardLoop c fuel stream = .done true next ∧ after = passed ++ c :: rest ∧
        c ∉ passed ∧ Holds next ⟨before ++ passed, c :: rest⟩) ∨
      ∃ next, seekForwardLoop c fuel stream = .done false next ∧ c ∉ after ∧ Holds next ⟨before ++ after, []⟩ := by
  induction fuel generalizing stream before after with
  | zero => exact absurd enough (Nat.not_lt_zero _)
  | succ fuel onward =>
    obtain ⟨middle, read, there, reaches⟩ := holds.read small streamBufferSize
    have parts : after.take streamBufferSize ++ after.drop streamBufferSize = after := List.take_append_drop _ _
    have length : (after.take streamBufferSize).length = min 32 after.length := List.length_take
    generalize after.take streamBufferSize = block at *
    generalize after.drop streamBufferSize = beyond at *
    subst parts
    have small' : (before ++ block ++ beyond).length < 2 ^ 31 := by rwa [List.append_assoc]
    rw [List.length_append] at enough length
    rw [seekForwardLoop, read]
    dsimp only
    split
    · rename_i i found
      obtain ⟨passed, rest, rfl, absent, rfl⟩ := idxOf?_split found
      have sum : (passed ++ c :: rest).length = passed.length + (c :: rest).length := List.length_append
      have back : int32 ((passed.length : Int) - (passed ++ c :: rest).length) = -((c :: rest).length : Int) := by
        rw [int32_of_range (by omega) (by omega)]
        omega
      obtain ⟨next, seek, here⟩ := there.seekBy small' (reaches (-((c :: rest).length : Int)) (by omega)) (by omega)
        (by omega) (show _ = before ++ passed ++ (c :: rest ++ beyond) by simp only [List.append_assoc])
        (by simp only [List.length_append]; omega)
      rw [back, seek]
      exact Or.inl ⟨next, passed, rest ++ beyond, rfl, List.append_assoc _ _ _, absent, here⟩
    · rename_i none
      have absent : c ∉ block := List.idxOf?_eq_none_iff.mp none
      split
      · rename_i short
        have ended : beyond = [] := by
          refine List.eq_nil_of_length_eq_zero ?_
          have short : block.length ≠ 32 := short
          omega
        subst ended
        rw [List.append_nil]
        exact Or.inr ⟨middle, rfl, absent, there⟩
      · rename_i full
        have full : block.length = 32 := not_not.mp full
        rcases onward there small' (by omega) with ⟨next, passed, rest, loop, rfl, absent', here⟩ |
          ⟨next, loop, absent', here⟩
        · refine Or.inl ⟨next, block ++ passed, rest, loop, (List.append_assoc _ _ _).symm, ?_, ?_⟩
          · rw [List.mem_append, not_or]
            exact ⟨absent, absent'⟩
          · rwa [← List.append_assoc]
        · refine Or.inr ⟨next, loop, ?_, by rwa [← List.append_assoc]⟩
          rw [List.mem_append, not_or]
          exact ⟨absent, absent'⟩

theorem short_block_first {lower block : Nat} (size : block = min 32 (lower + block)) (short : block ≠ 32) :
    lower = 0 := by omega

theorem seekBackwardLoop_finds {fuel : Nat} {front back : List UInt8} (holds : Holds stream ⟨before, after⟩)
    (small : (before ++ after).length < 2 ^ 31) (split : before ++ after = front ++ back)
    (enough : front.length < fuel) :
    (∃ next rest passed, seekBackwardLoop c fuel stream front.length = .done true next ∧
        front = rest ++ c :: passed ∧ c ∉ passed ∧ Holds next ⟨rest, c :: passed ++ back⟩) ∨
      ∃ next before' after', seekBackwardLoop c fuel stream front.length = .done false next ∧ c ∉ front ∧
        Holds next ⟨before', after'⟩ ∧ before' ++ after' = front ++ back := by
  induction fuel generalizing stream before after front back with
  | zero => exact absurd enough (Nat.not_lt_zero _)
  | succ fuel onward =>
    obtain ⟨toRead, asked, count⟩ : ∃ toRead,
        (if front.length < streamBufferSize then front.length else streamBufferSize) = toRead ∧
          toRead = min 32 front.length := by
      refine ⟨_, rfl, ?_⟩
      rw [streamBufferSize]
      split <;> omega
    have parts : front.take (front.length - toRead) ++ front.drop (front.length - toRead) = front :=
      List.take_append_drop _ _
    have start : (front.take (front.length - toRead)).length = front.length - toRead :=
      List.length_take_of_le (Nat.sub_le _ _)
    have length : (front.drop (front.length - toRead)).length = toRead := by
      rw [List.length_drop]
      omega
    rw [seekBackwardLoop, asked]
    rw [← start]
    generalize front.take (front.length - toRead) = lower at *
    generalize front.drop (front.length - toRead) = block at *
    subst parts
    rw [split, List.append_assoc] at small
    rw [List.append_assoc] at split
    have sizes : (lower ++ (block ++ back)).length = lower.length + (block.length + back.length) := by
      rw [List.length_append, List.length_append]
    have anchor : int32 lower.length = lower.length := int32_of_range (by omega) (by omega)
    obtain ⟨middle, seek, there⟩ := holds.seekTo (by rwa [split]) split
    obtain ⟨last, read, here, -⟩ := there.holds.read small toRead
    rw [List.take_left' length] at read
    rw [List.take_left' length, List.drop_left' length] at here
    rw [anchor, seek]
    dsimp only
    rw [if_neg (by decide), read]
    split
    · rename_i i found
      obtain ⟨passed, rest, reversed, absent, rfl⟩ := idxOf?_split found
      have block_eq : block = rest.reverse ++ c :: passed.reverse := by
        rw [← List.reverse_reverse block, reversed]
        simp
      subst block_eq
      have cursor : lower.length + ((rest.reverse ++ c :: passed.reverse).length - passed.length - 1) =
          (lower ++ rest.reverse).length := by
        simp only [List.length_append, List.length_cons, List.length_reverse]
        omega
      obtain ⟨next, seek, done⟩ := here.seekTo (by rwa [List.append_assoc])
        (show _ = lower ++ rest.reverse ++ (c :: passed.reverse ++ back) by
          simp only [List.append_assoc])
      rw [cursor, int32_of_range (by omega) (by omega), seek]
      refine Or.inl ⟨next, lower ++ rest.reverse, passed.reverse, rfl, by rw [List.append_assoc], ?_, done.holds⟩
      rwa [List.mem_reverse]
    · rename_i none
      have absent : c ∉ block := by
        rw [← List.mem_reverse]
        exact List.idxOf?_eq_none_iff.mp none
      split
      · rename_i short
        have ended : lower = [] := by
          rw [List.length_append] at count
          exact List.eq_nil_of_length_eq_zero (short_block_first (length.trans count) short)
        subst ended
        exact Or.inr ⟨last, _, _, rfl, absent, here, List.append_assoc _ _ _⟩
      · rename_i full
        have full : block.length = 32 := not_not.mp full
        rw [List.length_append] at enough
        have small' : (lower ++ block ++ back).length < 2 ^ 31 := by rwa [List.append_assoc]
        have text : lower ++ block ++ back = lower ++ (block ++ back) := List.append_assoc _ _ _
        have left : lower.length < fuel := by omega
        rcases onward here small' text left with
          ⟨next, rest, passed, loop, rfl, absent', found⟩ | ⟨next, before', after', loop, absent', found, text⟩
        · refine Or.inl ⟨next, rest, passed ++ block, loop, by rw [List.append_assoc]; rfl, ?_, ?_⟩
          · rw [List.mem_append, not_or]
            exact ⟨absent', absent⟩
          · rwa [List.cons_append, List.append_assoc]
        · refine Or.inr ⟨next, before', after', loop, ?_, found, by rw [text, List.append_assoc]⟩
          rw [List.mem_append, not_or]
          exact ⟨absent', absent⟩

end Loops

/-! ## The search -/

def StreamDirection.Beyond : StreamDirection → Nat → Nat → Prop
  | forward, cursor, place => cursor < place
  | backward, cursor, place => place < cursor

/-- The nearest place of a character strictly beyond the cursor. -/
structure Nearest (text : List UInt8) (c : UInt8) (direction : StreamDirection) (cursor place : Nat) : Prop where
  here : text[place]? = some c
  beyond : direction.Beyond cursor place
  first : ∀ other, text[other]? = some c → direction.Beyond cursor other → ¬ direction.Beyond other place

section Search
variable {stream : AnyStream} {before after : List UInt8} {c : UInt8}

theorem nearest_forward {first : UInt8} {passed rest : List UInt8} (absent : c ∉ passed) :
    Nearest (before ++ first :: (passed ++ c :: rest)) c .forward before.length
      (before ++ first :: passed).length := by
  have place : (before ++ first :: passed).length = before.length + (passed.length + 1) := by
    rw [List.length_append, List.length_cons]
  refine ⟨?_, ?_, fun other here ahead nearer => ?_⟩
  · rw [show before ++ first :: (passed ++ c :: rest) = (before ++ first :: passed) ++ c :: rest by simp,
      List.getElem?_append_right (Nat.le_refl _), Nat.sub_self, List.getElem?_cons_zero]
  · rw [place]
    exact Nat.lt_add_of_pos_right (Nat.succ_pos _)
  · have ahead : before.length < other := ahead
    have nearer : other < before.length + (passed.length + 1) := place ▸ nearer
    obtain ⟨index, rfl⟩ : ∃ index, other = before.length + (index + 1) := ⟨other - before.length - 1, by omega⟩
    rw [List.getElem?_append_right (Nat.le_add_right _ _), Nat.add_sub_cancel_left, List.getElem?_cons_succ,
      List.getElem?_append_left (by omega)] at here
    exact absent (List.mem_of_getElem? here)

theorem nearest_backward {rest passed : List UInt8} (absent : c ∉ passed) :
    Nearest (rest ++ c :: passed ++ after) c .backward (rest ++ c :: passed).length rest.length := by
  have cursor : (rest ++ c :: passed).length = rest.length + (passed.length + 1) := by
    rw [List.length_append, List.length_cons]
  refine ⟨?_, ?_, fun other here behind nearer => ?_⟩
  · rw [List.append_assoc, List.cons_append, List.getElem?_append_right (Nat.le_refl _), Nat.sub_self,
      List.getElem?_cons_zero]
  · rw [cursor]
    exact Nat.lt_add_of_pos_right (Nat.succ_pos _)
  · have behind : other < rest.length + (passed.length + 1) := cursor ▸ behind
    have nearer : rest.length < other := nearer
    obtain ⟨index, rfl⟩ : ∃ index, other = rest.length + (index + 1) := ⟨other - rest.length - 1, by omega⟩
    rw [List.getElem?_append_left (by omega), List.getElem?_append_right (Nat.le_add_right _ _),
      Nat.add_sub_cancel_left] at here
    exact absent (List.mem_of_getElem? here)

/-- The way back to where the search began. -/
theorem Holds.rollback {before' after' : List UInt8} (holds : Holds stream ⟨before', after'⟩)
    (text : before' ++ after' = before ++ after) (small : (before ++ after).length < 2 ^ 31) :
    ∃ next, streamSeek stream (int32 before.length) .fromStart = (true, next) ∧ Holds next ⟨before, after⟩ := by
  have inside : before.length < 2 ^ 31 := by
    rw [List.length_append] at small
    omega
  rw [int32_of_range (by omega) (by omega)]
  obtain ⟨next, seek, there⟩ := holds.seekTo (text ▸ small) text
  exact ⟨next, seek, there.holds⟩

def EndsAt (stream : AnyStream) (text : List UInt8) (place : Nat) : Prop :=
  Holds stream ⟨text.take place, text.drop place⟩ ∧ streamTell stream = place

theorem Holds.endsAt (holds : Holds stream ⟨before, after⟩) : EndsAt stream (before ++ after) before.length := by
  refine ⟨?_, holds.tell⟩
  rwa [List.take_left, List.drop_left]

theorem streamSeekToChar_found {fuel : Nat} {direction : StreamDirection} {next : AnyStream}
    (search : streamSearch fuel stream c direction = .done true next) :
    streamSeekToChar fuel stream c direction = .done true next := by
  rw [streamSeekToChar, search]

theorem streamSeekToChar_missed {fuel : Nat} {direction : StreamDirection} {missed : AnyStream}
    {before' after' : List UInt8} (holds : Holds stream ⟨before, after⟩)
    (small : (before ++ after).length < 2 ^ 31)
    (search : streamSearch fuel stream c direction = .done false missed)
    (there : Holds missed ⟨before', after'⟩) (text : before' ++ after' = before ++ after) :
    ∃ next, streamSeekToChar fuel stream c direction = .done false next ∧ EndsAt next (before ++ after) before.length := by
  obtain ⟨next, seek, back⟩ := there.rollback text small
  refine ⟨next, ?_, back.endsAt⟩
  rw [streamSeekToChar, search, holds.tell]
  dsimp only
  rw [seek]

/-- **A search finds the nearest character** strictly beyond the cursor in its direction, or
leaves the cursor if there is none; it ends, and no check fails. -/
theorem stream_seeks_to_char (c : UInt8) (direction : StreamDirection) {fuel : Nat}
    (holds : Holds stream ⟨before, after⟩) (small : (before ++ after).length < 2 ^ 31) (enough : (before ++ after).length < fuel) :
    (∃ next place, streamSeekToChar fuel stream c direction = .done true next ∧
        EndsAt next (before ++ after) place ∧ Nearest (before ++ after) c direction before.length place) ∨
      ∃ next, streamSeekToChar fuel stream c direction = .done false next ∧
        EndsAt next (before ++ after) before.length ∧
        ∀ place, (before ++ after)[place]? = some c → ¬ direction.Beyond before.length place := by
  rw [List.length_append] at enough
  cases direction with
  | forward =>
    cases after with
    | nil =>
      obtain ⟨missed, place, step, there⟩ := holds.seek_past_end small
        (show (([] : List UInt8).length : Int) < 1 by decide) (by decide)
      have search : streamSearch fuel stream c .forward = .done false missed := by
        rw [streamSearch, streamSeekToCharForward, step]
        rfl
      obtain ⟨next, done, back⟩ := streamSeekToChar_missed holds small search there (List.take_append_drop _ _)
      refine Or.inr ⟨next, done, back, fun place here ahead => ?_⟩
      obtain ⟨inside, -⟩ := List.getElem?_eq_some_iff.mp here
      rw [List.append_nil] at inside
      exact Nat.lt_asymm inside ahead
    | cons first after =>
      have reaches : Reaches 1 stream := by
        cases stream with
        | buffered stream => exact fun _ => by omega
        | file | string => trivial
      have next_place : before ++ first :: after = before ++ [first] ++ after := by
        rw [List.append_assoc, List.singleton_append]
      obtain ⟨middle, step, there⟩ := holds.seekBy small reaches
        (by decide) (by decide) next_place (by rw [List.length_append, List.length_singleton]; omega)
      have search : streamSearch fuel stream c .forward = seekForwardLoop c fuel middle := by
        rw [streamSearch, streamSeekToCharForward, step]
        rfl
      rw [next_place] at small
      rw [List.length_cons] at enough
      have left : after.length < fuel := by omega
      rcases seekForwardLoop_finds (c := c) there small left with
        ⟨next, passed, rest, loop, rfl, absent, found⟩ | ⟨missed, loop, absent, last⟩
      · refine Or.inl ⟨next, (before ++ first :: passed).length, ?_, ?_, nearest_forward absent⟩
        · exact streamSeekToChar_found (search.trans loop)
        · have ends := found.endsAt
          rwa [List.append_assoc before, List.append_assoc before] at ends
      · rw [← next_place] at small last
        obtain ⟨next, done, back⟩ := streamSeekToChar_missed holds small
          (search.trans loop) last (List.append_nil _)
        refine Or.inr ⟨next, done, back, fun place here ahead => ?_⟩
        have ahead : before.length < place := ahead
        obtain ⟨index, rfl⟩ : ∃ index, place = before.length + (index + 1) := ⟨place - before.length - 1, by omega⟩
        rw [List.getElem?_append_right (Nat.le_add_right _ _), Nat.add_sub_cancel_left] at here
        exact absent (List.mem_of_getElem? here)
  | backward =>
    by_cases start : before.length = 0
    · have search : streamSearch fuel stream c .backward = .done false stream := by
        rw [streamSearch, streamSeekToCharBackward, holds.tell]
        exact if_pos start
      obtain ⟨next, done, back⟩ := streamSeekToChar_missed holds small search holds rfl
      refine Or.inr ⟨next, done, back, fun place _ behind => ?_⟩
      have behind : place < before.length := behind
      omega
    · have search : streamSearch fuel stream c .backward = seekBackwardLoop c fuel stream before.length := by
        rw [streamSearch, streamSeekToCharBackward, holds.tell]
        exact if_neg start
      have left : before.length < fuel := by omega
      rcases seekBackwardLoop_finds (c := c) holds small rfl left with
        ⟨next, rest, passed, loop, rfl, absent, found⟩ | ⟨missed, before', after', loop, absent, there, text⟩
      · refine Or.inl ⟨next, rest.length, streamSeekToChar_found (search.trans loop), ?_, nearest_backward absent⟩
        have ends := found.endsAt
        rwa [← List.append_assoc] at ends
      · obtain ⟨next, done, back⟩ := streamSeekToChar_missed holds small (search.trans loop) there text
        refine Or.inr ⟨next, done, back, fun place here behind => ?_⟩
        rw [List.getElem?_append_left behind] at here
        exact absent (List.mem_of_getElem? here)

/-- The letter 'l' before the cursor in "hello". -/
theorem search_finds_the_last_l :
    (∃ next place, streamSeekToChar 6 (.file (cut [104, 101, 108, 108] [111])) 108 .backward = .done true next ∧
        EndsAt next ([104, 101, 108, 108] ++ [111]) place ∧
        Nearest ([104, 101, 108, 108] ++ [111]) 108 .backward 4 place) ∨
      ∃ next, streamSeekToChar 6 (.file (cut [104, 101, 108, 108] [111])) 108 .backward = .done false next ∧
        EndsAt next ([104, 101, 108, 108] ++ [111]) 4 ∧
        ∀ place, ([104, 101, 108, 108] ++ [111])[place]? = some (108 : UInt8) → ¬ StreamDirection.backward.Beyond 4 place :=
  stream_seeks_to_char 108 .backward
    (show Holds (.file (cut [104, 101, 108, 108] [111])) ⟨[104, 101, 108, 108], [111]⟩ from rfl)
    (by decide) (show 5 < 6 by decide)

end Search

theorem seekBackwardLoop_stops {stream : AnyStream} {c : UInt8} {fuel anchor : Nat} (full : streamBufferSize ≤ anchor)
    (refused : (streamSeek stream (int32 (anchor - 32 : Nat)) .fromStart).1 = false) :
    seekBackwardLoop c (fuel + 1) stream anchor = .stopped := by
  have block : (if anchor < streamBufferSize then anchor else streamBufferSize) = 32 := if_neg (Nat.not_lt.mpr full)
  rw [seekBackwardLoop, block]
  dsimp only
  rw [refused]
  exact if_pos rfl

/-- With the cursor beyond 2 GiB and a block, the first seek of a backward search is to a
negative offset. -/
theorem search_stops_beyond {bytes : List UInt8} (beyond : 2 ^ 31 + 32 ≤ bytes.length) (under : bytes.length < 2 ^ 32)
    (fuel : Nat) : streamSeekToChar (fuel + 1) (.file (cut bytes [])) 0 .backward = .stopped := by
  have tell : streamTell (.file (cut bytes [])) = bytes.length := rfl
  have full : streamBufferSize ≤ bytes.length := by
    rw [streamBufferSize]
    omega
  obtain ⟨offset, named⟩ : ∃ offset, int32 (bytes.length - 32 : Nat) = offset := ⟨_, rfl⟩
  have negative : ¬ 0 ≤ offset := by
    rw [← named]
    unfold int32
    rw [Int.bmod_def]
    split <;> omega
  have refused : (streamSeek (.file (cut bytes [])) offset .fromStart).1 = false := by
    rw [streamSeek, fileStreamSeek, seekPosition, if_neg negative]
  rw [← named] at refused
  rw [streamSeekToChar, streamSearch, streamSeekToCharBackward, tell, if_neg (by omega),
    seekBackwardLoop_stops full refused]

/-- Beyond 2 GiB a check fails. -/
theorem searches_not_all_end :
    ¬ ∀ (stream : AnyStream) (before after : List UInt8) (c : UInt8) (direction : StreamDirection) (fuel : Nat),
      Holds stream ⟨before, after⟩ → (before ++ after).length < fuel →
        ∃ found next, streamSeekToChar fuel stream c direction = .done found next := by
  intro ends
  obtain ⟨bytes, length⟩ : ∃ bytes : List UInt8, bytes.length = 2 ^ 31 + 32 := ⟨_, List.length_replicate (a := 0)⟩
  obtain ⟨found, next, done⟩ := ends (.file (cut bytes [])) bytes [] 0 .backward (bytes.length + 1) rfl
    (by rw [List.append_nil]; exact Nat.lt_succ_self _)
  rw [search_stops_beyond (by omega) (by omega)] at done
  cases done

end Xtreme.Stream
