import Xtreme.Toolbox.Compress

/-! What the loops of compression come to, for any coder that does what is known of it:
what is written where, and when the encoder is left without room. -/
namespace Xtreme.Toolbox
open Xtreme.Library

namespace CallBuffer
variable (buffer : CallBuffer) (place : Nat)

@[simp] theorem touch_zero : buffer.touch place 0 = buffer := if_pos rfl

@[simp] theorem store_nil : buffer.store place [] = buffer := by
  rw [store, ByteMemory.store_nil, List.length_nil, touch_zero]

@[simp] theorem touch_memory (size : Nat) : (buffer.touch place size).memory = buffer.memory := by
  rw [touch]
  split <;> rfl

@[simp] theorem store_memory (chunk : List (BitVec 8)) :
    (buffer.store place chunk).memory = buffer.memory.store place chunk := rfl

theorem touch_touched {size : Nat} (some : 0 < size) :
    (buffer.touch place size).touched = max buffer.touched (place + size) := by
  rw [touch, if_neg (Nat.ne_of_gt some)]

theorem store_touched {chunk : List (BitVec 8)} (some : 0 < chunk.length) :
    (buffer.store place chunk).touched = max buffer.touched (place + chunk.length) := buffer.touch_touched place some

/-- Accesses next to each other. -/
theorem touch_touch (first second : Nat) :
    (buffer.touch place first).touch (place + first) second = buffer.touch place (first + second) := by
  rcases Nat.eq_zero_or_pos first with rfl | some
  · rw [touch_zero, Nat.add_zero, Nat.zero_add]
  · rcases Nat.eq_zero_or_pos second with rfl | more
    · rw [touch_zero, Nat.add_zero]
    · rw [touch, touch, touch, if_neg (Nat.ne_of_gt more), if_neg (Nat.ne_of_gt some), if_neg (by omega),
        CallBuffer.mk.injEq]
      exact ⟨rfl, by dsimp only; omega⟩

theorem store_store (first second : List (BitVec 8)) :
    (buffer.store place first).store (place + first.length) second = buffer.store place (first ++ second) := by
  have touched : ((buffer.store place first).touch (place + first.length) second.length).touched =
      (buffer.touch place (first ++ second).length).touched := by
    rw [List.length_append, ← touch_touch]
    rw [touch, touch]
    split <;> rfl
  rw [CallBuffer.mk.injEq]
  exact ⟨ByteMemory.store_append _ _ _ _, touched⟩

end CallBuffer

/-- From `start` to `last` so many bytes of the input were read, and `written` was added to
the output. -/
structure Moved {σ : Type} (start last : CompressRun σ) (place count : Nat) (written : List (BitVec 8)) : Prop where
  dataIn : last.dataIn = start.dataIn.touch place count
  dataOut : last.dataOut = start.dataOut.store start.resBuffSize written
  size : last.resBuffSize = start.resBuffSize + written.length

section
variable {σ : Type} {start middle last run : CompressRun σ} {place count : Nat} {written : List (BitVec 8)}

theorem Moved.refl (start : CompressRun σ) (place : Nat) : Moved start start place 0 [] :=
  ⟨(CallBuffer.touch_zero _ _).symm, (CallBuffer.store_nil _ _).symm, rfl⟩

theorem Moved.trans {count' : Nat} {written' : List (BitVec 8)} (first : Moved start middle place count written)
    (second : Moved middle last (place + count) count' written') :
    Moved start last place (count + count') (written ++ written') := by
  constructor
  · rw [second.dataIn, first.dataIn, CallBuffer.touch_touch]
  · rw [second.dataOut, first.dataOut, first.size, CallBuffer.store_store]
  · rw [second.size, first.size, List.length_append, Nat.add_assoc]

theorem Moved.wrote (run : CompressRun σ) (place : Nat) (written : List (BitVec 8)) (next : σ) :
    Moved run (run.wrote written next) place 0 written :=
  ⟨(CallBuffer.touch_zero _ _).symm, rfl, rfl⟩

end

section
variable {σ : Type} {coder : Coder σ (BitVec 8)} {ready total : List (BitVec 8) → List (BitVec 8)}
  {stands : σ → Progress (BitVec 8) → Prop} {offer : Nat → Nat} {run : CompressRun σ} {progress : Progress (BitVec 8)}
  {rest : List (BitVec 8)}

theorem pollLoop_drains (streams : Streams coder ready total stands) (stood : stands run.coder progress)
    (parts : progress.given ++ rest = progress.source ready total) (place : Nat)
    (roomy : ∀ size, run.resBuffSize ≤ size → size ≤ run.resBuffSize + rest.length → 0 < offer size) :
    ∃ last, Settles (fun fuel => pollLoop coder offer fuel run) last ∧ last.failed = run.failed ∧
      Moved run last place 0 rest ∧
      stands last.coder { progress with given := progress.given ++ rest, drained := true } := by
  induction long : rest.length using Nat.strong_induction_on generalizing run progress rest with
  | _ length onward =>
    subst long
    have room := roomy run.resBuffSize (Nat.le_refl _) (Nat.le_add_right _ _)
    rcases streams.poll stood room parts with ⟨-, next, polled, there⟩ | ⟨fits, next, polled, there⟩
    · refine ⟨run.wrote rest next, ?_, rfl, .wrote run place rest next, there⟩
      refine Settles.last_round fun fuel => ?_
      rw [pollLoop, polled]
    · have split : rest.take (offer run.resBuffSize) ++ rest.drop (offer run.resBuffSize) = rest := List.take_append_drop _ _
      have taken : (rest.take (offer run.resBuffSize)).length = offer run.resBuffSize := List.length_take_of_le fits
      have shorter : (rest.drop (offer run.resBuffSize)).length < rest.length := by
        rw [List.length_drop]
        omega
      have still (size : Nat) (low : run.resBuffSize + (rest.take (offer run.resBuffSize)).length ≤ size)
          (high : size ≤ run.resBuffSize + (rest.take (offer run.resBuffSize)).length +
            (rest.drop (offer run.resBuffSize)).length) : 0 < offer size := by
        rw [List.length_drop] at high
        exact roomy size (Nat.le_trans (Nat.le_add_right _ _) low) (by omega)
      obtain ⟨last, ends, failed, moved, after⟩ := @onward _ shorter (run.wrote (rest.take (offer run.resBuffSize)) next)
        _ (rest.drop (offer run.resBuffSize)) there (by rw [List.append_assoc, split]; exact parts) still rfl
      have whole := (Moved.wrote run place (rest.take (offer run.resBuffSize)) next).trans moved
      rw [split] at whole
      rw [List.append_assoc, split] at after
      refine ⟨last, Settles.round (fun fuel => ?_) ends, failed, whole, after⟩
      rw [pollLoop, polled]

theorem pollLoop_fills (streams : Streams coder ready total stands) (stood : stands run.coder progress)
    (parts : progress.given ++ rest = progress.source ready total) (place : Nat) {size : Nat}
    (offered : ∀ used, used ≤ size → offer used = size - used) (inside : run.resBuffSize ≤ size)
    (full : size ≤ run.resBuffSize + rest.length) :
    ∃ last, Settles (fun fuel => pollLoop coder offer fuel run) last ∧
      (last.failed = true ∧ (∃ given drained, stands last.coder { progress with given, drained }) ∨
        run.resBuffSize < size ∧ size = run.resBuffSize + rest.length ∧ last.failed = run.failed ∧
          Moved run last place 0 rest ∧
          stands last.coder { progress with given := progress.given ++ rest, drained := true }) := by
  have fails {run : CompressRun σ} {progress : Progress (BitVec 8)} (stood : stands run.coder progress)
      (none : offer run.resBuffSize = 0) (fuel : Nat) :
      pollLoop coder offer (fuel + 1) run = some { run with failed := true } := by
    rw [pollLoop, none, streams.misuse stood]
  rcases Nat.eq_zero_or_pos (offer run.resBuffSize) with none | room
  · exact ⟨{ run with failed := true }, .last_round (fails stood none), .inl ⟨rfl, progress.given, progress.drained, stood⟩⟩
  · rw [offered _ inside] at room
    have roomy : 0 < offer run.resBuffSize := by rwa [offered _ inside]
    rcases streams.poll stood roomy parts with ⟨fits, next, polled, there⟩ | ⟨fits, next, polled, there⟩
    · rw [offered _ inside] at fits
      refine ⟨run.wrote rest next, .last_round fun fuel => ?_,
        .inr ⟨by omega, by omega, rfl, .wrote run place rest next, there⟩⟩
      rw [pollLoop, polled]
    · rw [offered _ inside] at fits polled there
      have taken : (rest.take (size - run.resBuffSize)).length = size - run.resBuffSize := List.length_take_of_le fits
      have none : offer (run.wrote (rest.take (size - run.resBuffSize)) next).resBuffSize = 0 := by
        rw [CompressRun.wrote]
        dsimp only
        rw [offered _ (by omega)]
        omega
      have ends : Settles (fun fuel => pollLoop coder offer fuel (run.wrote (rest.take (size - run.resBuffSize)) next))
          { run.wrote (rest.take (size - run.resBuffSize)) next with failed := true } :=
        .last_round (@fails (run.wrote _ next) _ there none)
      refine ⟨_, Settles.round (fun fuel => ?_) ends, .inl ⟨rfl, _, _, there⟩⟩
      rw [pollLoop, offered _ inside, polled]

/-! ## Sinking -/

variable {accepts : SinkRes → Bool} {taken given written data : List (BitVec 8)} {sunk size : Nat}

theorem sinkLoop_round (streams : Streams coder ready total stands) (streamable : Streamable ready total)
    (accepted : accepts .ok = true) (stood : stands run.coder ⟨taken, given, false, true⟩) (clean : run.failed = false)
    (inside : sunk < size) (parts : given ++ written = ready (taken ++ run.dataIn.memory.bytes sunk (size - sunk))) :
    ∃ count next rest left, 0 < count ∧ sunk + count ≤ size ∧ rest ++ left = written ∧
      stands next ⟨taken ++ run.dataIn.memory.bytes sunk count, given, false, false⟩ ∧
      given ++ rest = ready (taken ++ run.dataIn.memory.bytes sunk count) ∧
      given ++ rest ++ left = ready (taken ++ run.dataIn.memory.bytes sunk count ++
        run.dataIn.memory.bytes (sunk + count) (size - (sunk + count))) ∧
      ∀ fuel, sinkLoop coder accepts offer size (fuel + 1) sunk run =
        (pollLoop coder offer fuel { run with coder := next, dataIn := run.dataIn.touch sunk count }).bind
          (sinkLoop coder accepts offer size fuel (sunk + count)) := by
  have filled : run.dataIn.memory.bytes sunk (size - sunk) ≠ [] := by
    intro none
    have length := congrArg List.length none
    rw [ByteMemory.bytes_length, List.length_nil] at length
    omega
  obtain ⟨count, next, sink, some, few, there⟩ := streams.sink stood filled
  rw [ByteMemory.bytes_length] at few
  have split : size - sunk = count + (size - (sunk + count)) := by omega
  have bytes : run.dataIn.memory.bytes sunk (size - sunk) = run.dataIn.memory.bytes sunk count ++
      run.dataIn.memory.bytes (sunk + count) (size - (sunk + count)) := by
    rw [split, ByteMemory.bytes_append]
  have chunk : (run.dataIn.memory.bytes sunk (size - sunk)).take count = run.dataIn.memory.bytes sunk count := by
    rw [bytes]
    exact List.take_left' (ByteMemory.bytes_length _ _ _)
  rw [chunk] at there
  obtain ⟨rest, now⟩ := streams.within there
  have later : given ++ rest <+: given ++ written := by
    rw [now, parts, bytes, ← List.append_assoc]
    exact streamable.grows _ _
  obtain ⟨left, rfl⟩ := (List.prefix_append_right_inj given).mp later
  refine ⟨count, next, rest, left, some, by omega, rfl, there, now, ?_, fun fuel => ?_⟩
  · rw [List.append_assoc, parts, bytes, List.append_assoc]
  · rw [sinkLoop, if_pos ⟨inside, clean⟩, sink]
    dsimp only
    rw [if_pos accepted]

theorem sinkLoop_drains (streams : Streams coder ready total stands) (streamable : Streamable ready total)
    (accepted : accepts .ok = true) (stood : stands run.coder ⟨taken, given, false, true⟩) (clean : run.failed = false)
    (parts : given ++ written = ready (taken ++ run.dataIn.memory.bytes sunk (size - sunk))) (drained : given = ready taken)
    (roomy : ∀ used, run.resBuffSize ≤ used → used ≤ run.resBuffSize + written.length → 0 < offer used) :
    ∃ last, Settles (fun fuel => sinkLoop coder accepts offer size fuel sunk run) last ∧ last.failed = false ∧
      Moved run last sunk (size - sunk) written ∧
      stands last.coder ⟨taken ++ run.dataIn.memory.bytes sunk (size - sunk), given ++ written, false, true⟩ := by
  induction long : size - sunk using Nat.strong_induction_on generalizing run taken given written sunk with
  | _ length onward =>
    subst long
    by_cases inside : sunk < size
    · obtain ⟨count, next, rest, left, some, few, rfl, there, now, later, turn⟩ :=
        @sinkLoop_round _ _ _ _ _ offer _ _ _ _ _ _ _ streams streamable accepted stood clean inside parts
      rw [List.length_append] at roomy
      obtain ⟨polled, poll, still, moved, after⟩ := @pollLoop_drains _ _ _ _ _ offer
        { run with coder := next, dataIn := run.dataIn.touch sunk count } _ _ streams there now (sunk + count)
        fun used (low : run.resBuffSize ≤ used) (high : used ≤ run.resBuffSize + rest.length) =>
          roomy used low (by omega)
      have memory : polled.dataIn.memory = run.dataIn.memory := by
        rw [moved.dataIn, CallBuffer.touch_memory, CallBuffer.touch_memory]
      have sizes : polled.resBuffSize = run.resBuffSize + rest.length := moved.size
      obtain ⟨last, ends, failed, on, final⟩ := @onward (size - (sunk + count)) (by omega) polled _ _ left (sunk + count)
        after (still.trans clean) (by rw [memory]; exact later) now
        (fun used low high => roomy used (by omega) (by omega)) rfl
      have whole : Moved run last sunk (size - sunk) (rest ++ left) := by
        have first : Moved run polled sunk count rest :=
          ⟨by rw [moved.dataIn, CallBuffer.touch_zero], moved.dataOut, moved.size⟩
        have sum : size - sunk = count + (size - (sunk + count)) := by omega
        rw [sum]
        exact first.trans on
      have split : size - sunk = count + (size - (sunk + count)) := by omega
      rw [memory, List.append_assoc, ← ByteMemory.bytes_append, ← split, List.append_assoc] at final
      exact ⟨last, .round turn (poll.bind ends), failed, whole, final⟩
    · have none : size - sunk = 0 := by omega
      rw [none] at parts ⊢
      have nothing : run.dataIn.memory.bytes sunk 0 = [] := rfl
      rw [nothing, List.append_nil, ← drained, List.append_right_eq_self] at parts
      refine ⟨run, .last_round fun fuel => ?_, clean, ?_, ?_⟩
      · rw [sinkLoop, if_neg (not_and_of_not_left _ inside)]
      · rw [parts]
        exact .refl run sunk
      · rwa [nothing, parts, List.append_nil, List.append_nil]

theorem sinkLoop_fills (streams : Streams coder ready total stands) (streamable : Streamable ready total)
    (accepted : accepts .ok = true) (stood : stands run.coder ⟨taken, given, false, true⟩) (clean : run.failed = false)
    (parts : given ++ written = ready (taken ++ run.dataIn.memory.bytes sunk (size - sunk))) (drained : given = ready taken)
    {limit : Nat} (offered : ∀ used, used ≤ limit → offer used = limit - used) (inside : run.resBuffSize ≤ limit)
    (full : limit ≤ run.resBuffSize + written.length) :
    ∃ last, Settles (fun fuel => sinkLoop coder accepts offer size fuel sunk run) last ∧
      (last.failed = true ∧ (∃ progress, stands last.coder progress) ∨
        (sunk < size → run.resBuffSize < limit) ∧ limit = run.resBuffSize + written.length ∧ last.failed = false ∧
          Moved run last sunk (size - sunk) written ∧
          stands last.coder ⟨taken ++ run.dataIn.memory.bytes sunk (size - sunk), given ++ written, false, true⟩) := by
  induction long : size - sunk using Nat.strong_induction_on generalizing run taken given written sunk with
  | _ length onward =>
    subst long
    by_cases more : sunk < size
    · obtain ⟨count, next, rest, left, some, few, rfl, there, now, later, turn⟩ :=
        @sinkLoop_round _ _ _ _ _ offer _ _ _ _ _ _ _ streams streamable accepted stood clean more parts
      rw [List.length_append] at full ⊢
      have goOn {polled : CompressRun σ} (poll : Settles (fun fuel => pollLoop coder offer fuel
            { run with coder := next, dataIn := run.dataIn.touch sunk count }) polled) (still : polled.failed = run.failed)
          (moved : Moved { run with coder := next, dataIn := run.dataIn.touch sunk count } polled (sunk + count) 0 rest)
          (after : stands polled.coder ⟨taken ++ run.dataIn.memory.bytes sunk count, given ++ rest, false, true⟩)
          (fits : run.resBuffSize + rest.length ≤ limit) (some : run.resBuffSize < limit) :
          ∃ last, Settles (fun fuel => sinkLoop coder accepts offer size fuel sunk run) last ∧
            (last.failed = true ∧ (∃ progress, stands last.coder progress) ∨
              (sunk < size → run.resBuffSize < limit) ∧ limit = run.resBuffSize + (rest.length + left.length) ∧
                last.failed = false ∧ Moved run last sunk (size - sunk) (rest ++ left) ∧
                stands last.coder ⟨taken ++ run.dataIn.memory.bytes sunk (size - sunk), given ++ (rest ++ left), false,
                  true⟩) := by
        have memory : polled.dataIn.memory = run.dataIn.memory := by
          rw [moved.dataIn, CallBuffer.touch_memory, CallBuffer.touch_memory]
        have sizes : polled.resBuffSize = run.resBuffSize + rest.length := moved.size
        have split : size - sunk = count + (size - (sunk + count)) := by omega
        obtain ⟨last, ends, outcome⟩ := @onward (size - (sunk + count)) (by omega) polled _ _ left (sunk + count)
          after (still.trans clean) (by rw [memory]; exact later) now (by omega) (by omega) rfl
        refine ⟨last, .round turn (poll.bind ends), outcome.imp_right ?_⟩
        rintro ⟨-, just, failed, on, final⟩
        have first : Moved run polled sunk count rest :=
          ⟨by rw [moved.dataIn, CallBuffer.touch_zero], moved.dataOut, moved.size⟩
        rw [memory, List.append_assoc, ← ByteMemory.bytes_append, ← split, List.append_assoc] at final
        refine ⟨fun _ => some, by omega, failed, ?_, final⟩
        rw [split]
        exact first.trans on
      rcases Nat.lt_or_ge (run.resBuffSize + rest.length) limit with room | crowded
      · obtain ⟨polled, poll, still, moved, after⟩ := @pollLoop_drains _ _ _ _ _ offer
          { run with coder := next, dataIn := run.dataIn.touch sunk count } _ _ streams there now (sunk + count)
          fun used (low : run.resBuffSize ≤ used) (high : used ≤ run.resBuffSize + rest.length) => by
            rw [offered used (by omega)]
            omega
        exact goOn poll still moved after (Nat.le_of_lt room) (by omega)
      · obtain ⟨polled, poll, outcome⟩ := @pollLoop_fills _ _ _ _ _ offer
          { run with coder := next, dataIn := run.dataIn.touch sunk count } _ _ streams there now (sunk + count) _
          offered inside crowded
        rcases outcome with ⟨failed, given', drained', stood'⟩ | ⟨less, just, still, moved, after⟩
        · refine ⟨polled, .round turn (poll.bind (.last_round fun fuel => ?_)), .inl ⟨failed, _, stood'⟩⟩
          rw [sinkLoop, if_neg (not_and_of_not_right _ (by rw [failed]; decide))]
        · exact goOn poll still moved after (Nat.le_of_eq just.symm) less
    · have none : size - sunk = 0 := by omega
      rw [none] at parts ⊢
      have nothing : run.dataIn.memory.bytes sunk 0 = [] := rfl
      rw [nothing, List.append_nil, ← drained, List.append_right_eq_self] at parts
      rw [parts, List.length_nil] at full
      refine ⟨run, .last_round fun fuel => ?_, .inr ⟨fun few => absurd few more, ?_, clean, ?_, ?_⟩⟩
      · rw [sinkLoop, if_neg (not_and_of_not_left _ more)]
      · rw [parts, List.length_nil]
        omega
      · rw [parts]
        exact .refl run sunk
      · rwa [nothing, parts, List.append_nil, List.append_nil]

end

section
variable {ε : Type} {encoder : Coder ε (BitVec 8)} {ready total : List (BitVec 8) → List (BitVec 8)}
  {stands : ε → Progress (BitVec 8) → Prop} {run : CompressRun ε} {taken given rest : List (BitVec 8)}
  {drained : Bool} {dataOutSize : Nat}

theorem encodeFinishLoop_fails (streams : Streams encoder ready total stands) {progress : Progress (BitVec 8)}
    (stood : stands run.coder progress) (none : size32 ((dataOutSize : Int) - 4 - run.resBuffSize) = 0) :
    Settles (fun fuel => encodeFinishLoop encoder dataOutSize fuel run) { run with failed := true } := by
  refine .last_round fun fuel => ?_
  rw [encodeFinishLoop, none, streams.misuse stood]

theorem encodeFinishLoop_drains (streams : Streams encoder ready total stands) (strict : Strict encoder total stands)
    (stood : stands run.coder ⟨taken, given, true, drained⟩) (parts : given ++ rest = total taken) (place : Nat)
    (room : 0 < size32 ((dataOutSize : Int) - 4 - run.resBuffSize))
    (fits : rest.length ≤ size32 ((dataOutSize : Int) - 4 - run.resBuffSize)) :
    ∃ last, Settles (fun fuel => encodeFinishLoop encoder dataOutSize fuel run) last ∧ last.failed = run.failed ∧
      Moved run last place 0 rest := by
  rcases streams.poll stood room parts with ⟨-, next, polled, there⟩ | ⟨long, next, polled, there⟩
  · obtain ⟨answer, drained', final, finish, -, -, done, -⟩ := streams.finish there
    obtain ⟨rfl, -⟩ := done rfl parts
    refine ⟨run.wrote rest final, .last_round fun fuel => ?_, rfl, .wrote run place rest final⟩
    rw [encodeFinishLoop, polled]
    dsimp only
    rw [finish]
  · have all := strict stood polled
    rw [List.take_of_length_le fits] at all
    exact absurd parts all

theorem encodeFinishLoop_more {written : List (BitVec 8)} {next final : ε} {answer : FinishRes}
    (polled : encoder.poll run.coder (size32 ((dataOutSize : Int) - 4 - run.resBuffSize)) = (.more, written, next))
    (finish : encoder.finish next = (answer, final)) (fuel : Nat) :
    encodeFinishLoop encoder dataOutSize (fuel + 1) run = if answer = .done then some (run.wrote written final)
      else encodeFinishLoop encoder dataOutSize fuel (run.wrote written final) := by
  rw [encodeFinishLoop, polled]
  dsimp only
  rw [finish]
  cases answer <;> rfl

theorem encodeFinishLoop_crowds (streams : Streams encoder ready total stands)
    (stood : stands run.coder ⟨taken, given, true, drained⟩) (parts : given ++ rest = total taken)
    (room : 4 + run.resBuffSize < dataOutSize) (large : dataOutSize < 2 ^ 32)
    (crowded : dataOutSize < 4 + run.resBuffSize + rest.length) :
    ∃ last, Settles (fun fuel => encodeFinishLoop encoder dataOutSize fuel run) last ∧ last.failed = true := by
  have offered : size32 ((dataOutSize : Int) - 4 - run.resBuffSize) = dataOutSize - 4 - run.resBuffSize := by
    rw [size32]
    omega
  have roomy : 0 < size32 ((dataOutSize : Int) - 4 - run.resBuffSize) := by omega
  rcases streams.poll stood roomy parts with ⟨fits, -⟩ | ⟨long, next, polled, there⟩
  · omega
  · rw [offered] at polled there long
    have taken' : (rest.take (dataOutSize - 4 - run.resBuffSize)).length = dataOutSize - 4 - run.resBuffSize :=
      List.length_take_of_le long
    obtain ⟨answer, drained', final, finish, -, all, -, stood'⟩ := streams.finish there
    have unfinished : answer ≠ .done := by
      intro done
      have whole := congrArg List.length ((all done).trans parts.symm)
      dsimp only at whole
      rw [List.length_append, List.length_append] at whole
      omega
    have none : size32 ((dataOutSize : Int) - 4 -
        (run.wrote (rest.take (dataOutSize - 4 - run.resBuffSize)) final).resBuffSize) = 0 := by
      rw [CompressRun.wrote]
      dsimp only
      rw [size32]
      omega
    have ends := @encodeFinishLoop_fails _ _ _ _ _
      (run.wrote (rest.take (dataOutSize - 4 - run.resBuffSize)) final) _ streams _ stood' none
    refine ⟨_, .round (fun fuel => ?_) ends, rfl⟩
    rw [encodeFinishLoop_more (by rw [offered]; exact polled) finish, if_neg unfinished]

theorem encodeFinishLoop_settles (streams : Streams encoder ready total stands)
    (stood : stands run.coder ⟨taken, given, true, drained⟩) :
    ∃ last, Settles (fun fuel => encodeFinishLoop encoder dataOutSize fuel run) last ∧
      (run.failed = true → last.failed = true) := by
  obtain ⟨rest, whole⟩ := streams.within stood
  have parts : given ++ rest = total taken := whole
  clear whole
  induction long : rest.length using Nat.strong_induction_on generalizing run given drained rest with
  | _ length onward =>
    rcases Nat.eq_zero_or_pos (size32 ((dataOutSize : Int) - 4 - run.resBuffSize)) with none | room
    · exact ⟨_, encodeFinishLoop_fails streams stood none, fun _ => rfl⟩
    · rcases streams.poll stood room parts with ⟨-, next, polled, there⟩ | ⟨fits, next, polled, there⟩
      · obtain ⟨answer, drained', final, finish, -, -, done, -⟩ := streams.finish there
        obtain ⟨rfl, -⟩ := done rfl parts
        refine ⟨run.wrote rest final, .last_round fun fuel => ?_, fun failed => failed⟩
        rw [encodeFinishLoop, polled]
        dsimp only
        rw [finish]
      · obtain ⟨answer, drained', final, finish, -, -, -, stood'⟩ := streams.finish there
        have turn := encodeFinishLoop_more polled finish
        generalize size32 ((dataOutSize : Int) - 4 - run.resBuffSize) = offered at room fits stood' turn
        by_cases done : answer = .done
        · refine ⟨run.wrote (rest.take offered) final, .last_round fun fuel => ?_, fun failed => failed⟩
          rw [turn, if_pos done]
        · have split : rest.take offered ++ rest.drop offered = rest := List.take_append_drop _ _
          obtain ⟨last, ends, kept⟩ := @onward (rest.drop offered).length (by rw [List.length_drop]; omega)
            (run.wrote (rest.take offered) final) _ _ stood' (rest.drop offered)
            (by rw [List.append_assoc, split]; exact parts) rfl
          refine ⟨last, .round (fun fuel => ?_) ends, kept⟩
          rw [turn, if_neg done]

/-- With an output buffer of this size the encoder, which gives `ready` bytes before its end
and `total` in all, is at some point left without room. -/
def Crowded (ready total size : Nat) : Prop :=
  4 ≤ size ∧ size < 4 + ready ∨ size = 4 ∨ size = 8 + ready ∨ 8 + ready < size ∧ size < 8 + total

instance (ready total size : Nat) : Decidable (Crowded ready total size) := inferInstanceAs (Decidable (_ ∨ _))

variable {dataInSize : Nat} {data : List (BitVec 8)}

theorem encodeEnd_turn (streams : Streams encoder ready total stands) {progress : Progress (BitVec 8)}
    (stood : stands run.coder progress) :
    ∃ drained next, stands next { progress with finishing := true, drained } ∧
      ∀ fuel, encodeEnd encoder dataOutSize fuel run = encodeFinishLoop encoder dataOutSize fuel { run with coder := next } := by
  obtain ⟨answer, drained, next, finish, fine, -, -, there⟩ := streams.finish stood
  refine ⟨drained, next, there, fun fuel => ?_⟩
  rw [encodeEnd, finish]
  cases answer with
  | done => rfl
  | more => rfl
  | error => exact absurd rfl fine

theorem encodeEnd_run (streams : Streams encoder ready total stands) (strict : Strict encoder total stands)
    (streamable : Streamable ready total) (stood : stands run.coder ⟨data, ready data, false, true⟩)
    (clean : run.failed = false) (size : run.resBuffSize = 4 + (ready data).length)
    (short : dataOutSize + (total data).length + 8 < 2 ^ 32)
    (enough : dataOutSize < 4 ∨ 4 < dataOutSize ∧ 4 + (ready data).length ≤ dataOutSize) (place : Nat) :
    ∃ last, Settles (fun fuel => encodeEnd encoder dataOutSize fuel run) last ∧
      (last.failed = true ∧ Crowded (ready data).length (total data).length dataOutSize ∨
        last.failed = false ∧ ¬Crowded (ready data).length (total data).length dataOutSize ∧
          ∃ rest, ready data ++ rest = total data ∧ Moved run last place 0 rest) := by
  obtain ⟨drained, next, there, turn⟩ := @encodeEnd_turn _ _ _ _ _ _ dataOutSize streams _ stood
  obtain ⟨rest, parts⟩ := streamable.behind data
  have lengths := congrArg List.length parts
  rw [List.length_append] at lengths
  rcases Nat.lt_trichotomy dataOutSize (8 + (ready data).length) with below | rfl | above
  · have offered : size32 ((dataOutSize : Int) - 4 - run.resBuffSize) =
        2 ^ 32 + dataOutSize - 8 - (ready data).length := by
      rw [size32]
      omega
    obtain ⟨last, ends, failed, moved⟩ := @encodeFinishLoop_drains _ _ _ _ _ { run with coder := next } _ _ rest _
      dataOutSize streams strict there parts place (by dsimp only; omega) (by dsimp only; omega)
    refine ⟨last, ends.congr turn, .inr ⟨failed.trans clean, ?_, rest, parts, moved.dataIn, moved.dataOut, moved.size⟩⟩
    unfold Crowded
    omega
  · have none : size32 (((8 + (ready data).length : Nat) : Int) - 4 - run.resBuffSize) = 0 := by
      rw [size32]
      omega
    have ends := @encodeFinishLoop_fails _ _ _ _ _ { run with coder := next } _ streams _ there none
    exact ⟨_, ends.congr turn, .inl ⟨rfl, .inr (.inr (.inl rfl))⟩⟩
  · have offered : size32 ((dataOutSize : Int) - 4 - run.resBuffSize) = dataOutSize - 8 - (ready data).length := by
      rw [size32]
      omega
    by_cases fits : 8 + (total data).length ≤ dataOutSize
    · obtain ⟨last, ends, failed, moved⟩ := @encodeFinishLoop_drains _ _ _ _ _ { run with coder := next } _ _ rest _
        dataOutSize streams strict there parts place (by dsimp only; omega) (by dsimp only; omega)
      refine ⟨last, ends.congr turn, .inr ⟨failed.trans clean, ?_, rest, parts, moved.dataIn, moved.dataOut, moved.size⟩⟩
      unfold Crowded
      omega
    · obtain ⟨last, ends, failed⟩ := @encodeFinishLoop_crowds _ _ _ _ _ { run with coder := next } _ _ rest _
        dataOutSize streams there parts (by dsimp only; omega) (by omega) (by dsimp only; omega)
      exact ⟨last, ends.congr turn, .inl ⟨failed, .inr (.inr (.inr ⟨above, by omega⟩))⟩⟩

/-- Encoding ends, and it fails only where the encoder is left without room, or where what it
gives before its end just fits. -/
theorem encodeLoops_run (streams : Streams encoder ready total stands) (strict : Strict encoder total stands)
    (streamable : Streamable ready total) (stood : stands run.coder ⟨[], [], false, true⟩) (clean : run.failed = false)
    (size : run.resBuffSize = 4) (filled : 0 < dataInSize) (bytes : run.dataIn.memory.bytes 0 dataInSize = data)
    (short : dataOutSize + (total data).length + 8 < 2 ^ 32) :
    ∃ last, Settles (fun fuel => encodeLoops encoder dataInSize dataOutSize fuel run) last ∧
      (last.failed = true ∧ (Crowded (ready data).length (total data).length dataOutSize ∨
          dataOutSize = 4 + (ready data).length) ∨
        last.failed = false ∧ ¬Crowded (ready data).length (total data).length dataOutSize ∧
          Moved run last 0 dataInSize (total data)) := by
  have behind := (streamable.behind data).length_le
  have parts : [] ++ ready data = ready ([] ++ run.dataIn.memory.bytes 0 (dataInSize - 0)) := by
    rw [List.nil_append, List.nil_append, Nat.sub_zero, bytes]
  have onward {middle : CompressRun ε} (sink : Settles (fun fuel => sinkLoop encoder (· == .ok)
        (fun size => size32 ((dataOutSize : Int) - size)) dataInSize fuel 0 run) middle) (still : middle.failed = false)
      (moved : Moved run middle 0 (dataInSize - 0) (ready data))
      (there : stands middle.coder ⟨[] ++ run.dataIn.memory.bytes 0 (dataInSize - 0), [] ++ ready data, false, true⟩)
      (enough : dataOutSize < 4 ∨ 4 < dataOutSize ∧ 4 + (ready data).length ≤ dataOutSize) :
      ∃ last, Settles (fun fuel => encodeLoops encoder dataInSize dataOutSize fuel run) last ∧
        (last.failed = true ∧ (Crowded (ready data).length (total data).length dataOutSize ∨
            dataOutSize = 4 + (ready data).length) ∨
          last.failed = false ∧ ¬Crowded (ready data).length (total data).length dataOutSize ∧
            Moved run last 0 dataInSize (total data)) := by
    rw [List.nil_append, Nat.sub_zero, bytes] at there
    obtain ⟨last, ends, outcome⟩ := @encodeEnd_run _ _ _ _ _ _ dataOutSize _ streams strict streamable there still
      (by rw [moved.size, size]) short enough (0 + dataInSize)
    refine ⟨last, sink.bind ends, outcome.imp (fun failed => ⟨failed.1, .inl failed.2⟩) ?_⟩
    rintro ⟨failed, room, rest, whole, later⟩
    have both := moved.trans later
    rw [whole] at both
    exact ⟨failed, room, both⟩
  by_cases crowded : 4 ≤ dataOutSize ∧ dataOutSize ≤ 4 + (ready data).length
  · obtain ⟨middle, sink, outcome⟩ := @sinkLoop_fills _ _ _ _ _ (fun size => size32 ((dataOutSize : Int) - size)) _
      (· == .ok) _ _ (ready data) _ dataInSize streams streamable rfl stood clean parts streamable.nil.symm dataOutSize
      (fun used inside => by rw [size32]; omega) (by omega) (by omega)
    rcases outcome with ⟨failed, progress, there⟩ | ⟨some, just, still, moved, there⟩
    · obtain ⟨drained, next, stood', turn⟩ := @encodeEnd_turn _ _ _ _ _ _ dataOutSize streams _ there
      obtain ⟨last, ends, kept⟩ := @encodeFinishLoop_settles _ _ _ _ _ { middle with coder := next } _ _ _ dataOutSize
        streams stood'
      refine ⟨last, sink.bind (ends.congr turn), .inl ⟨kept failed, ?_⟩⟩
      unfold Crowded
      omega
    · exact onward sink still moved there (.inr ⟨by omega, by omega⟩)
  · obtain ⟨middle, sink, still, moved, there⟩ := @sinkLoop_drains _ _ _ _ _
      (fun size => size32 ((dataOutSize : Int) - size)) _ (· == .ok) _ _ (ready data) _ dataInSize streams streamable rfl
      stood clean parts streamable.nil.symm (fun used low high => by rw [size32]; omega)
    exact onward sink still moved there (by omega)

end

section
variable {δ : Type} {decoder : Coder δ (BitVec 8)} {decoded : List (BitVec 8) → List (BitVec 8)}
  {stands : δ → Progress (BitVec 8) → Prop} {run : CompressRun δ} {taken : List (BitVec 8)}
  {dataOutSize compressedSize : Nat}

variable (streams : Streams decoder decoded decoded stands)
include streams

theorem decodeEnd_run (stood : stands run.coder ⟨taken, decoded taken, false, true⟩) (clean : run.failed = false)
    (polled : dataOutSize = 0 → run.pollSize = 0) (place : Nat) :
    ∃ last, Settles (fun fuel => decodeEnd decoder dataOutSize fuel run) last ∧ last.failed = false ∧
      Moved run last place 0 [] := by
  obtain ⟨answer, drained, next, finish, -, -, done, there⟩ := streams.finish stood
  obtain ⟨rfl, rfl⟩ := done rfl rfl
  have turn (fuel : Nat) : decodeEnd decoder dataOutSize fuel run =
      decodeFinishLoop decoder dataOutSize fuel { run with coder := next } := by
    rw [decodeEnd, clean, if_neg Bool.false_ne_true, finish]
  obtain ⟨answer, drained, final, finish', -, -, done, there'⟩ := streams.finish there
  rcases Nat.eq_zero_or_pos dataOutSize with rfl | room
  · obtain ⟨rfl, rfl⟩ := done rfl rfl
    refine ⟨{ run with coder := final, resBuffSize := run.resBuffSize + run.pollSize },
      Settles.congr turn (.last_round fun fuel => ?_), clean, (CallBuffer.touch_zero _ _).symm,
      (CallBuffer.store_nil _ _).symm, congrArg (run.resBuffSize + ·) (polled rfl)⟩
    rw [decodeFinishLoop, streams.misuse there]
    rw [finish']
  · rcases streams.poll there room (List.append_nil _) with ⟨-, last, poll, after⟩ | ⟨none, -⟩
    · obtain ⟨answer, drained, final, finish', -, -, done, -⟩ := streams.finish after
      obtain ⟨rfl, -⟩ := done rfl (List.append_nil _)
      refine ⟨{ (run.wrote [] last) with coder := final }, Settles.congr turn (.last_round fun fuel => ?_), clean,
        (CallBuffer.touch_zero _ _).symm, rfl, rfl⟩
      rw [decodeFinishLoop, poll]
      dsimp only
      rw [CompressRun.wrote]
      rw [finish']
      rfl
    · exact absurd none (Nat.not_le.mpr room)

/-- With an output buffer, all that the header speaks of is read, and all that it decodes to
is written. -/
theorem decodeLoops_run (streamable : Streamable decoded decoded)
    (stood : stands run.coder ⟨[], [], false, true⟩) (clean : run.failed = false) (room : 0 < dataOutSize) :
    ∃ last, Settles (fun fuel => decodeLoops decoder compressedSize dataOutSize fuel run) last ∧ last.failed = false ∧
      Moved run last 4 (compressedSize - 4) (decoded (run.dataIn.memory.bytes 4 (compressedSize - 4))) := by
  obtain ⟨middle, sink, still, moved, there⟩ := @sinkLoop_drains _ _ _ _ _ (fun _ => dataOutSize) _ (· != .error) _ _
    (decoded (run.dataIn.memory.bytes 4 (compressedSize - 4))) 4 compressedSize streams streamable rfl stood clean
    (by rw [List.nil_append, List.nil_append]) streamable.nil.symm (fun _ _ _ => room)
  obtain ⟨last, ends, failed, later⟩ := @decodeEnd_run _ _ _ _ _ _ dataOutSize streams there still
    (fun none => absurd none (Nat.ne_of_gt room)) (4 + (compressedSize - 4))
  have both := moved.trans later
  rw [List.append_nil] at both
  exact ⟨last, sink.bind ends, failed, both⟩

/-- Without an output buffer, the first poll fails, unless the header speaks of no data. -/
theorem decodeLoops_noRoom (streamable : Streamable decoded decoded)
    (stood : stands run.coder ⟨[], [], false, true⟩) (clean : run.failed = false) (fresh : run.pollSize = 0) :
    ∃ last count, Settles (fun fuel => decodeLoops decoder compressedSize 0 fuel run) last ∧
      Moved run last 4 count [] ∧
      (last.failed = false ∧ compressedSize ≤ 4 ∧ count = 0 ∨
        last.failed = true ∧ 0 < count ∧ 4 + count ≤ compressedSize ∧ ∃ next,
          decoder.sink run.coder (run.dataIn.memory.bytes 4 (compressedSize - 4)) = (.ok, count, next)) := by
  by_cases more : 4 < compressedSize
  · have filled : run.dataIn.memory.bytes 4 (compressedSize - 4) ≠ [] := by
      intro none
      have length := congrArg List.length none
      rw [ByteMemory.bytes_length, List.length_nil] at length
      omega
    obtain ⟨count, next, sank, some, few, there⟩ := streams.sink stood filled
    rw [ByteMemory.bytes_length] at few
    have poll : Settles (fun fuel => pollLoop decoder (fun _ => 0) fuel
          { run with coder := next, dataIn := run.dataIn.touch 4 count })
        { run with coder := next, dataIn := run.dataIn.touch 4 count, failed := true } := by
      refine .last_round fun fuel => ?_
      rw [pollLoop, streams.misuse there]
    have sink : Settles (fun fuel => sinkLoop decoder (· != .error) (fun _ => 0) compressedSize fuel compressHeaderSize run)
        { run with coder := next, dataIn := run.dataIn.touch 4 count, failed := true } := by
      have ends : Settles (fun fuel => sinkLoop decoder (· != .error) (fun _ => 0) compressedSize fuel (4 + count)
            { run with coder := next, dataIn := run.dataIn.touch 4 count, failed := true })
          { run with coder := next, dataIn := run.dataIn.touch 4 count, failed := true } := by
        have unclean : ¬true = false := by decide
        refine .last_round fun fuel => ?_
        rw [sinkLoop, if_neg (not_and_of_not_right _ unclean)]
      refine .round (fun fuel => ?_) (poll.bind ends)
      rw [sinkLoop, compressHeaderSize, if_pos ⟨more, clean⟩, sank]
      rfl
    refine ⟨{ run with coder := next, dataIn := run.dataIn.touch 4 count, failed := true }, count,
      sink.bind (.of_some fun fuel => ?_), ⟨rfl, (CallBuffer.store_nil _ _).symm, rfl⟩,
      .inr ⟨rfl, some, by omega, next, sank⟩⟩
    rw [decodeEnd, if_pos rfl]
  · have start : stands run.coder ⟨[], decoded [], false, true⟩ := by rwa [streamable.nil]
    obtain ⟨last, ends, failed, moved⟩ := @decodeEnd_run _ _ _ _ _ _ 0 streams start clean (fun _ => fresh) 4
    have sink : Settles (fun fuel => sinkLoop decoder (· != .error) (fun _ => 0) compressedSize fuel compressHeaderSize run)
        run := by
      refine .last_round fun fuel => ?_
      rw [sinkLoop, compressHeaderSize, if_neg (not_and_of_not_left _ more)]
    exact ⟨last, 0, sink.bind ends, moved, .inl ⟨failed, Nat.le_of_not_lt more, rfl⟩⟩

end
end Xtreme.Toolbox
