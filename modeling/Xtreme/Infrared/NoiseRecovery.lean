import Xtreme.Infrared.RepeatRoundTrip
import Xtreme.Infrared.SettledDecoder

/-! A clean frame after noise. A decoder that looks for a preamble finds the one of the
frame. A decoder that collects a repeat frame takes the beginning of the frame for its
rest; when it has enough timings it refuses them and looks for a preamble among what is
pending. It finds the one of the frame there, or the frame is still to come. -/
namespace Xtreme.Infrared
open Xtreme.Library

section Seeking
variable {spec : InfraredCommonProtocolSpec} {pwm : Bool} {decoder : InfraredCommonDecoder}

/-- Any mark may begin a preamble; a refused silence in front of it is dropped. -/
theorem Seeking.mark (preamble : spec.timings.preambleMark ≠ 0) (seeking : Seeking decoder) (duration : Nat) :
    ∃ next, Hears spec decoder [(true, duration)] [] next ∧
      next.state = .waitPreamble ∧ next.timings = [duration] ∧ next.level = true := by
  obtain ⟨state, few, level⟩ := seeking
  generalize joined : decoder.timings ++ [duration] = timings
  have check : infraredCheckPreamble spec { decoder with level := true, timings := timings } =
      (false, { decoder with level := true, timings := [duration] }) := by
    rw [← joined]
    match decoder.timings, few with
    | [], _ => simp [infraredCheckPreamble, preamble, findPreamble]
    | [silence], _ => simp [infraredCheckPreamble, preamble, findPreamble, oldestLevel_succ]
  have loop := decodeLoop_waiting { decoder with level := true, timings := timings } false state check
  refine ⟨_, Hears.ofLoop (if_neg (by rw [level]; decide)) ?_ (by rw [joined]) loop, state, rfl, rfl⟩
  exact Nat.lt_of_le_of_lt few (by decide)

theorem Seeking.preamble (decoded : PulseDecoded spec pwm) (seeking : Seeking decoder) : ∃ next, Hears spec decoder
        [(true, spec.timings.preambleMark), (false, spec.timings.preambleSpace)] [] next ∧
      Receiving next [] false := by
  obtain ⟨middle, mark, state, timings, level⟩ := seeking.mark decoded.preamble spec.timings.preambleMark
  obtain ⟨next, space, receiving⟩ := seek_preamble decoded state timings level
  exact ⟨next, mark.append space, receiving⟩

end Seeking

theorem receive_rest {spec : InfraredCommonProtocolSpec} (decoded : PulseDecoded spec false)
    {decoder : InfraredCommonDecoder} {bits : List Bool}
    (receiving : Receiving decoder bits true) (bit : Bool) (more : List Bool)
    (fits : bits.length + more.length + 1 ≤ spec.maxLen) :
    ∃ final, Hears spec decoder ((false, spaceOf spec.timings bit) ::
        (more.flatMap (pulses spec.timings) ++ [(true, spec.timings.bit1Mark)])) [] final ∧
      Receiving final (bits ++ bit :: more) true := by
  obtain ⟨first, space, receiving⟩ := receive_half decoded false bit receiving
    (by simp only [if_true]; omega) (fun _ => by omega)
  obtain ⟨second, rest, receiving⟩ := receive_bits decoded more receiving (by simp; omega)
  obtain ⟨final, mark, receiving⟩ := receive_half decoded true true receiving (by simp; omega) (by simp)
  refine ⟨final, space.append (rest.append mark), ?_⟩
  simpa using receiving

theorem Collecting.refuse {spec : InfraredCommonProtocolSpec} {window : Nat} {accepts : List Nat → Bool}
    (decoded : RepeatsDecoded spec window accepts) {decoder final : InfraredCommonDecoder} {pending : List Nat}
    {message : InfraredMessage} (collecting : Collecting decoder pending false message) (duration : Nat)
    (full : pending.length + 1 = window) (refused : accepts (pending ++ [duration]) = false)
    (loop : decodeLoop spec 23 (infraredCommonDecoderResetState spec
      { decoder with level := true, timings := pending ++ [duration] }) false = .ok (false, final)) :
    Hears spec decoder [(true, duration)] [] final := by
  obtain ⟨state, timings, level, -, -⟩ := collecting
  obtain ⟨decodeRepeat, isSome, -, decodes⟩ := decoded.decodes
  have size := decoded.fits
  let heard : InfraredCommonDecoder := { decoder with level := true, timings := pending ++ [duration] }
  have answers : decodeRepeat spec.toInfraredProtocolTable heard = (.error, heard) := by
    rw [decodes heard (by simpa [heard] using full), if_neg]
    rw [show accepts heard.timings = false from refused]
    decide
  have whole : decodeLoop spec decodeFuel heard false = .ok (false, final) := by
    rw [decodeFuel, decodeLoop, show heard.state = .processRepeat from state]
    simp only [isSome, answers]
    exact loop
  exact Hears.ofLoop (if_neg (by rw [level]; decide)) (by rw [timings]; omega) (by rw [timings]) whole

section Pending
variable {spec : InfraredCommonProtocolSpec} {decoder next : InfraredCommonDecoder} {timing : Nat} {rest : List Nat}

theorem decodePending_fits (splits : spec.timings.minSplitTime ≠ 0)
    (short : oldestLevel decoder (rest.length + 1) = false →
      timing ≤ spec.timings.minSplitTime ∧ spec.maxLen ≠ decoder.databitCnt)
    (decodes : spec.decode spec.toInfraredProtocolTable decoder (oldestLevel decoder (rest.length + 1)) timing =
      (.ok, next)) (within : next.databitCnt ≤ spec.maxLen) :
    decodePending spec decoder (timing :: rest) = decodePending spec next rest := by
  rw [decodePending, if_neg fun ready => Nat.not_lt.mpr (short ready.1.2).1 ready.2.1,
    if_neg fun longest => (short longest.1.2).2 longest.2.2, decodes]
  simp only [Nat.not_lt.mpr within, if_false, reduceCtorEq, splits, and_false]

theorem decodePending_fails (unready : oldestLevel decoder (rest.length + 1) = false →
      foundLength spec.toInfraredProtocolTable decoder.databitCnt = false)
    (fails : spec.decode spec.toInfraredProtocolTable decoder (oldestLevel decoder (rest.length + 1)) timing =
      (.error, decoder)) (within : decoder.databitCnt ≤ spec.maxLen) :
    decodePending spec decoder (timing :: rest) = .ok (.error, { decoder with timings := timing :: rest }) := by
  rw [decodePending, if_neg fun ready => Bool.false_ne_true ((unready ready.1.2).symm.trans ready.2.2)]
  split
  · rfl
  · rw [fails]
    simp only [Nat.not_lt.mpr within, if_false, if_true]

end Pending

section Loop
variable {spec : InfraredCommonProtocolSpec} {decoder : InfraredCommonDecoder} {rest : List Nat}

theorem loop_finds (fuel : Nat) (found : Bool) (state : decoder.state = .waitPreamble)
    (check : infraredCheckPreamble spec decoder = (true, { decoder with timings := rest })) :
    decodeLoop spec (fuel + 1) decoder found = decodeLoop spec fuel { decoder with
      timings := rest
      state := .decode
      databitCnt := 0
      switchDetect := false } found := by
  simp only [decodeLoop, state, check, if_true]

theorem loop_misses (fuel : Nat) (found : Bool) (state : decoder.state = .waitPreamble)
    (check : infraredCheckPreamble spec decoder = (false, { decoder with timings := rest })) :
    decodeLoop spec (fuel + 1) decoder found = .ok (found, { decoder with timings := rest }) := by
  simp only [decodeLoop, state, check, Bool.false_eq_true, if_false]

end Loop

theorem loop_behind {spec : InfraredCommonProtocolSpec} {silence mark : Nat} (quiet : Quiet spec silence)
    {decoder : InfraredCommonDecoder} (fuel : Nat) (found : Bool) (state : decoder.state = .waitPreamble)
    (level : decoder.level = true)
    (timings : decoder.timings = [silence, mark] ∨ ∃ before, decoder.timings = [before, silence, mark]) :
    decodeLoop spec (fuel + 1) decoder found = .ok (found, { decoder with timings := [mark] }) := by
  have check : infraredCheckPreamble spec decoder = (false, { decoder with timings := [mark] }) := by
    obtain timings | ⟨before, timings⟩ := timings
    · simp [infraredCheckPreamble, timings, level, quiet.preamble, findPreamble, oldestLevel_succ]
    · simp [infraredCheckPreamble, timings, level, quiet.preamble, findPreamble, oldestLevel_succ, quiet.other]
  exact loop_misses fuel found state check

theorem loop_misled {spec : InfraredCommonProtocolSpec} {silence before mark : Nat} (quiet : Quiet spec silence)
    (splits : spec.timings.minSplitTime ≠ 0) (unready : foundLength spec.toInfraredProtocolTable 0 = false)
    {decoder : InfraredCommonDecoder} (fuel : Nat) (found : Bool) (state : decoder.state = .decode)
    (level : decoder.level = true) (count : decoder.databitCnt = 0) (timings : decoder.timings = [before, silence, mark])
    (plain : ∃ status, spec.decode spec.toInfraredProtocolTable decoder true before = (status, decoder) ∧
      (status = .ok ∨ status = .error)) :
    ∃ next, decodeLoop spec (fuel + 2) decoder found = .ok (found, next) ∧
      next.state = .waitPreamble ∧ next.timings = [mark] ∧ next.level = true := by
  have within : decoder.databitCnt ≤ spec.maxLen := by
    rw [count]
    exact Nat.zero_le _
  have marked : oldestLevel decoder ([silence, mark].length + 1) = true := by
    simp [oldestLevel_succ, level]
  have spaced : oldestLevel decoder ([mark].length + 1) = false := by
    simp [oldestLevel_succ, level]
  have refused := quiet.refused decoder
  rw [← spaced] at refused
  have lost := decodePending_fails (fun _ => count ▸ unready) refused within
  obtain ⟨status, decodes, fits | fails⟩ := plain
  · subst fits
    rw [← marked] at decodes
    have pending := (decodePending_fits splits (fun space => Bool.noConfusion (marked.symm.trans space)) decodes
      within).trans lost
    rw [decodeLoop, state]
    simp only [infraredCommonDecodeBits, timings, pending]
    exact ⟨_, @loop_behind spec silence mark quiet
      (infraredCommonDecoderResetState spec { decoder with timings := [silence, mark] }) fuel found rfl level
      (.inl (if_neg quiet.preamble)), rfl, rfl, level⟩
  · subst fails
    rw [← marked] at decodes
    have pending := decodePending_fails (fun space => Bool.noConfusion (marked.symm.trans space)) decodes within
    rw [decodeLoop, state]
    simp only [infraredCommonDecodeBits, timings, pending]
    exact ⟨_, @loop_behind spec silence mark quiet
      (infraredCommonDecoderResetState spec { decoder with timings := [before, silence, mark] }) fuel found rfl level
      (.inr ⟨before, if_neg quiet.preamble⟩), rfl, rfl, level⟩

section Nec
variable {decoder : InfraredCommonDecoder} {message : InfraredMessage}

/-- Nothing but the silence is pending: the window is full with the first mark of the payload. -/
theorem nec_frame_begun (collecting : Collecting decoder [110000] false message) :
    ∃ next, Hears infraredProtocolNec decoder (alternating true [9000, 4500, 560]) [] next ∧
      Receiving next [] true := by
  obtain ⟨middle, start, collecting⟩ := collecting.all nec_repeatsDecoded [9000, 4500] (by decide)
  have loop : decodeLoop infraredProtocolNec 23 (infraredCommonDecoderResetState infraredProtocolNec
      { middle with level := true, timings := [110000, 9000, 4500, 560] }) false =
      .ok (false, { infraredCommonDecoderReset infraredProtocolNec middle with level := true, state := .decode }) := by
    simp [decodeLoop, infraredCommonDecoderResetState, infraredCommonDecoderReset, infraredCheckPreamble,
      infraredCommonDecodeBits, decodePending, oldestLevel, findPreamble, matchTiming, infraredProtocolNec,
      infraredCommonDecodePdwm, InfraredProtocolTable.maxLen, infraredNecBit1Mark]
  have refused := collecting.refuse nec_repeatsDecoded 560 rfl (by decide) loop
  exact ⟨_, start.append refused, rfl, rfl, rfl, rfl, held_nil _⟩

/-- With two more timings it is full with the preamble mark. -/
theorem nec_frame_ahead {pause mark : Nat} (collecting : Collecting decoder [pause, mark, 110000] false message) :
    ∃ next, Hears infraredProtocolNec decoder (alternating true [9000, 4500]) [] next ∧
      Receiving next [] false := by
  have loop : decodeLoop infraredProtocolNec 23 (infraredCommonDecoderResetState infraredProtocolNec
      { decoder with level := true, timings := [pause, mark, 110000, 9000] }) false =
      .ok (false, { infraredCommonDecoderReset infraredProtocolNec decoder with level := true, timings := [9000] }) := by
    simp [decodeLoop, infraredCommonDecoderResetState, infraredCommonDecoderReset, infraredCheckPreamble,
      oldestLevel, findPreamble, matchTiming, infraredProtocolNec]
  have other : matchTiming 110000 infraredNecRepeatSpace infraredProtocolNec.timings.preambleTolerance = false := by
    decide
  have refused := collecting.refuse nec_repeatsDecoded 9000 rfl
    (show necAccepts [pause, mark, 110000, 9000] = false by unfold necAccepts; simp [other]) loop
  obtain ⟨next, space, receiving⟩ := @seek_preamble infraredProtocolNec false
    { infraredCommonDecoderReset infraredProtocolNec decoder with level := true, timings := [9000] } (@pulse_decoded .nec rfl)
    rfl rfl rfl
  exact ⟨next, refused.append space, receiving⟩

theorem nec_frame_caught {pending : List Nat} (pairs : pending.length % 2 = 0) (few : pending.length + 1 < 4)
    (collecting : Collecting decoder (pending ++ [110000]) false message) {payload : List Bool}
    (nonempty : payload ≠ []) (fits : payload.length ≤ 42) :
    ∃ final, Hears infraredProtocolNec decoder ((true, 9000) :: (false, 4500) :: frameBody .nec payload) [] final ∧
      Receiving final payload true := by
  have decoded : PulseDecoded infraredProtocolNec false := @pulse_decoded .nec rfl
  match pending, pairs, few with
  | [], _, _ =>
    obtain ⟨bit, more, rfl⟩ := List.exists_cons_of_ne_nil nonempty
    obtain ⟨middle, begun, receiving⟩ := nec_frame_begun collecting
    obtain ⟨final, rest, receiving⟩ := receive_rest decoded receiving bit more
      (by rw [List.length_nil, Nat.zero_add]; exact fits)
    refine ⟨final, ?_, receiving⟩
    have mark : markOf infraredProtocolNec.timings bit = 560 := by cases bit <;> rfl
    have frame : (true, 9000) :: (false, 4500) :: frameBody .nec (bit :: more) =
        alternating true [9000, 4500, 560] ++ ((false, spaceOf infraredProtocolNec.timings bit) ::
          (more.flatMap (pulses infraredProtocolNec.timings) ++ [(true, infraredProtocolNec.timings.bit1Mark)])) := by
      rw [← mark]
      rfl
    rw [frame]
    exact begun.append rest
  | [pause, mark], _, _ =>
    obtain ⟨middle, start, receiving⟩ := nec_frame_ahead collecting
    obtain ⟨final, rest, receiving⟩ := @hear_body _ .nec rfl receiving _ nonempty fits
    exact ⟨final, start.append rest, receiving⟩

end Nec

/-! ## Samsung32 -/

theorem samsung32_quiet : Quiet infraredProtocolSamsung32 145000 :=
  ⟨by decide, by decide, by decide, fun _ => rfl⟩

section Samsung32
variable {decoder : InfraredCommonDecoder} {message : InfraredMessage}

/-- The silence is the oldest timing, and the newest one is the second mark of the payload. -/
theorem samsung32_loop_begun (state : decoder.state = .waitPreamble) (level : decoder.level = true) (bit : Bool)
    (timings : decoder.timings = [145000, 4500, 4500, 550, spaceOf infraredProtocolSamsung32.timings bit, 550]) :
    ∃ next, decodeLoop infraredProtocolSamsung32 23 decoder false = .ok (false, next) ∧
      Receiving next [bit] true := by
  have check : infraredCheckPreamble infraredProtocolSamsung32 decoder = (true, { decoder with
      timings := [550, spaceOf infraredProtocolSamsung32.timings bit, 550] }) := by
    simp [infraredCheckPreamble, timings, level, oldestLevel, findPreamble, matchTiming, infraredProtocolSamsung32]
  rw [loop_finds 22 false state check]
  generalize began : ({ decoder with
    timings := [550, spaceOf infraredProtocolSamsung32.timings bit, 550]
    state := .decode
    databitCnt := 0
    switchDetect := false } : InfraredCommonDecoder) = start
  obtain ⟨startLevel, startState, startCount, startTimings⟩ : start.level = true ∧ start.state = .decode ∧
      start.databitCnt = 0 ∧ start.timings = [550, spaceOf infraredProtocolSamsung32.timings bit, 550] := by
    rw [← began]
    exact ⟨level, rfl, rfl, rfl⟩
  have splits : infraredProtocolSamsung32.timings.minSplitTime ≠ 0 := by decide
  have longest : infraredProtocolSamsung32.maxLen = 32 := rfl
  have first : decodePending infraredProtocolSamsung32 start
      [550, spaceOf infraredProtocolSamsung32.timings bit, 550] =
      decodePending infraredProtocolSamsung32 start [spaceOf infraredProtocolSamsung32.timings bit, 550] := by
    have mark : oldestLevel start ([spaceOf infraredProtocolSamsung32.timings bit, 550].length + 1) = true := by
      simp [oldestLevel_succ, startLevel]
    refine decodePending_fits splits (fun low => Bool.noConfusion (mark.symm.trans low)) ?_ (by omega)
    rw [mark]
    exact samsung32_decoded.decodes start true true
  have second : decodePending infraredProtocolSamsung32 start [spaceOf infraredProtocolSamsung32.timings bit, 550] =
      decodePending infraredProtocolSamsung32 (accumulateLsb start bit) [550] := by
    have space : oldestLevel start ([550].length + 1) = false := by
      simp [oldestLevel_succ, startLevel]
    refine decodePending_fits splits (fun _ => ⟨samsung32_decoded.spaceShort bit, by omega⟩) ?_
      (by rw [accumulateLsb_count]; omega)
    rw [space]
    exact samsung32_decoded.decodes start false bit
  have third : decodePending infraredProtocolSamsung32 (accumulateLsb start bit) [550] =
      decodePending infraredProtocolSamsung32 (accumulateLsb start bit) [] := by
    have mark : oldestLevel (accumulateLsb start bit) (([] : List Nat).length + 1) = true := by
      rw [List.length_nil, oldestLevel_one]
      exact startLevel
    refine decodePending_fits splits (fun low => Bool.noConfusion (mark.symm.trans low)) ?_
      (by rw [accumulateLsb_count]; omega)
    rw [mark]
    exact samsung32_decoded.decodes (accumulateLsb start bit) true true
  have pending := first.trans (second.trans third)
  refine ⟨{ accumulateLsb start bit with timings := [] }, ?_, ?_⟩
  · rw [decodeLoop, startState]
    simp only [infraredCommonDecodeBits, startTimings, pending, decodePending]
  · exact ⟨startState, rfl, startLevel, congrArg (· + 1) startCount,
      held_accumulateLsb (held_nil _) startCount (by decide) bit⟩

/-- Nothing but the silence is pending: the window is full with the second mark of the payload. -/
theorem samsung32_frame_begun (collecting : Collecting decoder [145000] false message) (bit : Bool) :
    ∃ next, Hears infraredProtocolSamsung32 decoder
        (alternating true [4500, 4500, 550, spaceOf infraredProtocolSamsung32.timings bit, 550]) [] next ∧
      Receiving next [bit] true := by
  obtain ⟨middle, start, collected⟩ := collecting.all samsung32_repeatsDecoded
    [4500, 4500, 550, spaceOf infraredProtocolSamsung32.timings bit] (show 1 + 4 < 6 by decide)
  have even : levelAfter false [4500, 4500, 550, spaceOf infraredProtocolSamsung32.timings bit].length = false := by
    simp [levelAfter]
  rw [even] at collected
  have other : samsung32Accepts [145000, 4500, 4500, 550, spaceOf infraredProtocolSamsung32.timings bit, 550] =
      false := by
    cases bit <;> decide
  obtain ⟨next, loop, receiving⟩ := @samsung32_loop_begun
    (infraredCommonDecoderResetState infraredProtocolSamsung32 { middle with
      level := true
      timings := [145000, 4500, 4500, 550, spaceOf infraredProtocolSamsung32.timings bit, 550] })
    rfl rfl bit rfl
  exact ⟨next, start.append (collected.refuse samsung32_repeatsDecoded 550 rfl other loop), receiving⟩

/-- With two more timings it is full with the first one. -/
theorem samsung32_frame_ahead {pause mark : Nat}
    (collecting : Collecting decoder [pause, mark, 145000] false message) :
    ∃ next, Hears infraredProtocolSamsung32 decoder (alternating true [4500, 4500, 550]) [] next ∧
      Receiving next [] true := by
  obtain ⟨middle, start, collecting⟩ := collecting.all samsung32_repeatsDecoded [4500, 4500]
    (show 3 + 2 < 6 by decide)
  have loop : decodeLoop infraredProtocolSamsung32 23 (infraredCommonDecoderResetState infraredProtocolSamsung32
      { middle with level := true, timings := [pause, mark, 145000, 4500, 4500, 550] }) false =
      .ok (false, { infraredCommonDecoderReset infraredProtocolSamsung32 middle with
        level := true
        state := .decode }) := by
    simp [decodeLoop, infraredCommonDecoderResetState, infraredCommonDecoderReset, infraredCheckPreamble,
      infraredCommonDecodeBits, decodePending, oldestLevel, findPreamble, matchTiming, infraredProtocolSamsung32,
      infraredCommonDecodePdwm, infraredSamsungBit1Mark]
  have other : matchTiming 145000 infraredSamsungRepeatSpace
      infraredProtocolSamsung32.timings.preambleTolerance = false := by decide
  have refused := collecting.refuse samsung32_repeatsDecoded 550 rfl
    (show samsung32Accepts [pause, mark, 145000, 4500, 4500, 550] = false by
      unfold samsung32Accepts; simp [other]) loop
  exact ⟨_, start.append refused, rfl, rfl, rfl, rfl, held_nil _⟩

theorem samsung32_mark (decoder : InfraredCommonDecoder) (timing : Nat) :
    ∃ status, infraredProtocolSamsung32.decode infraredProtocolSamsung32.toInfraredProtocolTable decoder true timing =
      (status, decoder) ∧ (status = .ok ∨ status = .error) := by
  have plain : infraredProtocolSamsung32.decode infraredProtocolSamsung32.toInfraredProtocolTable decoder true timing =
      (if matchTiming timing 550 120 then (.ok, decoder) else (.error, decoder)) := rfl
  rw [plain]
  split
  · exact ⟨_, rfl, .inl rfl⟩
  · exact ⟨_, rfl, .inr rfl⟩

/-- Four timings of a repeat frame come before the silence. Some of them may look like a
preamble, but the silence is no part of a payload. -/
theorem samsung32_loop_far {pause mark space bitMark : Nat} (state : decoder.state = .waitPreamble)
    (level : decoder.level = true) (timings : decoder.timings = [pause, mark, space, bitMark, 145000, 4500]) :
    ∃ next, decodeLoop infraredProtocolSamsung32 23 decoder false = .ok (false, next) ∧
      next.state = .waitPreamble ∧ next.timings = [4500] ∧ next.level = true := by
  by_cases preamble : matchTiming mark 4500 200 = true ∧ matchTiming space 4500 200 = true
  · have check : infraredCheckPreamble infraredProtocolSamsung32 decoder =
        (true, { decoder with timings := [bitMark, 145000, 4500] }) := by
      simp [infraredCheckPreamble, timings, level, oldestLevel, findPreamble, infraredProtocolSamsung32, preamble]
    rw [loop_finds 22 false state check]
    exact loop_misled samsung32_quiet (by decide) (by decide) 20 false rfl level rfl rfl (samsung32_mark _ bitMark)
  · have check : infraredCheckPreamble infraredProtocolSamsung32 decoder = (false, { decoder with timings := [4500] }) := by
      have silent : matchTiming 145000 4500 200 = false := by decide
      simp [infraredCheckPreamble, timings, level, oldestLevel, findPreamble, infraredProtocolSamsung32, preamble, silent]
    exact ⟨_, loop_misses 22 false state check, state, rfl, level⟩

/-- With four more it is full with the preamble mark. -/
theorem samsung32_frame_far {pause mark space bitMark : Nat}
    (collecting : Collecting decoder [pause, mark, space, bitMark, 145000] false message) :
    ∃ next, Hears infraredProtocolSamsung32 decoder (alternating true [4500, 4500]) [] next ∧
      Receiving next [] false := by
  obtain ⟨middle, loop, state, timings, level⟩ := @samsung32_loop_far
    (infraredCommonDecoderResetState infraredProtocolSamsung32 { decoder with
      level := true
      timings := [pause, mark, space, bitMark, 145000, 4500] }) pause mark space bitMark rfl rfl rfl
  have other : matchTiming 145000 infraredProtocolSamsung32.timings.bit1Space
      infraredProtocolSamsung32.timings.bitTolerance = false := by decide
  have refused := collecting.refuse samsung32_repeatsDecoded 4500 rfl
    (show samsung32Accepts [pause, mark, space, bitMark, 145000, 4500] = false by
      unfold samsung32Accepts; simp [other]) loop
  obtain ⟨next, space, receiving⟩ := seek_preamble samsung32_decoded state timings level
  exact ⟨next, refused.append space, receiving⟩

theorem samsung32_frame_caught {pending : List Nat} (pairs : pending.length % 2 = 0) (few : pending.length + 1 < 6)
    (collecting : Collecting decoder (pending ++ [145000]) false message) {payload : List Bool}
    (two : 2 ≤ payload.length) (fits : payload.length ≤ 32) :
    ∃ final, Hears infraredProtocolSamsung32 decoder
        ((true, 4500) :: (false, 4500) :: frameBody .samsung32 payload) [] final ∧
      Receiving final payload true := by
  have mark (bit : Bool) : markOf infraredProtocolSamsung32.timings bit = 550 := by cases bit <;> rfl
  match payload, two with
  | bit :: bit' :: more, _ =>
    match pending, pairs, few with
    | [], _, _ =>
      obtain ⟨middle, begun, receiving⟩ := samsung32_frame_begun collecting bit
      obtain ⟨final, rest, receiving⟩ := receive_rest samsung32_decoded receiving bit' more
        (by rw [List.length_singleton, Nat.add_comm 1]; exact fits)
      refine ⟨final, ?_, receiving⟩
      have frame : (true, 4500) :: (false, 4500) :: frameBody .samsung32 (bit :: bit' :: more) =
          alternating true [4500, 4500, 550, spaceOf infraredProtocolSamsung32.timings bit, 550] ++
            ((false, spaceOf infraredProtocolSamsung32.timings bit') ::
              (more.flatMap (pulses infraredProtocolSamsung32.timings) ++
                [(true, infraredProtocolSamsung32.timings.bit1Mark)])) := by
        have body : frameBody .samsung32 (bit :: bit' :: more) =
            (true, markOf infraredProtocolSamsung32.timings bit) ::
              (false, spaceOf infraredProtocolSamsung32.timings bit) ::
              (true, markOf infraredProtocolSamsung32.timings bit') ::
              (false, spaceOf infraredProtocolSamsung32.timings bit') ::
              (more.flatMap (pulses infraredProtocolSamsung32.timings) ++
                [(true, infraredProtocolSamsung32.timings.bit1Mark)]) := rfl
        rw [body, mark, mark]
        rfl
      rw [frame]
      exact begun.append rest
    | [pause, first], _, _ =>
      obtain ⟨middle, begun, receiving⟩ := samsung32_frame_ahead collecting
      obtain ⟨final, rest, receiving⟩ := receive_rest samsung32_decoded receiving bit (bit' :: more)
        (by rw [List.length_nil, Nat.zero_add]; exact fits)
      refine ⟨final, ?_, receiving⟩
      have frame : (true, 4500) :: (false, 4500) :: frameBody .samsung32 (bit :: bit' :: more) =
          alternating true [4500, 4500, 550] ++ ((false, spaceOf infraredProtocolSamsung32.timings bit) ::
            ((bit' :: more).flatMap (pulses infraredProtocolSamsung32.timings) ++
              [(true, infraredProtocolSamsung32.timings.bit1Mark)])) := by
        rw [← mark bit]
        rfl
      rw [frame]
      exact begun.append rest
    | [pause, first, space, bitMark], _, _ =>
      obtain ⟨middle, start, receiving⟩ := samsung32_frame_far collecting
      obtain ⟨final, rest, receiving⟩ := @hear_body _ .samsung32 rfl receiving _ (List.cons_ne_nil bit _) fits
      exact ⟨final, start.append rest, receiving⟩
    | [_, _, _], odd, _ => exact absurd (show 3 % 2 = 0 from odd) (by decide)

end Samsung32

/-! ## All protocols -/

theorem nec_quiet : Quiet infraredProtocolNec 110000 := ⟨by decide, by decide, by decide, fun _ => rfl⟩

theorem wholeRepeats_none {spec : InfraredCommonProtocolSpec} (none : spec.decodeRepeat = none) :
    WholeRepeats spec 6 (fun _ => false) where
  even := rfl
  atLeast := by decide
  decoded := fun some => by
    rw [none] at some
    cases some

theorem hear_behind {spec : InfraredCommonProtocolSpec} {pwm : Bool} {window silence : Nat}
    {accepts : List Nat → Bool} {frame : List Sample} {payload : List Bool}
    (bounds : InBounds spec pwm window noStalls) (whole : WholeRepeats spec window accepts)
    (quiet : Quiet spec silence) (decoder : InfraredCommonDecoder) {noise : List Sample}
    (ends : (noise.map Prod.fst).getLast? = some true)
    (caught : ∀ next, Quieted spec window silence next →
      ∃ final, Hears spec next frame [] final ∧ Receiving final payload true) :
    ∃ earlier final, Hears spec (infraredCommonDecoderReset spec decoder)
        (noise ++ (false, silence) :: frame) earlier final ∧ Receiving final payload true := by
  obtain ⟨earlier, noisy, heard, settled, level⟩ := hear_noise bounds whole (.reset spec pwm window decoder) noise
  rw [List.getLastD_eq_getLast?, ends] at level
  obtain ⟨last, quieted, silent, state⟩ := hear_quiet bounds whole quiet settled level
  obtain ⟨final, framed, receiving⟩ := caught quieted state
  exact ⟨_, final, heard.append (silent.append framed), receiving⟩

theorem hear_after_noise {family : InfraredFamily} (listed : family ∈ [.nec, .samsung32, .sirc, .kaseikyo, .rca])
    (decoder : InfraredCommonDecoder) {noise : List Sample} (ends : (noise.map Prod.fst).getLast? = some true)
    {payload : List Bool} (two : 2 ≤ payload.length) (fits : payload.length ≤ family.spec.maxLen) :
    ∃ earlier final, Hears family.spec (infraredCommonDecoderReset family.spec decoder)
        (noise ++ frameSamples family payload) earlier final ∧ Receiving final payload true := by
  have nonempty : payload ≠ [] := List.ne_nil_of_length_pos (by omega)
  -- a decoder that seeks catches the frame from its preamble on
  have sought (pulse : family.isPulse = true) (next : InfraredCommonDecoder) (seeking : Seeking next) :
      ∃ final, Hears family.spec next ((true, family.spec.timings.preambleMark) ::
        (false, family.spec.timings.preambleSpace) :: frameBody family payload) [] final ∧
        Receiving final payload (family != .pioneer) := by
    obtain ⟨middle, start, receiving⟩ := seeking.preamble (pulse_decoded pulse)
    obtain ⟨final, body, receiving⟩ := hear_body pulse receiving nonempty fits
    exact ⟨final, start.append body, receiving⟩
  simp only [List.mem_cons, List.not_mem_nil, or_false] at listed
  obtain rfl | rfl | rfl | rfl | rfl := listed
  · refine hear_behind nec_inBounds ⟨rfl, by decide, fun _ => nec_repeatsDecoded⟩ nec_quiet decoder ends ?_
    rintro next (seeking | ⟨-, pending, message, pairs, few, collecting⟩)
    · exact sought rfl next seeking
    · exact nec_frame_caught pairs few collecting nonempty fits
  · refine hear_behind samsung32_inBounds ⟨rfl, by decide, fun _ => samsung32_repeatsDecoded⟩ samsung32_quiet decoder
      ends ?_
    rintro next (seeking | ⟨-, pending, message, pairs, few, collecting⟩)
    · exact sought rfl next seeking
    · exact samsung32_frame_caught pairs few collecting two fits
  · refine hear_behind sirc_inBounds (wholeRepeats_none rfl) ⟨by decide, by decide, by decide, fun _ => rfl⟩ decoder
      ends ?_
    rintro next (seeking | ⟨repeats, -⟩)
    · exact sought rfl next seeking
    · cases repeats
  · refine hear_behind kaseikyo_inBounds (wholeRepeats_none rfl) ⟨by decide, by decide, by decide, fun _ => rfl⟩ decoder
      ends ?_
    rintro next (seeking | ⟨repeats, -⟩)
    · exact sought rfl next seeking
    · cases repeats
  · refine hear_behind rca_inBounds (wholeRepeats_none rfl) ⟨by decide, by decide, by decide, fun _ => rfl⟩ decoder
      ends ?_
    rintro next (seeking | ⟨repeats, -⟩)
    · exact sought rfl next seeking
    · cases repeats

theorem understood_valid {family : InfraredFamily} {message : InfraredMessage} (pulse : family.isPulse = true)
    (found : infraredFindIndexByProtocol message.protocol = some family)
    (valid : infraredSignalIsMessageValid message = true) (toggle : Bool) :
    Understood family.spec (payloadLayout message toggle) (understoodForm message) := by
  have known := List.find?_some found
  by_cases repeats : family.repeats = true
  · exact understoodForm_understood repeats known toggle
  · have plain : ¬ ComplementedForm message := by
      obtain ⟨protocol, address, command, isRepeat⟩ := message
      cases protocol
      case necExt | nec42Ext =>
        cases found
        exact absurd rfl repeats
      all_goals exact id
    rw [(understoodForm_eq_iff (protocol_known known)).mpr ⟨valid, plain⟩]
    exact ⟨(length_le_maxLen pulse known toggle).1, fun decoder count carries =>
      interpret_payload pulse known valid plain count carries⟩

theorem payloadLayout_two {message : InfraredMessage} {family : InfraredFamily}
    (known : (family.getProtocolVariant message.protocol).isSome) (toggle : Bool) :
    2 ≤ (payloadLayout message toggle).length := by
  obtain ⟨protocol, address, command, isRepeat⟩ := message
  cases protocol
  case unknown => cases family <;> cases known
  all_goals simp [payloadLayout, kaseikyoMiddle]

/-- **Clean frames after noise.** Whatever a decoder has heard before, if it ended with a
mark, the frame of an accepted message makes it report the message last; a NECext or
NEC42ext message that satisfies the checksums of the plain variant is reported as that one. -/
theorem clean_frame_is_reported_after_noise (handler : InfraredEncoderHandler) (decoder : InfraredCommonDecoder)
    (noise : List Sample) (message : InfraredMessage) (family : InfraredFamily)
    (found : infraredFindIndexByProtocol message.protocol = some family)
    (listed : family ∈ [.nec, .samsung32, .sirc, .kaseikyo, .rca])
    (valid : infraredSignalIsMessageValid message = true) (ends : (noise.map Prod.fst).getLast? = some true) :
    (∃ prepared samples earlier, infraredResetEncoder handler message = some prepared ∧
      encodeFrames infraredEncode frameFuel 1 prepared = some samples ∧
      decodedMessages family.spec (infraredCommonDecoderReset family.spec decoder) (noise ++ mergeLevels samples) =
        .ok (earlier ++ [{ understoodForm message with isRepeat := false }])) ∧
      (¬ ComplementedForm message → understoodForm message = message) := by
  have known := List.find?_some found
  have pulse : family.isPulse = true := by
    simp only [List.mem_cons, List.not_mem_nil, or_false] at listed
    obtain rfl | rfl | rfl | rfl | rfl := listed <;> rfl
  refine ⟨?_, fun plain => (understoodForm_eq_iff (protocol_known known)).mpr ⟨valid, plain⟩⟩
  obtain ⟨encoder, toggle, toggle', reset, prepared, payload⟩ :=
    resetEncoder_prepared handler found (kaseikyo_fits valid)
  obtain ⟨-, fits⟩ := length_le_maxLen pulse known toggle
  have count : encoder.bitsToEncode = (payloadLayout message toggle).length := by
    rw [← payload, framePayload, List.length_map, List.length_range]
  have short : family.spec.maxLen ≤ 60 := by
    cases family <;> cases pulse <;> decide
  obtain ⟨sentFinal, sent⟩ := encode_frame pulse prepared (by omega)
  have frame : encodeFrames infraredEncode frameFuel 1 ⟨some family, ⟨encoder, toggle'⟩⟩ =
      some (frameSamples family (payloadLayout message toggle)) := by
    rw [encodeFrames_handler, encodeFrames, sent, payload]
    simp [encodeFrames]
  have understood := understood_valid pulse found valid toggle
  have two := payloadLayout_two known toggle
  obtain ⟨earlier, final, heard, receiving⟩ := hear_after_noise listed decoder ends two fits
  obtain ⟨length, interprets⟩ := understood
  have ready := checkReady_of_interpret (receiving.databitCnt ▸ length)
    (interprets final receiving.databitCnt receiving.held.carries)
  refine ⟨_, _, earlier, reset, frame, ?_⟩
  rw [mergeLevels_of_alternates (frame_alternates family _), decodedMessages_of_hears heard]
  simp only [ready]
  rfl

/-- A decoder that is about to collect a repeat frame. -/
theorem clean_frame_is_reported_after_noise_samsung32 :
    (∃ prepared samples earlier, infraredResetEncoder infraredAllocEncoder ⟨.samsung32, 0x0E, 0x0C, false⟩ =
        some prepared ∧
      encodeFrames infraredEncode frameFuel 1 prepared = some samples ∧
      decodedMessages infraredProtocolSamsung32 (infraredCommonDecoderReset infraredProtocolSamsung32
          ⟨[], ⟨.unknown, 0, 0, false⟩, .waitPreamble, false, false, 0, 0, false⟩)
        ([(true, 4500), (false, 700), (true, 31)] ++ mergeLevels samples) =
        .ok (earlier ++ [{ understoodForm ⟨.samsung32, 0x0E, 0x0C, false⟩ with isRepeat := false }])) ∧
      (¬ ComplementedForm ⟨.samsung32, 0x0E, 0x0C, false⟩ →
        understoodForm ⟨.samsung32, 0x0E, 0x0C, false⟩ = ⟨.samsung32, 0x0E, 0x0C, false⟩) :=
  clean_frame_is_reported_after_noise infraredAllocEncoder _ [(true, 4500), (false, 700), (true, 31)]
    ⟨.samsung32, 0x0E, 0x0C, false⟩ .samsung32 rfl (by decide) (by decide) rfl

/-- An NECext message of complements is reported, but as an NEC message. -/
theorem complemented_frame_is_reported_as_nec :
    infraredSignalIsMessageValid ⟨.necExt, 0xFE01, 0xFD02, false⟩ = true ∧
      (infraredResetEncoder infraredAllocEncoder ⟨.necExt, 0xFE01, 0xFD02, false⟩ >>=
          encodeFrames infraredEncode frameFuel 1).map (fun samples =>
        decodedMessages infraredProtocolNec (infraredCommonDecoderReset infraredProtocolNec
          ⟨[], ⟨.unknown, 0, 0, false⟩, .waitPreamble, false, false, 0, 0, false⟩)
        ((true, 31) :: mergeLevels samples)) = some (.ok [⟨.nec, 0x01, 0x02, false⟩]) := by
  decide +kernel

end Xtreme.Infrared
