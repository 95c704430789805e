import Xtreme.Infrared.DecoderBounds
import Xtreme.Infrared.MissedRepeats

/-! What noise leaves of a decoder. Between two samples it is in one of its three
states: it waits with at most one timing pending, it decodes with none, or it collects a
repeat frame, of which it then has whole pairs behind a pause. The space that
comes before a frame takes it out of the first two states, whatever bits it has
counted; a repeat frame only gets longer. -/
namespace Xtreme.Infrared
open Xtreme.Library

/-! ## The invariant -/

/-- What holds between two samples. -/
structure Settled (spec : InfraredCommonProtocolSpec) (pwm : Bool) (window : Nat)
    (decoder : InfraredCommonDecoder) : Prop extends Bounded spec pwm window decoder where
  paused : decoder.state = .processRepeat →
    oldestLevel decoder decoder.timings.length = false ∧ decoder.databitCnt = 0

/-- The repeat frames of a protocol, if it has any: from a pause to a mark, as long as
the window. -/
structure WholeRepeats (spec : InfraredCommonProtocolSpec) (window : Nat) (accepts : List Nat → Bool) : Prop where
  even : window % 2 = 0
  atLeast : 2 ≤ window
  decoded : spec.decodeRepeat.isSome = true → RepeatsDecoded spec window accepts

variable {spec : InfraredCommonProtocolSpec} {pwm : Bool} {window silence : Nat}
  {stalls : Nat → BitVec 64 → Bool} {accepts : List Nat → Bool}

theorem WholeRepeats.full (whole : WholeRepeats spec window accepts)
    {decodeRepeat : InfraredProtocolTable → InfraredCommonDecoder → InfraredStatus × InfraredCommonDecoder}
    (repeats : spec.decodeRepeat = some decodeRepeat) {decoder next : InfraredCommonDecoder}
    (ready : decodeRepeat spec.toInfraredProtocolTable decoder = (.ready, next)) :
    window ≤ decoder.timings.length := by
  obtain ⟨decodeRepeat', isSome, waits, -⟩ := (whole.decoded (by rw [repeats]; rfl)).decodes
  cases isSome.symm.trans repeats
  by_contra short
  have waiting := waits decoder (Nat.not_le.mp short)
  rw [ready] at waiting
  cases waiting

theorem decodePending_place (bounds : InBounds spec pwm window stalls) {decoder next : InfraredCommonDecoder}
    {status : InfraredStatus} (pending : List Nat)
    (decoded : decodePending spec decoder pending = .ok (status, next)) :
    next.level = decoder.level ∧ next.state = decoder.state ∧ next.timings.length ≤ pending.length ∧
      (status = .ready → oldestLevel next next.timings.length = false) := by
  induction pending generalizing decoder with
  | nil =>
    cases decoded
    refine ⟨rfl, rfl, Nat.le_refl 0, fun ready => ?_⟩
    cases ready
  | cons timing rest ih =>
    rw [decodePending] at decoded
    split at decoded
    · rename_i ready
      cases decoded
      exact ⟨rfl, rfl, Nat.le_refl _, fun _ => ready.1.2⟩
    · split at decoded
      · cases decoded
        refine ⟨rfl, rfl, Nat.le_refl _, fun ready => ?_⟩
        cases ready
      · have frame := bounds.decodeFrame decoder (oldestLevel decoder (rest.length + 1)) timing
        generalize spec.decode spec.toInfraredProtocolTable decoder (oldestLevel decoder (rest.length + 1)) timing =
          result at frame decoded
        obtain ⟨-, state, level⟩ := frame
        dsimp only at decoded state level
        split at decoded
        · cases decoded
        · split at decoded
          · cases decoded
            refine ⟨level, state, Nat.le_refl _, fun ready => ?_⟩
            cases ready
          · rw [if_neg fun ready => bounds.splits ready.2.2] at decoded
            obtain ⟨level', state', fewer, ready⟩ := ih decoded
            exact ⟨level'.trans level, state'.trans state, Nat.le_succ_of_le fewer, ready⟩

/-- The invariant of the loop. -/
structure Turning (window : Nat) (decoder : InfraredCommonDecoder) : Prop where
  fits : decoder.timings.length ≤ window
  paused : decoder.state = .processRepeat →
    oldestLevel decoder decoder.timings.length = false ∧ decoder.databitCnt = 0

theorem Turning.other {decoder : InfraredCommonDecoder} (fits : decoder.timings.length ≤ window)
    (other : decoder.state ≠ .processRepeat) : Turning window decoder :=
  ⟨fits, fun state => absurd state other⟩

theorem Turning.reset {decoder : InfraredCommonDecoder} (fits : decoder.timings.length ≤ window) :
    Turning window (infraredCommonDecoderResetState spec decoder) := by
  refine .other ?_ (by simp [infraredCommonDecoderResetState])
  simp only [infraredCommonDecoderResetState]
  split
  · rw [List.length_tail]
    omega
  · exact fits

theorem checkPreamble_fits (spec : InfraredCommonProtocolSpec) {decoder : InfraredCommonDecoder}
    (fits : decoder.timings.length ≤ window) (atLeast : 2 ≤ window) :
    ∃ found pending, infraredCheckPreamble spec decoder = (found, { decoder with timings := pending }) ∧
      pending.length ≤ window := by
  obtain ⟨found, pending, checked, missed, consumed, dropped⟩ := checkPreamble_outcome spec decoder
  refine ⟨found, pending, checked, ?_⟩
  cases found with
  | false =>
    have few := missed rfl
    omega
  | true =>
    by_cases noPreamble : spec.timings.preambleMark = 0
    · rw [(dropped rfl noPreamble).2]
      split
      · exact fits
      · rw [List.length_tail]
        omega
    · have fewer := consumed rfl noPreamble
      omega

/-- The loop never adds timings, and a repeat frame begins with a pause. -/
theorem decodeLoop_turns (bounds : InBounds spec pwm window stalls) (whole : WholeRepeats spec window accepts)
    (fuel : Nat) {decoder next : InfraredCommonDecoder} {found answer : Bool} (turning : Turning window decoder)
    (looped : decodeLoop spec fuel decoder found = .ok (answer, next)) :
    Turning window next ∧ next.level = decoder.level := by
  induction fuel generalizing decoder found with
  | zero => cases looped
  | succ fuel ih =>
    rw [decodeLoop] at looped
    cases state : decoder.state with
    | waitPreamble =>
      obtain ⟨preamble, pending, checked, fits⟩ := checkPreamble_fits spec turning.fits whole.atLeast
      simp only [state, checked] at looped
      cases preamble with
      | false =>
        cases looped
        refine ⟨.other fits (fun other => ?_), rfl⟩
        cases other
      | true =>
        obtain ⟨turns, level⟩ := ih (.other fits (by simp)) looped
        exact ⟨turns, level⟩
    | decode =>
      simp only [state, infraredCommonDecodeBits] at looped
      cases decoded : decodePending spec decoder decoder.timings with
      | error fault =>
        rw [decoded] at looped
        cases looped
      | ok outcome =>
        obtain ⟨status, middle⟩ := outcome
        rw [decoded] at looped
        obtain ⟨level, place, fewer, spaced⟩ := decodePending_place bounds _ decoded
        have fits : middle.timings.length ≤ window := Nat.le_trans fewer turning.fits
        have decoding : middle.state ≠ .processRepeat := by
          rw [place, state]
          decide
        cases status with
        | ready =>
          obtain ⟨ready, heard, checked, timings, level', understood, refused⟩ := checkReady_outcome bounds middle
          simp only [checked] at looped
          rw [← timings] at fits
          cases ready with
          | true =>
            obtain ⟨count, -⟩ := understood rfl
            have space : oldestLevel heard heard.timings.length = false := by
              rw [timings, oldestLevel_congr level']
              exact spaced rfl
            obtain ⟨turns, level''⟩ := ih ⟨fits, fun _ => ⟨space, count⟩⟩ looped
            exact ⟨turns, level''.trans (level'.trans level)⟩
          | false =>
            rw [if_neg Bool.false_ne_true] at looped
            split at looped
            · cases looped
              refine ⟨.other fits (fun other => ?_), level'.trans level⟩
              cases other
            · cases looped
              exact ⟨.other fits ((refused rfl).1 ▸ decoding), level'.trans level⟩
        | error =>
          obtain ⟨turns, level'⟩ := ih (.reset fits) looped
          exact ⟨turns, level'.trans level⟩
        | ok | done =>
          cases looped
          exact ⟨.other fits decoding, level⟩
    | processRepeat =>
      obtain ⟨spaced, count⟩ := turning.paused state
      simp only [state] at looped
      cases repeats : spec.decodeRepeat with
      | none =>
        rw [repeats] at looped
        cases looped
        exact ⟨turning, rfl⟩
      | some decodeRepeat =>
        rw [repeats] at looped
        rcases bounds.repeats decodeRepeat repeats decoder with ⟨status, decoded, failed | waits⟩ | accepted
        · subst failed
          simp only [decoded] at looped
          obtain ⟨turns, level⟩ := ih (.reset turning.fits) looped
          exact ⟨turns, level⟩
        · obtain ⟨rfl, -⟩ := waits
          simp only [decoded] at looped
          cases looped
          exact ⟨turning, rfl⟩
        · simp only [accepted] at looped
          cases looped
          refine ⟨⟨Nat.zero_le _, fun _ => ⟨?_, count⟩⟩, rfl⟩
          -- the window is even, so a repeat frame ends with the level before it
          have all : decoder.timings.length = window :=
            Nat.le_antisymm turning.fits (whole.full repeats accepted)
          have even := whole.even
          simp only [oldestLevel, List.length_nil, decide_eq_false_iff_not] at spaced ⊢
          omega

theorem Settled.reset (spec : InfraredCommonProtocolSpec) (pwm : Bool) (window : Nat)
    (decoder : InfraredCommonDecoder) : Settled spec pwm window (infraredCommonDecoderReset spec decoder) :=
  ⟨reset_bounded spec pwm window decoder, fun state => nomatch state⟩

theorem Settled.fits (whole : WholeRepeats spec window accepts) {decoder : InfraredCommonDecoder}
    (settled : Settled spec pwm window decoder) : decoder.timings.length + 1 ≤ window := by
  have atLeast := whole.atLeast
  cases state : decoder.state with
  | waitPreamble =>
    have few := settled.waiting state
    omega
  | decode =>
    rw [(settled.decoding state).1, List.length_nil]
    omega
  | processRepeat => exact (settled.repeating state).1

theorem decode_settled (bounds : InBounds spec pwm window noStalls) (whole : WholeRepeats spec window accepts)
    {decoder : InfraredCommonDecoder} (settled : Settled spec pwm window decoder) (level : Bool) (duration : Nat) :
    ∃ message next, infraredCommonDecode spec decoder level duration = .ok (message, next) ∧
      Settled spec pwm window next ∧ next.level = level := by
  obtain ⟨message, next, decoded, bounded⟩ := decode_bounded bounds settled.toBounded level duration
    (fun stalling => Bool.noConfusion stalling.2.2.2.2)
  refine ⟨message, next, decoded, ?_⟩
  rw [infraredCommonDecode] at decoded
  generalize starts : (if decoder.level = level then infraredCommonDecoderReset spec decoder else decoder) =
    start at decoded
  have begun : Settled spec pwm window start ∧ (start.state = .processRepeat → start.level = !level) := by
    rw [← starts]
    split
    · refine ⟨.reset spec pwm window decoder, fun state => ?_⟩
      cases state
    · rename_i other
      exact ⟨settled, fun _ => by revert other; cases decoder.level <;> cases level <;> decide⟩
  obtain ⟨begun, alternates⟩ := begun
  have turning : Turning window { start with level := level, timings := start.timings ++ [duration] } := by
    refine ⟨?_, fun state => ?_⟩
    · rw [List.length_append]
      exact begun.fits whole
    · obtain ⟨spaced, count⟩ := begun.paused state
      have other : start.level = !level := alternates state
      simp only [oldestLevel, other, List.length_append, List.length_singleton, decide_eq_false_iff_not] at spaced ⊢
      cases level
      · simp only [Bool.toNat_false, Bool.not_false, Bool.toNat_true] at spaced ⊢
        omega
      · simp only [Bool.toNat_false, Bool.not_true, Bool.toNat_true] at spaced ⊢
        omega
  split at decoded
  · cases decoded
  · cases looped : decodeLoop spec decodeFuel
        { start with level := level, timings := start.timings ++ [duration] } false with
    | error fault =>
      rw [looped] at decoded
      cases decoded
    | ok outcome =>
      rw [looped] at decoded
      cases decoded
      obtain ⟨turned, same⟩ := decodeLoop_turns bounds whole decodeFuel turning looped
      exact ⟨⟨bounded, turned.paused⟩, same⟩

theorem hear_noise (bounds : InBounds spec pwm window noStalls) (whole : WholeRepeats spec window accepts)
    {decoder : InfraredCommonDecoder} (settled : Settled spec pwm window decoder) (noise : List Sample) :
    ∃ earlier next, Hears spec decoder noise earlier next ∧ Settled spec pwm window next ∧
      next.level = (noise.map Prod.fst).getLastD decoder.level := by
  induction noise generalizing decoder with
  | nil => exact ⟨[], decoder, Hears.nil decoder, settled, rfl⟩
  | cons sample noise ih =>
    obtain ⟨level, duration⟩ := sample
    obtain ⟨message, middle, decoded, settled, heard⟩ := decode_settled bounds whole settled level duration
    obtain ⟨earlier, next, rest, settled, ends⟩ := ih settled
    refine ⟨message.toList ++ earlier, next, (Hears.single decoded).append rest, settled, ?_⟩
    rw [ends, heard, List.map_cons, List.getLastD_cons]

/-- A space that is no part of a preamble or a payload. -/
structure Quiet (spec : InfraredCommonProtocolSpec) (silence : Nat) : Prop where
  preamble : spec.timings.preambleMark ≠ 0
  long : spec.timings.minSplitTime < silence
  other : matchTiming silence spec.timings.preambleSpace spec.timings.preambleTolerance = false
  refused : ∀ decoder, spec.decode spec.toInfraredProtocolTable decoder false silence = (.error, decoder)

/-- A decoder after a space for which the next mark may begin a preamble. -/
structure Seeking (decoder : InfraredCommonDecoder) : Prop where
  state : decoder.state = .waitPreamble
  few : decoder.timings.length ≤ 1
  level : decoder.level = false

theorem loop_seeks (quiet : Quiet spec silence) {decoder : InfraredCommonDecoder} (fuel : Nat) (found : Bool)
    (state : decoder.state = .waitPreamble) (level : decoder.level = false)
    (timings : decoder.timings = [silence] ∨ ∃ mark, decoder.timings = [mark, silence]) :
    ∃ next, decodeLoop spec (fuel + 1) decoder found = .ok (found, next) ∧ Seeking next := by
  have check : infraredCheckPreamble spec decoder = (false, { decoder with timings := [] }) := by
    obtain timings | ⟨mark, timings⟩ := timings
    · simp [infraredCheckPreamble, timings, level, quiet.preamble, findPreamble]
    · simp [infraredCheckPreamble, timings, level, quiet.preamble, findPreamble, oldestLevel_succ, quiet.other]
  refine ⟨{ decoder with timings := [] }, ?_, ⟨state, Nat.zero_le 1, level⟩⟩
  simp only [decodeLoop, check, state, Bool.false_eq_true, if_false]

/-- What comes of the silence: the next mark may begin a preamble, or the silence belongs
to a repeat frame that has begun. -/
def Quieted (spec : InfraredCommonProtocolSpec) (window silence : Nat) (next : InfraredCommonDecoder) : Prop :=
  Seeking next ∨ spec.decodeRepeat.isSome = true ∧ ∃ pending message, pending.length % 2 = 0 ∧
    pending.length + 1 < window ∧ Collecting next (pending ++ [silence]) false message

/-- After a payload of any length. -/
theorem loop_decoding (bounds : InBounds spec pwm window noStalls) (whole : WholeRepeats spec window accepts)
    (quiet : Quiet spec silence) {decoder : InfraredCommonDecoder} (fuel : Nat)
    (state : decoder.state = .decode) (level : decoder.level = false) (timings : decoder.timings = [silence])
    (within : decoder.databitCnt ≤ spec.maxLen) :
    ∃ found next, decodeLoop spec (fuel + 2) decoder false = .ok (found, next) ∧ Quieted spec window silence next := by
  have spaced : oldestLevel decoder (([] : List Nat).length + 1) = false := by
    rw [List.length_nil, oldestLevel_one, level]
  have same : { decoder with timings := [silence] } = decoder := by rw [← timings]
  rw [decodeLoop, state]
  simp only [infraredCommonDecodeBits, timings]
  by_cases complete : foundLength spec.toInfraredProtocolTable decoder.databitCnt = true
  · have ready : decodePending spec decoder [silence] = .ok (.ready, decoder) := by
      rw [decodePending, if_pos ⟨⟨bounds.splits, spaced⟩, quiet.long, complete⟩, same]
    obtain ⟨answered, heard, checked, pending, level', understood, refused⟩ := checkReady_outcome bounds decoder
    rw [timings] at pending
    simp only [ready, checked]
    cases answered with
    | true =>
      obtain ⟨count, place⟩ := understood rfl
      rcases place with ⟨repeating, repeats⟩ | ⟨waiting, -⟩
      · obtain ⟨decodeRepeat, isSome, waits, -⟩ := (whole.decoded repeats).decodes
        have one : heard.timings.length < window := by
          rw [pending]
          exact whole.atLeast
        refine ⟨true, heard, ?_, .inr ⟨repeats, [], heard.message, rfl, whole.atLeast, repeating, pending,
          level'.trans level, count, heard.message.isRepeat, rfl⟩⟩
        simp only [decodeLoop, repeating, isSome, waits heard one, if_true]
      · obtain ⟨next, loop, seeking⟩ := loop_seeks quiet fuel true waiting (level'.trans level) (.inl pending)
        exact ⟨true, next, loop, .inl seeking⟩
    | false =>
      obtain ⟨-, count, unread⟩ := refused rfl
      -- only the longest payload can be complete and not understood
      have longest : spec.maxLen = heard.databitCnt := by
        rcases bounds.interprets decoder complete with read | full | stalled
        · rw [unread complete] at read
          cases read
        · exact full.symm.trans count.symm
        · cases stalled
      have one : heard.timings.length ≤ 1 := Nat.le_of_eq (congrArg List.length pending)
      refine ⟨false, { heard with state := .waitPreamble }, ?_, .inl ⟨rfl, one, level'.trans level⟩⟩
      simp only [Bool.false_eq_true, if_false, if_pos longest]
  · have refused := quiet.refused decoder
    rw [← spaced] at refused
    have failed : decodePending spec decoder [silence] = .ok (.error, decoder) := by
      rw [decodePending, if_neg fun ready => complete ready.2.2, if_neg fun short => short.2.1 quiet.long, refused]
      dsimp only
      rw [if_neg (Nat.not_lt.mpr within), if_pos rfl, same]
    rw [failed]
    obtain ⟨next, loop, seeking⟩ := @loop_seeks spec silence quiet (infraredCommonDecoderResetState spec decoder) fuel
      false rfl level (.inl ((if_neg quiet.preamble).trans timings))
    exact ⟨false, next, loop, .inl seeking⟩

/-- **The silence** takes a decoder to a state in which it looks for a preamble, or it
belongs to a repeat frame that has begun. -/
theorem hear_quiet (bounds : InBounds spec pwm window noStalls) (whole : WholeRepeats spec window accepts)
    (quiet : Quiet spec silence) {decoder : InfraredCommonDecoder} (settled : Settled spec pwm window decoder)
    (level : decoder.level = true) :
    ∃ earlier next, Hears spec decoder [(false, silence)] earlier next ∧ Quieted spec window silence next := by
  have alternates : decoder.level ≠ false := by
    rw [level]
    decide
  cases state : decoder.state with
  | waitPreamble =>
    have pending : ∃ timings, decoder.timings ++ [silence] = timings ∧
        (timings = [silence] ∨ ∃ mark, timings = [mark, silence]) := by
      have few := settled.waiting state
      match decoder.timings, few with
      | [], _ => exact ⟨_, rfl, .inl rfl⟩
      | [mark], _ => exact ⟨_, rfl, .inr ⟨mark, rfl⟩⟩
    obtain ⟨timings, joined, known⟩ := pending
    obtain ⟨next, loop, seeking⟩ := @loop_seeks spec silence quiet
      { decoder with level := false, timings := timings } 23 false state rfl known
    exact ⟨_, next, Hears.ofLoop (if_neg alternates) (settled.toBounded.room bounds) (by rw [joined]) loop, .inl seeking⟩
  | decode =>
    have empty := (settled.decoding state).1
    obtain ⟨found, next, loop, quieted⟩ := @loop_decoding spec pwm window silence accepts bounds whole quiet
      { decoder with level := false, timings := [silence] } 22 state rfl rfl settled.within
    exact ⟨_, next, Hears.ofLoop (if_neg alternates) (settled.toBounded.room bounds) (by rw [empty]; rfl) loop, quieted⟩
  | processRepeat =>
    obtain ⟨spaced, count⟩ := settled.paused state
    obtain ⟨room, repeats⟩ := settled.repeating state
    have even := whole.even
    have pairs : decoder.timings.length % 2 = 0 := by
      simp only [oldestLevel, level, Bool.toNat_true, decide_eq_false_iff_not] at spaced
      omega
    have collecting : Collecting decoder decoder.timings true decoder.message :=
      ⟨state, rfl, level, count, decoder.message.isRepeat, rfl⟩
    obtain ⟨next, heard, collecting⟩ := collecting.more (whole.decoded repeats) silence (by omega)
    exact ⟨[], next, heard, .inr ⟨repeats, _, _, pairs, by omega, collecting⟩⟩

end Xtreme.Infrared
