import Xtreme.Infrared.Dispatch

/-! How much the common decoder can pile up: the pending timings and the payload
bits stay within their arrays whatever is fed to it.

Between two calls a decoder in `WaitPreamble` keeps at most one timing, one in
`Decode` none and one in `ProcessRepeat` fewer than its repeat frame has
(`Bounded`). Within a call the loop consumes timings in every round but those
that only change the state, which `rank` counts. One thing can go wrong: a
payload that is complete but not understood, of a length that is not the
longest one, leaves the decoder where it is with the timing still pending. Only
Pioneer has such payloads (`pioneerStalls`). -/
namespace Xtreme.Infrared
open Xtreme.Library

/-- The parts of a decoder that the functions of a protocol leave alone. -/
def SamePlace (next decoder : InfraredCommonDecoder) : Prop :=
  next.timings = decoder.timings ∧ next.state = decoder.state ∧ next.level = decoder.level

/-- What the common decoder needs of a protocol to stay in bounds. `pwm` says
that marks carry bits, `window` is the length of a repeat frame, and `stalls`
are the payloads that are complete but not understood. -/
structure InBounds (spec : InfraredCommonProtocolSpec) (pwm : Bool) (window : Nat)
    (stalls : Nat → BitVec 64 → Bool) : Prop where
  splits : spec.timings.minSplitTime ≠ 0
  longest : foundLength spec.toInfraredProtocolTable spec.maxLen = true
  /-- No payload fits into the timings that can be pending. -/
  long : ∀ count, foundLength spec.toInfraredProtocolTable count = true → 2 * timingsSize ≤ count
  decodeFrame : ∀ decoder level timing,
    SamePlace (spec.decode spec.toInfraredProtocolTable decoder level timing).2 decoder
  decodeGrowth : ∀ decoder level timing,
    (spec.decode spec.toInfraredProtocolTable decoder level timing).2.databitCnt ≤ decoder.databitCnt + 2
  decodeWithin : ∀ decoder level timing, decoder.databitCnt ≤ spec.maxLen →
    (decoder.databitCnt = spec.maxLen → level = true ∧ pwm = false) →
    (spec.decode spec.toInfraredProtocolTable decoder level timing).2.databitCnt ≤ spec.maxLen
  decodePwm : ∀ decoder level timing, pwm = true → decoder.databitCnt < spec.maxLen →
    (spec.decode spec.toInfraredProtocolTable decoder level timing).2.databitCnt = spec.maxLen →
    level = true
  interpretFrame : ∀ decoder, SamePlace (spec.interpret spec.toInfraredProtocolTable decoder).2 decoder ∧
    (spec.interpret spec.toInfraredProtocolTable decoder).2.databitCnt = decoder.databitCnt
  interprets : ∀ decoder, foundLength spec.toInfraredProtocolTable decoder.databitCnt = true →
    (spec.interpret spec.toInfraredProtocolTable decoder).1 = true ∨
      decoder.databitCnt = spec.maxLen ∨ stalls decoder.databitCnt decoder.data = true
  repeats : ∀ decodeRepeat, spec.decodeRepeat = some decodeRepeat → ∀ decoder,
    (∃ status, decodeRepeat spec.toInfraredProtocolTable decoder = (status, decoder) ∧
      (status = .error ∨ status = .ok ∧ decoder.timings.length < window)) ∨
    decodeRepeat spec.toInfraredProtocolTable decoder = (.ready, { decoder with timings := [] })
  noRepeats : spec.timings.preambleMark = 0 → spec.decodeRepeat = none
  windowFits : window ≤ timingsSize
  windowOpens : 1 < window

variable {spec : InfraredCommonProtocolSpec} {pwm : Bool} {window : Nat}
  {stalls : Nat → BitVec 64 → Bool}

/-- A single pending timing may be a long space at the end of a payload, unless
that payload stalls; several pending timings are too few for any payload. -/
def NoStall (spec : InfraredCommonProtocolSpec) (stalls : Nat → BitVec 64 → Bool)
    (decoder : InfraredCommonDecoder) (pending : List Nat) : Prop :=
  (pending.length ≤ 1 ∧ ∀ timing ∈ pending, decoder.level = false →
      spec.timings.minSplitTime < timing → stalls decoder.databitCnt decoder.data = false) ∨
    decoder.databitCnt + 2 * pending.length ≤ 2 * timingsSize

/-- With marks that carry bits, a space comes next after the last bit. -/
def SpaceNext (spec : InfraredCommonProtocolSpec) (pwm : Bool) (decoder : InfraredCommonDecoder)
    (count : Nat) : Prop :=
  pwm = true → decoder.databitCnt = spec.maxLen → oldestLevel decoder count = false

/-- What `infrared_common_decode_bits` leaves of `pending` timings. -/
def BitsOutcome (spec : InfraredCommonProtocolSpec) (pwm : Bool) (stalls : Nat → BitVec 64 → Bool)
    (pending : Nat) : InfraredStatus → InfraredCommonDecoder → Prop
  | .ok, decoder => decoder.timings = [] ∧ SpaceNext spec pwm decoder 0
  | .ready, decoder => 1 ≤ pending ∧ decoder.timings.length = 1 ∧ decoder.level = false ∧
      foundLength spec.toInfraredProtocolTable decoder.databitCnt = true ∧
      stalls decoder.databitCnt decoder.data = false
  | .error, decoder => decoder.timings ≠ [] ∧ decoder.timings.length ≤ pending
  | .done, _ => False

variable {decoder : InfraredCommonDecoder}

theorem BitsOutcome.mono {status : InfraredStatus}
    {pending pending' : Nat} (outcome : BitsOutcome spec pwm stalls pending status decoder) (more : pending ≤ pending') :
    BitsOutcome spec pwm stalls pending' status decoder := by
  cases status with
  | error => exact ⟨outcome.1, Nat.le_trans outcome.2 more⟩
  | ok => exact outcome
  | done => exact outcome
  | ready => exact ⟨Nat.le_trans outcome.1 more, outcome.2⟩

/-- Consuming the pending timings never trips the check on the payload. -/
theorem decodePending_outcome (bounds : InBounds spec pwm window stalls) (pending : List Nat)
    (within : decoder.databitCnt ≤ spec.maxLen) (space : SpaceNext spec pwm decoder pending.length)
    (noStall : NoStall spec stalls decoder pending) :
    ∃ status next, decodePending spec decoder pending = .ok (status, next) ∧
      next.databitCnt ≤ spec.maxLen ∧ next.level = decoder.level ∧ next.state = decoder.state ∧
      BitsOutcome spec pwm stalls pending.length status next := by
  induction pending generalizing decoder with
  | nil => exact ⟨.ok, _, rfl, within, rfl, rfl, rfl, space⟩
  | cons timing rest ih =>
    rw [decodePending]
    split
    · -- a long space after a complete payload
      rename_i ready
      obtain ⟨⟨_, low⟩, exceeds, found⟩ := ready
      have enough := bounds.long _ found
      rcases noStall with ⟨one, clear⟩ | few
      · obtain rfl : rest = [] := List.eq_nil_of_length_eq_zero (by
          simp only [List.length_cons] at one
          omega)
        have level : decoder.level = false := by simpa using low
        exact ⟨.ready, _, rfl, within, rfl, rfl, Nat.le_refl 1, rfl, level, found, clear timing (by simp) level exceeds⟩
      · simp only [List.length_cons] at few
        omega
    · rename_i notReady
      split
      · exact ⟨.error, _, rfl, within, rfl, rfl, by simp, by simp⟩
      · rename_i notShort
        -- what is left: a mark, or a space before the payload is complete
        have blocked : decoder.databitCnt = spec.maxLen →
            oldestLevel decoder (rest.length + 1) = true ∧ pwm = false := by
          intro full
          have mark : oldestLevel decoder (rest.length + 1) = true := by
            by_contra low
            have low : oldestLevel decoder (rest.length + 1) = false := by simpa using low
            by_cases exceeds : spec.timings.minSplitTime < timing
            · exact notReady ⟨⟨bounds.splits, low⟩, exceeds, by rw [full]; exact bounds.longest⟩
            · exact notShort ⟨⟨bounds.splits, low⟩, exceeds, full.symm⟩
          refine ⟨mark, ?_⟩
          by_contra marks
          have low := space (by simpa using marks) full
          rw [List.length_cons, mark] at low
          exact Bool.noConfusion low
        have frame := bounds.decodeFrame decoder (oldestLevel decoder (rest.length + 1)) timing
        have growth := bounds.decodeGrowth decoder (oldestLevel decoder (rest.length + 1)) timing
        have kept := bounds.decodeWithin decoder (oldestLevel decoder (rest.length + 1)) timing within blocked
        have byMark := bounds.decodePwm decoder (oldestLevel decoder (rest.length + 1)) timing
        generalize spec.decode spec.toInfraredProtocolTable decoder
          (oldestLevel decoder (rest.length + 1)) timing = result at frame growth kept byMark ⊢
        obtain ⟨status, next⟩ := result
        dsimp only at frame growth kept byMark ⊢
        obtain ⟨_, sameState, sameLevel⟩ := frame
        rw [if_neg (by omega)]
        split
        · exact ⟨.error, _, rfl, kept, sameLevel, sameState, by simp, by simp⟩
        · rw [if_neg (fun ready => bounds.splits ready.2.2)]
          have spaceNext : SpaceNext spec pwm next rest.length := by
            intro marks full
            have before : decoder.databitCnt < spec.maxLen := by
              refine Nat.lt_of_le_of_ne within fun already => ?_
              rw [(blocked already).2] at marks
              exact Bool.noConfusion marks
            have mark := byMark marks before full
            rw [oldestLevel_succ, ← oldestLevel_congr sameLevel] at mark
            simpa using mark
          have noStallNext : NoStall spec stalls next rest := by
            rcases noStall with ⟨one, _⟩ | few
            · obtain rfl : rest = [] := List.eq_nil_of_length_eq_zero (by
                simp only [List.length_cons] at one
                omega)
              exact Or.inl ⟨by simp, by simp⟩
            · simp only [List.length_cons] at few
              exact Or.inr (by omega)
          obtain ⟨status, final, decoded, kept, level, state, outcome⟩ :=
            ih kept spaceNext noStallNext
          exact ⟨status, final, decoded, kept, level.trans sameLevel, state.trans sameState, outcome.mono (by simp)⟩

/-! ## The loop of one call -/

theorem findPreamble_length (timings : InfraredTimings) (pending : List Nat) :
    ((findPreamble timings pending).1 = true → (findPreamble timings pending).2.length + 2 ≤ pending.length) ∧
      ((findPreamble timings pending).1 = false → (findPreamble timings pending).2.length ≤ 1) := by
  fun_induction findPreamble timings pending with
  | case1 mark space rest matched => simp
  | case2 mark space rest unmatched ih =>
    refine ⟨fun found => ?_, ih.2⟩
    have := ih.1 found
    simp only [List.length_cons]
    omega
  | case3 pending short =>
    rcases pending with _ | ⟨mark, _ | ⟨space, rest⟩⟩
    · simp
    · simp
    · exact absurd rfl (short mark space rest)

/-- A search for a preamble consumes at least the preamble, or all but one
timing. A protocol without preamble only drops a leading space. -/
theorem checkPreamble_outcome (spec : InfraredCommonProtocolSpec) (decoder : InfraredCommonDecoder) :
    ∃ found pending, infraredCheckPreamble spec decoder =
        (found, { decoder with timings := pending }) ∧
      (found = false → pending.length ≤ 1) ∧
      (found = true → spec.timings.preambleMark ≠ 0 → pending.length + 2 ≤ decoder.timings.length) ∧
      (found = true → spec.timings.preambleMark = 0 → decoder.timings ≠ [] ∧
        pending = if oldestLevel decoder decoder.timings.length then decoder.timings
          else decoder.timings.tail) := by
  unfold infraredCheckPreamble
  by_cases empty : decoder.timings = []
  · rw [if_pos empty]
    refine ⟨false, decoder.timings, rfl, fun _ => by simp [empty], ?_, ?_⟩ <;>
      exact fun found => Bool.noConfusion found
  rw [if_neg empty]
  by_cases noPreamble : spec.timings.preambleMark = 0
  · simp only [if_pos noPreamble]
    exact ⟨true, _, rfl, fun found => Bool.noConfusion found, fun _ some => absurd noPreamble some,
      fun _ _ => ⟨empty, rfl⟩⟩
  · simp only [if_neg noPreamble]
    have lengths := findPreamble_length spec.timings
      (if oldestLevel decoder decoder.timings.length then decoder.timings else decoder.timings.tail)
    have shorter : (if oldestLevel decoder decoder.timings.length then decoder.timings
        else decoder.timings.tail).length ≤ decoder.timings.length := by
      split <;> simp
    exact ⟨_, _, rfl, lengths.2, fun found _ => Nat.le_trans (lengths.1 found) shorter,
      fun _ none => absurd none noPreamble⟩

/-- What holds whenever the loop comes round. -/
structure LoopReady (spec : InfraredCommonProtocolSpec) (pwm : Bool)
    (stalls : Nat → BitVec 64 → Bool) (decoder : InfraredCommonDecoder) : Prop where
  within : decoder.databitCnt ≤ spec.maxLen
  fits : decoder.timings.length ≤ timingsSize
  decoding : decoder.state = .decode → SpaceNext spec pwm decoder decoder.timings.length ∧
    NoStall spec stalls decoder decoder.timings
  repeating : decoder.state = .processRepeat → spec.decodeRepeat.isSome = true

/-- What holds between two calls. -/
structure Bounded (spec : InfraredCommonProtocolSpec) (pwm : Bool) (window : Nat)
    (decoder : InfraredCommonDecoder) : Prop where
  within : decoder.databitCnt ≤ spec.maxLen
  waiting : decoder.state = .waitPreamble → decoder.timings.length ≤ 1
  decoding : decoder.state = .decode → decoder.timings = [] ∧ SpaceNext spec pwm decoder 0
  repeating : decoder.state = .processRepeat → decoder.timings.length < window ∧ spec.decodeRepeat.isSome = true

/-- Every round of the loop lowers the rank. Without a preamble, waiting with a
mark in front starts a payload and consumes nothing. -/
def rank (spec : InfraredCommonProtocolSpec) (decoder : InfraredCommonDecoder) : Nat :=
  let pending := decoder.timings.length
  match decoder.state with
  | .waitPreamble =>
    if spec.timings.preambleMark = 0 ∧ oldestLevel decoder pending = true then 3 * pending + 2
    else 3 * pending
  | .decode => if spec.timings.preambleMark = 0 then 3 * pending + 1 else 3 * pending + 2
  | .processRepeat => 3 * pending + 1

theorem rank_waiting_le (spec : InfraredCommonProtocolSpec) (decoder : InfraredCommonDecoder)
    (waiting : decoder.state = .waitPreamble) : rank spec decoder ≤ 3 * decoder.timings.length + 2 := by
  simp only [rank, waiting]
  split <;> omega

theorem rank_lt_fuel (fits : decoder.timings.length ≤ timingsSize) :
    rank spec decoder < decodeFuel := by
  have fits : decoder.timings.length ≤ 6 := fits
  unfold rank decodeFuel
  dsimp only
  split
  · split <;> omega
  · split <;> omega
  · omega

/-- Starting over after an error. -/
theorem resetState_ready (decoder : InfraredCommonDecoder) (fits : decoder.timings.length ≤ timingsSize) :
    LoopReady spec pwm stalls (infraredCommonDecoderResetState spec decoder) where
  within := Nat.zero_le _
  fits := by
    unfold infraredCommonDecoderResetState
    split
    · simp only [List.length_tail]
      omega
    · exact fits
  decoding := fun state => by cases state
  repeating := fun state => by cases state

theorem resetState_rank (spec : InfraredCommonProtocolSpec) (decoder : InfraredCommonDecoder)
    (pending : spec.timings.preambleMark = 0 → decoder.timings ≠ []) :
    rank spec (infraredCommonDecoderResetState spec decoder) < 3 * decoder.timings.length + 1 := by
  by_cases noPreamble : spec.timings.preambleMark = 0
  · have positive := List.length_pos_iff.mpr (pending noPreamble)
    have shorter : (infraredCommonDecoderResetState spec decoder).timings = decoder.timings.tail := by
      simp only [infraredCommonDecoderResetState, if_pos noPreamble]
    have bound := rank_waiting_le spec (infraredCommonDecoderResetState spec decoder) rfl
    rw [shorter, List.length_tail] at bound
    omega
  · have same : (infraredCommonDecoderResetState spec decoder).timings = decoder.timings := by
      simp only [infraredCommonDecoderResetState, if_neg noPreamble]
    have waiting : (infraredCommonDecoderResetState spec decoder).state = .waitPreamble := rfl
    simp only [rank, waiting, same]
    rw [if_neg (fun none => noPreamble none.1)]
    omega

variable (bounds : InBounds spec pwm window stalls)
include bounds

theorem checkReady_outcome (decoder : InfraredCommonDecoder) :
    ∃ ready next, infraredCommonDecoderCheckReady spec decoder = (ready, next) ∧
      next.timings = decoder.timings ∧ next.level = decoder.level ∧
      (ready = true → next.databitCnt = 0 ∧ (next.state = .processRepeat ∧ spec.decodeRepeat.isSome = true ∨
          next.state = .waitPreamble ∧ spec.decodeRepeat.isSome = false)) ∧
      (ready = false → next.state = decoder.state ∧ next.databitCnt = decoder.databitCnt ∧
        (foundLength spec.toInfraredProtocolTable decoder.databitCnt = true →
          (spec.interpret spec.toInfraredProtocolTable decoder).1 = false)) := by
  unfold infraredCommonDecoderCheckReady
  have frame := bounds.interpretFrame decoder
  by_cases found : foundLength spec.toInfraredProtocolTable decoder.databitCnt = true
  · rw [if_pos found]
    generalize spec.interpret spec.toInfraredProtocolTable decoder = result at frame ⊢
    obtain ⟨interpreted, next⟩ := result
    obtain ⟨⟨timings, state, level⟩, count⟩ := frame
    cases interpreted with
    | true =>
      refine ⟨true, _, rfl, timings, level, fun _ => ⟨rfl, ?_⟩, fun ready => Bool.noConfusion ready⟩
      split
      · rename_i some
        exact Or.inl ⟨rfl, some⟩
      · rename_i none
        exact Or.inr ⟨rfl, by simpa using none⟩
    | false =>
      exact ⟨false, _, rfl, timings, level, fun ready => Bool.noConfusion ready,
        fun _ => ⟨state, count, fun _ => rfl⟩⟩
  · rw [if_neg found]
    exact ⟨false, _, rfl, rfl, rfl, fun ready => Bool.noConfusion ready,
      fun _ => ⟨rfl, rfl, fun other => absurd other found⟩⟩

/-- **The loop ends** without a fault and leaves the decoder within its bounds. -/
theorem decodeLoop_ends (fuel : Nat) :
    ∀ (decoder : InfraredCommonDecoder) (found : Bool), LoopReady spec pwm stalls decoder →
      rank spec decoder < fuel →
      ∃ answer next, decodeLoop spec fuel decoder found = .ok (answer, next) ∧
        Bounded spec pwm window next ∧ next.level = decoder.level := by
  induction fuel with
  | zero => exact fun _ _ _ none => absurd none (Nat.not_lt_zero _)
  | succ fuel ih =>
    intro decoder found ready enough
    have pendingFits := ready.fits
    rw [decodeLoop]
    cases state : decoder.state with
    | waitPreamble =>
      obtain ⟨preamble, pending, checked, missed, consumed, dropped⟩ :=
        checkPreamble_outcome spec decoder
      rw [checked]
      cases preamble with
      | false =>
        refine ⟨found, _, rfl, ⟨ready.within, fun _ => missed rfl, ?_, ?_⟩, rfl⟩ <;>
          · intro other
            rw [state] at other
            cases other
      | true =>
        have shorter : pending.length ≤ decoder.timings.length := by
          by_cases noPreamble : spec.timings.preambleMark = 0
          · rw [(dropped rfl noPreamble).2]
            split <;> simp
          · have := consumed rfl noPreamble
            omega
        refine ih _ found ⟨Nat.zero_le _, Nat.le_trans shorter pendingFits, fun _ => ⟨?_, ?_⟩,
          fun other => by cases other⟩ ?_
        · intro _ full
          have := bounds.long _ bounds.longest
          simp only [← full, timingsSize] at this
          omega
        · refine Or.inr ?_
          simp only [timingsSize] at pendingFits ⊢
          omega
        · simp only [rank, state] at enough ⊢
          by_cases noPreamble : spec.timings.preambleMark = 0
          · obtain ⟨some, left⟩ := dropped rfl noPreamble
            have positive := List.length_pos_iff.mpr some
            rw [if_pos noPreamble]
            by_cases mark : oldestLevel decoder decoder.timings.length = true
            · rw [if_pos ⟨noPreamble, mark⟩] at enough
              omega
            · rw [if_neg mark] at left
              rw [if_neg (fun both => mark both.2)] at enough
              rw [left, List.length_tail]
              omega
          · have := consumed rfl noPreamble
            rw [if_neg noPreamble]
            rw [if_neg (fun both => noPreamble both.1)] at enough
            omega
    | decode =>
      obtain ⟨space, noStall⟩ := ready.decoding state
      obtain ⟨status, next, decoded, within, level, sameState, outcome⟩ :=
        decodePending_outcome bounds decoder.timings ready.within space noStall
      rw [infraredCommonDecodeBits, decoded]
      have rankHere : 3 * decoder.timings.length + 1 ≤ rank spec decoder := by
        simp only [rank, state]
        split <;> omega
      cases status with
      | done => exact outcome.elim
      | ok =>
        refine ⟨found, next, rfl, ⟨within, ?_, fun _ => outcome, ?_⟩, level⟩ <;>
          · intro other
            rw [sameState, state] at other
            cases other
      | error =>
        obtain ⟨some, fewer⟩ := outcome
        have bound := resetState_rank spec next (fun _ => some)
        obtain ⟨answer, final, looped, bounded, level'⟩ := ih (infraredCommonDecoderResetState spec next) found
          (resetState_ready next (Nat.le_trans fewer pendingFits)) (by omega)
        exact ⟨answer, final, looped, bounded, level'.trans level⟩
      | ready =>
        obtain ⟨some, one, low, complete, clear⟩ := outcome
        obtain ⟨answered, final, checked, timings, sameLevel, understood, refused⟩ :=
          checkReady_outcome bounds next
        dsimp only
        rw [checked]
        cases answered with
        | true =>
          obtain ⟨cleared, place⟩ := understood rfl
          have readyAgain : LoopReady spec pwm stalls final := by
            refine ⟨by omega, by rw [timings, one]; decide, ?_, ?_⟩
            · intro other
              rcases place with ⟨repeating, _⟩ | ⟨waiting, _⟩
              · rw [repeating] at other
                cases other
              · rw [waiting] at other
                cases other
            · intro other
              rcases place with ⟨_, repeats⟩ | ⟨waiting, _⟩
              · exact repeats
              · rw [waiting] at other
                cases other
          have lower : rank spec final < fuel := by
            have space : oldestLevel final final.timings.length = false := by
              rw [timings, one, oldestLevel_one, sameLevel, low]
            rcases place with ⟨repeating, repeats⟩ | ⟨waiting, _⟩
            · have preamble : spec.timings.preambleMark ≠ 0 := fun none => by
                rw [bounds.noRepeats none] at repeats
                exact Bool.noConfusion repeats
              simp only [rank, state, if_neg preamble] at enough
              simp only [rank, repeating, timings]
              omega
            · simp only [rank, waiting, timings] at space ⊢
              rw [if_neg (fun both => by rw [both.2] at space; exact Bool.noConfusion space)]
              omega
          obtain ⟨answer, last, looped, bounded, level'⟩ := ih final true readyAgain lower
          exact ⟨answer, last, looped, bounded, level'.trans (sameLevel.trans level)⟩
        | false =>
          obtain ⟨stays, count, uninterpreted⟩ := refused rfl
          -- not understood and not stalled: it was the longest payload
          have longest : spec.maxLen = final.databitCnt := by
            rcases bounds.interprets next complete with read | full | stalled
            · rw [uninterpreted complete] at read
              exact Bool.noConfusion read
            · rw [count, full]
            · rw [clear] at stalled
              exact Bool.noConfusion stalled
          rw [if_pos longest]
          refine ⟨false, _, rfl, ⟨by rw [count]; exact within, fun _ => ?_, ?_, ?_⟩, sameLevel.trans level⟩
          · simp only [timings, one, Nat.le_refl]
          · exact fun other => by cases other
          · exact fun other => by cases other
    | processRepeat =>
      obtain ⟨decodeRepeat, repeats⟩ := Option.isSome_iff_exists.mp (ready.repeating state)
      have preamble : spec.timings.preambleMark ≠ 0 := fun none => by
        rw [bounds.noRepeats none] at repeats
        cases repeats
      simp only [rank, state] at enough
      rw [repeats]
      dsimp only
      rcases bounds.repeats decodeRepeat repeats decoder with ⟨status, decoded, failed | waits⟩ | decoded
      · subst failed
        rw [decoded]
        have bound := resetState_rank spec decoder (fun none => absurd none preamble)
        obtain ⟨answer, final, looped, bounded, level'⟩ := ih (infraredCommonDecoderResetState spec decoder) found
          (resetState_ready decoder pendingFits) (by omega)
        exact ⟨answer, final, looped, bounded, level'⟩
      · obtain ⟨rfl, short⟩ := waits
        rw [decoded]
        refine ⟨found, decoder, rfl, ⟨ready.within, ?_, ?_, fun _ => ⟨short, ready.repeating state⟩⟩, rfl⟩ <;>
          · intro other
            rw [state] at other
            cases other
      · rw [decoded]
        refine ⟨true, _, rfl, ⟨ready.within, ?_, ?_,
          fun _ => ⟨Nat.lt_of_succ_lt bounds.windowOpens, ready.repeating state⟩⟩, rfl⟩ <;>
          · intro other
            rw [state] at other
            cases other

omit bounds

/-- The call that makes a payload stall: a long space right after it. -/
def StallingCall (spec : InfraredCommonProtocolSpec) (stalls : Nat → BitVec 64 → Bool)
    (decoder : InfraredCommonDecoder) : DecoderCall → Prop
  | .sample level duration =>
    decoder.state = .decode ∧ decoder.level = true ∧ level = false ∧
      spec.timings.minSplitTime < duration ∧ stalls decoder.databitCnt decoder.data = true
  | .checkReady => False

theorem Bounded.room (bounds : InBounds spec pwm window stalls) (bounded : Bounded spec pwm window decoder) :
    decoder.timings.length < timingsSize := by
  have fits := bounds.windowFits
  simp only [timingsSize] at fits ⊢
  cases state : decoder.state with
  | waitPreamble =>
    have := bounded.waiting state
    omega
  | decode =>
    simp [(bounded.decoding state).1]
  | processRepeat =>
    have := (bounded.repeating state).1
    omega

theorem reset_bounded (spec : InfraredCommonProtocolSpec) (pwm : Bool) (window : Nat)
    (decoder : InfraredCommonDecoder) :
    Bounded spec pwm window (infraredCommonDecoderReset spec decoder) where
  within := Nat.zero_le _
  waiting _ := Nat.zero_le _
  decoding state := by cases state
  repeating state := by cases state

include bounds

theorem decode_bounded (bounded : Bounded spec pwm window decoder) (level : Bool) (duration : Nat)
    (clear : ¬ StallingCall spec stalls decoder (.sample level duration)) :
    ∃ message next, infraredCommonDecode spec decoder level duration = .ok (message, next) ∧
      Bounded spec pwm window next := by
  rw [infraredCommonDecode]
  have start : ∃ ready, (if decoder.level = level then infraredCommonDecoderReset spec decoder
      else decoder) = ready ∧ Bounded spec pwm window ready ∧
      (ready.state = .decode → ready.level ≠ level ∧ (level = false → spec.timings.minSplitTime < duration →
          stalls ready.databitCnt ready.data = false)) := by
    split
    · exact ⟨_, rfl, reset_bounded spec pwm window decoder, fun state => by cases state⟩
    · rename_i other
      refine ⟨_, rfl, bounded, fun state => ⟨other, fun low exceeds => ?_⟩⟩
      by_contra stalled
      refine clear ⟨state, ?_, low, exceeds, by simpa using stalled⟩
      subst low
      simpa using other
  obtain ⟨ready, started, bounded, noStall⟩ := start
  rw [started]
  rw [if_neg (Nat.not_le.mpr (bounded.room bounds))]
  have loopReady : LoopReady spec pwm stalls
      { ready with level := level, timings := ready.timings ++ [duration] } := by
    refine ⟨bounded.within, ?_, fun state => ?_, fun state => (bounded.repeating state).2⟩
    · have := bounded.room bounds
      simp only [List.length_append, List.length_singleton]
      omega
    · obtain ⟨empty, space⟩ := bounded.decoding state
      obtain ⟨other, clear⟩ := noStall state
      constructor
      · intro marks full
        have mark := space marks full
        simp only [empty, List.nil_append, List.length_singleton, oldestLevel_one]
        cases level with
        | false => rfl
        | true => exact absurd (by simpa using mark) other
      · refine Or.inl ⟨by simp [empty], ?_⟩
        intro timing pending low exceeds
        obtain rfl : timing = duration := by simpa [empty] using pending
        exact clear low exceeds
  obtain ⟨answer, next, looped, bounded, _⟩ := decodeLoop_ends bounds decodeFuel _ false loopReady
    (rank_lt_fuel loopReady.fits)
  rw [looped]
  exact ⟨_, next, rfl, bounded⟩

theorem checkReady_bounded (bounded : Bounded spec pwm window decoder) :
    Bounded spec pwm window (infraredCommonDecoderCheckReady spec decoder).2 := by
  obtain ⟨ready, next, checked, timings, level, understood, refused⟩ :=
    checkReady_outcome bounds decoder
  rw [checked]
  cases ready with
  | true =>
    obtain ⟨cleared, place⟩ := understood rfl
    have opens := bounds.windowOpens
    refine ⟨by simp [cleared], fun waiting => ?_, fun decoding => ?_, fun repeating => ?_⟩
    · rw [timings]
      rcases place with ⟨other, _⟩ | ⟨_, none⟩
      · rw [other] at waiting
        cases waiting
      · cases state : decoder.state with
        | waitPreamble => exact bounded.waiting state
        | decode => simp [(bounded.decoding state).1]
        | processRepeat =>
          rw [(bounded.repeating state).2] at none
          exact Bool.noConfusion none
    · rcases place with ⟨other, _⟩ | ⟨other, _⟩ <;>
        · rw [other] at decoding
          cases decoding
    · rw [timings]
      rcases place with ⟨_, some⟩ | ⟨other, _⟩
      · refine ⟨?_, some⟩
        cases state : decoder.state with
        | waitPreamble =>
          have := bounded.waiting state
          omega
        | decode =>
          rw [(bounded.decoding state).1]
          exact Nat.lt_of_succ_lt opens
        | processRepeat => exact (bounded.repeating state).1
      · rw [other] at repeating
        cases repeating
  | false =>
    obtain ⟨stays, count, _⟩ := refused rfl
    refine ⟨by simpa [count] using bounded.within, ?_, ?_, ?_⟩
    · intro state
      simpa [timings] using bounded.waiting (stays ▸ state)
    · intro state
      obtain ⟨empty, space⟩ := bounded.decoding (stays ▸ state)
      exact ⟨timings.trans empty, fun marks full => by
        rw [oldestLevel_congr level]
        exact space marks (count.symm.trans full)⟩
    · intro state
      simpa [timings] using bounded.repeating (stays ▸ state)

omit bounds

/-! ## The protocols -/

theorem accumulateLsb_place (decoder : InfraredCommonDecoder) (bit : Bool) :
    SamePlace (accumulateLsb decoder bit) decoder := ⟨rfl, rfl, rfl⟩

@[simp] theorem accumulateLsb_databitCnt (decoder : InfraredCommonDecoder) (bit : Bool) :
    (accumulateLsb decoder bit).databitCnt = decoder.databitCnt + 1 := rfl

/-- A pulse protocol reads at most one bit of a timing, and knows from its level
whether it carries one. -/
theorem decodePdwm_outcome (table : InfraredProtocolTable) (decoder : InfraredCommonDecoder)
    (level : Bool) (timing : Nat) :
    (∃ bit, infraredCommonDecodePdwm table decoder level timing = (.ok, accumulateLsb decoder bit) ∧
        level ≠ decide (table.timings.bit1Mark = table.timings.bit0Mark)) ∨
      ∃ status, infraredCommonDecodePdwm table decoder level timing = (status, decoder) := by
  unfold infraredCommonDecodePdwm
  dsimp only
  generalize (if level = true then table.timings.bit1Mark else table.timings.bit1Space) = bit1
  generalize (if level = true then table.timings.bit0Mark else table.timings.bit0Space) = bit0
  generalize (if table.timings.bit1Mark = table.timings.bit0Mark then table.timings.bit1Mark
    else table.timings.bit1Space) = noInfoTiming
  split
  · rename_i analyzed
    have carries : level ≠ decide (table.timings.bit1Mark = table.timings.bit0Mark) := by
      simpa using analyzed
    split
    · exact Or.inl ⟨true, rfl, carries⟩
    · split
      · exact Or.inl ⟨false, rfl, carries⟩
      · exact Or.inr ⟨.error, rfl⟩
  · split
    · exact Or.inr ⟨.ok, rfl⟩
    · exact Or.inr ⟨.error, rfl⟩

/-- What a Manchester step does to the payload counter: it never passes the longest payload. -/
theorem decodeManchester_outcome (table : InfraredProtocolTable) (decoder : InfraredCommonDecoder)
    (level : Bool) (timing : Nat) (room : 0 < table.maxLen) :
    SamePlace (infraredCommonDecodeManchester table decoder level timing).2 decoder ∧
      (infraredCommonDecodeManchester table decoder level timing).2.databitCnt ≤ decoder.databitCnt + 2 ∧
      (decoder.databitCnt ≤ table.maxLen →
        (infraredCommonDecodeManchester table decoder level timing).2.databitCnt ≤ table.maxLen) := by
  unfold infraredCommonDecodeManchester
  dsimp only
  have start : ∃ ready, (if table.manchesterStartFromSpace ∧ decoder.databitCnt = 0 then
      accumulateLsb { decoder with switchDetect := true } false else decoder) = ready ∧
      SamePlace ready decoder ∧ ready.databitCnt ≤ decoder.databitCnt + 1 ∧
      (decoder.databitCnt ≤ table.maxLen → ready.databitCnt ≤ table.maxLen) := by
    split
    · rename_i fake
      exact ⟨_, rfl, accumulateLsb_place _ _, by simp, fun _ => by simp [fake.2]; omega⟩
    · exact ⟨_, rfl, ⟨rfl, rfl, rfl⟩, by omega, id⟩
  obtain ⟨ready, started, place, growth, within⟩ := start
  rw [started]
  generalize (if ready.switchDetect = false then true else
    if matchTiming timing table.timings.bit1Mark table.timings.bitTolerance = true then false
    else true) = switchDetect
  split
  · exact ⟨⟨rfl, rfl, rfl⟩, by simp, id⟩
  · split
    · exact ⟨place, Nat.le_succ_of_le growth, within⟩
    · split
      · split
        · exact ⟨place, Nat.le_succ_of_le growth, within⟩
        · refine ⟨place, Nat.succ_le_succ growth, fun fits => ?_⟩
          simp only [accumulateLsb_databitCnt]
          omega
      · exact ⟨place, Nat.le_succ_of_le growth, within⟩

theorem foundLength_iff (table : InfraredProtocolTable) (count : Nat) :
    foundLength table count = true ↔ count ∈ table.databitLen.takeWhile (· ≠ 0) := by
  simp [foundLength]

theorem pulse_inBounds {spec : InfraredCommonProtocolSpec} {pwm : Bool} {window : Nat}
    {stalls : Nat → BitVec 64 → Bool} (pulse : spec.decode = infraredCommonDecodePdwm)
    (marks : pwm = !decide (spec.timings.bit1Mark = spec.timings.bit0Mark))
    (splits : spec.timings.minSplitTime ≠ 0)
    (longest : spec.maxLen ∈ spec.databitLen.takeWhile (· ≠ 0))
    (long : ∀ count ∈ spec.databitLen.takeWhile (· ≠ 0), 2 * timingsSize ≤ count)
    (interpretFrame : ∀ decoder, SamePlace (spec.interpret spec.toInfraredProtocolTable decoder).2 decoder ∧
      (spec.interpret spec.toInfraredProtocolTable decoder).2.databitCnt = decoder.databitCnt)
    (interprets : ∀ decoder, decoder.databitCnt ∈ spec.databitLen.takeWhile (· ≠ 0) →
      (spec.interpret spec.toInfraredProtocolTable decoder).1 = true ∨
        decoder.databitCnt = spec.maxLen ∨ stalls decoder.databitCnt decoder.data = true)
    (repeats : ∀ decodeRepeat, spec.decodeRepeat = some decodeRepeat → ∀ decoder,
      (∃ status, decodeRepeat spec.toInfraredProtocolTable decoder = (status, decoder) ∧
        (status = .error ∨ status = .ok ∧ decoder.timings.length < window)) ∨
      decodeRepeat spec.toInfraredProtocolTable decoder = (.ready, { decoder with timings := [] }))
    (preamble : spec.timings.preambleMark ≠ 0) (windowFits : window ≤ timingsSize)
    (windowOpens : 1 < window) : InBounds spec pwm window stalls where
  splits := splits
  longest := (foundLength_iff _ _).mpr longest
  long count found := long count ((foundLength_iff _ _).mp found)
  decodeFrame decoder level timing := by
    rw [pulse]
    rcases decodePdwm_outcome spec.toInfraredProtocolTable decoder level timing with
      ⟨bit, decoded, _⟩ | ⟨status, decoded⟩ <;> rw [decoded]
    · exact accumulateLsb_place _ _
    · exact ⟨rfl, rfl, rfl⟩
  decodeGrowth decoder level timing := by
    rw [pulse]
    rcases decodePdwm_outcome spec.toInfraredProtocolTable decoder level timing with
      ⟨bit, decoded, _⟩ | ⟨status, decoded⟩ <;> rw [decoded] <;> simp
  decodeWithin decoder level timing within blocked := by
    rw [pulse]
    rcases decodePdwm_outcome spec.toInfraredProtocolTable decoder level timing with
      ⟨bit, decoded, carries⟩ | ⟨status, decoded⟩ <;> rw [decoded]
    · have room : decoder.databitCnt ≠ spec.maxLen := fun full => by
        obtain ⟨mark, still⟩ := blocked full
        rw [marks] at still
        rw [mark] at carries
        exact carries (by simpa using still.symm)
      simp only [accumulateLsb_databitCnt]
      omega
    · exact within
  decodePwm decoder level timing modulated before full := by
    rw [pulse] at full
    rcases decodePdwm_outcome spec.toInfraredProtocolTable decoder level timing with
      ⟨bit, decoded, carries⟩ | ⟨status, decoded⟩ <;> rw [decoded] at full
    · rw [marks] at modulated
      have differ : decide (spec.timings.bit1Mark = spec.timings.bit0Mark) = false := by
        simpa using modulated
      rw [differ] at carries
      simpa using carries
    · dsimp only at full
      omega
  interpretFrame := interpretFrame
  interprets decoder found := interprets decoder ((foundLength_iff _ _).mp found)
  repeats := repeats
  noRepeats none := absurd none preamble
  windowFits := windowFits
  windowOpens := windowOpens

/-- No payload of the protocol stalls. -/
def noStalls : Nat → BitVec 64 → Bool := fun _ _ => false

theorem withMessage_place (decoder : InfraredCommonDecoder) (protocol : InfraredProtocol)
    (address command : BitVec 32) :
    SamePlace (decoder.withMessage protocol address command) decoder ∧
      (decoder.withMessage protocol address command).databitCnt = decoder.databitCnt :=
  ⟨⟨rfl, rfl, rfl⟩, rfl⟩

theorem nec_inBounds : InBounds infraredProtocolNec false 4 noStalls := by
  refine pulse_inBounds rfl (by decide) (by decide) (by decide) (by decide) ?_ ?_ ?_ (by decide)
    (by decide) (by decide)
  · intro decoder
    simp only [infraredProtocolNec, infraredDecoderNecInterpret]
    split_ifs <;> first | exact withMessage_place _ _ _ _ | exact ⟨⟨rfl, rfl, rfl⟩, rfl⟩
  · intro decoder found
    have lengths : decoder.databitCnt = 42 ∨ decoder.databitCnt = 32 := by
      simpa [infraredProtocolNec] using found
    refine Or.inl ?_
    simp only [infraredProtocolNec, infraredDecoderNecInterpret]
    split_ifs <;> first | rfl | omega
  · intro decodeRepeat some decoder
    obtain rfl : infraredDecoderNecDecodeRepeat = decodeRepeat := by simpa [infraredProtocolNec] using some
    unfold infraredDecoderNecDecodeRepeat
    split
    · split
      · exact Or.inr rfl
      · exact Or.inl ⟨_, rfl, Or.inl rfl⟩
    · rename_i short
      rcases timings : decoder.timings with _ | ⟨a, _ | ⟨b, _ | ⟨c, _ | ⟨d, rest⟩⟩⟩⟩
      · simp
      · simp
      · simp
      · simp
      · exact absurd timings (short a b c d rest)

theorem samsung32_inBounds : InBounds infraredProtocolSamsung32 false 6 noStalls := by
  refine pulse_inBounds rfl (by decide) (by decide) (by decide) (by decide) ?_ ?_ ?_ (by decide)
    (by decide) (by decide)
  · intro decoder
    simp only [infraredProtocolSamsung32, infraredDecoderSamsung32Interpret]
    split_ifs
    · exact withMessage_place _ _ _ _
    · exact ⟨⟨rfl, rfl, rfl⟩, rfl⟩
  · intro decoder found
    exact Or.inr (Or.inl (List.mem_singleton.mp found))
  · intro decodeRepeat some decoder
    obtain rfl : infraredDecoderSamsung32DecodeRepeat = decodeRepeat := by
      simpa [infraredProtocolSamsung32] using some
    unfold infraredDecoderSamsung32DecodeRepeat
    split
    · split
      · exact Or.inr rfl
      · exact Or.inl ⟨_, rfl, Or.inl rfl⟩
    · rename_i short
      rcases timings : decoder.timings with
        _ | ⟨a, _ | ⟨b, _ | ⟨c, _ | ⟨d, _ | ⟨e, _ | ⟨f, rest⟩⟩⟩⟩⟩⟩
      · simp
      · simp
      · simp
      · simp
      · simp
      · simp
      · exact absurd timings (short a b c d e f rest)

theorem sirc_inBounds : InBounds infraredProtocolSirc true 6 noStalls := by
  refine pulse_inBounds rfl (by decide) (by decide) (by decide) (by decide) ?_ ?_ ?_ (by decide)
    (by decide) (by decide)
  · intro decoder
    simp only [infraredProtocolSirc, infraredDecoderSircInterpret]
    split_ifs <;> first | exact withMessage_place _ _ _ _ | exact ⟨⟨rfl, rfl, rfl⟩, rfl⟩
  · intro decoder found
    have lengths : decoder.databitCnt = 20 ∨ decoder.databitCnt = 15 ∨ decoder.databitCnt = 12 := by
      simpa [infraredProtocolSirc] using found
    refine Or.inl ?_
    simp only [infraredProtocolSirc, infraredDecoderSircInterpret]
    split_ifs <;> first | rfl | omega
  · intro decodeRepeat some
    cases some

theorem kaseikyo_inBounds : InBounds infraredProtocolKaseikyo false 6 noStalls := by
  refine pulse_inBounds rfl (by decide) (by decide) (by decide) (by decide) ?_ ?_ ?_ (by decide)
    (by decide) (by decide)
  · intro decoder
    simp only [infraredProtocolKaseikyo, infraredDecoderKaseikyoInterpret]
    split_ifs
    · exact withMessage_place _ _ _ _
    · exact ⟨⟨rfl, rfl, rfl⟩, rfl⟩
  · intro decoder found
    exact Or.inr (Or.inl (List.mem_singleton.mp found))
  · intro decodeRepeat some
    cases some

theorem rca_inBounds : InBounds infraredProtocolRca false 6 noStalls := by
  refine pulse_inBounds rfl (by decide) (by decide) (by decide) (by decide) ?_ ?_ ?_ (by decide)
    (by decide) (by decide)
  · intro decoder
    simp only [infraredProtocolRca, infraredDecoderRcaInterpret]
    split_ifs
    · exact withMessage_place _ _ _ _
    · exact ⟨⟨rfl, rfl, rfl⟩, rfl⟩
  · intro decoder found
    exact Or.inr (Or.inl (List.mem_singleton.mp found))
  · intro decodeRepeat some
    cases some

def pioneerChecksums (data : BitVec 64) : Bool :=
  byteAt data 1 = ~~~(byteAt data 0) ∧ byteAt data 3 = ~~~(byteAt data 2)

/-- A Pioneer payload of 32 bits, not the longest, whose checksums are wrong. -/
def pioneerStalls (databitCnt : Nat) (data : BitVec 64) : Bool :=
  databitCnt = 32 ∧ pioneerChecksums data = false

theorem wordAt_byte (data : BitVec 64) {index : Nat} (inside : index < 4) :
    ((wordAt data 0 >>> (8 * index)) &&& 0xFF).setWidth 8 = byteAt data index := by
  have low (word : BitVec 32) : (word &&& 0xFF).setWidth 8 = word.setWidth 8 := by
    have ones : (0xFF : BitVec 32).setWidth 8 = BitVec.allOnes 8 := by decide
    rw [BitVec.setWidth_and, ones, BitVec.and_allOnes]
  rw [low]
  apply BitVec.eq_of_getLsbD_eq
  intro i small
  simp only [wordAt, byteAt, BitVec.getLsbD_setWidth, BitVec.getLsbD_ushiftRight, Nat.mul_zero,
    Nat.zero_add, decide_eq_true (show 8 * index + i < 32 by omega),
    Bool.true_and]

theorem pioneer_interpret_eq (decoder : InfraredCommonDecoder)
    (complete : decoder.databitCnt = 33 ∨ decoder.databitCnt = 32) :
    (infraredDecoderPioneerInterpret infraredProtocolPioneer.toInfraredProtocolTable decoder).1 =
      pioneerChecksums decoder.data := by
  have byte0 : (wordAt decoder.data 0 &&& 0xFF).setWidth 8 = byteAt decoder.data 0 := by
    rw [← wordAt_byte decoder.data (by omega : 0 < 4), BitVec.ushiftRight_zero]
  have byte1 := wordAt_byte decoder.data (by omega : 1 < 4)
  have byte2 := wordAt_byte decoder.data (by omega : 2 < 4)
  have byte3 := wordAt_byte decoder.data (by omega : 3 < 4)
  have lengths : decoder.databitCnt = infraredProtocolPioneer.databitLen.getD 0 0 ∨
      decoder.databitCnt = infraredProtocolPioneer.databitLen.getD 1 0 := complete
  rw [infraredDecoderPioneerInterpret]
  dsimp only
  rw [byte0, byte1, byte2, byte3, pioneerChecksums]
  split_ifs with address command
  · simp [address]
  · simp [command]
  · simp [not_not.mp address, not_not.mp command]

theorem pioneer_inBounds : InBounds infraredProtocolPioneer false 6 pioneerStalls := by
  refine pulse_inBounds rfl (by decide) (by decide) (by decide) (by decide) ?_ ?_ ?_ (by decide)
    (by decide) (by decide)
  · intro decoder
    simp only [infraredProtocolPioneer, infraredDecoderPioneerInterpret]
    split_ifs <;> first | exact withMessage_place _ _ _ _ | exact ⟨⟨rfl, rfl, rfl⟩, rfl⟩
  · intro decoder found
    have lengths : decoder.databitCnt = 33 ∨ decoder.databitCnt = 32 := by
      simpa [infraredProtocolPioneer] using found
    rcases lengths with full | shorter
    · exact Or.inr (Or.inl full)
    · rw [show infraredProtocolPioneer.interpret = infraredDecoderPioneerInterpret from rfl,
        pioneer_interpret_eq decoder (Or.inr shorter)]
      cases checksums : pioneerChecksums decoder.data with
      | true => exact Or.inl rfl
      | false => exact Or.inr (Or.inr (by simp [pioneerStalls, shorter, checksums]))
  · intro decodeRepeat some
    cases some

/-- RC5 and RC6 check the longest payload themselves. -/
theorem rc5_inBounds : InBounds infraredProtocolRc5 false 6 noStalls where
  splits := by decide
  longest := by decide
  long count found := by
    obtain rfl : count = 14 := List.mem_singleton.mp ((foundLength_iff _ _).mp found)
    decide
  decodeFrame decoder level timing :=
    (decodeManchester_outcome _ decoder level timing (by decide)).1
  decodeGrowth decoder level timing :=
    (decodeManchester_outcome _ decoder level timing (by decide)).2.1
  decodeWithin decoder level timing within _ :=
    (decodeManchester_outcome _ decoder level timing (by decide)).2.2 within
  decodePwm _ _ _ modulated := Bool.noConfusion modulated
  interpretFrame decoder := by
    simp only [infraredProtocolRc5, infraredDecoderRc5Interpret]
    split_ifs <;> exact ⟨⟨rfl, rfl, rfl⟩, rfl⟩
  interprets decoder found :=
    Or.inr (Or.inl (List.mem_singleton.mp ((foundLength_iff _ _).mp found)))
  repeats _ some := by cases some
  noRepeats _ := rfl
  windowFits := by decide
  windowOpens := by decide

theorem rc6_decode_outcome (decoder : InfraredCommonDecoder) (level : Bool) (timing : Nat) :
    SamePlace (infraredDecoderRc6DecodeManchester infraredProtocolRc6.toInfraredProtocolTable decoder
        level timing).2 decoder ∧
      (infraredDecoderRc6DecodeManchester infraredProtocolRc6.toInfraredProtocolTable decoder
        level timing).2.databitCnt ≤ decoder.databitCnt + 2 ∧
      (decoder.databitCnt ≤ infraredProtocolRc6.maxLen →
        (infraredDecoderRc6DecodeManchester infraredProtocolRc6.toInfraredProtocolTable decoder
          level timing).2.databitCnt ≤ infraredProtocolRc6.maxLen) := by
  unfold infraredDecoderRc6DecodeManchester
  dsimp only
  split
  · rename_i toggle
    split
    · exact ⟨⟨rfl, rfl, rfl⟩, by simp, fun _ => by simp only [toggle]; decide⟩
    · exact ⟨⟨rfl, rfl, rfl⟩, by simp, id⟩
  · split
    · split
      · exact decodeManchester_outcome _ { decoder with switchDetect := false } level _ (by decide)
      · split
        · exact ⟨⟨rfl, rfl, rfl⟩, by simp, id⟩
        · exact ⟨⟨rfl, rfl, rfl⟩, by simp, id⟩
    · exact decodeManchester_outcome _ decoder level timing (by decide)

theorem rc6_inBounds : InBounds infraredProtocolRc6 false 6 noStalls where
  splits := by decide
  longest := by decide
  long count found := by
    obtain rfl : count = 21 := List.mem_singleton.mp ((foundLength_iff _ _).mp found)
    decide
  decodeFrame decoder level timing := (rc6_decode_outcome decoder level timing).1
  decodeGrowth decoder level timing := (rc6_decode_outcome decoder level timing).2.1
  decodeWithin decoder level timing within _ := (rc6_decode_outcome decoder level timing).2.2 within
  decodePwm _ _ _ modulated := Bool.noConfusion modulated
  interpretFrame decoder := by
    simp only [infraredProtocolRc6, infraredDecoderRc6Interpret]
    split_ifs <;> exact ⟨⟨rfl, rfl, rfl⟩, rfl⟩
  interprets decoder found :=
    Or.inr (Or.inl (List.mem_singleton.mp ((foundLength_iff _ _).mp found)))
  repeats _ some := by cases some
  noRepeats _ := rfl
  windowFits := by decide
  windowOpens := by decide

/-! ## Runs -/

/-- The decoder has stopped at no fault, a further timing has its place in the
array, and the payload fits. -/
def WithinArrays (spec : InfraredCommonProtocolSpec) : Except DecoderFault InfraredCommonDecoder → Prop
  | .ok decoder => decoder.timings.length < timingsSize ∧ decoder.databitCnt ≤ spec.maxLen
  | .error _ => False

instance (spec : InfraredCommonProtocolSpec) (state : Except DecoderFault InfraredCommonDecoder) :
    Decidable (WithinArrays spec state) := by
  cases state with
  | ok decoder => exact inferInstanceAs (Decidable (_ ∧ _))
  | error fault => exact inferInstanceAs (Decidable False)

/-- A Pioneer decoder with 32 payload bits of wrong checksums gets a space
longer than the split time: the payload is neither understood nor dropped. -/
def PioneerStall (family : InfraredFamily) (decoder : InfraredCommonDecoder) : DecoderCall → Prop
  | .sample level duration =>
    family = .pioneer ∧ decoder.state = .decode ∧ decoder.databitCnt = 32 ∧
      pioneerChecksums decoder.data = false ∧ decoder.level = true ∧ level = false ∧
      infraredPioneerSilence < duration
  | .checkReady => False

instance (family : InfraredFamily) (decoder : InfraredCommonDecoder) (call : DecoderCall) :
    Decidable (PioneerStall family decoder call) := by
  cases call with
  | sample level duration => exact inferInstanceAs (Decidable (_ ∧ _))
  | checkReady => exact inferInstanceAs (Decidable False)

def NoPioneerStall (family : InfraredFamily) (state : Except DecoderFault InfraredCommonDecoder)
    (call : DecoderCall) : Prop :=
  match state with
  | .ok decoder => ¬ PioneerStall family decoder call
  | .error _ => True

instance (family : InfraredFamily) (state : Except DecoderFault InfraredCommonDecoder)
    (call : DecoderCall) : Decidable (NoPioneerStall family state call) := by
  cases state with
  | ok decoder => exact inferInstanceAs (Decidable (¬ _))
  | error fault => exact isTrue trivial

/-- The invariant of a run. -/
def BoundedState (spec : InfraredCommonProtocolSpec) (pwm : Bool) (window : Nat) :
    Except DecoderFault InfraredCommonDecoder → Prop
  | .ok decoder => Bounded spec pwm window decoder
  | .error _ => False

def NoStallingCall (spec : InfraredCommonProtocolSpec) (stalls : Nat → BitVec 64 → Bool)
    (state : Except DecoderFault InfraredCommonDecoder) (call : DecoderCall) : Prop :=
  match state with
  | .ok decoder => ¬ StallingCall spec stalls decoder call
  | .error _ => True

include bounds

theorem step_bounded (state : Except DecoderFault InfraredCommonDecoder) (call : DecoderCall)
    (bounded : BoundedState spec pwm window state) (clear : NoStallingCall spec stalls state call) :
    BoundedState spec pwm window (decoderMachine spec state call).2 := by
  cases state with
  | error fault => exact bounded
  | ok decoder =>
    cases call with
    | sample level duration =>
      obtain ⟨message, next, decoded, bounded⟩ := decode_bounded bounds bounded level duration clear
      simp only [decoderMachine, decoderCall, decoded]
      exact bounded
    | checkReady => exact checkReady_bounded bounds bounded

theorem run_within (decoder : InfraredCommonDecoder) (calls : List DecoderCall)
    (meets : Machine.RunMeets (decoderMachine spec) (NoStallingCall spec stalls)
      (.ok (infraredCommonDecoderReset spec decoder)) calls) :
    Machine.Throughout (decoderMachine spec) (WithinArrays spec)
      (.ok (infraredCommonDecoderReset spec decoder)) calls := by
  have start : BoundedState spec pwm window (.ok (infraredCommonDecoderReset spec decoder)) :=
    reset_bounded spec pwm window decoder
  refine (Machine.throughout_of_step (step_bounded bounds) start meets).imp fun state bounded => ?_
  cases state with
  | ok decoder => exact ⟨Bounded.room bounds bounded, Bounded.within bounded⟩
  | error fault => exact bounded

omit bounds

theorem noStalls_clear (spec : InfraredCommonProtocolSpec) :
    ∀ state call, NoStallingCall spec noStalls state call := by
  intro state call
  cases state with
  | error fault => trivial
  | ok decoder =>
    cases call with
    | sample level duration => exact fun stalling => Bool.noConfusion stalling.2.2.2.2
    | checkReady => exact id

/-- **Within the arrays.** Whatever samples and ready checks a decoder gets from
its reset state, as long as no Pioneer payload stalls, no check fires, no timing
is stored outside the array and the payload stays within its length. -/
theorem infrared_decoder_stays_within_arrays (family : InfraredFamily)
    (decoder : InfraredCommonDecoder) (calls : List DecoderCall)
    (meets : Machine.RunMeets (decoderMachine family.spec) (NoPioneerStall family)
      (.ok (infraredCommonDecoderReset family.spec decoder)) calls) :
    Machine.Throughout (decoderMachine family.spec) (WithinArrays family.spec)
      (.ok (infraredCommonDecoderReset family.spec decoder)) calls := by
  cases family with
  | nec => exact run_within nec_inBounds decoder calls (meets.imp fun _ _ _ => noStalls_clear _ _ _)
  | samsung32 =>
    exact run_within samsung32_inBounds decoder calls (meets.imp fun _ _ _ => noStalls_clear _ _ _)
  | rc5 => exact run_within rc5_inBounds decoder calls (meets.imp fun _ _ _ => noStalls_clear _ _ _)
  | rc6 => exact run_within rc6_inBounds decoder calls (meets.imp fun _ _ _ => noStalls_clear _ _ _)
  | sirc =>
    exact run_within sirc_inBounds decoder calls (meets.imp fun _ _ _ => noStalls_clear _ _ _)
  | kaseikyo =>
    exact run_within kaseikyo_inBounds decoder calls (meets.imp fun _ _ _ => noStalls_clear _ _ _)
  | rca => exact run_within rca_inBounds decoder calls (meets.imp fun _ _ _ => noStalls_clear _ _ _)
  | pioneer =>
    refine run_within pioneer_inBounds decoder calls (meets.imp fun state call clear => ?_)
    cases state with
    | error fault => trivial
    | ok decoder =>
      cases call with
      | checkReady => exact id
      | sample level duration =>
        rintro ⟨decoding, high, low, exceeds, stalled⟩
        have payload : decoder.databitCnt = 32 ∧ pioneerChecksums decoder.data = false := by
          simpa [pioneerStalls] using stalled
        exact clear ⟨rfl, decoding, payload.1, payload.2, high, low, exceeds⟩

theorem infrared_decoder_stays_within_arrays_nec_start :
    Machine.Throughout (decoderMachine infraredProtocolNec) (WithinArrays infraredProtocolNec)
      (.ok (infraredCommonDecoderReset infraredProtocolNec
        ⟨[], ⟨.unknown, 0, 0, false⟩, .waitPreamble, false, true, 0, 0, false⟩))
      [.sample false 110000, .sample true 9000, .sample false 4500, .checkReady] :=
  infrared_decoder_stays_within_arrays .nec _ _ (by decide +kernel)

/-- Silence, preamble, 32 zero bits, whose checksums are wrong, a long space and
six more timings. -/
def pioneerOverflow : List DecoderCall :=
  [.sample false 26000, .sample true 8500, .sample false 4225] ++
    (List.replicate 32 [.sample true 500, .sample false 500]).flatten ++
    [.sample true 500, .sample false 30000, .sample true 500, .sample false 500, .sample true 500,
      .sample false 500, .sample true 500, .sample false 500]

/-- The seventh pending timing of a stalled Pioneer payload has no place in the array. -/
theorem pioneer_payload_overflows_timings : (Machine.run (decoderMachine InfraredFamily.pioneer.spec)
        (.ok (infraredCommonDecoderReset InfraredFamily.pioneer.spec
          ⟨[], ⟨.unknown, 0, 0, false⟩, .waitPreamble, false, true, 0, 0, false⟩))
        pioneerOverflow).2 = .error .timingsOverflow ∧
      ¬ Machine.Throughout (decoderMachine InfraredFamily.pioneer.spec) (WithinArrays InfraredFamily.pioneer.spec)
        (.ok (infraredCommonDecoderReset InfraredFamily.pioneer.spec
          ⟨[], ⟨.unknown, 0, 0, false⟩, .waitPreamble, false, true, 0, 0, false⟩))
        pioneerOverflow := by
  decide +kernel

end Xtreme.Infrared
