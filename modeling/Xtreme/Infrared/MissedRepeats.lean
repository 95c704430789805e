import Xtreme.Infrared.Repeats

/-! The repeat windows of NEC and Samsung32, and what comes of a repeat frame that
misses them. NEC misses the first one when the gap before it is too short, and
Samsung32 the one that the wrapping counter of the encoder cuts off. A decoder that
has missed one repeat frame misses all that follow, since a repeat frame alone
never looks like a message. -/
namespace Xtreme.Infrared
open Xtreme.Library

def necAccepts : List Nat → Bool
  | [pause, mark, space, stop] =>
    infraredNecRepeatPauseMin < pause ∧ pause < infraredNecRepeatPauseMax ∧
      matchTiming mark infraredNecRepeatMark infraredProtocolNec.timings.preambleTolerance ∧
      matchTiming space infraredNecRepeatSpace infraredProtocolNec.timings.preambleTolerance ∧
      matchTiming stop infraredProtocolNec.timings.bit1Mark infraredProtocolNec.timings.bitTolerance
  | _ => false

def samsung32Accepts : List Nat → Bool
  | [pause, mark, space, bitMark, bitSpace, stop] =>
    let timings := infraredProtocolSamsung32.timings
    infraredSamsungRepeatPauseMin < pause ∧ pause < infraredSamsungRepeatPauseMax ∧
      matchTiming mark infraredSamsungRepeatMark timings.preambleTolerance ∧
      matchTiming space infraredSamsungRepeatSpace timings.preambleTolerance ∧
      matchTiming bitMark timings.bit1Mark timings.bitTolerance ∧
      matchTiming bitSpace timings.bit1Space timings.bitTolerance ∧
      matchTiming stop timings.bit1Mark timings.bitTolerance
  | _ => false

theorem nec_repeatsDecoded : RepeatsDecoded infraredProtocolNec 4 necAccepts := by
  refine ⟨by decide, infraredDecoderNecDecodeRepeat, rfl, ?_, ?_⟩
  · intro decoder few
    unfold infraredDecoderNecDecodeRepeat
    split
    next pending =>
      rw [pending] at few
      simp at few
      omega
    next => rfl
  · rintro ⟨timings, message, state, switchDetect, level, databitCnt, data, toggle⟩ full
    obtain ⟨pause, mark, space, stop, rfl⟩ : ∃ a b c d, timings = [a, b, c, d] := by
      match timings, full with
      | [a, b, c, d], _ => exact ⟨a, b, c, d, rfl⟩
    simp only [infraredDecoderNecDecodeRepeat, necAccepts, decide_eq_true_eq]

theorem samsung32_repeatsDecoded : RepeatsDecoded infraredProtocolSamsung32 6 samsung32Accepts := by
  refine ⟨by decide, infraredDecoderSamsung32DecodeRepeat, rfl, ?_, ?_⟩
  · intro decoder few
    unfold infraredDecoderSamsung32DecodeRepeat
    split
    next pending =>
      rw [pending] at few
      simp at few
      omega
    next => rfl
  · rintro ⟨timings, message, state, switchDetect, level, databitCnt, data, toggle⟩ full
    obtain ⟨pause, mark, space, bitMark, bitSpace, stop, rfl⟩ :
        ∃ a b c d e f, timings = [a, b, c, d, e, f] := by
      match timings, full with
      | [a, b, c, d, e, f], _ => exact ⟨a, b, c, d, e, f, rfl⟩
    simp only [infraredDecoderSamsung32DecodeRepeat, samsung32Accepts, decide_eq_true_eq]

section Missed
variable {spec : InfraredCommonProtocolSpec} {pwm : Bool} {decoder : InfraredCommonDecoder}

theorem wait_pair (preamble : spec.timings.preambleMark ≠ 0) {mark : Nat} (space : Nat)
    (waiting : Waiting decoder [mark] true)
    (other : ¬ (matchTiming mark spec.timings.preambleMark spec.timings.preambleTolerance ∧
      matchTiming space spec.timings.preambleSpace spec.timings.preambleTolerance)) :
    ∃ next, Hears spec decoder [(false, space)] [] next ∧ Waiting next [] false := by
  obtain ⟨state, timings, level, count⟩ := waiting
  let heard : InfraredCommonDecoder := { decoder with level := false, timings := [mark, space] }
  have check : infraredCheckPreamble spec heard = (false, { heard with timings := [] }) := by
    simp only [infraredCheckPreamble, heard, List.cons_ne_nil, if_false, List.length_cons,
      List.length_nil, oldestLevel_succ, oldestLevel_zero, Bool.not_false, Bool.not_true, if_true,
      preamble, findPreamble, if_neg other]
  have loop := decodeLoop_waiting heard false state check
  exact ⟨_, Hears.ofLoop (if_neg (by rw [level]; decide)) (by simp [timings, timingsSize])
    (by rw [timings]; rfl) loop, state, rfl, rfl, count⟩

/-- A timing that does not belong to the payload makes the decoder start over; a
space is then dropped. -/
theorem Receiving.refuse (preamble : spec.timings.preambleMark ≠ 0) {payload : List Bool} {space : Nat}
    (receiving : Receiving decoder payload true)
    (refused : ∀ heard : InfraredCommonDecoder, heard.level = false → heard.databitCnt = payload.length →
      decodePending spec heard [space] = .ok (.error, { heard with timings := [space] })) :
    ∃ next, Hears spec decoder [(false, space)] [] next ∧ Waiting next [] false := by
  obtain ⟨state, timings, level, count, -⟩ := receiving
  let heard : InfraredCommonDecoder := { decoder with level := false, timings := [space] }
  have bits : infraredCommonDecodeBits spec heard = .ok (.error, heard) := refused heard rfl count
  have pending : (infraredCommonDecoderResetState spec heard).timings = [space] := by
    simp only [infraredCommonDecoderResetState, preamble, if_false, heard]
  have check : infraredCheckPreamble spec (infraredCommonDecoderResetState spec heard) =
      (false, { infraredCommonDecoderResetState spec heard with timings := [] }) := by
    simp only [infraredCheckPreamble, pending, List.cons_ne_nil, List.length_singleton,
      oldestLevel_one, preamble, List.tail_cons]
    simp only [infraredCommonDecoderResetState, heard, Bool.false_eq_true, if_false, findPreamble]
  have loop : decodeLoop spec decodeFuel heard false =
      .ok (false, { infraredCommonDecoderResetState spec heard with timings := [] }) := by
    rw [decodeFuel, decodeLoop, show heard.state = .decode from state]
    simp only [bits]
    rw [decodeLoop]
    simp only [check]
    rfl
  exact ⟨_, Hears.ofLoop (if_neg (by rw [level]; decide)) (by simp [timings, timingsSize])
    (by rw [timings]; rfl) loop, rfl, rfl, rfl, rfl⟩

end Missed

theorem Receiving.shortPause {spec : InfraredCommonProtocolSpec} {decoder : InfraredCommonDecoder}
    {payload : List Bool} {pause : Nat} (preamble : spec.timings.preambleMark ≠ 0)
    (splits : spec.timings.minSplitTime ≠ 0) (receiving : Receiving decoder payload true)
    (short : pause ≤ spec.timings.minSplitTime) (longest : spec.maxLen = payload.length) :
    ∃ next, Hears spec decoder [(false, pause)] [] next ∧ Waiting next [] false := by
  refine receiving.refuse preamble fun heard space count => ?_
  rw [decodePending, List.length_nil, oldestLevel_one, if_neg, if_pos]
  · exact ⟨⟨splits, space⟩, Nat.not_lt.mpr short, longest.trans count.symm⟩
  · rintro ⟨-, long, -⟩
    exact Nat.not_lt.mpr short long

section MissedNec
variable {decoder : InfraredCommonDecoder}

theorem nec_preamble : infraredProtocolNec.timings.preambleMark ≠ 0 := by decide

/-- The rest of an NEC repeat frame looks like nothing. -/
theorem nec_missed_tail (waiting : Waiting decoder [] false) :
    ∃ next, Hears infraredProtocolNec decoder (alternating true necRepeatTimings.tail) [] next ∧
      Waiting next [560] true := by
  obtain ⟨first, mark, waiting⟩ := wait_mark nec_preamble 9000 waiting
  obtain ⟨second, space, waiting⟩ := wait_pair nec_preamble 2250 waiting (by decide)
  obtain ⟨third, stop, waiting⟩ := wait_mark nec_preamble 560 waiting
  exact ⟨third, mark.append (space.append stop), waiting⟩

theorem nec_missed_frame (waiting : Waiting decoder [560] true) (pause : Nat) :
    ∃ next, Hears infraredProtocolNec decoder (alternating false (pause :: necRepeatTimings.tail)) [] next ∧
      Waiting next [560] true := by
  obtain ⟨first, space, waiting⟩ := wait_pair nec_preamble pause waiting
    (fun preamble => absurd preamble.1 (by decide))
  obtain ⟨second, rest, waiting⟩ := nec_missed_tail waiting
  exact ⟨second, space.append rest, waiting⟩

theorem nec_shape : RepeatTail necRepeatTimings 4 := ⟨rfl, by decide, by decide⟩

theorem nec_wholeFrames (repeats : Nat) {count : Nat} (aligned : count % 4 = 0)
    (inside : count < 2 ^ 32) : WholeFrames 4 repeats count := by
  induction repeats generalizing count with
  | zero => trivial
  | succ repeats ih => exact ⟨by omega, ih (by omega) (Nat.mod_lt _ (by decide))⟩

theorem nec_missed_signal (first : Nat) (waiting : Waiting decoder [560] true) {repeats count : Nat}
    (whole : WholeFrames 4 repeats count) :
    ∃ next, Hears infraredProtocolNec decoder (repeatSignal necRepeatTimings first repeats count)
        [] next ∧ Waiting next [560] true := by
  induction repeats generalizing decoder count with
  | zero => exact ⟨decoder, Hears.nil decoder, waiting⟩
  | succ repeats ih =>
    obtain ⟨room, rest⟩ := whole
    obtain ⟨middle, frame, waiting⟩ := nec_missed_frame waiting
      (if count = 0 then first else necRepeatTimings.headD 0)
    obtain ⟨next, signal, waiting⟩ := ih waiting rest
    refine ⟨next, ?_, waiting⟩
    rw [repeatSignal, repeatFrame_whole nec_shape room]
    exact frame.append signal

theorem nec_missed (first repeats : Nat) {payload : List Bool} (receiving : Receiving decoder payload true)
    (longest : payload.length = 42) (short : first ≤ infraredNecRepeatPauseMin) :
    ∃ next, Hears infraredProtocolNec decoder (repeatSignal necRepeatTimings first (repeats + 1) 0) [] next ∧
      Waiting next [560] true := by
  have splits : infraredProtocolNec.timings.minSplitTime ≠ 0 := by decide
  obtain ⟨refused, pause, waiting⟩ :=
    receiving.shortPause nec_preamble splits short longest.symm
  obtain ⟨middle, tail, waiting⟩ := nec_missed_tail waiting
  obtain ⟨next, signal, waiting⟩ := nec_missed_signal first waiting
    (nec_wholeFrames repeats (show 4 % 4 = 0 by decide) (by decide))
  refine ⟨next, ?_, waiting⟩
  exact pause.append (tail.append signal)

end MissedNec

section MissedSamsung32
variable {decoder : InfraredCommonDecoder} {message : InfraredMessage}

theorem samsung32_preamble : infraredProtocolSamsung32.timings.preambleMark ≠ 0 := by decide

theorem samsung32_decoded : PulseDecoded infraredProtocolSamsung32 false :=
  @pulse_decoded .samsung32 rfl

/-- A decoder that takes repeat frames for beginnings of messages: at most one bit
has come since the last pause. -/
def Astray (decoder : InfraredCommonDecoder) : Prop :=
  ∃ bits, Receiving decoder bits true ∧ bits.length ≤ 1

/-- The timings of a repeat frame behind its first mark. -/
theorem samsung32_astray_tail (waiting : Waiting decoder [4500] true) (cut : Bool) :
    ∃ next, Hears infraredProtocolSamsung32 decoder
        (alternating false (if cut then [4500, 550] else [4500, 550, 1650, 550])) [] next ∧
      Astray next := by
  obtain ⟨first, space, receiving⟩ := wait_preamble samsung32_decoded waiting
  obtain ⟨second, bitMark, receiving⟩ := receive_half samsung32_decoded true true receiving (by decide) (by decide)
  cases cut
  case true => exact ⟨second, space.append bitMark, [], receiving, by decide⟩
  case false =>
    obtain ⟨third, bitSpace, receiving⟩ := receive_half samsung32_decoded false true receiving
      (by decide) (by decide)
    obtain ⟨fourth, stop, receiving⟩ := receive_half samsung32_decoded true true receiving (by decide) (by decide)
    exact ⟨fourth, space.append (bitMark.append (bitSpace.append stop)), [true], receiving, by decide⟩

/-- The pause before a repeat frame does not fit into a payload. -/
theorem samsung32_astray_pause (astray : Astray decoder) {pause : Nat} (known : pause = 46000 ∨ pause = 97000) :
    ∃ next, Hears infraredProtocolSamsung32 decoder [(false, pause)] [] next ∧
      Waiting next [] false := by
  obtain ⟨bits, receiving, few⟩ := astray
  refine receiving.refuse samsung32_preamble fun heard space count => ?_
  rcases (by omega : heard.databitCnt = 0 ∨ heard.databitCnt = 1) with zero | one
  · rcases known with rfl | rfl <;>
      simp [decodePending, space, zero, foundLength, infraredProtocolSamsung32,
        infraredCommonDecodePdwm, matchTiming, infraredSamsungBit1Mark,
        infraredSamsungBit1Space]
  · rcases known with rfl | rfl <;>
      simp [decodePending, space, one, foundLength, infraredProtocolSamsung32,
        infraredCommonDecodePdwm, matchTiming, InfraredProtocolTable.maxLen, infraredSamsungBit1Mark,
        infraredSamsungBit1Space]

theorem samsung32_astray_frame (astray : Astray decoder) {pause : Nat}
    (known : pause = 46000 ∨ pause = 97000) (cut : Bool) :
    ∃ next, Hears infraredProtocolSamsung32 decoder
        (alternating false (pause :: 4500 :: if cut then [4500, 550] else [4500, 550, 1650, 550]))
        [] next ∧
      Astray next := by
  obtain ⟨first, space, waiting⟩ := samsung32_astray_pause astray known
  obtain ⟨second, mark, waiting⟩ := wait_mark samsung32_preamble 4500 waiting
  obtain ⟨third, rest, astray⟩ := samsung32_astray_tail waiting cut
  exact ⟨third, space.append (mark.append rest), astray⟩

/-- After a repeat frame that was cut off the next one does not fit either. -/
theorem samsung32_refuses (collecting : Collecting decoder [97000, 4500, 4500, 550, 46000] false message) :
    ∃ next, Hears infraredProtocolSamsung32 decoder [(true, 4500)] [] next ∧
      Waiting next [4500] true := by
  obtain ⟨timings, message', state, switchDetect, level, databitCnt, data, toggle⟩ := decoder
  obtain ⟨state', timings', level', count', -⟩ := collecting
  subst state' timings' level' count'
  have loop : decodeLoop infraredProtocolSamsung32 decodeFuel
      ⟨[97000, 4500, 4500, 550, 46000, 4500], message', .processRepeat, switchDetect, true, 0, data, toggle⟩ false =
      .ok (false, ⟨[4500], { message' with protocol := .unknown }, .waitPreamble, false, true, 0, data,
        toggle⟩) := by
    with_unfolding_all rfl
  refine ⟨⟨[4500], { message' with protocol := .unknown }, .waitPreamble, false, true, 0, data,
    toggle⟩, ?_, rfl, rfl, rfl, rfl⟩
  refine Hears.ofLoop (if_neg ?_) ?_ ?_ loop
  · exact Bool.false_ne_true
  · exact (by decide : 5 < 6)
  · rfl

theorem samsung32_shape : RepeatTail samsungRepeatTimings 6 := ⟨rfl, by decide, by decide⟩

theorem samsung32_repeatFrame {count : Nat} (aligned : count % 6 = 0) (inside : count < 2 ^ 32) :
    repeatFrame samsungRepeatTimings infraredSamsungRepeatPause1 count =
      (if count = 0 then 46000 else 97000) :: 4500 ::
        if decide (2 ^ 32 < count + 6) then [4500, 550] else [4500, 550, 1650, 550] := by
  by_cases cut : 2 ^ 32 < count + 6
  · have place : count = 2 ^ 32 - 4 := by omega
    subst place
    rfl
  · rw [repeatFrame_whole samsung32_shape (by omega), decide_eq_false cut]
    rfl

theorem samsung32_astray_signal (astray : Astray decoder) (repeats : Nat) {count : Nat}
    (aligned : count % 6 = 0) (inside : count < 2 ^ 32) :
    ∃ next, Hears infraredProtocolSamsung32 decoder
        (repeatSignal samsungRepeatTimings infraredSamsungRepeatPause1 repeats count) [] next ∧
      Astray next := by
  induction repeats generalizing decoder count with
  | zero => exact ⟨decoder, Hears.nil decoder, astray⟩
  | succ repeats ih =>
    have frame := samsung32_repeatFrame aligned inside
    have pause : (if count = 0 then 46000 else 97000) = 46000 ∨
        (if count = 0 then 46000 else 97000) = 97000 := by
      split
      · exact .inl rfl
      · exact .inr rfl
    obtain ⟨middle, heard, astray⟩ :=
      samsung32_astray_frame astray pause (decide (2 ^ 32 < count + 6))
    have length : (repeatFrame samsungRepeatTimings infraredSamsungRepeatPause1 count).length =
        if 2 ^ 32 < count + 6 then 4 else 6 := by
      rw [frame]
      by_cases cut : 2 ^ 32 < count + 6
      · rw [if_pos cut, decide_eq_true cut]
        rfl
      · rw [if_neg cut, decide_eq_false cut]
        rfl
    have next : (count + (repeatFrame samsungRepeatTimings infraredSamsungRepeatPause1 count).length) %
        2 ^ 32 % 6 = 0 := by
      rw [length]
      by_cases cut : 2 ^ 32 < count + 6
      · rw [if_pos cut, show (count + 4) % 2 ^ 32 = 0 by omega]
      · rw [if_neg cut, show (count + 6) % 2 ^ 32 = count + 6 from Nat.mod_eq_of_lt (by omega),
          Nat.add_mod_right, aligned]
    obtain ⟨next, heard', astray⟩ := ih astray next (Nat.mod_lt _ (by decide))
    refine ⟨next, ?_, astray⟩
    rw [← frame] at heard
    exact heard.append heard'

theorem samsung32_wholeFrames {repeats count : Nat} (room : count + 6 * repeats ≤ 2 ^ 32) :
    WholeFrames 6 repeats count := by
  induction repeats generalizing count with
  | zero => trivial
  | succ repeats ih => exact ⟨by omega, ih (by omega)⟩

/-- The repeats that come before the counter wraps. -/
def samsung32RepeatsHeard : Nat := 715827882

theorem repeatSignal_add {repeatTimings : List Nat} {length first : Nat}
    (shape : RepeatTail repeatTimings length) {repeats count : Nat} (inside : count < 2 ^ 32)
    (whole : WholeFrames length repeats count) (more : Nat) :
    repeatSignal repeatTimings first (repeats + more) count = repeatSignal repeatTimings first repeats count ++
        repeatSignal repeatTimings first more ((count + length * repeats) % 2 ^ 32) := by
  induction repeats generalizing count with
  | zero =>
    rw [Nat.zero_add, Nat.mul_zero, Nat.add_zero, Nat.mod_eq_of_lt inside]
    rfl
  | succ repeats ih =>
    obtain ⟨room, rest⟩ := whole
    have nonempty : 0 < repeatTimings.length := by
      rw [shape.total]
      exact Nat.lt_of_lt_of_le (by decide) shape.atLeast
    have next : ((count + length) % 2 ^ 32 + length * repeats) % 2 ^ 32 =
        (count + length * (repeats + 1)) % 2 ^ 32 := by
      rw [Nat.mod_add_mod, Nat.mul_succ]
      omega
    have frame : repeatFrame repeatTimings first count = wholeFrame repeatTimings first count :=
      repeatFrame_whole shape room
    rw [Nat.add_right_comm, repeatSignal, repeatSignal, frame, length_wholeFrame nonempty, shape.total,
      ih (Nat.mod_lt _ (by decide)) rest, next, List.append_assoc]

theorem samsung32_missed (collecting : Collecting decoder [] true message) (repeats : Nat) :
    ∃ next, Hears infraredProtocolSamsung32 decoder
        (repeatSignal samsungRepeatTimings infraredSamsungRepeatPause1 (repeats + 1) (2 ^ 32 - 4))
        [] next ∧
      next.databitCnt ≤ 1 := by
  obtain ⟨cut, heard, collecting⟩ := collecting.all samsung32_repeatsDecoded [97000, 4500, 4500, 550] (by decide)
  have first : repeatSignal samsungRepeatTimings infraredSamsungRepeatPause1 (repeats + 1)
      (2 ^ 32 - 4) = alternating false [97000, 4500, 4500, 550] ++
        repeatSignal samsungRepeatTimings infraredSamsungRepeatPause1 repeats 0 := rfl
  cases repeats with
  | zero =>
    exact ⟨cut, heard.append (Hears.nil cut), by rw [collecting.databitCnt]; decide⟩
  | succ repeats =>
    have second : repeatSignal samsungRepeatTimings infraredSamsungRepeatPause1 (repeats + 1) 0 =
      alternating false [46000] ++ (alternating true [4500] ++ (alternating false [4500, 550, 1650, 550] ++
        repeatSignal samsungRepeatTimings infraredSamsungRepeatPause1 repeats 6)) := rfl
    obtain ⟨paused, pause, collecting⟩ := collecting.more samsung32_repeatsDecoded 46000 (by decide)
    obtain ⟨refused, mark, waiting⟩ := samsung32_refuses collecting
    obtain ⟨astray, tail, lost⟩ := samsung32_astray_tail waiting false
    obtain ⟨next, rest, bits, receiving, few⟩ :=
      samsung32_astray_signal lost repeats (show 6 % 6 = 0 by decide) (by decide)
    refine ⟨next, ?_, receiving.databitCnt ▸ few⟩
    exact heard.append (pause.append (mark.append (tail.append rest)))

end MissedSamsung32

end Xtreme.Infrared
