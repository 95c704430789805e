import Xtreme.Infrared.Frames
import Xtreme.Infrared.Interpret

/-! What the decoders make of the frames of the pulse protocols. After the
preamble the common decoder works off every timing at once: it is `Receiving`,
with the payload bits so far in its data and nothing pending. At the end of the
frame the data holds the payload, and `interpret` finds the message in it. -/
namespace Xtreme.Infrared
open Xtreme.Library Machine

def sampleCall (sample : Sample) : DecoderCall := .sample sample.1 sample.2

/-- What a decoder reports for a signal and the question after it whether a
message is ready. -/
def decodedMessages (spec : InfraredCommonProtocolSpec) (decoder : InfraredCommonDecoder)
    (samples : List Sample) : Except DecoderFault (List InfraredMessage) :=
  let (answers, final) :=
    (decoderMachine spec).run (.ok decoder) (samples.map sampleCall ++ [.checkReady])
  final.map fun _ => answers.filterMap id

/-- Without a fault the samples take one decoder to the other and give the messages. -/
def Hears (spec : InfraredCommonProtocolSpec) (decoder : InfraredCommonDecoder)
    (samples : List Sample) (messages : List InfraredMessage) (final : InfraredCommonDecoder) : Prop :=
  ((decoderMachine spec).run (.ok decoder) (samples.map sampleCall)).1.filterMap id = messages ∧
    ((decoderMachine spec).run (.ok decoder) (samples.map sampleCall)).2 = .ok final

variable {spec : InfraredCommonProtocolSpec} {pwm : Bool}

theorem Hears.append {decoder middle final : InfraredCommonDecoder} {samples samples' : List Sample}
    {messages messages' : List InfraredMessage} (first : Hears spec decoder samples messages middle)
    (second : Hears spec middle samples' messages' final) :
    Hears spec decoder (samples ++ samples') (messages ++ messages') final := by
  obtain ⟨heard, reached⟩ := first
  obtain ⟨heard', reached'⟩ := second
  rw [Hears, List.map_append, run_append, reached, List.filterMap_append, heard, heard']
  exact ⟨rfl, reached'⟩

theorem Hears.nil (decoder : InfraredCommonDecoder) : Hears spec decoder [] [] decoder := ⟨rfl, rfl⟩

theorem Hears.single {decoder final : InfraredCommonDecoder} {level : Bool} {duration : Nat}
    {message : Option InfraredMessage}
    (call : infraredCommonDecode spec decoder level duration = .ok (message, final)) :
    Hears spec decoder [(level, duration)] message.toList final := by
  have step : decoderMachine spec (.ok decoder) (.sample level duration) = (message, .ok final) := by
    simp only [decoderMachine, decoderCall, call]
  simp only [Hears, List.map_cons, List.map_nil, sampleCall, run, step, and_true]
  cases message <;> rfl

theorem decodedMessages_of_hears {decoder final : InfraredCommonDecoder} {samples : List Sample}
    {messages : List InfraredMessage} (heard : Hears spec decoder samples messages final) :
    decodedMessages spec decoder samples = .ok (messages ++
        if (infraredCommonDecoderCheckReady spec final).1 then
          [(infraredCommonDecoderCheckReady spec final).2.message] else []) := by
  obtain ⟨messagesHeard, reached⟩ := heard
  simp only [decodedMessages, run_append, reached, List.filterMap_append, messagesHeard, run,
    decoderMachine, decoderCall]
  split <;> rfl

theorem checkReady_of_interpret {decoder next : InfraredCommonDecoder}
    (length : foundLength spec.toInfraredProtocolTable decoder.databitCnt = true)
    (interpreted : spec.interpret spec.toInfraredProtocolTable decoder = (true, next)) :
    infraredCommonDecoderCheckReady spec decoder = (true, { next with
      databitCnt := 0
      state := if spec.decodeRepeat.isSome then .processRepeat else .waitPreamble }) := by
  simp only [infraredCommonDecoderCheckReady, length, interpreted, if_true]

/-- The payload bits received so far, with zeros in the rest of the last byte. -/
def Held (data : BitVec 64) (bits : List Bool) : Prop :=
  ∀ i < 8 * ((bits.length + 7) / 8), data.getLsbD i = bits.getD i false

theorem held_nil (data : BitVec 64) : Held data [] := by
  intro i inside
  simp only [List.length_nil] at inside
  omega

variable {bits : List Bool}

theorem Held.carries {data : BitVec 64} (held : Held data bits) :
    Carries data 0 bits := by
  intro i inside
  rw [Nat.zero_add]
  exact held i (by omega)

theorem getLsbD_one_shiftLeft {shift i : Nat} (inside : i < 8) :
    (1#8 <<< shift).getLsbD i = decide (i = shift) := by
  simp only [BitVec.getLsbD_shiftLeft, inside]
  by_cases same : i = shift
  · simp [same]
  · by_cases low : i < shift
    · simp [low, same]
    · simp [same, show i - shift ≠ 0 by omega]

variable {decoder : InfraredCommonDecoder}

theorem held_accumulateLsb (held : Held decoder.data bits) (count : decoder.databitCnt = bits.length)
    (room : bits.length < 64) (bit : Bool) :
    Held (accumulateLsb decoder bit).data (bits ++ [bit]) := by
  intro i inside
  rw [List.length_append, List.length_singleton] at inside
  have small : i < 64 := by omega
  -- the byte with the new bit, after it was cleared for its first bit
  have cleared : (if decoder.databitCnt % 8 = 0 then setByte decoder.data (decoder.databitCnt / 8) 0
      else decoder.data).getLsbD i = bits.getD i false := by
    split
    · rw [getLsbD_setByte _ _ small]
      split
      · rw [List.getD_eq_default _ _ (by omega)]
        simp
      · exact held i (by omega)
    · exact held i (by omega)
  have added : (bits ++ [bit]).getD i false = if i = bits.length then bit else bits.getD i false := by
    rcases Nat.lt_trichotomy i bits.length with low | rfl | high
    · rw [List.getD_append _ _ _ _ low, if_neg (by omega)]
    · simp
    · rw [if_neg (by omega), List.getD_eq_default _ _ (by simp; omega), List.getD_eq_default _ _ (by omega)]
  rw [added]
  simp only [accumulateLsb]
  generalize (if decoder.databitCnt % 8 = 0 then setByte decoder.data (decoder.databitCnt / 8) 0
    else decoder.data) = data at cleared
  cases bit
  · rw [if_neg Bool.false_ne_true, cleared]
    split
    · rw [List.getD_eq_default _ _ (by omega)]
    · rfl
  · rw [if_pos rfl, getLsbD_setByte _ _ small, count]
    split
    · rw [BitVec.getLsbD_or, getLsbD_byteAt _ _ (by omega), getLsbD_one_shiftLeft (by omega),
        show 8 * (bits.length / 8) + (i - 8 * (bits.length / 8)) = i by omega, cleared]
      by_cases new : i = bits.length
      · rw [if_pos new, decide_eq_true (by omega), Bool.or_true]
      · rw [if_neg new, decide_eq_false (by omega), Bool.or_false]
    · rw [cleared, if_neg (by omega)]

/-- What makes a protocol a pulse protocol for the decoder. `pwm` says that the
marks carry the bits. -/
structure PulseDecoded (spec : InfraredCommonProtocolSpec) (pwm : Bool) : Prop where
  preamble : spec.timings.preambleMark ≠ 0
  preambleMark : matchTiming spec.timings.preambleMark spec.timings.preambleMark
    spec.timings.preambleTolerance = true
  preambleSpace : matchTiming spec.timings.preambleSpace spec.timings.preambleSpace
    spec.timings.preambleTolerance = true
  splits : spec.timings.minSplitTime ≠ 0
  spaceShort : ∀ bit, spaceOf spec.timings bit ≤ spec.timings.minSplitTime
  longest : spec.maxLen < 64
  decodes : ∀ decoder level bit, spec.decode spec.toInfraredProtocolTable decoder level
      (if level then markOf spec.timings bit else spaceOf spec.timings bit) =
    (.ok, if level = pwm then accumulateLsb decoder bit else decoder)

/-- A decoder in the middle of a payload, all its timings worked off. -/
structure Receiving (decoder : InfraredCommonDecoder) (bits : List Bool) (level : Bool) : Prop where
  state : decoder.state = .decode
  timings : decoder.timings = []
  level : decoder.level = level
  databitCnt : decoder.databitCnt = bits.length
  held : Held decoder.data bits

/-- A call is its loop, run with the new timing behind the pending ones. -/
theorem Hears.ofLoop {decoder start heard final : InfraredCommonDecoder} {level : Bool}
    {duration : Nat} {found : Bool}
    (starts : (if decoder.level = level then infraredCommonDecoderReset spec decoder else decoder) = start)
    (room : start.timings.length < timingsSize)
    (hears : { start with level := level, timings := start.timings ++ [duration] } = heard)
    (loop : decodeLoop spec decodeFuel heard false = .ok (found, final)) :
    Hears spec decoder [(level, duration)] (if found then [final.message] else []) final := by
  have call : infraredCommonDecode spec decoder level duration =
      .ok (if found then some final.message else none, final) := by
    simp only [infraredCommonDecode, starts, if_neg (Nat.not_le.mpr room), hears, loop]
  cases found
  · exact Hears.single call
  · exact Hears.single call

/-- A timing that carries a bit or confirms one is worked off. -/
theorem decodeLoop_of_timing (decoder : InfraredCommonDecoder) {next : InfraredCommonDecoder}
    {timing : Nat} (fuel : Nat) (found : Bool) (state : decoder.state = .decode) (pending : decoder.timings = [timing])
    (splits : spec.timings.minSplitTime ≠ 0)
    (short : decoder.level = false → timing ≤ spec.timings.minSplitTime ∧ spec.maxLen ≠ decoder.databitCnt)
    (decodes : spec.decode spec.toInfraredProtocolTable decoder decoder.level timing = (.ok, next))
    (within : next.databitCnt ≤ spec.maxLen) :
    decodeLoop spec (fuel + 1) decoder found = .ok (found, { next with timings := [] }) := by
  have worked : infraredCommonDecodeBits spec decoder = .ok (.ok, { next with timings := [] }) := by
    rw [infraredCommonDecodeBits, pending, decodePending, List.length_nil, oldestLevel_one, if_neg, if_neg, decodes]
    · simp only [Nat.not_lt.mpr within, if_false, reduceCtorEq, splits, and_false, decodePending]
    · rintro ⟨⟨-, space⟩, -, longest⟩
      exact (short space).2 longest
    · rintro ⟨⟨-, space⟩, long, -⟩
      exact Nat.not_lt.mpr (short space).1 long
  simp only [decodeLoop, state, worked]

theorem accumulateLsb_count (decoder : InfraredCommonDecoder) (bit : Bool) :
    (accumulateLsb decoder bit).databitCnt = decoder.databitCnt + 1 := rfl

variable (decoded : PulseDecoded spec pwm)
include decoded

theorem receive_half (level bit : Bool) (receiving : Receiving decoder bits (!level))
    (room : bits.length + (if level = pwm then 1 else 0) ≤ spec.maxLen) (more : level = false → bits.length < spec.maxLen) :
    ∃ next, Hears spec decoder
        [(level, if level then markOf spec.timings bit else spaceOf spec.timings bit)] [] next ∧
      Receiving next (if level = pwm then bits ++ [bit] else bits) level := by
  obtain ⟨state, timings, other, count, held⟩ := receiving
  generalize half : (if level then markOf spec.timings bit else spaceOf spec.timings bit) = timing
  let heard : InfraredCommonDecoder := { decoder with level := level, timings := [timing] }
  have decodes : spec.decode spec.toInfraredProtocolTable heard level timing =
      (.ok, if level = pwm then accumulateLsb heard bit else heard) :=
    half ▸ decoded.decodes heard level bit
  have short : level = false → timing ≤ spec.timings.minSplitTime ∧ spec.maxLen ≠ bits.length := by
    rintro rfl
    exact ⟨half ▸ decoded.spaceShort bit, Nat.ne_of_gt (more rfl)⟩
  have grown : (if level = pwm then accumulateLsb heard bit else heard).databitCnt =
      bits.length + (if level = pwm then 1 else 0) := by
    split <;> simp only [accumulateLsb_count, heard, count, Nat.add_zero]
  have loop := decodeLoop_of_timing heard 23 false state rfl decoded.splits
    (fun space => by rw [show heard.databitCnt = bits.length from count]; exact short space) decodes
    (grown ▸ room)
  have alternates : decoder.level ≠ level := by
    rw [other]
    cases level <;> decide
  refine ⟨_, Hears.ofLoop (if_neg alternates) (by rw [timings]; decide) (by rw [timings]; rfl) loop, ?_⟩
  by_cases carries : level = pwm
  · simp only [if_pos carries] at grown ⊢
    have small := decoded.longest
    exact ⟨state, rfl, rfl, by simpa using grown,
      held_accumulateLsb (show Held heard.data bits from held) count (by omega) bit⟩
  · simp only [if_neg carries]
    exact ⟨state, rfl, rfl, count, held⟩

theorem receive_bit (bit : Bool) (receiving : Receiving decoder bits false)
    (room : bits.length + (if pwm then 2 else 1) ≤ spec.maxLen) :
    ∃ next, Hears spec decoder (pulses spec.timings bit) [] next ∧
      Receiving next (bits ++ [bit]) false := by
  obtain ⟨middle, mark, marked⟩ := receive_half decoded true bit receiving
    (by cases pwm <;> simp at room ⊢ <;> omega) (by simp)
  obtain ⟨next, space, spaced⟩ := receive_half decoded false bit marked
    (by cases pwm <;> simp at room ⊢ <;> omega) (by cases pwm <;> simp at room ⊢ <;> omega)
  refine ⟨next, mark.append space, ?_⟩
  cases pwm <;> simpa using spaced

theorem receive_bits (more : List Bool) (receiving : Receiving decoder bits false)
    (room : bits.length + more.length + (if pwm then 1 else 0) ≤ spec.maxLen) :
    ∃ next, Hears spec decoder (more.flatMap (pulses spec.timings)) [] next ∧
      Receiving next (bits ++ more) false := by
  induction more generalizing decoder bits with
  | nil => exact ⟨decoder, Hears.nil decoder, by simpa using receiving⟩
  | cons bit more ih =>
    rw [List.length_cons] at room
    obtain ⟨middle, first, received⟩ := receive_bit decoded bit receiving
      (by cases pwm <;> simp at room ⊢ <;> omega)
    obtain ⟨next, rest, all⟩ := ih received (by rw [List.length_append, List.length_singleton]; omega)
    refine ⟨next, first.append rest, ?_⟩
    rwa [List.append_assoc] at all

omit decoded

structure Waiting (decoder : InfraredCommonDecoder) (pending : List Nat) (level : Bool) : Prop where
  state : decoder.state = .waitPreamble
  timings : decoder.timings = pending
  level : decoder.level = level
  databitCnt : decoder.databitCnt = 0

/-- A call in front of a preamble is a look for one among what is pending. -/
theorem decodeLoop_waiting (decoder : InfraredCommonDecoder) {next : InfraredCommonDecoder}
    (found : Bool) (state : decoder.state = .waitPreamble)
    (check : infraredCheckPreamble spec decoder = (false, next)) :
    decodeLoop spec decodeFuel decoder found = .ok (found, next) := by
  rw [decodeFuel, decodeLoop, state]
  simp only [check, Bool.false_eq_true, if_false]

variable (preamble : spec.timings.preambleMark ≠ 0)
include preamble

/-- A space with nothing pending is dropped, also by a decoder that starts over. -/
theorem wait_space {level : Bool} (duration : Nat) (waiting : Waiting decoder [] level) :
    ∃ next, Hears spec decoder [(false, duration)] [] next ∧ Waiting next [] false := by
  obtain ⟨state, timings, -, count⟩ := waiting
  generalize starts : (if decoder.level = false then infraredCommonDecoderReset spec decoder else decoder) = start
  have fresh : start.state = .waitPreamble ∧ start.timings = [] ∧ start.databitCnt = 0 := by
    rw [← starts]
    split
    · exact ⟨rfl, rfl, rfl⟩
    · exact ⟨state, timings, count⟩
  let heard : InfraredCommonDecoder := { start with level := false, timings := [duration] }
  have check : infraredCheckPreamble spec heard = (false, { heard with timings := [] }) := by
    simp only [infraredCheckPreamble, heard, List.cons_ne_nil, if_false, List.length_singleton,
      oldestLevel_one, Bool.false_eq_true, preamble, List.tail_cons, findPreamble]
  have loop := decodeLoop_waiting heard false fresh.1 check
  exact ⟨_, Hears.ofLoop starts (by rw [fresh.2.1]; decide) (by rw [fresh.2.1]; rfl) loop,
    fresh.1, rfl, rfl, fresh.2.2⟩

theorem seek_mark (duration : Nat) (state : decoder.state = .waitPreamble) (timings : decoder.timings = [])
    (level : decoder.level = false) :
    Hears spec decoder [(true, duration)] [] { decoder with level := true, timings := [duration] } := by
  let heard : InfraredCommonDecoder := { decoder with level := true, timings := [duration] }
  have check : infraredCheckPreamble spec heard = (false, heard) := by
    simp only [infraredCheckPreamble, heard, List.cons_ne_nil, if_false, List.length_singleton,
      oldestLevel_one, if_true, preamble, findPreamble]
  have loop := decodeLoop_waiting heard false state check
  exact Hears.ofLoop (if_neg (by rw [level]; decide)) (by rw [timings]; decide) (by rw [timings]; rfl) loop

theorem wait_mark (duration : Nat) (waiting : Waiting decoder [] false) :
    ∃ next, Hears spec decoder [(true, duration)] [] next ∧ Waiting next [duration] true := by
  obtain ⟨state, timings, level, count⟩ := waiting
  exact ⟨_, seek_mark preamble duration state timings level, state, rfl, rfl, count⟩

omit preamble

include decoded

theorem seek_preamble (state : decoder.state = .waitPreamble) (timings : decoder.timings = [spec.timings.preambleMark])
    (level : decoder.level = true) :
    ∃ next, Hears spec decoder [(false, spec.timings.preambleSpace)] [] next ∧
      Receiving next [] false := by
  let heard : InfraredCommonDecoder := { decoder with
    level := false
    timings := [spec.timings.preambleMark, spec.timings.preambleSpace] }
  have check : infraredCheckPreamble spec heard = (true, { heard with timings := [] }) := by
    simp only [infraredCheckPreamble, heard, List.cons_ne_nil, if_false, List.length_cons,
      List.length_nil, oldestLevel_succ, oldestLevel_zero, Bool.not_false, Bool.not_true, if_true,
      decoded.preamble, findPreamble, decoded.preambleMark, decoded.preambleSpace, and_self]
  have loop : decodeLoop spec decodeFuel heard false = .ok (false, { heard with
      timings := []
      state := .decode
      databitCnt := 0
      switchDetect := false }) := by
    rw [decodeFuel, decodeLoop, show heard.state = .waitPreamble from state]
    simp only [check, if_true, decodeLoop, infraredCommonDecodeBits, decodePending]
  exact ⟨_, Hears.ofLoop (if_neg (by rw [level]; decide)) (by simp [timings, timingsSize])
    (by rw [timings]; rfl) loop, rfl, rfl, rfl, rfl, held_nil _⟩

theorem wait_preamble (waiting : Waiting decoder [spec.timings.preambleMark] true) :
    ∃ next, Hears spec decoder [(false, spec.timings.preambleSpace)] [] next ∧
      Receiving next [] false := seek_preamble decoded waiting.state waiting.timings waiting.level

/-- Silence and preamble make a decoder that starts over ready for the payload. -/
theorem receive_start (decoder : InfraredCommonDecoder) :
    ∃ next, Hears spec (infraredCommonDecoderReset spec decoder) (frameStart spec.timings) [] next ∧
      Receiving next [] false := by
  have fresh : Waiting (infraredCommonDecoderReset spec decoder) [] decoder.level :=
    ⟨rfl, rfl, rfl, rfl⟩
  obtain ⟨first, silence, waiting⟩ := wait_space decoded.preamble spec.timings.silenceTime fresh
  obtain ⟨second, mark, waiting⟩ := wait_mark decoded.preamble spec.timings.preambleMark waiting
  obtain ⟨third, space, receiving⟩ := wait_preamble decoded waiting
  exact ⟨third, silence.append (mark.append space), receiving⟩

omit decoded

variable {family : InfraredFamily} {message : InfraredMessage}

theorem encoderReset_start {encoder next : InfraredToggleEncoder} (reset : family.encoderReset encoder message = some next) :
    next.commonEncoder.state = .silence ∧ next.commonEncoder.bitsEncoded = 0 ∧
      next.commonEncoder.timingsEncoded = 0 := by
  obtain ⟨protocol, address, command, isRepeat⟩ := message
  cases family <;> cases protocol <;>
    simp only [InfraredFamily.encoderReset, infraredEncoderNecReset, infraredEncoderSircReset,
      infraredEncoderPioneerReset, Option.map_some, Option.map_none, Option.some.injEq,
      reduceCtorEq] at reset
  all_goals
    subst reset
    exact ⟨rfl, rfl, rfl⟩

theorem payloadLayout_positive (known : (family.getProtocolVariant message.protocol).isSome) (toggle : Bool) :
    0 < (payloadLayout message toggle).length := by
  obtain ⟨protocol, address, command, isRepeat⟩ := message
  cases protocol
  case unknown => cases family <;> cases known
  all_goals simp [payloadLayout, kaseikyoMiddle]

theorem resetEncoder_prepared (handler : InfraredEncoderHandler) (found : infraredFindIndexByProtocol message.protocol = some family)
    (fits : message.protocol = .kaseikyo → message.command.toNat < 2 ^ 10) :
    ∃ encoder toggle toggle', infraredResetEncoder handler message = some ⟨some family, ⟨encoder, toggle'⟩⟩ ∧
      Prepared encoder ∧ framePayload encoder = payloadLayout message toggle := by
  have known := List.find?_some found
  generalize fresh : (if handler.encoder = some family then handler.handler else infraredEncoderAlloc) = start
  have packed := encoderReset_payload family start known fits
  obtain ⟨encoder, reset, payload⟩ := Option.map_eq_some_iff.mp packed
  refine ⟨encoder.commonEncoder, start.toggleBit, encoder.toggleBit, ?_, ?_, payload⟩
  · simp only [infraredResetEncoder, found, fresh, reset, Option.map_some]
  · obtain ⟨state, bitsEncoded, timingsEncoded⟩ := encoderReset_start reset
    have positive := payloadLayout_positive known start.toggleBit
    rw [← payload, framePayload, List.length_map, List.length_range] at positive
    exact ⟨state, bitsEncoded, timingsEncoded, positive⟩

/-- SIRC is the protocol whose marks carry the bits. -/
def InfraredFamily.isPwm : InfraredFamily → Bool
  | .sirc => true
  | _ => false

theorem pulse_encoded (pulse : family.isPulse = true) :
    PulseEncoded family.spec family.isPwm := by
  cases family <;> cases pulse <;> exact ⟨rfl, rfl, by decide⟩

theorem pulse_decoded (pulse : family.isPulse = true) :
    PulseDecoded family.spec family.isPwm := by
  cases family <;> cases pulse
  all_goals
    refine ⟨by decide, by decide, by decide, by decide, by decide, by decide, ?_⟩
    intro decoder level bit
    cases level <;> cases bit <;> rfl

/-! ## Frames, sent and heard -/

/-- The samples of a frame with the given payload: SIRC ends with a mark, Pioneer
with a space, and the others close the last space with one more mark. -/
def frameSamples (family : InfraredFamily) (payload : List Bool) : List Sample :=
  let timings := family.spec.timings
  let bits := payload.flatMap (pulses timings)
  frameStart timings ++
    match family with
    | .sirc => bits.dropLast
    | .pioneer => bits
    | _ => bits ++ [(true, timings.bit1Mark)]

theorem length_le_maxLen
    (pulse : family.isPulse = true) (known : (family.getProtocolVariant message.protocol).isSome) (toggle : Bool) :
    foundLength family.spec.toInfraredProtocolTable (payloadLayout message toggle).length = true ∧
      (payloadLayout message toggle).length ≤ family.spec.maxLen := by
  obtain ⟨protocol, address, command, isRepeat⟩ := message
  cases family <;> cases pulse <;> cases protocol <;> cases known <;>
    simp [payloadLayout, kaseikyoMiddle] <;> decide

theorem exists_last {payload : List Bool} (nonempty : payload ≠ []) :
    ∃ bits last, payload = bits ++ [last] :=
  ⟨payload.dropLast, payload.getLast nonempty, (List.dropLast_append_getLast nonempty).symm⟩

theorem dropLast_pulses (timings : InfraredTimings) (payload : List Bool) (last : Bool) :
    ((payload ++ [last]).flatMap (pulses timings)).dropLast =
      payload.flatMap (pulses timings) ++ [(true, markOf timings last)] := by
  rw [List.flatMap_append, List.flatMap_singleton, pulses,
    List.append_cons (payload.flatMap (pulses timings)) (true, markOf timings last),
    List.dropLast_concat]

theorem encode_frame (pulse : family.isPulse = true) {encoder : InfraredCommonEncoder} (prepared : Prepared encoder)
    (short : encoder.bitsToEncode ≤ 60) :
    ∃ final, encodeUntilDone (some ∘ family.encode) frameFuel encoder =
      some (frameSamples family (framePayload encoder), final) := by
  have coded := pulse_encoded pulse
  have nonempty : framePayload encoder ≠ [] := by
    intro empty
    have none := congrArg List.length empty
    rw [framePayload, List.length_map, List.length_range] at none
    exact Nat.ne_of_gt prepared.payload none
  obtain ⟨payload, last, split⟩ := exists_last nonempty
  cases family
  case rc5 | rc6 => cases pulse
  case sirc =>
    obtain ⟨final, sent⟩ := untilDone_lastMark coded prepared short split
    refine ⟨final, sent.trans ?_⟩
    rw [split, frameSamples, dropLast_pulses, List.append_assoc]
  case pioneer =>
    obtain ⟨final, sent⟩ := untilDone_lastSpace coded prepared short split
    rw [split]
    exact ⟨final, sent⟩
  all_goals
    exact ⟨_, untilDone_stopMark coded rfl prepared short⟩

/-- What follows the preamble of a frame. -/
def frameBody (family : InfraredFamily) (payload : List Bool) : List Sample :=
  (frameSamples family payload).drop 3

theorem hear_body (pulse : family.isPulse = true) (receiving : Receiving decoder [] false) {payload : List Bool}
    (nonempty : payload ≠ []) (fits : payload.length ≤ family.spec.maxLen) :
    ∃ final, Hears family.spec decoder (frameBody family payload) [] final ∧
      Receiving final payload (family != .pioneer) := by
  have decoded := pulse_decoded pulse
  obtain ⟨bits, last, split⟩ := exists_last nonempty
  have count : payload.length = bits.length + 1 := by
    rw [split, List.length_append, List.length_singleton]
  by_cases sirc : family = .sirc
  · subst sirc
    obtain ⟨first, heard, receiving⟩ := receive_bits decoded bits receiving
      (by simp only [InfraredFamily.isPwm, if_true, List.length_nil]; omega)
    obtain ⟨second, mark, receiving⟩ := receive_half decoded true last receiving
      (by simp only [InfraredFamily.isPwm, if_true, List.nil_append]; omega) (by simp)
    have body : frameBody .sirc payload = bits.flatMap (pulses InfraredFamily.sirc.spec.timings) ++
        [(true, markOf InfraredFamily.sirc.spec.timings last)] := by
      rw [split]
      exact dropLast_pulses InfraredFamily.sirc.spec.timings bits last
    exact ⟨second, body ▸ heard.append mark, split ▸ receiving⟩
  · have pdm : family.isPwm = false := by cases family <;> simp_all [InfraredFamily.isPwm]
    rw [pdm] at decoded
    obtain ⟨first, heard, receiving⟩ := receive_bits decoded payload receiving
      (by simp only [Bool.false_eq_true, if_false, List.length_nil]; omega)
    cases family
    case sirc => exact absurd rfl sirc
    case pioneer => exact ⟨first, heard, receiving⟩
    all_goals
      obtain ⟨second, mark, receiving⟩ := receive_half decoded true true receiving (by simpa using fits) (by simp)
      exact ⟨second, heard.append mark, receiving⟩

theorem hear_frame (pulse : family.isPulse = true)
    (decoder : InfraredCommonDecoder) {payload : List Bool} (nonempty : payload ≠ [])
    (fits : payload.length ≤ family.spec.maxLen) :
    ∃ final, Hears family.spec (infraredCommonDecoderReset family.spec decoder)
        (frameSamples family payload) [] final ∧
      Receiving final payload (family != .pioneer) := by
  obtain ⟨middle, start, receiving⟩ := receive_start (pulse_decoded pulse) decoder
  obtain ⟨final, heard, receiving⟩ := hear_body pulse receiving nonempty fits
  exact ⟨final, start.append heard, receiving⟩

theorem alternates_pulses (timings : InfraredTimings) (bits : List Bool) (rest : List Sample) :
    Alternates true (bits.flatMap (pulses timings) ++ rest) ↔ Alternates true rest := by
  induction bits with
  | nil => rfl
  | cons bit bits ih => simpa [pulses, Alternates] using ih

theorem frame_alternates (family : InfraredFamily) (payload : List Bool) :
    Alternates false (frameSamples family payload) := by
  have bits := (alternates_pulses family.spec.timings payload []).mpr trivial
  have marked := (alternates_pulses family.spec.timings payload
    [(true, family.spec.timings.bit1Mark)]).mpr ⟨rfl, trivial⟩
  rw [List.append_nil] at bits
  refine ⟨rfl, rfl, rfl, ?_⟩
  cases family
  case sirc =>
    by_cases empty : payload = []
    · subst empty
      trivial
    · obtain ⟨payload, last, rfl⟩ := exists_last empty
      rw [dropLast_pulses]
      exact (alternates_pulses _ payload _).mpr ⟨rfl, trivial⟩
  case pioneer => exact bits
  all_goals exact marked

/-- A message is sent and heard: the encoder of a handler prepares and sends it and
its repeats, and what the decoder of its family reports is returned. -/
def roundTrip (handler : InfraredEncoderHandler) (message : InfraredMessage) (repeats : Nat)
    (decoder : InfraredCommonDecoder) : Option (Except DecoderFault (List InfraredMessage)) := do
  let handler ← infraredResetEncoder handler message
  let family ← handler.encoder
  let samples ← encodeFrames infraredEncode frameFuel (repeats + 1) handler
  some (decodedMessages family.spec (infraredCommonDecoderReset family.spec decoder) (mergeLevels samples))

/-- The pulse protocols: whatever was sent or heard before, one frame of an accepted
message makes the decoder report exactly this message, not as a repeat. -/
theorem pulse_frame_decodes_to_its_message (handler : InfraredEncoderHandler)
    (decoder : InfraredCommonDecoder) (message : InfraredMessage) (family : InfraredFamily)
    (found : infraredFindIndexByProtocol message.protocol = some family)
    (pulse : family.isPulse = true) (valid : infraredSignalIsMessageValid message = true)
    (plain : ¬ ComplementedForm message) :
    roundTrip handler message 0 decoder =
      some (.ok [⟨message.protocol, message.address, message.command, false⟩]) := by
  have known := List.find?_some found
  obtain ⟨encoder, toggle, toggle', reset, prepared, payload⟩ :=
    resetEncoder_prepared handler found (kaseikyo_fits valid)
  obtain ⟨length, fits⟩ := length_le_maxLen pulse known toggle
  have count : encoder.bitsToEncode = (payloadLayout message toggle).length := by
    rw [← payload, framePayload, List.length_map, List.length_range]
  have short : family.spec.maxLen ≤ 60 := by
    cases family <;> cases pulse <;> decide
  obtain ⟨sentFinal, sent⟩ := encode_frame pulse prepared (by omega)
  obtain ⟨final, heard, receiving⟩ := hear_frame pulse decoder
    (List.ne_nil_of_length_pos (payloadLayout_positive known toggle)) fits
  have interpreted := interpret_payload pulse known valid plain receiving.databitCnt receiving.held.carries
  have ready := checkReady_of_interpret (receiving.databitCnt ▸ length) interpreted
  have frame : encodeFrames infraredEncode frameFuel 1 ⟨some family, ⟨encoder, toggle'⟩⟩ =
      some (frameSamples family (payloadLayout message toggle)) := by
    rw [encodeFrames_handler, encodeFrames, sent, payload]
    simp [encodeFrames]
  simp only [roundTrip, reset, Option.bind_eq_bind, Option.bind_some, frame,
    mergeLevels_of_alternates (frame_alternates family _), decodedMessages_of_hears heard]
  simp only [ready]
  rfl

theorem pulse_frame_decodes_to_its_message_sirc20 : roundTrip infraredAllocEncoder ⟨.sirc20, 0x1A5A, 0x2B, true⟩ 0
        ⟨[], ⟨.unknown, 0, 0, false⟩, .waitPreamble, false, false, 0, 0, false⟩ =
      some (.ok [⟨.sirc20, 0x1A5A, 0x2B, false⟩]) :=
  pulse_frame_decodes_to_its_message infraredAllocEncoder _ ⟨.sirc20, 0x1A5A, 0x2B, true⟩ .sirc
    rfl rfl (by decide) (by decide)

end Xtreme.Infrared
