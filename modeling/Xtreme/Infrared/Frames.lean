import Xtreme.Infrared.Payload

/-! What the encoders send: `infrared_encode` is called until it says `Done`,
and the pulse protocols then have sent their silence, the preamble, a mark and a
space for every bit of the payload and an end that depends on the protocol.

The frames are described by `pulses` and the equations of the encoder are the
`Emits` lemmas; the decoder is compared with the same description. -/
namespace Xtreme.Infrared
open Xtreme.Library

/-- A level and how long it lasts. -/
abbrev Sample := Bool × Nat

section EncodeUntilDone
variable {σ : Type}

/-- Calls of an encoder until one says `Done`, at most `fuel` of them. Any status
but `Ok` and `Done` is a failed `furi_check` of the caller. -/
def encodeUntilDone (encode : σ → Option (Encoded σ)) : Nat → σ → Option (List Sample × σ)
  | 0, _ => none
  | fuel + 1, encoder =>
    match encode encoder with
    | none => none
    | some ⟨.done, duration, level, encoder⟩ => some ([(level, duration)], encoder)
    | some ⟨.ok, duration, level, encoder⟩ =>
      (encodeUntilDone encode fuel encoder).map fun (samples, encoder) =>
        ((level, duration) :: samples, encoder)
    | some _ => none

def encodeFrames (encode : σ → Option (Encoded σ)) (fuel : Nat) : Nat → σ → Option (List Sample)
  | 0, _ => some []
  | count + 1, encoder =>
    (encodeUntilDone encode fuel encoder).bind fun (samples, encoder) =>
      (encodeFrames encode fuel count encoder).map (samples ++ ·)

/-- Calls that all say `Ok`. -/
def Emits (encode : σ → Encoded σ) : σ → List Sample → σ → Prop
  | encoder, [], final => encoder = final
  | encoder, (level, duration) :: samples, final =>
    ∃ next, encode encoder = ⟨.ok, duration, level, next⟩ ∧ Emits encode next samples final

variable {encode : σ → Encoded σ}

theorem Emits.append {encoder middle final : σ} {samples samples' : List Sample}
    (first : Emits encode encoder samples middle) (second : Emits encode middle samples' final) :
    Emits encode encoder (samples ++ samples') final := by
  induction samples generalizing encoder with
  | nil =>
    cases first
    exact second
  | cons sample samples ih =>
    obtain ⟨next, out, rest⟩ := first
    exact ⟨next, out, ih rest⟩

theorem Emits.single {encoder next : σ} {level : Bool} {duration : Nat}
    (out : encode encoder = ⟨.ok, duration, level, next⟩) :
    Emits encode encoder [(level, duration)] next := ⟨next, out, rfl⟩

/-- Calls that say `Ok` and then one that says `Done` are a frame. -/
theorem Emits.untilDone {encoder last final : σ} {samples : List Sample} {level : Bool}
    {duration fuel : Nat} (emits : Emits encode encoder samples last)
    (done : encode last = ⟨.done, duration, level, final⟩) (enough : samples.length < fuel) :
    encodeUntilDone (some ∘ encode) fuel encoder = some (samples ++ [(level, duration)], final) := by
  induction samples generalizing encoder fuel with
  | nil =>
    cases emits
    obtain ⟨fuel, rfl⟩ := Nat.exists_eq_succ_of_ne_zero (Nat.ne_of_gt enough)
    simp only [encodeUntilDone, Function.comp_apply, done, List.nil_append]
  | cons sample samples ih =>
    obtain ⟨next, out, rest⟩ := emits
    obtain ⟨fuel, rfl⟩ := Nat.exists_eq_succ_of_ne_zero (Nat.ne_of_gt (Nat.zero_lt_of_lt enough))
    have tail := ih rest (Nat.lt_of_succ_lt_succ enough)
    simp only [encodeUntilDone, Function.comp_apply, out, tail, Option.map_some, List.cons_append]

end EncodeUntilDone

/-- Rounds that suffice for a frame of every protocol. -/
def frameFuel : Nat := 128

theorem encodeUntilDone_handler (family : InfraredFamily) (toggle : Bool) (fuel : Nat)
    (encoder : InfraredCommonEncoder) :
    encodeUntilDone infraredEncode fuel ⟨some family, ⟨encoder, toggle⟩⟩ =
      (encodeUntilDone (some ∘ family.encode) fuel encoder).map fun (samples, encoder) =>
        (samples, ⟨some family, ⟨encoder, toggle⟩⟩) := by
  induction fuel generalizing encoder with
  | zero => rfl
  | succ fuel ih =>
    simp only [encodeUntilDone, infraredEncode, Option.map_some, Function.comp_apply]
    obtain ⟨status, duration, level, next⟩ := family.encode encoder
    cases status <;> simp only [ih, Option.map_map, Option.map_none, Option.map_some]
    rfl

theorem encodeFrames_handler (family : InfraredFamily) (toggle : Bool) (fuel count : Nat)
    (encoder : InfraredCommonEncoder) :
    encodeFrames infraredEncode fuel count ⟨some family, ⟨encoder, toggle⟩⟩ =
      encodeFrames (some ∘ family.encode) fuel count encoder := by
  induction count generalizing encoder with
  | zero => rfl
  | succ count ih =>
    rw [encodeFrames, encodeUntilDone_handler, encodeFrames]
    cases encodeUntilDone (some ∘ family.encode) fuel encoder with
    | none => rfl
    | some frame =>
      simp only [Option.map_some, Option.bind_some, ih]

/-- Neighbours of one level become one sample (`infrared_test_run_encoder_fill_array`). -/
def mergeLevels : List Sample → List Sample
  | [] => []
  | sample :: samples =>
    match mergeLevels samples with
    | [] => [sample]
    | next :: rest =>
      if sample.1 = next.1 then (sample.1, u32 (sample.2 + next.2)) :: rest else sample :: next :: rest

def Alternates : Bool → List Sample → Prop
  | _, [] => True
  | level, sample :: samples => sample.1 = level ∧ Alternates (!level) samples

theorem mergeLevels_of_alternates {level : Bool} {samples : List Sample}
    (alternates : Alternates level samples) : mergeLevels samples = samples := by
  induction samples generalizing level with
  | nil => rfl
  | cons sample samples ih =>
    obtain ⟨first, rest⟩ := alternates
    rw [mergeLevels, ih rest]
    cases samples with
    | nil => rfl
    | cons next samples =>
      have differ : sample.1 ≠ next.1 := by
        rw [first, rest.1]
        cases level <;> decide
      simp only [if_neg differ]

/-! ## The pulse encoder -/

def markOf (timings : InfraredTimings) (bit : Bool) : Nat :=
  if bit then timings.bit1Mark else timings.bit0Mark

def spaceOf (timings : InfraredTimings) (bit : Bool) : Nat :=
  if bit then timings.bit1Space else timings.bit0Space

/-- The mark and the space of a bit. -/
def pulses (timings : InfraredTimings) (bit : Bool) : List Sample :=
  [(true, markOf timings bit), (false, spaceOf timings bit)]

/-- The silence before a frame and its preamble. -/
def frameStart (timings : InfraredTimings) : List Sample :=
  [(false, timings.silenceTime), (true, timings.preambleMark), (false, timings.preambleSpace)]

@[simp] theorem length_pulses (timings : InfraredTimings) (bits : List Bool) :
    (bits.flatMap (pulses timings)).length = 2 * bits.length := by
  induction bits with
  | nil => rfl
  | cons bit bits ih =>
    rw [List.flatMap_cons, List.length_append, pulses]
    simp only [List.length_cons, List.length_nil]
    omega

/-- `timings_sum` after more samples. -/
def addDurations (sum : Nat) (samples : List Sample) : Nat :=
  samples.foldl (fun sum sample => u32 (sum + sample.2)) sum

theorem addDurations_append (sum : Nat) (samples samples' : List Sample) :
    addDurations sum (samples ++ samples') = addDurations (addDurations sum samples) samples' :=
  List.foldl_append

theorem payloadBit_eq (encoder : InfraredCommonEncoder) :
    payloadBit encoder = encoder.data.getLsbD encoder.bitsEncoded := by
  rw [payloadBit, getLsbD_byteAt _ _ (Nat.mod_lt _ (by decide)), Nat.div_add_mod]

/-- What makes a protocol a pulse protocol for the encoder. `pwm` says that the
marks carry the bits. -/
structure PulseEncoded (spec : InfraredCommonProtocolSpec) (pwm : Bool) : Prop where
  encode : spec.encode = infraredCommonEncodePdwm
  spaces : decide (spec.timings.bit1Space = spec.timings.bit0Space) = pwm
  preamble : spec.timings.preambleMark ≠ 0

variable {spec : InfraredCommonProtocolSpec} {pwm : Bool}

/-- The encoder after the mark or the space of a bit, whichever counts it. -/
def afterHalf (encoder : InfraredCommonEncoder) (counts : Bool) (duration : Nat) :
    InfraredCommonEncoder :=
  { encoder with
    bitsEncoded := if counts then encoder.bitsEncoded + 1 else encoder.bitsEncoded
    timingsEncoded := encoder.timingsEncoded + 1
    timingsSum := u32 (encoder.timingsSum + duration) }

/-- The spaces of a protocol whose marks carry the bits are all alike. -/
theorem PulseEncoded.spaceOf_eq (coded : PulseEncoded spec true) (bit bit' : Bool) :
    spaceOf spec.timings bit = spaceOf spec.timings bit' := by
  have same := of_decide_eq_true coded.spaces
  cases bit <;> cases bit' <;> simp [spaceOf, same]

section Half
variable (encoder : InfraredCommonEncoder) {bit : Bool}

theorem encodePdwm_mark (coded : PulseEncoded spec pwm) (odd : encoder.timingsEncoded % 2 = 1)
    (next : encoder.data.getLsbD encoder.bitsEncoded = bit) :
    infraredCommonEncodePdwm spec.toInfraredProtocolTable encoder = ⟨.ok, markOf spec.timings bit, true,
        { encoder with
          bitsEncoded := if pwm then encoder.bitsEncoded + 1 else encoder.bitsEncoded }⟩ := by
  rw [infraredCommonEncodePdwm, payloadBit_eq, next, if_pos (by omega), ← coded.spaces]
  by_cases same : spec.timings.bit1Space = spec.timings.bit0Space <;> simp [same, markOf]

theorem encodePdwm_space (coded : PulseEncoded spec pwm) (even : encoder.timingsEncoded % 2 = 0)
    (next : pwm = false → encoder.data.getLsbD encoder.bitsEncoded = bit) :
    infraredCommonEncodePdwm spec.toInfraredProtocolTable encoder = ⟨.ok, spaceOf spec.timings bit, false,
        { encoder with
          bitsEncoded := if !pwm then encoder.bitsEncoded + 1 else encoder.bitsEncoded }⟩ := by
  have space : spaceOf spec.timings (encoder.data.getLsbD encoder.bitsEncoded) =
      spaceOf spec.timings bit := by
    cases pwm
    · rw [next rfl]
    · exact coded.spaceOf_eq _ _
  rw [← space, infraredCommonEncodePdwm, payloadBit_eq, if_neg (by omega), ← coded.spaces]
  by_cases same : spec.timings.bit1Space = spec.timings.bit0Space <;> simp [same, spaceOf]

theorem countTiming_half (counts : Bool) (duration : Nat) (room : encoder.timingsEncoded + 1 < 2 ^ 32) :
    countTiming { encoder with
        bitsEncoded := if counts then encoder.bitsEncoded + 1 else encoder.bitsEncoded } duration =
      afterHalf encoder counts duration := by
  have counted : u32 (encoder.timingsEncoded + 1) = encoder.timingsEncoded + 1 := by
    rw [u32_of_range (by omega) (by omega)]
    omega
  rw [countTiming, afterHalf, counted]

theorem encodeBits_mark (coded : PulseEncoded spec pwm) (odd : encoder.timingsEncoded % 2 = 1)
    (room : encoder.timingsEncoded + 1 < 2 ^ 32)
    (next : encoder.data.getLsbD encoder.bitsEncoded = bit) :
    infraredCommonEncodeBits spec encoder =
      ⟨if (if pwm then encoder.bitsEncoded + 1 else encoder.bitsEncoded) = encoder.bitsToEncode then
          .done else .ok, markOf spec.timings bit, true,
        afterHalf encoder pwm (markOf spec.timings bit)⟩ := by
  simp only [infraredCommonEncodeBits, coded.encode, encodePdwm_mark encoder coded odd next,
    countTiming_half encoder _ _ room, and_true]
  cases pwm <;> simp only [afterHalf, Bool.false_eq_true, if_true, if_false] <;> split <;> rfl

theorem encodeBits_space (coded : PulseEncoded spec pwm) (even : encoder.timingsEncoded % 2 = 0)
    (room : encoder.timingsEncoded + 1 < 2 ^ 32)
    (next : pwm = false → encoder.data.getLsbD encoder.bitsEncoded = bit) :
    infraredCommonEncodeBits spec encoder = ⟨.ok, spaceOf spec.timings bit, false,
        afterHalf encoder (!pwm) (spaceOf spec.timings bit)⟩ := by
  simp only [infraredCommonEncodeBits, coded.encode, encodePdwm_space encoder coded even next,
    countTiming_half encoder _ _ room, Bool.false_eq_true, and_false, if_false]

theorem encode_mark (coded : PulseEncoded spec pwm) (state : encoder.state = .encode)
    (odd : encoder.timingsEncoded % 2 = 1) (room : encoder.timingsEncoded + 1 < 2 ^ 32)
    (next : encoder.data.getLsbD encoder.bitsEncoded = bit)
    (more : (if pwm then encoder.bitsEncoded + 1 else encoder.bitsEncoded) ≠ encoder.bitsToEncode) :
    infraredCommonEncode spec encoder =
      ⟨.ok, markOf spec.timings bit, true, afterHalf encoder pwm (markOf spec.timings bit)⟩ := by
  simp only [infraredCommonEncode, state, encodeStateEncode, encodeBits_mark encoder coded odd room next,
    if_neg more, reduceCtorEq, if_false]

theorem encode_space (coded : PulseEncoded spec pwm) (state : encoder.state = .encode)
    (even : encoder.timingsEncoded % 2 = 0) (room : encoder.timingsEncoded + 1 < 2 ^ 32)
    (next : pwm = false → encoder.data.getLsbD encoder.bitsEncoded = bit) :
    infraredCommonEncode spec encoder = ⟨.ok, spaceOf spec.timings bit, false,
        afterHalf encoder (!pwm) (spaceOf spec.timings bit)⟩ := by
  simp only [infraredCommonEncode, state, encodeStateEncode, encodeBits_space encoder coded even room next,
    reduceCtorEq, if_false]

end Half

/-- An encoder function that is `infrared_common_encode` until the payload is out;
with `slack` also for the call that sends the last bit. -/
def Follows (spec : InfraredCommonProtocolSpec)
    (encode : InfraredCommonEncoder → Encoded InfraredCommonEncoder) (slack : Nat) : Prop :=
  ∀ encoder, (infraredCommonEncode spec encoder).encoder.bitsEncoded <
      (infraredCommonEncode spec encoder).encoder.bitsToEncode + slack →
    encode encoder = infraredCommonEncode spec encoder

theorem follows_self (spec : InfraredCommonProtocolSpec) (slack : Nat) :
    Follows spec (infraredCommonEncode spec) slack := fun _ _ => rfl

theorem follows_encodeUntilLastBit (spec : InfraredCommonProtocolSpec) :
    Follows spec (encodeUntilLastBit spec) 0 := by
  intro encoder before
  rw [encodeUntilLastBit, if_neg]
  rintro ⟨-, last⟩
  exact Nat.ne_of_lt before last

variable {encode : InfraredCommonEncoder → Encoded InfraredCommonEncoder} {slack : Nat}

def nextBits (encoder : InfraredCommonEncoder) (count : Nat) : List Bool :=
  (List.range' encoder.bitsEncoded count).map encoder.data.getLsbD

def afterBits (timings : InfraredTimings) (encoder : InfraredCommonEncoder) (count : Nat) :
    InfraredCommonEncoder :=
  { encoder with
    bitsEncoded := encoder.bitsEncoded + count
    timingsEncoded := encoder.timingsEncoded + 2 * count
    timingsSum := addDurations encoder.timingsSum ((nextBits encoder count).flatMap (pulses timings)) }

theorem emits_bit (encoder : InfraredCommonEncoder) (coded : PulseEncoded spec pwm)
    (follows : Follows spec encode slack) (state : encoder.state = .encode)
    (odd : encoder.timingsEncoded % 2 = 1) (room : encoder.timingsEncoded + 2 < 2 ^ 32)
    (more : encoder.bitsEncoded + 1 < encoder.bitsToEncode + slack)
    (strict : pwm = true → slack = 0) (within : slack ≤ 1) :
    Emits encode encoder (pulses spec.timings (encoder.data.getLsbD encoder.bitsEncoded))
      (afterBits spec.timings encoder 1) := by
  generalize next : encoder.data.getLsbD encoder.bitsEncoded = bit
  have count : (if pwm then encoder.bitsEncoded + 1 else encoder.bitsEncoded) <
      encoder.bitsToEncode := by
    cases pwm
    · simp only [Bool.false_eq_true, if_false]
      omega
    · have exact := strict rfl
      simp only [if_true]
      omega
  have mark := encode_mark encoder coded state odd (by omega) next (Nat.ne_of_lt count)
  have spaceNext : pwm = false → (afterHalf encoder pwm (markOf spec.timings bit)).data.getLsbD
        (afterHalf encoder pwm (markOf spec.timings bit)).bitsEncoded = bit := by
    rintro rfl
    exact next
  have space := encode_space (afterHalf encoder pwm (markOf spec.timings bit)) coded state
    (by simp only [afterHalf]; omega) (by simp only [afterHalf]; omega) spaceNext
  have counted : afterHalf (afterHalf encoder pwm (markOf spec.timings bit)) (!pwm)
      (spaceOf spec.timings bit) = afterBits spec.timings encoder 1 := by
    cases pwm <;> simp [afterHalf, afterBits, nextBits, next, pulses, addDurations]
  rw [counted] at space
  refine ⟨_, (follows encoder ?_).trans mark, _, (follows _ ?_).trans space, rfl⟩
  · rw [mark]
    exact Nat.lt_add_right slack count
  · rw [space]
    exact more

theorem emits_bits (encoder : InfraredCommonEncoder) (coded : PulseEncoded spec pwm)
    (follows : Follows spec encode slack) (state : encoder.state = .encode)
    (odd : encoder.timingsEncoded % 2 = 1)
    (strict : pwm = true → slack = 0) (within : slack ≤ 1) (count : Nat) (room : encoder.timingsEncoded + 2 * count < 2 ^ 32)
    (more : encoder.bitsEncoded + count < encoder.bitsToEncode + slack) :
    Emits encode encoder ((nextBits encoder count).flatMap (pulses spec.timings))
      (afterBits spec.timings encoder count) := by
  induction count with
  | zero => rfl
  | succ count ih =>
    have first := ih (by omega) (by omega)
    have bit := emits_bit (afterBits spec.timings encoder count) coded follows state
      (by simp only [afterBits]; omega) (by simp only [afterBits]; omega)
      (by simp only [afterBits]; omega) strict within
    have grown : nextBits encoder (count + 1) =
        nextBits encoder count ++ [encoder.data.getLsbD (encoder.bitsEncoded + count)] := by
      simp [nextBits, List.range'_concat]
    have counted : afterBits spec.timings (afterBits spec.timings encoder count) 1 =
        afterBits spec.timings encoder (count + 1) := by
      simp only [afterBits, grown, List.flatMap_append, addDurations_append]
      rfl
    rw [grown, List.flatMap_append, ← counted]
    exact first.append bit

/-- The encoder when silence and preamble are out. -/
def afterStart (timings : InfraredTimings) (encoder : InfraredCommonEncoder) :
    InfraredCommonEncoder :=
  { encoder with
    state := .encode
    timingsEncoded := 3
    timingsSum := addDurations 0 [(true, timings.preambleMark), (false, timings.preambleSpace)] }

/-- A prepared encoder: nothing of the frame is out yet. -/
structure Prepared (encoder : InfraredCommonEncoder) : Prop where
  state : encoder.state = .silence
  bitsEncoded : encoder.bitsEncoded = 0
  timingsEncoded : encoder.timingsEncoded = 0
  payload : 0 < encoder.bitsToEncode

theorem emits_start (preamble : spec.timings.preambleMark ≠ 0) (follows : Follows spec encode slack)
    {encoder : InfraredCommonEncoder} (prepared : Prepared encoder) :
    Emits encode encoder (frameStart spec.timings) (afterStart spec.timings encoder) := by
  obtain ⟨state, bitsEncoded, timingsEncoded, payload⟩ := prepared
  have silence : infraredCommonEncode spec encoder = ⟨.ok, spec.timings.silenceTime, false,
      { encoder with state := .preamble, timingsEncoded := 1, timingsSum := 0 }⟩ := by
    simp only [infraredCommonEncode, state, timingsEncoded]
    rfl
  have mark : infraredCommonEncode spec
        { encoder with state := .preamble, timingsEncoded := 1, timingsSum := 0 } =
      ⟨.ok, spec.timings.preambleMark, true, { encoder with
        state := .preamble
        timingsEncoded := 2
        timingsSum := u32 (0 + spec.timings.preambleMark) }⟩ := by
    simp only [infraredCommonEncode, preamble, ne_eq]
    rfl
  have space : infraredCommonEncode spec { encoder with
          state := .preamble
          timingsEncoded := 2
          timingsSum := u32 (0 + spec.timings.preambleMark) } =
      ⟨.ok, spec.timings.preambleSpace, false, afterStart spec.timings encoder⟩ := by
    simp only [infraredCommonEncode, preamble, ne_eq]
    rfl
  have before : encoder.bitsEncoded < encoder.bitsToEncode + slack := by omega
  exact ⟨_, (follows _ (silence ▸ before)).trans silence, _, (follows _ (mark ▸ before)).trans mark,
    _, (follows _ (space ▸ before)).trans space, rfl⟩

/-! ## Whole frames -/

section WholeFrames
variable {encoder : InfraredCommonEncoder}

/-- The encoder after a frame that `infrared_common_encode` has ended itself. -/
def afterFrame (spec : InfraredCommonProtocolSpec) (encoder : InfraredCommonEncoder) :
    InfraredCommonEncoder :=
  if spec.encodeRepeat.isSome then { encoder with state := .encodeRepeat }
  else { encoder with
    timingsEncoded := 0
    timingsSum := 0
    bitsEncoded := 0
    switchDetect := false
    state := .silence }

theorem encode_lastMark (encoder : InfraredCommonEncoder) (coded : PulseEncoded spec pwm) {bit : Bool}
    (state : encoder.state = .encode)
    (odd : encoder.timingsEncoded % 2 = 1) (room : encoder.timingsEncoded + 1 < 2 ^ 32)
    (next : encoder.data.getLsbD encoder.bitsEncoded = bit)
    (last : (if pwm then encoder.bitsEncoded + 1 else encoder.bitsEncoded) = encoder.bitsToEncode) :
    infraredCommonEncode spec encoder = ⟨.done, markOf spec.timings bit, true,
        afterFrame spec (afterHalf encoder pwm (markOf spec.timings bit))⟩ := by
  simp only [infraredCommonEncode, state, encodeStateEncode, encodeBits_mark encoder coded odd room next,
    if_pos last, if_true, afterFrame]
  split <;> rfl

theorem nextBits_start (prepared : Prepared encoder) (timings : InfraredTimings) (count : Nat) :
    nextBits (afterStart timings encoder) count = (List.range count).map encoder.data.getLsbD := by
  simp only [nextBits, afterStart, prepared.bitsEncoded, List.range_eq_range']

theorem emits_frame (coded : PulseEncoded spec pwm) (follows : Follows spec encode slack)
    (prepared : Prepared encoder) (strict : pwm = true → slack = 0) (within : slack ≤ 1)
    (count : Nat) (short : count < 2 ^ 30) (more : count < encoder.bitsToEncode + slack) :
    Emits encode encoder (frameStart spec.timings ++
        ((List.range count).map encoder.data.getLsbD).flatMap (pulses spec.timings))
      (afterBits spec.timings (afterStart spec.timings encoder) count) := by
  have bits := emits_bits (afterStart spec.timings encoder) coded follows rfl
    (by simp only [afterStart]) strict within count (by simp only [afterStart]; omega)
    (by simp only [afterStart, prepared.bitsEncoded]; omega)
  rw [nextBits_start prepared] at bits
  exact (emits_start coded.preamble follows prepared).append bits

theorem framePayload_split {payload : List Bool} {last : Bool} (split : framePayload encoder = payload ++ [last]) :
    encoder.bitsToEncode = payload.length + 1 ∧ (List.range payload.length).map encoder.data.getLsbD = payload ∧
      encoder.data.getLsbD payload.length = last := by
  rw [framePayload_eq] at split
  have count : encoder.bitsToEncode = payload.length + 1 := by
    simpa using congrArg List.length split
  rw [count, List.range_succ, List.map_append] at split
  have parts := List.append_inj split (by simp)
  exact ⟨count, parts.1, (List.cons.inj parts.2).1⟩

theorem untilDone_stopMark (coded : PulseEncoded spec false)
    (marks : spec.timings.bit1Mark = spec.timings.bit0Mark) (prepared : Prepared encoder)
    (short : encoder.bitsToEncode ≤ 60) :
    encodeUntilDone (some ∘ infraredCommonEncode spec) frameFuel encoder = some (frameStart spec.timings ++
          ((framePayload encoder).flatMap (pulses spec.timings) ++ [(true, spec.timings.bit1Mark)]),
        afterFrame spec (afterHalf (afterBits spec.timings (afterStart spec.timings encoder)
          encoder.bitsToEncode) false spec.timings.bit1Mark)) := by
  have emits := emits_frame coded (follows_self spec 1) prepared (by simp) (Nat.le_refl 1)
    encoder.bitsToEncode (Nat.lt_of_le_of_lt short (by decide)) (Nat.lt_succ_self _)
  rw [← framePayload_eq] at emits
  have mark (bit : Bool) : markOf spec.timings bit = spec.timings.bit1Mark := by
    cases bit <;> simp [markOf, marks]
  have done := encode_lastMark (afterBits spec.timings (afterStart spec.timings encoder)
    encoder.bitsToEncode) coded rfl (by simp only [afterBits, afterStart]; omega) (by simp only [afterBits, afterStart]; omega) rfl
    (by simp only [afterBits, afterStart, prepared.bitsEncoded, Bool.false_eq_true, if_false]; omega)
  rw [mark] at done
  refine emits.untilDone done ?_
  simp only [List.length_append, length_pulses, framePayload_eq, List.length_map, List.length_range,
    frameStart, List.length_cons, List.length_nil, frameFuel]
  omega

theorem emits_beforeLast (coded : PulseEncoded spec pwm) (prepared : Prepared encoder)
    (short : encoder.bitsToEncode ≤ 60) {payload : List Bool} {last : Bool}
    (split : framePayload encoder = payload ++ [last]) :
    payload.length < 60 ∧ ∃ before, Emits (encodeUntilLastBit spec) encoder
        (frameStart spec.timings ++ payload.flatMap (pulses spec.timings)) before ∧
      before.state = .encode ∧ before.timingsEncoded = 3 + 2 * payload.length ∧
      before.bitsEncoded = payload.length ∧ before.bitsToEncode = payload.length + 1 ∧
      before.data.getLsbD before.bitsEncoded = last := by
  obtain ⟨count, bits, lastBit⟩ := framePayload_split split
  have emits := emits_frame coded (follows_encodeUntilLastBit spec) prepared (by simp)
    (Nat.zero_le 1) payload.length (by omega) (by omega)
  rw [bits] at emits
  refine ⟨by omega, _, emits, rfl, ?_⟩
  simp only [afterBits, afterStart, prepared.bitsEncoded, Nat.zero_add, count, lastBit, true_and]

theorem untilDone_lastMark (coded : PulseEncoded spec true) (prepared : Prepared encoder)
    (short : encoder.bitsToEncode ≤ 60) {payload : List Bool} {last : Bool}
    (split : framePayload encoder = payload ++ [last]) :
    ∃ final, encodeUntilDone (some ∘ encodeUntilLastBit spec) frameFuel encoder =
      some (frameStart spec.timings ++ payload.flatMap (pulses spec.timings) ++
        [(true, markOf spec.timings last)], final) := by
  obtain ⟨few, before, emits, state, timings, sent, total, next⟩ := emits_beforeLast coded prepared short split
  have done := encode_lastMark before coded state (by omega) (by omega) next (by simp only [if_true]; omega)
  have wrapped : encodeUntilLastBit spec before = infraredCommonEncode spec before := by
    rw [encodeUntilLastBit, done, if_neg (fun status => nomatch status.1)]
  refine ⟨_, emits.untilDone (wrapped.trans done) ?_⟩
  simp only [List.length_append, length_pulses, frameStart, List.length_cons, List.length_nil, frameFuel]
  omega

theorem untilDone_lastSpace (coded : PulseEncoded spec false) (prepared : Prepared encoder)
    (short : encoder.bitsToEncode ≤ 60) {payload : List Bool} {last : Bool}
    (split : framePayload encoder = payload ++ [last]) :
    ∃ final, encodeUntilDone (some ∘ encodeUntilLastBit spec) frameFuel encoder =
      some (frameStart spec.timings ++ (payload ++ [last]).flatMap (pulses spec.timings), final) := by
  obtain ⟨few, before, emits, state, timings, sent, total, next⟩ := emits_beforeLast coded prepared short split
  have mark := encode_mark before coded state (by omega) (by omega) next
    (by simp only [Bool.false_eq_true, if_false]; omega)
  have space := encode_space (afterHalf before false (markOf spec.timings last)) coded state
    (by simp only [afterHalf]; omega) (by simp only [afterHalf]; omega) (fun _ => next)
  have marked := (follows_encodeUntilLastBit spec before (by
    simp only [mark, afterHalf, Bool.false_eq_true, if_false]
    omega)).trans mark
  have done : encodeUntilLastBit spec (afterHalf before false (markOf spec.timings last)) =
      ⟨.done, spaceOf spec.timings last, false,
        { afterHalf (afterHalf before false (markOf spec.timings last)) true
            (spaceOf spec.timings last) with state := .encodeRepeat }⟩ := by
    rw [encodeUntilLastBit, space, if_pos]
    · rfl
    · refine ⟨rfl, ?_⟩
      simp only [afterHalf, Bool.not_false, if_true, Bool.false_eq_true, if_false]
      omega
  have samples : frameStart spec.timings ++ (payload ++ [last]).flatMap (pulses spec.timings) =
      frameStart spec.timings ++ payload.flatMap (pulses spec.timings) ++
        [(true, markOf spec.timings last)] ++ [(false, spaceOf spec.timings last)] := by
    simp [pulses]
  rw [samples]
  refine ⟨_, (emits.append (.single marked)).untilDone done ?_⟩
  simp only [List.length_append, length_pulses, frameStart, List.length_cons, List.length_nil, frameFuel]
  omega

end WholeFrames

end Xtreme.Infrared
