import Xtreme.Infrared.FrameRoundTrip

/-! Held keys: after its frame an NEC or Samsung32 encoder sends short repeat
frames, and the decoder reports each of them as a repeat of the message.

The encoder finds its place in a repeat frame from `timings_encoded`, an unsigned
word. It wraps after 2^32 timings, in the middle of a repeat frame of Samsung32,
whose length of six does not divide 2^32: `repeatFrame` is the frame that begins
at a given count. The gap before the first repeat of NEC is what the frame leaves
of its period, which for NEC42ext payloads with forty ones or more is so short
that the decoder takes it for a space inside the payload. -/
namespace Xtreme.Infrared
open Xtreme.Library

/-! ## Repeat frames as they are sent -/

def alternating : Bool → List Nat → List Sample
  | _, [] => []
  | level, duration :: durations => (level, duration) :: alternating (!level) durations

@[simp] theorem length_alternating (level : Bool) (durations : List Nat) :
    (alternating level durations).length = durations.length := by
  induction durations generalizing level with
  | nil => rfl
  | cons duration durations ih => rw [alternating, List.length_cons, ih, List.length_cons]

/-- The level after so many timings. -/
def levelAfter (level : Bool) (count : Nat) : Bool := level ^^ decide (count % 2 = 1)

theorem levelAfter_succ (level : Bool) (count : Nat) :
    levelAfter level (count + 1) = levelAfter (!level) count := by
  rcases Nat.mod_two_eq_zero_or_one count with even | odd
  · simp [levelAfter, even, show (count + 1) % 2 = 1 by omega]
  · simp [levelAfter, odd, show (count + 1) % 2 = 0 by omega]

theorem alternating_append (level : Bool) (durations durations' : List Nat) :
    alternating level (durations ++ durations') =
      alternating level durations ++ alternating (levelAfter level durations.length) durations' := by
  induction durations generalizing level with
  | nil => simp [alternating, levelAfter]
  | cons duration durations ih =>
    rw [List.cons_append, alternating, ih, List.length_cons, levelAfter_succ]
    rfl

theorem alternating_take_succ (level : Bool) {durations : List Nat} {i : Nat} (inside : i < durations.length) :
    alternating level (durations.take (i + 1)) =
      alternating level (durations.take i) ++ [(levelAfter level i, durations.getD i 0)] := by
  rw [List.take_succ_eq_append_getElem inside, alternating_append, List.length_take,
    Nat.min_eq_left (Nat.le_of_lt inside), List.getD_eq_getElem _ _ inside]
  rfl

def atRepeat (encoder : InfraredCommonEncoder) (upToRepeat count : Nat) : InfraredCommonEncoder :=
  { encoder with timingsEncoded := u32 (upToRepeat + count) }

theorem atRepeat_wraps (encoder : InfraredCommonEncoder) (upToRepeat count : Nat) :
    atRepeat encoder upToRepeat (count % 2 ^ 32) = atRepeat encoder upToRepeat count := by
  have same : u32 ((upToRepeat : Int) + ((count % 2 ^ 32 : Nat) : Int)) = u32 (upToRepeat + count) := by
    simp only [u32]
    omega
  rw [atRepeat, atRepeat, same]

theorem encodeRepeatTimings_at (repeatTimings : List Nat) (upToRepeat first : Nat)
    (encoder : InfraredCommonEncoder) {count : Nat} (inside : count < 2 ^ 32) :
    encodeRepeatTimings repeatTimings upToRepeat first (atRepeat encoder upToRepeat count) =
      ⟨if u32 ((count : Int) + 1) % repeatTimings.length = 0 then .done else .ok,
        if 0 < count then repeatTimings.getD (count % repeatTimings.length) 0 else first,
        decide (count % 2 = 1), atRepeat encoder upToRepeat (count + 1)⟩ := by
  have found : u32 (((atRepeat encoder upToRepeat count).timingsEncoded : Int) - upToRepeat) = count := by
    simp only [atRepeat, u32]
    omega
  have next : u32 (((atRepeat encoder upToRepeat count).timingsEncoded : Int) + 1) =
      u32 (upToRepeat + ((count + 1 : Nat) : Int)) := by
    simp only [atRepeat, u32]
    omega
  simp only [encodeRepeatTimings, found, next]
  rfl

/-- The durations of a whole repeat frame; the pause before it is a special one
for a count of zero. -/
def wholeFrame (repeatTimings : List Nat) (first count : Nat) : List Nat :=
  (if count = 0 then first else repeatTimings.headD 0) :: repeatTimings.tail

/-- The durations of the repeat frame that begins at `count`, cut off where the
counter wraps. -/
def repeatFrame (repeatTimings : List Nat) (first count : Nat) : List Nat :=
  (wholeFrame repeatTimings first count).take (2 ^ 32 - count)

def repeatSignal (repeatTimings : List Nat) (first : Nat) : Nat → Nat → List Sample
  | 0, _ => []
  | repeats + 1, count =>
    let frame := repeatFrame repeatTimings first count
    alternating false frame ++ repeatSignal repeatTimings first repeats ((count + frame.length) % 2 ^ 32)

/-- An encoder in its repeat frames, for which `repeat_timings` is not empty and of
even length, so that the levels agree with the places in it. -/
structure Repeats (spec : InfraredCommonProtocolSpec) (encoder : InfraredCommonEncoder)
    (repeatTimings : List Nat) (upToRepeat first : Nat) : Prop where
  even : repeatTimings.length % 2 = 0
  nonempty : 0 < repeatTimings.length
  short : repeatTimings.length < frameFuel
  encode : ∀ count, infraredCommonEncode spec (atRepeat encoder upToRepeat count) =
    encodeRepeatTimings repeatTimings upToRepeat first (atRepeat encoder upToRepeat count)

section Encoder
variable {spec : InfraredCommonProtocolSpec} {encoder : InfraredCommonEncoder}
  {repeatTimings : List Nat} {upToRepeat first count : Nat}

variable (repeats : Repeats spec encoder repeatTimings upToRepeat first)
include repeats

variable (aligned : count % repeatTimings.length = 0)
include aligned

theorem Repeats.count_even : count % 2 = 0 :=
  Nat.mod_eq_zero_of_dvd (Nat.dvd_trans (Nat.dvd_of_mod_eq_zero repeats.even) (Nat.dvd_of_mod_eq_zero aligned))

theorem Repeats.call {i : Nat} (inside : i < repeatTimings.length) (room : count + i < 2 ^ 32) :
    infraredCommonEncode spec (atRepeat encoder upToRepeat (count + i)) =
      ⟨if i + 1 = repeatTimings.length ∨ count + i + 1 = 2 ^ 32 then .done else .ok,
        (wholeFrame repeatTimings first count).getD i 0, levelAfter false i,
        atRepeat encoder upToRepeat (count + i + 1)⟩ := by
  rw [repeats.encode, encodeRepeatTimings_at _ _ _ _ room]
  have place : (count + i) % repeatTimings.length = i := by
    rw [Nat.add_mod, aligned, Nat.zero_add, Nat.mod_mod, Nat.mod_eq_of_lt inside]
  have even := repeats.count_even aligned
  have level : (count + i) % 2 = i % 2 := by omega
  have duration : (if 0 < count + i then repeatTimings.getD ((count + i) % repeatTimings.length) 0
      else first) = (wholeFrame repeatTimings first count).getD i 0 := by
    rw [place, wholeFrame]
    cases i with
    | zero =>
      by_cases start : count = 0
      · simp [start]
      · simp [start, List.head?_eq_getElem?]
    | succ i => simp
  have done : u32 (((count + i : Nat) : Int) + 1) % repeatTimings.length = 0 ↔
      i + 1 = repeatTimings.length ∨ count + i + 1 = 2 ^ 32 := by
    by_cases wraps : count + i + 1 = 2 ^ 32
    · have zero : u32 (((count + i : Nat) : Int) + 1) = 0 := by
        simp only [u32]
        omega
      rw [zero]
      simp [wraps]
    · have plain : u32 (((count + i : Nat) : Int) + 1) = count + (i + 1) := by
        simp only [u32]
        omega
      rw [plain, Nat.add_mod, aligned, Nat.zero_add, Nat.mod_mod]
      by_cases last : i + 1 = repeatTimings.length
      · simp [last]
      · rw [Nat.mod_eq_of_lt (by omega)]
        exact iff_of_false (Nat.succ_ne_zero i) (not_or.mpr ⟨last, wraps⟩)
  simp only [done, duration, level, levelAfter, Bool.false_xor]

omit aligned

omit repeats

theorem length_wholeFrame (nonempty : 0 < repeatTimings.length) (first count : Nat) :
    (wholeFrame repeatTimings first count).length = repeatTimings.length := by
  rw [wholeFrame, List.length_cons, List.length_tail]
  omega

include repeats

include aligned

theorem Repeats.emits {sent : Nat} (inside : sent < repeatTimings.length) (room : count + sent < 2 ^ 32) :
    Emits (infraredCommonEncode spec) (atRepeat encoder upToRepeat count)
      (alternating false ((wholeFrame repeatTimings first count).take sent))
      (atRepeat encoder upToRepeat (count + sent)) := by
  induction sent with
  | zero => rfl
  | succ sent ih =>
    have call := repeats.call aligned (Nat.lt_of_succ_lt inside) (Nat.lt_of_succ_lt room)
    rw [if_neg (by omega)] at call
    rw [alternating_take_succ _ (by rw [length_wholeFrame repeats.nonempty]; omega)]
    exact (ih (by omega) (by omega)).append (.single call)

theorem Repeats.untilDone (room : count < 2 ^ 32) :
    encodeUntilDone (some ∘ infraredCommonEncode spec) frameFuel (atRepeat encoder upToRepeat count) =
      some (alternating false (repeatFrame repeatTimings first count), atRepeat encoder upToRepeat
          ((count + (repeatFrame repeatTimings first count).length) % 2 ^ 32)) := by
  have nonempty := repeats.nonempty
  have short := repeats.short
  have whole := length_wholeFrame nonempty first count
  obtain ⟨sent, total⟩ : ∃ sent, min (2 ^ 32 - count) repeatTimings.length = sent + 1 :=
    ⟨min (2 ^ 32 - count) repeatTimings.length - 1, by omega⟩
  have length : (repeatFrame repeatTimings first count).length = sent + 1 := by
    rw [repeatFrame, List.length_take, whole, total]
  have call := repeats.call aligned (show sent < repeatTimings.length by omega) (by omega)
  rw [if_pos (by omega)] at call
  have frame : repeatFrame repeatTimings first count =
      (wholeFrame repeatTimings first count).take (sent + 1) := by
    rw [repeatFrame, List.take_eq_take_min, whole, total]
  have emits := repeats.emits aligned (show sent < repeatTimings.length by omega) (by omega)
  rw [length, atRepeat_wraps, frame, alternating_take_succ _ (by omega)]
  refine emits.untilDone call ?_
  rw [length_alternating, List.length_take]
  omega

omit aligned

theorem Repeats.length_repeatFrame (count : Nat) : (repeatFrame repeatTimings first count).length =
      min (2 ^ 32 - count) repeatTimings.length := by
  rw [repeatFrame, List.length_take, length_wholeFrame repeats.nonempty]

include aligned

theorem Repeats.aligned_next (room : count < 2 ^ 32) :
    (count + (repeatFrame repeatTimings first count).length) % 2 ^ 32 % repeatTimings.length = 0 := by
  have length := repeats.length_repeatFrame count
  by_cases wraps : 2 ^ 32 ≤ count + repeatTimings.length
  · rw [length, show (count + min (2 ^ 32 - count) repeatTimings.length) % 2 ^ 32 = 0 by omega, Nat.zero_mod]
  · rw [length, show (count + min (2 ^ 32 - count) repeatTimings.length) % 2 ^ 32 =
      count + repeatTimings.length by omega, Nat.add_mod_right, aligned]

theorem Repeats.encodeFrames_eq (room : count < 2 ^ 32) (number : Nat) :
    encodeFrames (some ∘ infraredCommonEncode spec) frameFuel number (atRepeat encoder upToRepeat count) =
      some (repeatSignal repeatTimings first number count) := by
  induction number generalizing count with
  | zero => rfl
  | succ number ih =>
    have rest := ih (repeats.aligned_next aligned room) (Nat.mod_lt _ (by decide))
    simp only [encodeFrames, repeats.untilDone aligned room, Option.bind_some, rest, Option.map_some, repeatSignal]

omit aligned

omit repeats

theorem alternates_alternating (level : Bool) (durations : List Nat) (rest : List Sample) :
    Alternates level (alternating level durations ++ rest) ↔
      Alternates (levelAfter level durations.length) rest := by
  induction durations generalizing level with
  | nil => simp [alternating, levelAfter]
  | cons duration durations ih =>
    rw [List.length_cons, levelAfter_succ, ← ih]
    simp [alternating, Alternates]

theorem Repeats.alternates (repeats : Repeats spec encoder repeatTimings upToRepeat first)
    (aligned : count % repeatTimings.length = 0) (room : count < 2 ^ 32) (number : Nat) :
    Alternates false (repeatSignal repeatTimings first number count) := by
  induction number generalizing count with
  | zero => trivial
  | succ number ih =>
    have even := repeats.count_even aligned
    have whole := repeats.even
    have level : levelAfter false (repeatFrame repeatTimings first count).length = false := by
      rw [repeats.length_repeatFrame, levelAfter, decide_eq_false (by omega), Bool.false_xor]
    rw [repeatSignal, alternates_alternating, level]
    exact ih (repeats.aligned_next aligned room) (Nat.mod_lt _ (by decide))

end Encoder

/-! ## Repeat frames as they are heard -/

section Decoder
variable {spec : InfraredCommonProtocolSpec}

/-- A decoder that collects the timings of a repeat frame. -/
structure Collecting (decoder : InfraredCommonDecoder) (pending : List Nat) (level : Bool)
    (message : InfraredMessage) : Prop where
  state : decoder.state = .processRepeat
  timings : decoder.timings = pending
  level : decoder.level = level
  databitCnt : decoder.databitCnt = 0
  message : ∃ isRepeat, decoder.message = { message with isRepeat := isRepeat }

/-- What the decoder of repeats does: it waits for a whole frame and then accepts
or refuses it. -/
structure RepeatsDecoded (spec : InfraredCommonProtocolSpec) (length : Nat)
    (accepts : List Nat → Bool) : Prop where
  fits : length ≤ timingsSize
  decodes : ∃ decodeRepeat, spec.decodeRepeat = some decodeRepeat ∧ (∀ decoder, decoder.timings.length < length →
      decodeRepeat spec.toInfraredProtocolTable decoder = (.ok, decoder)) ∧
    ∀ decoder, decoder.timings.length = length → decodeRepeat spec.toInfraredProtocolTable decoder =
        if accepts decoder.timings then (.ready, { decoder with timings := [] }) else (.error, decoder)

variable {length : Nat} {accepts : List Nat → Bool} {decoder : InfraredCommonDecoder}
  {pending : List Nat} {level : Bool} {message : InfraredMessage}

variable (decoded : RepeatsDecoded spec length accepts)
include decoded

/-- One more timing, the frame is not complete yet. -/
theorem Collecting.more (collecting : Collecting decoder pending level message) (duration : Nat)
    (room : pending.length + 1 < length) :
    ∃ next, Hears spec decoder [(!level, duration)] [] next ∧
      Collecting next (pending ++ [duration]) (!level) message := by
  obtain ⟨state, timings, same, count, known⟩ := collecting
  obtain ⟨decodeRepeat, isSome, waits, -⟩ := decoded.decodes
  have size := decoded.fits
  let heard : InfraredCommonDecoder :=
    { decoder with level := !level, timings := pending ++ [duration] }
  have loop : decodeLoop spec decodeFuel heard false = .ok (false, heard) := by
    rw [decodeFuel, decodeLoop, show heard.state = .processRepeat from state]
    simp only [isSome, waits heard (by simpa [heard] using room)]
  exact ⟨_, Hears.ofLoop (if_neg (by rw [same]; cases level <;> decide)) (by rw [timings]; omega)
    (by rw [timings]) loop, state, rfl, rfl, count, known⟩

theorem Collecting.complete (collecting : Collecting decoder pending level message) (duration : Nat)
    (full : pending.length + 1 = length) (accepted : accepts (pending ++ [duration]) = true) :
    ∃ next, Hears spec decoder [(!level, duration)] [{ message with isRepeat := true }] next ∧
      Collecting next [] (!level) message := by
  obtain ⟨state, timings, same, count, isRepeat, known⟩ := collecting
  obtain ⟨decodeRepeat, isSome, -, decodes⟩ := decoded.decodes
  have size := decoded.fits
  let heard : InfraredCommonDecoder :=
    { decoder with level := !level, timings := pending ++ [duration] }
  have loop : decodeLoop spec decodeFuel heard false = .ok (true, { heard with
      timings := []
      message := { message with isRepeat := true } }) := by
    rw [decodeFuel, decodeLoop]
    simp only [isSome, decodes heard (by simpa [heard] using full),
      show accepts heard.timings = true from accepted, if_true]
    simp only [heard, known, state]
  exact ⟨_, Hears.ofLoop (if_neg (by rw [same]; cases level <;> decide)) (by rw [timings]; omega)
    (by rw [timings]) loop, state, rfl, rfl, count, true, rfl⟩

/-- The timings of a frame but its last, in a row. -/
theorem Collecting.all (durations : List Nat) (collecting : Collecting decoder pending level message)
    (room : pending.length + durations.length < length) :
    ∃ next, Hears spec decoder (alternating (!level) durations) [] next ∧
      Collecting next (pending ++ durations) (levelAfter level durations.length) message := by
  induction durations generalizing decoder pending level with
  | nil => exact ⟨decoder, Hears.nil decoder, by simpa [levelAfter] using collecting⟩
  | cons duration durations ih =>
    rw [List.length_cons] at room
    obtain ⟨middle, first, collecting⟩ := collecting.more decoded duration (by omega)
    obtain ⟨next, rest, collecting⟩ := ih collecting (by rw [List.length_append, List.length_singleton]; omega)
    refine ⟨next, first.append rest, ?_⟩
    rwa [List.append_assoc, ← levelAfter_succ] at collecting

omit decoded

def Understood (spec : InfraredCommonProtocolSpec) (payload : List Bool) (message : InfraredMessage) :
    Prop :=
  foundLength spec.toInfraredProtocolTable payload.length = true ∧
    ∀ decoder : InfraredCommonDecoder, decoder.databitCnt = payload.length → Carries decoder.data 0 payload →
      spec.interpret spec.toInfraredProtocolTable decoder =
        (true, decoder.withMessage message.protocol message.address message.command)

include decoded

theorem Collecting.ofPause (splits : spec.timings.minSplitTime ≠ 0) {payload : List Bool}
    (understood : Understood spec payload message) (receiving : Receiving decoder payload true)
    {pause : Nat} (long : spec.timings.minSplitTime < pause) (window : 1 < length) :
    ∃ next, Hears spec decoder [(false, pause)] [{ message with isRepeat := false }] next ∧
      Collecting next [pause] false message := by
  obtain ⟨state, timings, level, count, held⟩ := receiving
  obtain ⟨decodeRepeat, isSome, waits, -⟩ := decoded.decodes
  obtain ⟨found, interprets⟩ := understood
  let heard : InfraredCommonDecoder := { decoder with level := false, timings := [pause] }
  let ready : InfraredCommonDecoder :=
    { heard.withMessage message.protocol message.address message.command with
      databitCnt := 0
      state := .processRepeat }
  have bits : infraredCommonDecodeBits spec heard = .ok (.ready, heard) := by
    rw [infraredCommonDecodeBits, decodePending, List.length_nil, oldestLevel_one, if_pos]
    · exact ⟨⟨splits, rfl⟩, long, by rw [show heard.databitCnt = payload.length from count, found]⟩
  have check : infraredCommonDecoderCheckReady spec heard = (true, ready) := by
    rw [checkReady_of_interpret (count ▸ found) (interprets heard count held.carries), isSome]
    rfl
  have loop : decodeLoop spec decodeFuel heard false = .ok (true, ready) := by
    rw [decodeFuel, decodeLoop, show heard.state = .decode from state]
    simp only [bits, check, if_true]
    rw [decodeLoop, show ready.state = .processRepeat from rfl]
    simp only [isSome, waits ready (by simpa [ready, heard, InfraredCommonDecoder.withMessage] using window)]
  exact ⟨_, Hears.ofLoop (if_neg (by rw [level]; decide)) (by rw [timings]; decide)
    (by rw [timings]; rfl) loop, rfl, rfl, rfl, rfl, false, rfl⟩

theorem Collecting.rest {pause : Nat}
    {durations : List Nat} {last : Nat} (collecting : Collecting decoder [pause] false message)
    (full : durations.length + 2 = length) (even : length % 2 = 0)
    (accepted : accepts (pause :: (durations ++ [last])) = true) :
    ∃ next, Hears spec decoder (alternating true (durations ++ [last]))
        [{ message with isRepeat := true }] next ∧
      Collecting next [] true message := by
  have marks : levelAfter false durations.length = false := by
    simp [levelAfter, show durations.length % 2 = 0 by omega]
  have last' : alternating (levelAfter true durations.length) [last] = [(true, last)] := by
    simp [alternating, levelAfter, show durations.length % 2 = 0 by omega]
  obtain ⟨middle, first, collecting⟩ := collecting.all decoded durations (by rw [List.length_singleton]; omega)
  rw [marks] at collecting
  obtain ⟨next, complete, collecting⟩ := collecting.complete decoded last
    (by rw [List.length_append, List.length_singleton]; omega) accepted
  rw [alternating_append, last']
  exact ⟨next, first.append complete, collecting⟩

theorem Collecting.again {pause : Nat}
    {durations : List Nat} {last : Nat} (collecting : Collecting decoder [] true message)
    (full : durations.length + 2 = length) (even : length % 2 = 0)
    (accepted : accepts (pause :: (durations ++ [last])) = true) :
    ∃ next, Hears spec decoder (alternating false (pause :: (durations ++ [last])))
        [{ message with isRepeat := true }] next ∧
      Collecting next [] true message := by
  obtain ⟨middle, first, collecting⟩ := collecting.more decoded pause (by rw [List.length_nil]; omega)
  obtain ⟨next, rest, collecting⟩ := collecting.rest decoded full even accepted
  exact ⟨next, first.append rest, collecting⟩

omit decoded

/-- None of so many repeat frames is cut off. -/
def WholeFrames (length : Nat) : Nat → Nat → Prop
  | 0, _ => True
  | repeats + 1, count => count + length ≤ 2 ^ 32 ∧ WholeFrames length repeats ((count + length) % 2 ^ 32)

structure RepeatTail (repeatTimings : List Nat) (length : Nat) : Prop where
  total : repeatTimings.length = length
  atLeast : 2 ≤ length
  even : length % 2 = 0

variable {repeatTimings : List Nat} {first : Nat}

variable (shape : RepeatTail repeatTimings length)
include shape

theorem RepeatTail.split :
    ∃ durations last, repeatTimings.tail = durations ++ [last] ∧ durations.length + 2 = length := by
  have total := shape.total
  have atLeast := shape.atLeast
  have nonempty : repeatTimings.tail ≠ [] := by
    apply List.ne_nil_of_length_pos
    rw [List.length_tail]
    omega
  refine ⟨_, _, (List.dropLast_append_getLast nonempty).symm, ?_⟩
  rw [List.length_dropLast, List.length_tail]
  omega

theorem repeatFrame_whole {count : Nat} (whole : count + length ≤ 2 ^ 32) :
    repeatFrame repeatTimings first count = wholeFrame repeatTimings first count := by
  have total := shape.total
  have atLeast := shape.atLeast
  rw [repeatFrame, List.take_of_length_le]
  rw [wholeFrame, List.length_cons, List.length_tail]
  omega

omit shape

include decoded

include shape

/-- Repeats in a row, every one of them reported. -/
theorem Collecting.signal (accepted : ∀ count, accepts (wholeFrame repeatTimings first count) = true)
    (collecting : Collecting decoder [] true message) {repeats count : Nat} (whole : WholeFrames length repeats count) :
    ∃ next, Hears spec decoder (repeatSignal repeatTimings first repeats count)
        (List.replicate repeats { message with isRepeat := true }) next ∧
      Collecting next [] true message := by
  obtain ⟨durations, last, tail, full⟩ := shape.split
  induction repeats generalizing decoder count with
  | zero => exact ⟨decoder, Hears.nil decoder, collecting⟩
  | succ repeats ih =>
    obtain ⟨room, rest⟩ := whole
    have accept := accepted count
    rw [wholeFrame, tail] at accept
    obtain ⟨middle, heard, collecting⟩ := collecting.again decoded full shape.even accept
    have frame : repeatFrame repeatTimings first count = wholeFrame repeatTimings first count :=
      repeatFrame_whole shape room
    have frameLength : (wholeFrame repeatTimings first count).length = length := by
      rw [wholeFrame, tail, List.length_cons, List.length_append]
      omega
    obtain ⟨next, heard', collecting⟩ := ih collecting rest
    refine ⟨next, ?_, collecting⟩
    rw [repeatSignal, frame, frameLength, wholeFrame, tail]
    exact heard.append heard'

/-- The repeats right after a frame: the pause before the first one also ends the
frame itself. -/
theorem Receiving.signal (accepted : ∀ count, accepts (wholeFrame repeatTimings first count) = true)
    (splits : spec.timings.minSplitTime ≠ 0) (long : spec.timings.minSplitTime < first)
    {payload : List Bool} (understood : Understood spec payload message)
    (receiving : Receiving decoder payload true) {repeats : Nat} (whole : WholeFrames length (repeats + 1) 0) :
    ∃ next, Hears spec decoder (repeatSignal repeatTimings first (repeats + 1) 0)
        ({ message with isRepeat := false } ::
          List.replicate (repeats + 1) { message with isRepeat := true }) next ∧
      Collecting next [] true message := by
  obtain ⟨durations, last, tail, full⟩ := shape.split
  obtain ⟨room, rest⟩ := whole
  have accept := accepted 0
  rw [wholeFrame, tail] at accept
  obtain ⟨paused, heard, collecting⟩ :=
    Collecting.ofPause decoded splits understood receiving long (by omega)
  obtain ⟨middle, heard', collecting⟩ := collecting.rest decoded full shape.even accept
  obtain ⟨next, heard'', collecting⟩ := collecting.signal decoded shape accepted rest
  have frame : repeatFrame repeatTimings first 0 = first :: (durations ++ [last]) := by
    rw [repeatFrame_whole shape room, wholeFrame, if_pos rfl, tail]
  have frameLength : (first :: (durations ++ [last])).length = length := by
    rw [List.length_cons, List.length_append]
    omega
  refine ⟨next, ?_, collecting⟩
  rw [repeatSignal, frame, frameLength]
  exact heard.append (heard'.append heard'')

end Decoder

end Xtreme.Infrared
