import Xtreme.Infrared.Frames

/-! What the encoders of RC5 and RC6 send. A bit is two halves of opposite levels; the
space that would end a frame is left to the silence behind it. Where the halves of two
neighbouring bits have one level, the receiver sees one sample of both. -/
namespace Xtreme.Infrared
open Xtreme.Library

/-- The halves that follow the first half of the bit at a place. `halfTime` tells how
long the halves of each bit are. -/
def afterFirst (halfTime : Nat → Nat) : Nat → Bool → List Bool → List Sample
  | place, bit, [] => if bit then [] else [(true, halfTime place)]
  | place, bit, next :: bits =>
    (!bit, halfTime place) :: (next, halfTime (place + 1)) :: afterFirst halfTime (place + 1) next bits

structure ManchesterEncoded (spec : InfraredCommonProtocolSpec) (halfTime : Nat → Nat) : Prop where
  encode : ∀ encoder, spec.encode spec.toInfraredProtocolTable encoder =
    { infraredCommonEncodeManchester spec.toInfraredProtocolTable encoder with
      duration := halfTime encoder.bitsEncoded }
  once : spec.encodeRepeat = none

def rc5HalfTime (_ : Nat) : Nat := 888

/-- The toggle bit is sent twice as long. -/
def rc6HalfTime (place : Nat) : Nat := if place = 4 then 888 else 444

theorem rc5_encoded : ManchesterEncoded infraredProtocolRc5 rc5HalfTime := ⟨fun _ => by
  simp only [infraredProtocolRc5, infraredCommonEncodeManchester]
  split
  · rfl
  · split <;> rfl, rfl⟩

theorem rc6_encoded : ManchesterEncoded infraredProtocolRc6 rc6HalfTime := ⟨fun encoder => by
  simp only [infraredProtocolRc6, infraredEncoderRc6EncodeManchester, infraredCommonEncodeManchester, rc6HalfTime]
  split <;> split <;> (try split) <;> rfl, rfl⟩

/-- The encoder behind a frame. -/
def rested (encoder : InfraredCommonEncoder) : InfraredCommonEncoder :=
  { encoder with
    timingsEncoded := 0
    timingsSum := 0
    bitsEncoded := 0
    switchDetect := false
    state := .silence }

variable {spec : InfraredCommonProtocolSpec} {halfTime : Nat → Nat}

section Halves
variable (encoder : InfraredCommonEncoder) {bit : Bool}

/-- The encoder when both halves of a bit are out. -/
def afterBoth (duration : Nat) : InfraredCommonEncoder :=
  countTiming { countTiming encoder duration with bitsEncoded := encoder.bitsEncoded + 1 } duration

theorem afterBoth_timings (duration : Nat) (room : encoder.timingsEncoded + 2 < 2 ^ 32) :
    (afterBoth encoder duration).timingsEncoded = encoder.timingsEncoded + 2 := by
  have counted (count : Nat) (low : count + 1 < 2 ^ 32) : u32 (count + 1) = count + 1 := by
    rw [u32_of_range (by omega) (by omega)]
    omega
  simp only [afterBoth, countTiming]
  rw [counted encoder.timingsEncoded (by omega), counted _ (by omega)]

theorem encode_firstHalf (coded : ManchesterEncoded spec halfTime) (state : encoder.state = .encode)
    (odd : encoder.timingsEncoded % 2 = 1) (next : encoder.data.getLsbD encoder.bitsEncoded = bit)
    (more : encoder.bitsEncoded < encoder.bitsToEncode) :
    infraredCommonEncode spec encoder =
      if bit = true ∧ encoder.bitsEncoded + 1 = encoder.bitsToEncode then
        ⟨.done, halfTime encoder.bitsEncoded, true, rested encoder⟩
      else ⟨.ok, halfTime encoder.bitsEncoded, bit, countTiming encoder (halfTime encoder.bitsEncoded)⟩ := by
  have uneven : ¬ encoder.timingsEncoded % 2 = 0 := by omega
  simp only [infraredCommonEncode, state, encodeStateEncode, infraredCommonEncodeBits, coded.encode, coded.once,
    infraredCommonEncodeManchester, payloadBit_eq, next, uneven]
  by_cases last : bit = true ∧ encoder.bitsEncoded + 1 = encoder.bitsToEncode
  · simp [last, countTiming, rested]
  · have unfinished : encoder.bitsEncoded ≠ encoder.bitsToEncode := Nat.ne_of_lt more
    simp [last, countTiming, unfinished]

/-- The second half of a bit. If the bit is the last one, the half is the mark that ends
the frame. -/
theorem encode_secondHalf (coded : ManchesterEncoded spec halfTime) (state : encoder.state = .encode)
    (odd : encoder.timingsEncoded % 2 = 1) (room : encoder.timingsEncoded + 1 < 2 ^ 32)
    (next : encoder.data.getLsbD encoder.bitsEncoded = bit)
    (unfinished : ¬ (bit = true ∧ encoder.bitsEncoded + 1 = encoder.bitsToEncode)) :
    infraredCommonEncode spec (countTiming encoder (halfTime encoder.bitsEncoded)) =
      if encoder.bitsEncoded + 1 = encoder.bitsToEncode then
        ⟨.done, halfTime encoder.bitsEncoded, true, rested encoder⟩
      else ⟨.ok, halfTime encoder.bitsEncoded, !bit, afterBoth encoder (halfTime encoder.bitsEncoded)⟩ := by
  have counted : u32 (encoder.timingsEncoded + 1) = encoder.timingsEncoded + 1 := by
    rw [u32_of_range (by omega) (by omega)]
    omega
  have even : (encoder.timingsEncoded + 1) % 2 = 0 := by omega
  simp only [infraredCommonEncode, countTiming, state, encodeStateEncode, infraredCommonEncodeBits, coded.encode,
    coded.once, infraredCommonEncodeManchester, payloadBit_eq, next, counted, even]
  by_cases last : encoder.bitsEncoded + 1 = encoder.bitsToEncode
  · have space : bit = false := by simpa [last] using unfinished
    simp [last, space, rested]
  · simp [last, afterBoth, countTiming, counted, state]

end Halves

/-- One call that says `Ok`. -/
theorem untilDone_ok {σ : Type} {encode : σ → Encoded σ} {encoder next : σ} {duration : Nat} {level : Bool}
    (fuel : Nat) (out : encode encoder = ⟨.ok, duration, level, next⟩) :
    encodeUntilDone (some ∘ encode) (fuel + 1) encoder =
      (encodeUntilDone (some ∘ encode) fuel next).map fun (samples, final) =>
        ((level, duration) :: samples, final) := by
  simp only [encodeUntilDone, Function.comp_apply, out]

/-- One call that says `Done`. -/
theorem untilDone_done {σ : Type} {encode : σ → Encoded σ} {encoder final : σ} {duration : Nat} {level : Bool}
    (fuel : Nat) (out : encode encoder = ⟨.done, duration, level, final⟩) :
    encodeUntilDone (some ∘ encode) (fuel + 1) encoder = some ([(level, duration)], final) := by
  simp only [encodeUntilDone, Function.comp_apply, out]

theorem nextBits_succ (encoder : InfraredCommonEncoder) (count : Nat) :
    nextBits encoder (count + 1) = encoder.data.getLsbD encoder.bitsEncoded ::
      nextBits { encoder with bitsEncoded := encoder.bitsEncoded + 1 } count := by
  simp [nextBits, List.range'_succ]

theorem untilDone_halves (coded : ManchesterEncoded spec halfTime) {bits : List Bool}
    {encoder : InfraredCommonEncoder} {bit : Bool} {fuel : Nat} (state : encoder.state = .encode)
    (odd : encoder.timingsEncoded % 2 = 1) (room : encoder.timingsEncoded + 2 * bits.length + 2 < 2 ^ 32)
    (payload : nextBits encoder (bits.length + 1) = bit :: bits)
    (all : encoder.bitsEncoded + (bits.length + 1) = encoder.bitsToEncode)
    (enough : 2 * bits.length + 2 ≤ fuel) :
    encodeUntilDone (some ∘ infraredCommonEncode spec) fuel encoder =
      some ((bit, halfTime encoder.bitsEncoded) :: afterFirst halfTime encoder.bitsEncoded bit bits,
        rested encoder) := by
  induction bits generalizing encoder bit fuel with
  | nil =>
    obtain ⟨fuel, rfl⟩ := Nat.exists_eq_add_of_le' (show 2 ≤ fuel from enough)
    have next : encoder.data.getLsbD encoder.bitsEncoded = bit :=
      (List.cons.inj ((nextBits_succ _ _).symm.trans payload)).1
    have last : encoder.bitsEncoded + 1 = encoder.bitsToEncode := all
    have first := encode_firstHalf encoder coded state odd next (by omega)
    cases bit with
    | true =>
      rw [if_pos ⟨rfl, last⟩] at first
      exact untilDone_done _ first
    | false =>
      have second := encode_secondHalf encoder coded state odd (by omega) next (by simp)
      rw [if_pos last] at second
      rw [untilDone_ok _ first, untilDone_done _ second]
      rfl
  | cons bit' bits ih =>
    rw [List.length_cons] at all room enough payload
    obtain ⟨fuel, rfl⟩ := Nat.exists_eq_add_of_le' (Nat.le_trans (Nat.le_add_left 2 _) enough)
    obtain ⟨next, rest⟩ := List.cons.inj ((nextBits_succ _ _).symm.trans payload)
    have unfinished : encoder.bitsEncoded + 1 ≠ encoder.bitsToEncode := by omega
    have first := encode_firstHalf encoder coded state odd next (by omega)
    have second := encode_secondHalf encoder coded state odd (by omega) next (by simp [unfinished])
    rw [if_neg (by simp [unfinished])] at first
    rw [if_neg unfinished] at second
    have twice := afterBoth_timings encoder (halfTime encoder.bitsEncoded) (by omega)
    have later := @ih (afterBoth encoder (halfTime encoder.bitsEncoded)) bit' fuel state
      (by omega) (by omega) rest (by simp only [afterBoth, countTiming]; omega) (by omega)
    rw [untilDone_ok _ first, untilDone_ok _ second, later]
    rfl

/-- What comes before the first half of the first bit. -/
def manchesterStart (timings : InfraredTimings) : List Sample :=
  if timings.preambleMark = 0 then [(false, timings.silenceTime)] else frameStart timings

def manchesterFrame (timings : InfraredTimings) (halfTime : Nat → Nat) : List Bool → List Sample
  | [] => manchesterStart timings
  | bit :: bits => manchesterStart timings ++ (bit, halfTime 0) :: afterFirst halfTime 0 bit bits

def atFirstBit (timings : InfraredTimings) (encoder : InfraredCommonEncoder) : InfraredCommonEncoder :=
  if timings.preambleMark = 0 then { encoder with state := .encode, timingsEncoded := 1, timingsSum := 0 }
  else afterStart timings encoder

/-- A call that finds no preamble to send is a call for the first bit. -/
theorem untilDone_noPreamble (none : spec.timings.preambleMark = 0) (encoder : InfraredCommonEncoder)
    (state : encoder.state = .preamble) (fuel : Nat) :
    encodeUntilDone (some ∘ infraredCommonEncode spec) fuel encoder =
      encodeUntilDone (some ∘ infraredCommonEncode spec) fuel { encoder with state := .encode } := by
  have same : infraredCommonEncode spec encoder = infraredCommonEncode spec { encoder with state := .encode } := by
    simp only [infraredCommonEncode, state, none, ne_eq, not_true_eq_false, if_false]
  cases fuel with
  | zero => rfl
  | succ fuel => simp only [encodeUntilDone, Function.comp_apply, same]

/-- Calls that say `Ok` come before what the rest of the frame gives. -/
theorem Emits.before {σ : Type} {encode : σ → Encoded σ} {encoder middle : σ} {samples : List Sample}
    (emits : Emits encode encoder samples middle) (fuel : Nat) :
    encodeUntilDone (some ∘ encode) (fuel + samples.length) encoder =
      (encodeUntilDone (some ∘ encode) fuel middle).map fun (rest, final) => (samples ++ rest, final) := by
  induction samples generalizing encoder with
  | nil =>
    cases emits
    simp
  | cons sample samples ih =>
    obtain ⟨next, out, rest⟩ := emits
    rw [List.length_cons, ← Nat.add_assoc, untilDone_ok _ out, ih rest, Option.map_map]
    rfl

theorem untilDone_start {encoder : InfraredCommonEncoder} (prepared : Prepared encoder) (fuel : Nat) :
    encodeUntilDone (some ∘ infraredCommonEncode spec) (fuel + (manchesterStart spec.timings).length) encoder =
      (encodeUntilDone (some ∘ infraredCommonEncode spec) fuel (atFirstBit spec.timings encoder)).map
        fun (rest, final) => (manchesterStart spec.timings ++ rest, final) := by
  unfold manchesterStart atFirstBit
  split
  · rename_i none
    obtain ⟨state, -, timings, -⟩ := prepared
    have silence : infraredCommonEncode spec encoder = ⟨.ok, spec.timings.silenceTime, false,
        { encoder with state := .preamble, timingsEncoded := 1, timingsSum := 0 }⟩ := by
      simp only [infraredCommonEncode, state, timings]
      rfl
    rw [List.length_singleton, untilDone_ok _ silence, untilDone_noPreamble none _ rfl]
    rfl
  · rename_i preamble
    exact (emits_start preamble (follows_self spec 0) prepared).before fuel

/-- What an encoder sends up to `Done`. It could then send the same frame again. -/
theorem untilDone_manchester (coded : ManchesterEncoded spec halfTime) {encoder : InfraredCommonEncoder}
    (prepared : Prepared encoder) (short : encoder.bitsToEncode ≤ 60) :
    encodeUntilDone (some ∘ infraredCommonEncode spec) frameFuel encoder =
      some (manchesterFrame spec.timings halfTime (framePayload encoder), rested encoder) := by
  obtain ⟨count, all⟩ := Nat.exists_eq_succ_of_ne_zero (Nat.ne_of_gt prepared.payload)
  have positioned := prepared.bitsEncoded
  generalize bits : nextBits { encoder with bitsEncoded := encoder.bitsEncoded + 1 } count = rest
  have length : rest.length = count := by rw [← bits, nextBits, List.length_map, List.length_range']
  have payload : nextBits encoder (rest.length + 1) = encoder.data.getLsbD encoder.bitsEncoded :: rest := by
    rw [length, nextBits_succ, bits]
  have whole : framePayload encoder = encoder.data.getLsbD encoder.bitsEncoded :: rest := by
    rw [framePayload_eq, all, ← payload, nextBits, positioned, length, List.range_eq_range']
  have at' : (atFirstBit spec.timings encoder).state = .encode ∧
      (atFirstBit spec.timings encoder).timingsEncoded ≤ 3 ∧
      (atFirstBit spec.timings encoder).timingsEncoded % 2 = 1 ∧
      (atFirstBit spec.timings encoder).data = encoder.data ∧
      (atFirstBit spec.timings encoder).bitsEncoded = 0 ∧
      (atFirstBit spec.timings encoder).bitsToEncode = encoder.bitsToEncode ∧
      rested (atFirstBit spec.timings encoder) = rested encoder := by
    unfold atFirstBit
    split <;> simp [afterStart, positioned, rested]
  obtain ⟨state, few, odd, data, first, bound, settled⟩ := at'
  have fuel : frameFuel = (frameFuel - (manchesterStart spec.timings).length) + (manchesterStart spec.timings).length := by
    unfold manchesterStart
    split <;> rfl
  have sent := @untilDone_halves spec halfTime coded rest (atFirstBit spec.timings encoder)
    (encoder.data.getLsbD encoder.bitsEncoded) (frameFuel - (manchesterStart spec.timings).length) state odd
    (by omega) (by rw [← payload, nextBits, nextBits, data, first, positioned]) (by omega) (by
      have starts : (manchesterStart spec.timings).length ≤ 3 := by
        unfold manchesterStart
        split <;> simp [frameStart]
      rw [frameFuel]
      omega)
  rw [fuel, untilDone_start prepared, sent, first, settled, whole]
  rfl

theorem rested_prepared {encoder : InfraredCommonEncoder} (prepared : Prepared encoder) :
    Prepared (rested encoder) := ⟨rfl, rfl, rfl, prepared.payload⟩

theorem mergeLevels_cons (sample : Sample) {next : Sample} {samples rest : List Sample} (merged : mergeLevels samples = next :: rest) :
    mergeLevels (sample :: samples) =
      if sample.1 = next.1 then (sample.1, u32 (sample.2 + next.2)) :: rest else sample :: next :: rest := by
  rw [mergeLevels, merged]

theorem mergeLevels_head (sample : Sample) (samples : List Sample) :
    ∃ duration rest, mergeLevels (sample :: samples) = (sample.1, duration) :: rest := by
  rw [mergeLevels]
  split
  · exact ⟨sample.2, [], rfl⟩
  · split
    · exact ⟨_, _, rfl⟩
    · exact ⟨sample.2, _, rfl⟩

theorem mergeLevels_cons_of_ne {sample next : Sample} (samples : List Sample) (differ : sample.1 ≠ next.1) :
    mergeLevels (sample :: next :: samples) = sample :: mergeLevels (next :: samples) := by
  obtain ⟨duration, rest, merged⟩ := mergeLevels_head next samples
  rw [mergeLevels_cons _ merged, if_neg differ, merged]

/-- Where a mark meets a space nothing is merged. -/
theorem mergeLevels_append {samples samples' : List Sample}
    (ends : ∀ sample, samples.getLast? = some sample → sample.1 = true)
    (begins : ∀ sample, samples'.head? = some sample → sample.1 = false) :
    mergeLevels (samples ++ samples') = mergeLevels samples ++ mergeLevels samples' := by
  induction samples with
  | nil => rfl
  | cons sample samples ih =>
    cases samples with
    | nil =>
      have mark := ends sample rfl
      cases samples' with
      | nil => rfl
      | cons next rest =>
        have space := begins next rfl
        rw [List.singleton_append, mergeLevels_cons_of_ne rest (by rw [mark, space]; decide)]
        rfl
    | cons next rest =>
      have later := ih (fun last listed => ends last (by exact listed))
      obtain ⟨duration, tail, merged⟩ := mergeLevels_head next rest
      rw [merged] at later
      rw [List.cons_append, mergeLevels_cons _ merged, mergeLevels_cons _ later]
      split <;> rfl

def joinedHalves (halfTime : Nat → Nat) : Nat → Bool → List Bool → List Sample
  | place, bit, [] => if bit then [] else [(true, halfTime place)]
  | place, bit, next :: bits =>
    (if bit = next then [(!bit, halfTime place), (next, halfTime (place + 1))]
      else [(next, u32 (halfTime place + halfTime (place + 1)))]) ++
      joinedHalves halfTime (place + 1) next bits

theorem mergeLevels_afterFirst (halfTime : Nat → Nat) (place : Nat) (bit : Bool) (bits : List Bool) (duration : Nat) :
    mergeLevels ((bit, duration) :: afterFirst halfTime place bit bits) =
      (bit, duration) :: joinedHalves halfTime place bit bits := by
  induction bits generalizing place bit duration with
  | nil => cases bit <;> rfl
  | cons next bits ih =>
    have later := ih (place + 1) next (halfTime (place + 1))
    rw [afterFirst, mergeLevels_cons_of_ne _ (by cases bit <;> simp), mergeLevels_cons _ later, joinedHalves]
    by_cases same : bit = next
    · have differ : (!bit) ≠ next := by rw [same]; cases next <;> decide
      rw [if_pos same, if_neg differ]
      rfl
    · have opposite : (!bit) = next := by revert same; cases bit <;> cases next <;> decide
      rw [if_neg same, if_pos opposite, opposite]
      rfl

theorem manchesterFrame_begins (timings : InfraredTimings) (payload : List Bool) :
    ∀ sample, (manchesterFrame timings halfTime payload).head? = some sample → sample.1 = false := by
  intro sample first
  have silence : sample = (false, timings.silenceTime) := by
    cases payload <;> simp only [manchesterFrame, manchesterStart] at first <;> split at first <;>
      simpa [frameStart] using first.symm
  rw [silence]

theorem manchesterFrame_ends (timings : InfraredTimings) {bit : Bool} (bits : List Bool) :
    ∀ sample, (manchesterFrame timings halfTime (bit :: bits)).getLast? = some sample → sample.1 = true := by
  have closing (place : Nat) (bit : Bool) (duration : Nat) :
      ∀ sample, ((bit, duration) :: afterFirst halfTime place bit bits).getLast? = some sample →
        sample.1 = true := by
    induction bits generalizing place bit duration with
    | nil =>
      intro sample last
      cases bit <;> simp [afterFirst] at last <;> simp [← last]
    | cons next bits ih =>
      intro sample last
      exact ih (place + 1) next _ sample last
  intro sample last
  rw [manchesterFrame, List.getLast?_append_of_ne_nil _ (List.cons_ne_nil _ _)] at last
  exact closing 0 bit _ sample last

theorem mergeLevels_frames (timings : InfraredTimings) {payloads : List (List Bool)}
    (nonempty : ∀ payload ∈ payloads, payload ≠ []) :
    mergeLevels (payloads.flatMap (manchesterFrame timings halfTime)) =
      payloads.flatMap fun payload => mergeLevels (manchesterFrame timings halfTime payload) := by
  induction payloads with
  | nil => rfl
  | cons payload payloads ih =>
    have later := ih fun payload listed => nonempty payload (List.mem_cons_of_mem _ listed)
    obtain ⟨bit, bits, rfl⟩ := List.exists_cons_of_ne_nil (nonempty payload List.mem_cons_self)
    rw [List.flatMap_cons, List.flatMap_cons, mergeLevels_append (manchesterFrame_ends timings bits), later]
    intro sample first
    cases payloads with
    | nil => simp at first
    | cons payload payloads =>
      rw [List.flatMap_cons, List.head?_append_of_ne_nil] at first
      · exact manchesterFrame_begins timings payload sample first
      · cases payload <;> simp only [manchesterFrame, manchesterStart] <;> split <;> simp [frameStart]

end Xtreme.Infrared
