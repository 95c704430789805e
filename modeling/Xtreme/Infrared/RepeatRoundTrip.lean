import Mathlib.Data.Bool.Count
import Mathlib.Data.List.Count
import Xtreme.Infrared.MissedRepeats

/-! When NEC and Samsung32 decoders report every repeat that their encoders send.
They do unless a repeat frame is spoilt: for NEC42ext by a payload so full of ones
that the first gap is too short, and for Samsung32 by the counter of the encoder,
which wraps in the repeat number 715827883.

A decoder reads a payload, not a message: bits of a message beyond the lengths of
its protocol are not sent, and an extended NEC message that looks like a plain one
is read as that (`understoodForm`). -/
namespace Xtreme.Infrared
open Xtreme.Library

/-! ## What a payload is understood as -/

def lowBits (field : BitVec 32) (length : Nat) : BitVec 32 := field &&& ((1#32 <<< length) - 1)

theorem getLsbD_mask {length i : Nat} (short : length < 32) :
    ((1#32 <<< length) - 1).getLsbD i = decide (i < length) := by
  rw [BitVec.getLsbD, toNat_mask short, Nat.testBit_two_pow_sub_one]

theorem getLsbD_lowBits {field : BitVec 32} {length : Nat} (short : length < 32) (i : Nat) :
    (lowBits field length).getLsbD i = (field.getLsbD i && decide (i < length)) := by
  rw [lowBits, BitVec.getLsbD_and, getLsbD_mask short]

theorem fieldBits_lowBits {field : BitVec 32} {length : Nat} (short : length < 32) :
    fieldBits (lowBits field length) length = fieldBits field length := by
  refine List.map_congr_left fun i low => ?_
  rw [getLsbD_lowBits short, decide_eq_true (List.mem_range.mp low), Bool.and_true]

theorem lowBits_lowBits (field : BitVec 32) (length : Nat) :
    lowBits (lowBits field length) length = lowBits field length := by
  rw [lowBits, lowBits, BitVec.and_assoc, BitVec.and_self]

theorem extractLsb'_lowBits {field : BitVec 32} {length start count : Nat} (short : length < 32)
    (inside : start + count ≤ length) :
    (lowBits field length).extractLsb' start count = field.extractLsb' start count := by
  refine BitVec.eq_of_getLsbD_eq fun i low => ?_
  rw [BitVec.getLsbD_extractLsb', BitVec.getLsbD_extractLsb', getLsbD_lowBits short,
    decide_eq_true (show start + i < length by omega), Bool.and_true]

theorem fieldBits_complemented {field : BitVec 32} {length : Nat} (short : length < 32)
    (complemented : field.extractLsb' 0 length = ~~~field.extractLsb' length length) :
    fieldBits (lowBits field length) length ++ (fieldBits (lowBits field length) length).map not =
      fieldBits field (length + length) := by
  have halves := (extractLsb'_inverse_iff field length).mp complemented
  rw [fieldBits_lowBits short, fieldBits, fieldBits, List.range_add, List.map_append, List.map_map, List.map_map]
  congr 1
  refine List.map_congr_left fun i low => ?_
  rw [Function.comp_apply, Function.comp_apply, halves i (List.mem_range.mp low), Bool.not_not]

/-- The variant that the decoder takes an extended NEC payload for. -/
def understoodProtocol (message : InfraredMessage) : InfraredProtocol :=
  match message.protocol with
  | .necExt => if ComplementedForm message then .nec else .necExt
  | .nec42Ext => if ComplementedForm message then .nec42 else .nec42Ext
  | protocol => protocol

/-- The message that the payload of a message is read as. -/
def understoodForm (message : InfraredMessage) : InfraredMessage :=
  match infraredGetVariantByProtocol (understoodProtocol message) with
  | none => message
  | some variant =>
    ⟨understoodProtocol message, lowBits message.address variant.addressLength,
      lowBits message.command variant.commandLength, message.isRepeat⟩

def InfraredFamily.repeats : InfraredFamily → Bool
  | .nec | .samsung32 => true
  | _ => false

section Understood
variable {address command : BitVec 32} {isRepeat : Bool} {message : InfraredMessage}

theorem understoodForm_necExt : understoodForm ⟨.necExt, address, command, isRepeat⟩ =
    if ComplementedForm ⟨.necExt, address, command, isRepeat⟩ then
      ⟨.nec, lowBits address 8, lowBits command 8, isRepeat⟩
    else ⟨.necExt, lowBits address 16, lowBits command 16, isRepeat⟩ := by
  have protocol : understoodProtocol ⟨.necExt, address, command, isRepeat⟩ =
      if ComplementedForm ⟨.necExt, address, command, isRepeat⟩ then .nec else .necExt := rfl
  rw [understoodForm, protocol]
  by_cases complemented : ComplementedForm ⟨.necExt, address, command, isRepeat⟩
  · simp only [if_pos complemented]
    rfl
  · simp only [if_neg complemented]
    rfl

theorem understoodForm_nec42Ext : understoodForm ⟨.nec42Ext, address, command, isRepeat⟩ =
    if ComplementedForm ⟨.nec42Ext, address, command, isRepeat⟩ then
      ⟨.nec42, lowBits address 13, lowBits command 8, isRepeat⟩
    else ⟨.nec42Ext, lowBits address 26, lowBits command 16, isRepeat⟩ := by
  have protocol : understoodProtocol ⟨.nec42Ext, address, command, isRepeat⟩ =
      if ComplementedForm ⟨.nec42Ext, address, command, isRepeat⟩ then .nec42 else .nec42Ext := rfl
  rw [understoodForm, protocol]
  by_cases complemented : ComplementedForm ⟨.nec42Ext, address, command, isRepeat⟩
  · simp only [if_pos complemented]
    rfl
  · simp only [if_neg complemented]
    rfl

theorem understoodForm_plain : ¬ ComplementedForm (understoodForm message) := by
  obtain ⟨protocol, address, command, isRepeat⟩ := message
  have sixteen : 16 < 32 := by decide
  cases protocol
  case necExt =>
    rw [understoodForm_necExt]
    split
    · exact id
    · simpa only [ComplementedForm, extractLsb'_lowBits sixteen (show 0 + 8 ≤ 16 by decide),
        extractLsb'_lowBits sixteen (show 8 + 8 ≤ 16 by decide)]
  case nec42Ext =>
    have twentySix : 26 < 32 := by decide
    rw [understoodForm_nec42Ext]
    split
    · exact id
    · simpa only [ComplementedForm, extractLsb'_lowBits twentySix (show 0 + 13 ≤ 26 by decide),
        extractLsb'_lowBits twentySix (show 13 + 13 ≤ 26 by decide),
        extractLsb'_lowBits sixteen (show 0 + 8 ≤ 16 by decide),
        extractLsb'_lowBits sixteen (show 8 + 8 ≤ 16 by decide)]
  all_goals exact id

theorem understoodForm_payload {family : InfraredFamily} (repeats : family.repeats = true)
    (known : (family.getProtocolVariant message.protocol).isSome) (toggle : Bool) :
    payloadLayout (understoodForm message) toggle = payloadLayout message toggle ∧
      (family.getProtocolVariant (understoodForm message).protocol).isSome := by
  obtain ⟨protocol, address, command, isRepeat⟩ := message
  cases family
  case rc5 | rc6 | sirc | pioneer | kaseikyo | rca => cases repeats
  all_goals
    cases protocol <;> simp only [InfraredFamily.getProtocolVariant, Option.isSome_none,
      Bool.false_eq_true] at known
  case nec.necExt =>
    rw [understoodForm_necExt]
    split
    case isTrue complemented =>
      refine ⟨?_, rfl⟩
      simp only [payloadLayout]
      rw [← List.append_assoc, fieldBits_complemented (by decide) complemented.1,
        fieldBits_complemented (by decide) complemented.2]
    case isFalse =>
      refine ⟨?_, rfl⟩
      simp only [payloadLayout, fieldBits_lowBits (show 16 < 32 by decide)]
  case nec.nec42Ext =>
    rw [understoodForm_nec42Ext]
    split
    case isTrue complemented =>
      refine ⟨?_, rfl⟩
      simp only [payloadLayout]
      rw [← List.append_assoc, fieldBits_complemented (by decide) complemented.1,
        fieldBits_complemented (by decide) complemented.2]
    case isFalse =>
      refine ⟨?_, rfl⟩
      simp only [payloadLayout, fieldBits_lowBits (show 16 < 32 by decide),
        fieldBits_lowBits (show 26 < 32 by decide)]
  case nec.nec =>
    refine ⟨?_, rfl⟩
    change payloadLayout ⟨.nec, lowBits address 8, lowBits command 8, isRepeat⟩ toggle = _
    simp only [payloadLayout, fieldBits_lowBits (show 8 < 32 by decide)]
  case nec.nec42 =>
    refine ⟨?_, rfl⟩
    change payloadLayout ⟨.nec42, lowBits address 13, lowBits command 8, isRepeat⟩ toggle = _
    simp only [payloadLayout, fieldBits_lowBits (show 8 < 32 by decide), fieldBits_lowBits (show 13 < 32 by decide)]
  case samsung32.samsung32 =>
    refine ⟨?_, rfl⟩
    change payloadLayout ⟨.samsung32, lowBits address 8, lowBits command 8, isRepeat⟩ toggle = _
    simp only [payloadLayout, fieldBits_lowBits (show 8 < 32 by decide)]

theorem understoodProtocol_known (known : message.protocol ≠ .unknown) :
    ∃ variant, infraredGetVariantByProtocol (understoodProtocol message) = some variant := by
  obtain ⟨protocol, address, command, isRepeat⟩ := message
  cases protocol
  case unknown => exact absurd rfl known
  case necExt | nec42Ext =>
    rw [understoodProtocol]
    dsimp only
    split <;> exact ⟨_, rfl⟩
  all_goals exact ⟨_, rfl⟩

theorem understoodForm_valid (known : message.protocol ≠ .unknown) :
    infraredSignalIsMessageValid (understoodForm message) = true := by
  obtain ⟨variant, found⟩ := understoodProtocol_known known
  rw [understoodForm]
  simp only [infraredSignalIsMessageValid, found, decide_eq_true_eq]
  exact ⟨(lowBits_lowBits _ _).symm, (lowBits_lowBits _ _).symm⟩

theorem understoodForm_eq_iff (known : message.protocol ≠ .unknown) : understoodForm message = message ↔
      infraredSignalIsMessageValid message = true ∧ ¬ ComplementedForm message := by
  constructor
  · intro same
    rw [← same]
    exact ⟨understoodForm_valid known, understoodForm_plain⟩
  · rintro ⟨valid, plain⟩
    have protocol : understoodProtocol message = message.protocol := by
      rw [understoodProtocol]
      split
      case h_1 extended => rw [if_neg plain, extended]
      case h_2 extended => rw [if_neg plain, extended]
      case h_3 => rfl
    obtain ⟨variant, found⟩ := understoodProtocol_known known
    rw [protocol] at found
    simp only [infraredSignalIsMessageValid, found, decide_eq_true_eq] at valid
    simp only [understoodForm, protocol, found, lowBits, ← valid.1, ← valid.2]

end Understood

section Signal
variable {encoder : InfraredCommonEncoder}

/-- The encoder when its frame is out and repeats follow. -/
def afterMessage (spec : InfraredCommonProtocolSpec) (encoder : InfraredCommonEncoder) :
    InfraredCommonEncoder :=
  { afterHalf (afterBits spec.timings (afterStart spec.timings encoder) encoder.bitsToEncode) false
      spec.timings.bit1Mark with state := .encodeRepeat }

theorem nec_repeats (encoder : InfraredCommonEncoder) (state : encoder.state = .encodeRepeat) :
    Repeats infraredProtocolNec encoder necRepeatTimings (1 + 2 + encoder.bitsToEncode * 2 + 1)
      (u32 ((infraredNecRepeatPeriod : Int) - encoder.timingsSum)) := by
  refine ⟨rfl, by decide, by decide, fun count => ?_⟩
  rw [infraredCommonEncode, show (atRepeat encoder _ count).state = .encodeRepeat from state]
  rfl

theorem samsung32_repeats (encoder : InfraredCommonEncoder) (state : encoder.state = .encodeRepeat) :
    Repeats infraredProtocolSamsung32 encoder samsungRepeatTimings
      (1 + 2 + encoder.bitsEncoded * 2 + 1) infraredSamsungRepeatPause1 := by
  refine ⟨rfl, by decide, by decide, fun count => ?_⟩
  rw [infraredCommonEncode, show (atRepeat encoder _ count).state = .encodeRepeat from state]
  rfl

theorem encodeFrames_message {spec : InfraredCommonProtocolSpec} {repeatTimings : List Nat}
    {first : Nat} (coded : PulseEncoded spec false)
    (marks : spec.timings.bit1Mark = spec.timings.bit0Mark) (isSome : spec.encodeRepeat.isSome = true)
    (prepared : Prepared encoder) (short : encoder.bitsToEncode ≤ 60)
    (repeats : Repeats spec (afterMessage spec encoder) repeatTimings
      (1 + 2 + encoder.bitsToEncode * 2 + 1) first) (number : Nat) :
    encodeFrames (some ∘ infraredCommonEncode spec) frameFuel (number + 1) encoder =
      some (frameStart spec.timings ++ ((framePayload encoder).flatMap (pulses spec.timings) ++
        [(true, spec.timings.bit1Mark)]) ++ repeatSignal repeatTimings first number 0) := by
  have frame : encodeUntilDone (some ∘ infraredCommonEncode spec) frameFuel encoder =
      some (frameStart spec.timings ++ ((framePayload encoder).flatMap (pulses spec.timings) ++
        [(true, spec.timings.bit1Mark)]), afterMessage spec encoder) := by
    rw [untilDone_stopMark coded marks prepared short, afterFrame, if_pos isSome]
    rfl
  have start : atRepeat (afterMessage spec encoder) (1 + 2 + encoder.bitsToEncode * 2 + 1) 0 =
      afterMessage spec encoder := by
    have count : u32 (((1 + 2 + encoder.bitsToEncode * 2 + 1 : Nat) : Int) + ((0 : Nat) : Int)) =
        3 + 2 * encoder.bitsToEncode + 1 := by
      simp only [u32]
      omega
    rw [atRepeat, count]
    rfl
  have signal := repeats.encodeFrames_eq (Nat.zero_mod _) (by decide) number
  rw [start] at signal
  simp only [encodeFrames, frame, Option.bind_some, signal, Option.map_some]

/-- What the wall clock of the encoder shows, as long as it does not wrap. -/
def totalDuration (samples : List Sample) : Nat := (samples.map Prod.snd).sum

theorem addDurations_eq {sum : Nat} {samples : List Sample} (room : sum + totalDuration samples < 2 ^ 32) :
    addDurations sum samples = sum + totalDuration samples := by
  induction samples generalizing sum with
  | nil => rfl
  | cons sample samples ih =>
    simp only [totalDuration, List.map_cons, List.sum_cons] at room ih ⊢
    have step : u32 ((sum : Int) + sample.2) = sum + sample.2 := by
      simp only [u32]
      omega
    rw [addDurations, List.foldl_cons, step]
    rw [show List.foldl _ (sum + sample.2) samples = addDurations (sum + sample.2) samples from rfl, ih (by omega)]
    omega

/-- A one takes 1130 us longer than a zero. -/
theorem nec_totalDuration (bits : List Bool) : totalDuration (bits.flatMap (pulses infraredProtocolNec.timings)) =
      1120 * bits.length + 1130 * bits.count true := by
  induction bits with
  | nil => rfl
  | cons bit bits ih =>
    rw [List.flatMap_cons, totalDuration, List.map_append, List.sum_append]
    rw [totalDuration] at ih
    rw [ih]
    cases bit
    · simp [pulses, markOf, spaceOf, infraredProtocolNec]
      omega
    · simp [pulses, markOf, spaceOf, infraredProtocolNec, infraredNecBit1Mark]
      omega

theorem afterMessage_timingsSum (spec : InfraredCommonProtocolSpec) (encoder : InfraredCommonEncoder) :
    (afterMessage spec encoder).timingsSum = u32 (addDurations (addDurations 0
          [(true, spec.timings.preambleMark), (false, spec.timings.preambleSpace)])
        ((nextBits (afterStart spec.timings encoder) encoder.bitsToEncode).flatMap
          (pulses spec.timings)) + spec.timings.bit1Mark) := rfl

/-- What a frame leaves of the period of NEC. -/
def necFirstPause (bits : List Bool) : Nat := 110000 - (14060 + 1120 * bits.length + 1130 * bits.count true)

theorem nec_bitsSum {bits : List Bool} (short : bits.length ≤ 42) :
    addDurations 13500 (bits.flatMap (pulses infraredProtocolNec.timings)) =
      13500 + (1120 * bits.length + 1130 * bits.count true) := by
  have ones : bits.count true ≤ bits.length := List.count_le_length
  rw [addDurations_eq, nec_totalDuration]
  rw [nec_totalDuration]
  omega

theorem nec_firstPause (prepared : Prepared encoder) (short : encoder.bitsToEncode ≤ 42) :
    u32 ((infraredNecRepeatPeriod : Int) - (afterMessage infraredProtocolNec encoder).timingsSum) =
      necFirstPause (framePayload encoder) := by
  have length : (framePayload encoder).length = encoder.bitsToEncode := by
    rw [framePayload, List.length_map, List.length_range]
  have bits : nextBits (afterStart infraredProtocolNec.timings encoder) encoder.bitsToEncode =
      framePayload encoder := by
    rw [nextBits_start prepared, framePayload_eq]
  have start : addDurations 0 [(true, infraredProtocolNec.timings.preambleMark),
      (false, infraredProtocolNec.timings.preambleSpace)] = 13500 := rfl
  rw [afterMessage_timingsSum, bits, start, nec_bitsSum (by omega),
    show infraredProtocolNec.timings.bit1Mark = 560 from rfl]
  have ones : (framePayload encoder).count true ≤ (framePayload encoder).length :=
    List.count_le_length
  have clock : u32 (((13500 + (1120 * (framePayload encoder).length +
      1130 * (framePayload encoder).count true) : Nat) : Int) + (560 : Nat)) =
      14060 + 1120 * (framePayload encoder).length + 1130 * (framePayload encoder).count true := by
    rw [u32_of_range] <;> omega
  have rest : ((infraredNecRepeatPeriod : Int) - (14060 + 1120 * (framePayload encoder).length +
      1130 * (framePayload encoder).count true : Nat)).toNat = necFirstPause (framePayload encoder) := by
    rw [necFirstPause, infraredNecRepeatPeriod]
    omega
  rw [clock, u32_of_range, rest]
  · rw [infraredNecRepeatPeriod]
    omega
  · rw [infraredNecRepeatPeriod]
    omega

end Signal

/-! ## The signal as it is heard -/

def Reports (spec : InfraredCommonProtocolSpec) (payload : List Bool) (signal : List Sample)
    (messages : List InfraredMessage) : Prop :=
  ∀ decoder, Receiving decoder payload true → ∃ final heard, Hears spec decoder signal heard final ∧
    messages = heard ++ if (infraredCommonDecoderCheckReady spec final).1 then
      [(infraredCommonDecoderCheckReady spec final).2.message] else []

section Reports
variable {spec : InfraredCommonProtocolSpec} {payload : List Bool} {signal : List Sample}
  {message : InfraredMessage} {messages : List InfraredMessage}

/-- The frame alone. -/
theorem reports_message (understood : Understood spec payload message) :
    Reports spec payload [] [{ message with isRepeat := false }] := by
  intro decoder receiving
  obtain ⟨found, interprets⟩ := understood
  have ready := checkReady_of_interpret (receiving.databitCnt ▸ found)
    (interprets decoder receiving.databitCnt receiving.held.carries)
  refine ⟨decoder, [], Hears.nil decoder, ?_⟩
  rw [ready]
  rfl

/-- Nothing is ready in the middle of a payload. -/
theorem reports_of_hears (heard : ∀ decoder, Receiving decoder payload true →
      ∃ final, Hears spec decoder signal messages final ∧
        foundLength spec.toInfraredProtocolTable final.databitCnt = false) :
    Reports spec payload signal messages := by
  intro decoder receiving
  obtain ⟨final, heard, unknown⟩ := heard decoder receiving
  refine ⟨final, messages, heard, ?_⟩
  have idle : infraredCommonDecoderCheckReady spec final = (false, final) := by
    rw [infraredCommonDecoderCheckReady, unknown]
    rfl
  rw [idle, if_neg Bool.false_ne_true, List.append_nil]

end Reports

def heldKeyMessages (message : InfraredMessage) (repeats : Nat) : List InfraredMessage :=
  { message with isRepeat := false } :: List.replicate repeats { message with isRepeat := true }

section Nec
variable {payload : List Bool} {message : InfraredMessage}

theorem nec_reports_all (understood : Understood infraredProtocolNec payload message) {first : Nat}
    (long : infraredNecRepeatPauseMin < first) (inside : first < infraredNecRepeatPauseMax)
    (repeats : Nat) :
    Reports infraredProtocolNec payload (repeatSignal necRepeatTimings first (repeats + 1) 0)
      (heldKeyMessages message (repeats + 1)) := by
  have accepted (count : Nat) : necAccepts (wholeFrame necRepeatTimings first count) = true := by
    rw [wholeFrame]
    split
    · simp only [necRepeatTimings, List.tail_cons, necAccepts, decide_eq_true_eq]
      exact ⟨long, inside, by decide, by decide, by decide⟩
    · rfl
  refine reports_of_hears fun decoder receiving => ?_
  obtain ⟨final, heard, collecting⟩ := receiving.signal nec_repeatsDecoded nec_shape accepted
    (by decide) long understood (nec_wholeFrames (repeats + 1) (by decide) (by decide))
  exact ⟨final, heard, by rw [collecting.databitCnt]; decide⟩

theorem nec_reports_nothing {first : Nat} (short : first ≤ infraredNecRepeatPauseMin)
    (longest : payload.length = 42) (repeats : Nat) :
    Reports infraredProtocolNec payload (repeatSignal necRepeatTimings first (repeats + 1) 0) [] := by
  refine reports_of_hears fun decoder receiving => ?_
  obtain ⟨final, heard, waiting⟩ := nec_missed first repeats receiving longest short
  exact ⟨final, heard, by rw [waiting.databitCnt]; decide⟩

def necReports (payload : List Bool) (message : InfraredMessage) (repeats : Nat) :
    List InfraredMessage :=
  if repeats = 0 ∨ payload.count true < 40 then heldKeyMessages message repeats else []

theorem nec_reports (understood : Understood infraredProtocolNec payload message) (repeats : Nat) :
    Reports infraredProtocolNec payload (repeatSignal necRepeatTimings (necFirstPause payload) repeats 0)
      (necReports payload message repeats) := by
  have ones : payload.count true ≤ payload.length := List.count_le_length
  have lengths : payload.length = 42 ∨ payload.length = 32 := by
    have found := understood.1
    rw [foundLength, show infraredProtocolNec.databitLen.takeWhile (· ≠ 0) = [42, 32] from rfl,
      List.any_cons, List.any_cons, List.any_nil, Bool.or_false, Bool.or_eq_true, decide_eq_true_eq,
      decide_eq_true_eq] at found
    exact found.imp Eq.symm Eq.symm
  rw [necReports]
  cases repeats with
  | zero => exact reports_message understood
  | succ repeats =>
    by_cases few : payload.count true < 40
    · rw [if_pos (.inr few)]
      refine nec_reports_all understood ?_ ?_ repeats
      · rw [necFirstPause, infraredNecRepeatPauseMin]
        omega
      · rw [necFirstPause, infraredNecRepeatPauseMax]
        omega
    · rw [if_neg (by simpa using few)]
      refine nec_reports_nothing ?_ (by omega) repeats
      rw [necFirstPause, infraredNecRepeatPauseMin]
      omega

end Nec

section Samsung32
variable {payload : List Bool} {message : InfraredMessage}

theorem samsung32_accepted (count : Nat) :
    samsung32Accepts (wholeFrame samsungRepeatTimings infraredSamsungRepeatPause1 count) = true := by
  rw [wholeFrame]
  split <;> rfl

theorem samsung32_reports_cut (understood : Understood infraredProtocolSamsung32 payload message)
    {most : Nat} (full : 6 * (most + 1) + 4 = 2 ^ 32) (more : Nat) :
    Reports infraredProtocolSamsung32 payload
      (repeatSignal samsungRepeatTimings infraredSamsungRepeatPause1 (most + 1 + (more + 1)) 0)
      (heldKeyMessages message (most + 1)) := by
  refine reports_of_hears fun decoder receiving => ?_
  have whole : WholeFrames 6 (most + 1) 0 := samsung32_wholeFrames (by omega)
  have wraps : (0 + 6 * (most + 1)) % 2 ^ 32 = 2 ^ 32 - 4 := by omega
  obtain ⟨middle, heard, collecting⟩ := receiving.signal samsung32_repeatsDecoded samsung32_shape
    samsung32_accepted (by decide) (by decide) understood whole
  obtain ⟨final, missed, few⟩ := samsung32_missed collecting more
  refine ⟨final, ?_, ?_⟩
  · rw [repeatSignal_add samsung32_shape (by decide) whole, wraps]
    exact (List.append_nil (heldKeyMessages message (most + 1))) ▸ heard.append missed
  · rcases (by omega : final.databitCnt = 0 ∨ final.databitCnt = 1) with none | one
    · rw [none]
      decide
    · rw [one]
      decide

theorem samsung32_reports (understood : Understood infraredProtocolSamsung32 payload message) (repeats : Nat) :
    Reports infraredProtocolSamsung32 payload
      (repeatSignal samsungRepeatTimings infraredSamsungRepeatPause1 repeats 0)
      (heldKeyMessages message (min repeats samsung32RepeatsHeard)) := by
  obtain ⟨most, heardMost, full⟩ : ∃ most, samsung32RepeatsHeard = most + 1 ∧
      6 * (most + 1) + 4 = 2 ^ 32 := ⟨715827881, rfl, rfl⟩
  rw [heardMost]
  by_cases all : repeats ≤ most + 1
  · rw [Nat.min_eq_left all]
    cases repeats with
    | zero => exact reports_message understood
    | succ repeats =>
      refine reports_of_hears fun decoder receiving => ?_
      have whole : WholeFrames 6 (repeats + 1) 0 := samsung32_wholeFrames (by omega)
      obtain ⟨final, heard, collecting⟩ := receiving.signal samsung32_repeatsDecoded samsung32_shape
        samsung32_accepted (by decide) (by decide) understood whole
      exact ⟨final, heard, by rw [collecting.databitCnt]; decide⟩
  · obtain ⟨more, number⟩ : ∃ more, repeats = most + 1 + (more + 1) :=
      ⟨repeats - (most + 2), by omega⟩
    rw [Nat.min_eq_right (by omega), number]
    exact samsung32_reports_cut understood full more

end Samsung32

/-! ## Held keys -/

section HeldKey
variable {family : InfraredFamily} {message : InfraredMessage}

theorem InfraredFamily.repeats_isPulse (repeats : family.repeats = true) : family.isPulse = true := by
  cases family <;> cases repeats <;> rfl

theorem protocol_known (known : (family.getProtocolVariant message.protocol).isSome) :
    message.protocol ≠ .unknown := by
  intro unknown
  rw [unknown] at known
  cases family <;> cases known

theorem understoodForm_understood (repeats : family.repeats = true)
    (known : (family.getProtocolVariant message.protocol).isSome) (toggle : Bool) :
    Understood family.spec (payloadLayout message toggle) (understoodForm message) := by
  have pulse := InfraredFamily.repeats_isPulse repeats
  obtain ⟨payload, known'⟩ := understoodForm_payload repeats known toggle
  refine ⟨(length_le_maxLen pulse known toggle).1, fun decoder count carries => ?_⟩
  rw [← payload] at count carries
  exact interpret_payload pulse known' (understoodForm_valid (protocol_known known))
    understoodForm_plain count carries

/-- The repeats after a frame as the encoder of a family sends them. -/
def repeatsOf (family : InfraredFamily) (payload : List Bool) (repeats : Nat) : List Sample :=
  match family with
  | .nec => repeatSignal necRepeatTimings (necFirstPause payload) repeats 0
  | .samsung32 => repeatSignal samsungRepeatTimings infraredSamsungRepeatPause1 repeats 0
  | _ => []

theorem heldKey_sent (repeating : family.repeats = true) {encoder : InfraredCommonEncoder}
    (prepared : Prepared encoder) (short : encoder.bitsToEncode ≤ 42) (number : Nat) :
    encodeFrames (some ∘ family.encode) frameFuel (number + 1) encoder =
        some (frameSamples family (framePayload encoder) ++ repeatsOf family (framePayload encoder) number) ∧
      Alternates false (repeatsOf family (framePayload encoder) number) := by
  have coded := pulse_encoded (InfraredFamily.repeats_isPulse repeating)
  cases family <;> cases repeating
  case nec =>
    have repeats := nec_repeats (afterMessage infraredProtocolNec encoder) rfl
    rw [nec_firstPause prepared short] at repeats
    exact ⟨encodeFrames_message coded rfl rfl prepared (by omega) repeats number,
      repeats.alternates (by decide) (by decide) number⟩
  case samsung32 =>
    have repeats := samsung32_repeats (afterMessage infraredProtocolSamsung32 encoder) rfl
    have count : (afterMessage infraredProtocolSamsung32 encoder).bitsEncoded = encoder.bitsToEncode := by
      change encoder.bitsEncoded + encoder.bitsToEncode = _
      rw [prepared.bitsEncoded, Nat.zero_add]
    rw [count] at repeats
    exact ⟨encodeFrames_message coded rfl rfl prepared (by omega) repeats number,
      repeats.alternates (by decide) (by decide) number⟩

theorem heldKey_alternates (repeating : family.repeats = true) (payload : List Bool)
    {signal : List Sample} (alternates : Alternates false signal) :
    Alternates false (frameSamples family payload ++ signal) := by
  have frame (timings : InfraredTimings) : Alternates true
      ((payload.flatMap (pulses timings) ++ [(true, timings.bit1Mark)]) ++ signal) := by
    rw [List.append_assoc]
    exact (alternates_pulses timings payload _).mpr ⟨rfl, alternates⟩
  cases family <;> cases repeating <;> exact ⟨rfl, rfl, rfl, frame _⟩

theorem roundTrip_of_reports (handler : InfraredEncoderHandler) (decoder : InfraredCommonDecoder)
    (found : infraredFindIndexByProtocol message.protocol = some family)
    (repeating : family.repeats = true) (repeats : Nat) {messages : List InfraredMessage}
    (reports : ∀ toggle, Reports family.spec (payloadLayout message toggle)
      (repeatsOf family (payloadLayout message toggle) repeats) messages) :
    roundTrip handler message repeats decoder = some (.ok messages) := by
  have known := List.find?_some found
  have pulse := InfraredFamily.repeats_isPulse repeating
  obtain ⟨encoder, toggle, toggle', reset, prepared, payload⟩ :=
    resetEncoder_prepared handler found (fun kaseikyo => by
      rw [kaseikyo] at known
      cases family <;> cases repeating <;> cases known)
  have fits := (length_le_maxLen pulse known toggle).2
  have count : encoder.bitsToEncode = (payloadLayout message toggle).length := by
    rw [← payload, framePayload, List.length_map, List.length_range]
  have longest : family.spec.maxLen ≤ 42 := by
    cases family <;> cases repeating <;> decide
  obtain ⟨sent, alternates⟩ := heldKey_sent repeating prepared (by omega) repeats
  obtain ⟨middle, frame, receiving⟩ := hear_frame pulse decoder
    (List.ne_nil_of_length_pos (payloadLayout_positive known toggle)) fits
  rw [show (family != .pioneer) = true by cases family <;> cases repeating <;> rfl] at receiving
  obtain ⟨final, heard, signal, all⟩ := reports toggle middle receiving
  rw [payload] at sent alternates
  have merged := mergeLevels_of_alternates (heldKey_alternates repeating (payloadLayout message toggle) alternates)
  simp only [roundTrip, reset, Option.bind_eq_bind, Option.bind_some, encodeFrames_handler, sent,
    merged, decodedMessages_of_hears (frame.append signal), List.nil_append, ← all]

def heldKeyReports (family : InfraredFamily) (message : InfraredMessage) (repeats : Nat) :
    List InfraredMessage :=
  match family with
  | .nec => necReports (payloadLayout message false) (understoodForm message) repeats
  | _ => heldKeyMessages (understoodForm message) (min repeats samsung32RepeatsHeard)

theorem roundTrip_heldKey (handler : InfraredEncoderHandler) (decoder : InfraredCommonDecoder)
    (found : infraredFindIndexByProtocol message.protocol = some family)
    (repeating : family.repeats = true) (repeats : Nat) :
    roundTrip handler message repeats decoder =
      some (.ok (heldKeyReports family message repeats)) := by
  refine roundTrip_of_reports handler decoder found repeating repeats fun toggle => ?_
  have known := List.find?_some found
  have understood := understoodForm_understood repeating known toggle
  cases family <;> cases repeating
  case nec =>
    have same : payloadLayout message false = payloadLayout message toggle := by
      obtain ⟨protocol, address, command, isRepeat⟩ := message
      cases protocol <;> first | rfl | cases known
    rw [heldKeyReports, same]
    exact nec_reports understood repeats
  case samsung32 => exact samsung32_reports understood repeats

/-- When every repeat is reported: the gap before the first one leaves room, and the
counter of the encoder does not wrap. -/
def RepeatsAreHeard (message : InfraredMessage) (repeats : Nat) : Prop :=
  match message.protocol with
  | .nec42Ext =>
    repeats = 0 ∨ (fieldBits message.address 26 ++ fieldBits message.command 16).count true < 40
  | .samsung32 => repeats ≤ samsung32RepeatsHeard
  | _ => True

theorem heldKeyMessages_eq_iff {first second : InfraredMessage} {repeats repeats' : Nat}
    (flags : first.isRepeat = second.isRepeat) :
    heldKeyMessages first repeats = heldKeyMessages second repeats' ↔
      first = second ∧ repeats = repeats' := by
  constructor
  · intro same
    have messages := congrArg List.length same
    simp only [heldKeyMessages, List.length_cons, List.length_replicate] at messages
    obtain ⟨protocol, address, command, isRepeat⟩ := first
    cases flags
    have heads := (List.cons.inj same).1
    cases heads
    exact ⟨rfl, by omega⟩
  · rintro ⟨rfl, rfl⟩
    rfl

theorem understoodForm_isRepeat (message : InfraredMessage) :
    (understoodForm message).isRepeat = message.isRepeat := by
  rw [understoodForm]
  split <;> rfl

theorem count_map_not (bits : List Bool) : (bits ++ bits.map not).count true = bits.length := by
  rw [List.count_append, show (bits.map not).count true = bits.count false from
    List.count_map_of_injective bits not (fun _ _ => Bool.not_inj) false,
    List.count_true_add_count_false]

theorem necOnes_few (known : (InfraredFamily.nec.getProtocolVariant message.protocol).isSome)
    (other : message.protocol ≠ .nec42Ext) : (payloadLayout message false).count true < 40 := by
  obtain ⟨protocol, address, command, isRepeat⟩ := message
  have ones : (payloadLayout ⟨protocol, address, command, isRepeat⟩ false).count true ≤
      (payloadLayout ⟨protocol, address, command, isRepeat⟩ false).length := List.count_le_length
  cases protocol <;> simp only [InfraredFamily.getProtocolVariant, Option.isSome_none, Bool.false_eq_true] at known
  case nec | necExt =>
    simp only [payloadLayout, List.length_append, List.length_map, length_fieldBits] at ones ⊢
    omega
  case nec42 =>
    simp only [payloadLayout]
    rw [← List.append_assoc, List.count_append, count_map_not, count_map_not, length_fieldBits, length_fieldBits]
    decide
  case nec42Ext => exact absurd rfl other

theorem heldKeyReports_eq_iff (found : infraredFindIndexByProtocol message.protocol = some family)
    (repeating : family.repeats = true) (repeats : Nat) :
    heldKeyReports family message repeats = heldKeyMessages message repeats ↔
      understoodForm message = message ∧ RepeatsAreHeard message repeats := by
  have known := List.find?_some found
  have flags := understoodForm_isRepeat message
  cases family <;> cases repeating
  case nec =>
    have reported : RepeatsAreHeard message repeats ↔
        repeats = 0 ∨ (payloadLayout message false).count true < 40 := by
      by_cases extended : message.protocol = .nec42Ext
      · rw [RepeatsAreHeard, payloadLayout, extended]
      · have few := necOnes_few known extended
        have other : message.protocol ≠ .samsung32 := by
          intro samsung
          rw [samsung] at known
          cases known
        rw [RepeatsAreHeard]
        split
        case h_1 same => exact absurd same extended
        case h_2 same => exact absurd same other
        case h_3 => exact ⟨fun _ => .inr few, fun _ => trivial⟩
    rw [heldKeyReports, necReports, reported]
    split
    case isTrue heard =>
      rw [heldKeyMessages_eq_iff flags]
      exact ⟨fun same => ⟨same.1, heard⟩, fun same => ⟨same.1, rfl⟩⟩
    case isFalse missed =>
      exact ⟨fun same => absurd same (List.cons_ne_nil _ _).symm, fun same => absurd same.2 missed⟩
  case samsung32 =>
    have protocol : message.protocol = .samsung32 := by
      obtain ⟨protocol, address, command, isRepeat⟩ := message
      cases protocol <;> first | rfl | cases known
    change heldKeyMessages _ (min repeats samsung32RepeatsHeard) = _ ↔ _
    rw [heldKeyMessages_eq_iff flags, RepeatsAreHeard, protocol]
    exact and_congr_right fun _ => min_eq_left_iff

end HeldKey

/-- The protocols with repeats: whatever was sent or heard before, a message and so
many repeats of it are reported just for an accepted message that does not look like
one of a plain variant, and if every repeat is heard. -/
theorem held_key_is_reported_iff (handler : InfraredEncoderHandler) (decoder : InfraredCommonDecoder)
    (message : InfraredMessage) (family : InfraredFamily) (repeats : Nat)
    (found : infraredFindIndexByProtocol message.protocol = some family)
    (repeating : family.repeats = true) :
    roundTrip handler message repeats decoder = some (.ok (heldKeyMessages message repeats)) ↔
      (infraredSignalIsMessageValid message = true ∧ ¬ ComplementedForm message) ∧
        RepeatsAreHeard message repeats := by
  have known := List.find?_some found
  rw [roundTrip_heldKey handler decoder found repeating, Option.some.injEq, Except.ok.injEq,
    heldKeyReports_eq_iff found repeating, understoodForm_eq_iff (protocol_known known)]

theorem held_key_is_reported_iff_samsung32 : roundTrip infraredAllocEncoder ⟨.samsung32, 0x0E, 0x0C, false⟩ 2
        ⟨[], ⟨.unknown, 0, 0, false⟩, .waitPreamble, false, false, 0, 0, false⟩ =
      some (.ok [⟨.samsung32, 0x0E, 0x0C, false⟩, ⟨.samsung32, 0x0E, 0x0C, true⟩,
        ⟨.samsung32, 0x0E, 0x0C, true⟩]) :=
  (held_key_is_reported_iff infraredAllocEncoder _ ⟨.samsung32, 0x0E, 0x0C, false⟩ .samsung32 2
    rfl rfl).mpr ⟨⟨by decide, by decide⟩,
      show 2 ≤ samsung32RepeatsHeard by decide⟩

/-- A held NEC42ext key of all ones is not reported at all, although the application
accepts it. -/
theorem nec42Ext_of_ones_is_lost :
    let message : InfraredMessage := ⟨.nec42Ext, 0x3FFFFFF, 0xFFFF, false⟩
    let decoder : InfraredCommonDecoder :=
      ⟨[], ⟨.unknown, 0, 0, false⟩, .waitPreamble, false, false, 0, 0, false⟩
    infraredSignalIsMessageValid message = true ∧ ¬ ComplementedForm message ∧
      roundTrip infraredAllocEncoder message 1 decoder = some (.ok []) ∧
      roundTrip infraredAllocEncoder message 1 decoder ≠ some (.ok (heldKeyMessages message 1)) := by
  decide +kernel

end Xtreme.Infrared
