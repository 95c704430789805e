import Xtreme.Infrared.FrameRoundTrip
import Xtreme.Infrared.ManchesterFrames

/-! What the decoders of RC5 and RC6 make of a frame. Between two samples the common
decoder knows the bits whose first half is over, and `switch_detect` tells whether the
last sample ended in the middle of a bit. RC5 finds its first bit by the second half,
since the first one is part of the silence; the toggle bit of RC6 is twice as long as
the others, and with its neighbours it makes samples of up to three halves. -/
namespace Xtreme.Infrared
open Xtreme.Library

variable {spec : InfraredCommonProtocolSpec} {halfTime : Nat → Nat}

/-- The samples take one decoder to the other without a report, and the last message
and its toggle bit stay. -/
def Listens (spec : InfraredCommonProtocolSpec) (decoder : InfraredCommonDecoder) (samples : List Sample)
    (next : InfraredCommonDecoder) : Prop :=
  Hears spec decoder samples [] next ∧ next.message = decoder.message ∧ next.toggle = decoder.toggle

theorem Listens.nil (decoder : InfraredCommonDecoder) : Listens spec decoder [] decoder :=
  ⟨Hears.nil decoder, rfl, rfl⟩

theorem Listens.append {decoder middle next : InfraredCommonDecoder} {samples samples' : List Sample}
    (first : Listens spec decoder samples middle) (second : Listens spec middle samples' next) :
    Listens spec decoder (samples ++ samples') next :=
  ⟨first.1.append second.1, second.2.1.trans first.2.1, second.2.2.trans first.2.2⟩

/-- A decoder in the middle of a payload, and whether its last sample ended in the
middle of a bit. -/
structure Reading (decoder : InfraredCommonDecoder) (bits : List Bool) (level switch : Bool) : Prop extends
    Receiving decoder bits level where
  switchDetect : decoder.switchDetect = switch

/-- A call that reports nothing. -/
theorem Hears.silent {decoder start heard final : InfraredCommonDecoder} {level : Bool} {duration : Nat}
    (starts : (if decoder.level = level then infraredCommonDecoderReset spec decoder else decoder) = start)
    (room : start.timings.length < timingsSize)
    (hears : { start with level := level, timings := start.timings ++ [duration] } = heard)
    (loop : decodeLoop spec decodeFuel heard false = .ok (false, final)) :
    Hears spec decoder [(level, duration)] [] final := Hears.ofLoop starts room hears loop

theorem Hears.reporting {decoder start heard final : InfraredCommonDecoder} {level : Bool} {duration : Nat}
    (starts : (if decoder.level = level then infraredCommonDecoderReset spec decoder else decoder) = start)
    (room : start.timings.length < timingsSize)
    (hears : { start with level := level, timings := start.timings ++ [duration] } = heard)
    (loop : decodeLoop spec decodeFuel heard false = .ok (true, final)) :
    Hears spec decoder [(level, duration)] [final.message] final := Hears.ofLoop starts room hears loop

/-- The decoder with one sample to work off. -/
def taking (decoder : InfraredCommonDecoder) (level : Bool) (timing : Nat) : InfraredCommonDecoder :=
  { decoder with level := level, timings := [timing] }

def withBit (decoder : InfraredCommonDecoder) (bit : Bool) : InfraredCommonDecoder :=
  accumulateLsb { decoder with switchDetect := true } bit

theorem withBit_held (decoder : InfraredCommonDecoder) (bits : List Bool) (held : Held decoder.data bits)
    (count : decoder.databitCnt = bits.length) (room : bits.length < 64) (bit : Bool) :
    Held (withBit decoder bit).data (bits ++ [bit]) :=
  @held_accumulateLsb bits { decoder with switchDetect := true } held count room bit

/-- One sample that the protocol works off. -/
theorem listen_timing {decoder next : InfraredCommonDecoder} {bits : List Bool} {level : Bool} {timing : Nat}
    (receiving : Receiving decoder bits (!level)) (splits : spec.timings.minSplitTime ≠ 0)
    (short : level = false → timing ≤ spec.timings.minSplitTime ∧ bits.length < spec.maxLen)
    (decodes : spec.decode spec.toInfraredProtocolTable (taking decoder level timing) level timing = (.ok, next))
    (within : next.databitCnt ≤ spec.maxLen)
    (kept : next.message = decoder.message ∧ next.toggle = decoder.toggle) :
    Listens spec decoder [(level, timing)] { next with timings := [] } := by
  obtain ⟨state, timings, other, count, held⟩ := receiving
  have loop := decodeLoop_of_timing (taking decoder level timing) 23 false state rfl splits (fun space => ⟨(short space).1, by
      have more := (short space).2
      simp only [taking]
      omega⟩) decodes within
  have alternates : decoder.level ≠ level := by
    rw [other]
    cases level <;> decide
  exact ⟨Hears.silent (if_neg alternates) (by rw [timings]; decide) (by rw [timings]; rfl) loop, kept⟩

/-! ## Halves -/

/-- The times of a Manchester protocol: a single half and two halves are told apart, and
both are shorter than a pause. -/
structure ManchesterDecoded (spec : InfraredCommonProtocolSpec) : Prop where
  splits : spec.timings.minSplitTime ≠ 0
  single : matchTiming spec.timings.bit1Mark spec.timings.bit1Mark spec.timings.bitTolerance = true
  double : matchTiming (2 * spec.timings.bit1Mark) (2 * spec.timings.bit1Mark) spec.timings.bitTolerance = true
  notDouble : matchTiming spec.timings.bit1Mark (2 * spec.timings.bit1Mark) spec.timings.bitTolerance = false
  notSingle : matchTiming (2 * spec.timings.bit1Mark) spec.timings.bit1Mark spec.timings.bitTolerance = false
  short : 2 * spec.timings.bit1Mark ≤ spec.timings.minSplitTime
  longest : spec.maxLen < 64

/-- With so many bits received the protocol leaves a sample to the common decoder. -/
def PlainAt (spec : InfraredCommonProtocolSpec) (count : Nat) : Prop :=
  (spec.manchesterStartFromSpace = true → count ≠ 0) ∧ ∀ decoder level timing, decoder.databitCnt = count →
      spec.decode spec.toInfraredProtocolTable decoder level timing =
        infraredCommonDecodeManchester spec.toInfraredProtocolTable decoder level timing

section Common
variable {table : InfraredProtocolTable} (decoder : InfraredCommonDecoder) (level : Bool) {timing : Nat}

variable (single : matchTiming timing table.timings.bit1Mark table.timings.bitTolerance = true)
include single

theorem decodeManchester_second (behind : table.manchesterStartFromSpace = true → decoder.databitCnt ≠ 0)
    (switch : decoder.switchDetect = true) :
    infraredCommonDecodeManchester table decoder level timing = (.ok, { decoder with switchDetect := false }) := by
  have started : ¬ (table.manchesterStartFromSpace = true ∧ decoder.databitCnt = 0) := fun start =>
    behind start.1 start.2
  simp [infraredCommonDecodeManchester, single, started, switch]

theorem decodeManchester_first
    (notDouble : matchTiming timing (2 * table.timings.bit1Mark) table.timings.bitTolerance = false)
    (behind : table.manchesterStartFromSpace = true → decoder.databitCnt ≠ 0)
    (switch : decoder.switchDetect = false) (more : table.maxLen ≠ decoder.databitCnt) :
    infraredCommonDecodeManchester table decoder level timing =
      (.ok, withBit decoder level) := by
  have started : ¬ (table.manchesterStartFromSpace = true ∧ decoder.databitCnt = 0) := fun start =>
    behind start.1 start.2
  simp [infraredCommonDecodeManchester, single, notDouble, started, switch, more, withBit]

omit single

/-- Both in one sample. -/
theorem decodeManchester_both
    (double : matchTiming timing (2 * table.timings.bit1Mark) table.timings.bitTolerance = true)
    (notSingle : matchTiming timing table.timings.bit1Mark table.timings.bitTolerance = false)
    (behind : table.manchesterStartFromSpace = true → decoder.databitCnt ≠ 0)
    (switch : decoder.switchDetect = true) (more : table.maxLen ≠ decoder.databitCnt) :
    infraredCommonDecodeManchester table decoder level timing =
      (.ok, withBit decoder level) := by
  have started : ¬ (table.manchesterStartFromSpace = true ∧ decoder.databitCnt = 0) := fun start =>
    behind start.1 start.2
  simp [infraredCommonDecodeManchester, double, notSingle, started, switch, more, withBit]

end Common

section Halves
variable {decoder : InfraredCommonDecoder} {bits : List Bool} (level : Bool)

variable (decoded : ManchesterDecoded spec)
include decoded

theorem listen_second (plain : PlainAt spec bits.length)
    (reading : Reading decoder bits (!level) true) (within : bits.length ≤ spec.maxLen)
    (more : level = false → bits.length < spec.maxLen) :
    ∃ next, Listens spec decoder [(level, spec.timings.bit1Mark)] next ∧ Reading next bits level false := by
  have decodes := (plain.2 (taking decoder level spec.timings.bit1Mark) level spec.timings.bit1Mark
    reading.databitCnt).trans (decodeManchester_second _ level decoded.single
      (fun start => reading.databitCnt ▸ plain.1 start) reading.switchDetect)
  refine ⟨_, listen_timing reading.toReceiving decoded.splits (fun space => ⟨?_, more space⟩) decodes
    (by simpa only [taking, reading.databitCnt] using within) ⟨rfl, rfl⟩, ?_⟩
  · have short := decoded.short
    omega
  · exact ⟨⟨reading.state, rfl, rfl, reading.databitCnt, reading.held⟩, rfl⟩

theorem listen_bit {switch : Bool} {timing : Nat}
    (reading : Reading decoder bits (!level) switch) (more : bits.length < spec.maxLen)
    (short : timing ≤ spec.timings.minSplitTime)
    (decodes : spec.decode spec.toInfraredProtocolTable (taking decoder level timing) level timing =
      (.ok, withBit (taking decoder level timing) level)) :
    ∃ next, Listens spec decoder [(level, timing)] next ∧ Reading next (bits ++ [level]) level true := by
  have room := decoded.longest
  have count : (withBit (taking decoder level timing) level).databitCnt = bits.length + 1 :=
    congrArg (· + 1) reading.databitCnt
  have held := withBit_held (taking decoder level timing) bits reading.held reading.databitCnt (by omega) level
  refine ⟨_, listen_timing reading.toReceiving decoded.splits (fun _ => ⟨short, more⟩) decodes
    (by omega) ⟨rfl, rfl⟩, ⟨reading.state, rfl, rfl, ?_, held⟩, rfl⟩
  rw [List.length_append]
  exact count

theorem listen_first (plain : PlainAt spec bits.length)
    (reading : Reading decoder bits (!level) false) (more : bits.length < spec.maxLen) :
    ∃ next, Listens spec decoder [(level, spec.timings.bit1Mark)] next ∧
      Reading next (bits ++ [level]) level true := by
  have decodes := (plain.2 (taking decoder level spec.timings.bit1Mark) level spec.timings.bit1Mark
    reading.databitCnt).trans (decodeManchester_first _ level decoded.single decoded.notDouble
      (fun start => reading.databitCnt ▸ plain.1 start) reading.switchDetect
      (by simp only [taking, reading.databitCnt]; omega))
  have short := decoded.short
  exact listen_bit level decoded reading more (by omega) decodes

theorem listen_both (plain : PlainAt spec bits.length)
    (reading : Reading decoder bits (!level) true) (more : bits.length < spec.maxLen) :
    ∃ next, Listens spec decoder [(level, 2 * spec.timings.bit1Mark)] next ∧
      Reading next (bits ++ [level]) level true := by
  have decodes := (plain.2 (taking decoder level (2 * spec.timings.bit1Mark)) level (2 * spec.timings.bit1Mark)
    reading.databitCnt).trans (decodeManchester_both _ level decoded.double
      decoded.notSingle (fun start => reading.databitCnt ▸ plain.1 start) reading.switchDetect
      (by simp only [taking, reading.databitCnt]; omega))
  exact listen_bit level decoded reading more decoded.short decodes

theorem listen_next (plain : PlainAt spec bits.length)
    (reading : Reading decoder bits level true) (more : bits.length < spec.maxLen) (bit : Bool) :
    ∃ next, Listens spec decoder
        (if level = bit then [(!level, spec.timings.bit1Mark), (bit, spec.timings.bit1Mark)]
          else [(bit, 2 * spec.timings.bit1Mark)]) next ∧
      Reading next (bits ++ [bit]) bit true := by
  by_cases same : level = bit
  · subst same
    have opposite : Reading decoder bits (!!level) true := by rwa [Bool.not_not]
    obtain ⟨middle, second, half⟩ := listen_second (!level) decoded plain opposite (Nat.le_of_lt more) (fun _ => more)
    obtain ⟨next, first, reached⟩ := listen_first level decoded plain half more
    rw [if_pos rfl]
    exact ⟨next, second.append first, reached⟩
  · have opposite : Reading decoder bits (!bit) true := by
      have other : level = !bit := by revert same; cases level <;> cases bit <;> decide
      rwa [other] at reading
    rw [if_neg same]
    exact listen_both bit decoded plain opposite more

/-- The samples from the second half of a bit to the end of the frame. -/
theorem listen_halves (place : Nat) (rest : List Bool)
    (times : ∀ i, place ≤ i → halfTime i = spec.timings.bit1Mark) (narrow : 2 * spec.timings.bit1Mark < 2 ^ 32)
    (reading : Reading decoder bits level true) (all : bits.length + rest.length = spec.maxLen)
    (plain : ∀ count, bits.length ≤ count → PlainAt spec count) :
    ∃ next, Listens spec decoder (joinedHalves halfTime place level rest) next ∧
      Receiving next (bits ++ rest) true := by
  induction rest generalizing decoder bits level place with
  | nil =>
    rw [List.append_nil, joinedHalves]
    cases level with
    | true => exact ⟨decoder, Listens.nil decoder, reading.toReceiving⟩
    | false =>
      obtain ⟨next, second, done⟩ := listen_second true decoded (plain _ (Nat.le_refl _)) reading
        (by omega) (by simp)
      rw [times place (Nat.le_refl _)]
      exact ⟨next, second, done.toReceiving⟩
  | cons bit rest ih =>
    rw [List.length_cons] at all
    obtain ⟨middle, first, reached⟩ := listen_next level decoded (plain _ (Nat.le_refl _)) reading (by omega) bit
    obtain ⟨next, later, done⟩ := ih bit (place + 1) (fun i above => times i (by omega)) reached
      (by rw [List.length_append, List.length_singleton]; omega)
      (fun count above => plain count (by rw [List.length_append] at above; omega))
    have sum : u32 (spec.timings.bit1Mark + spec.timings.bit1Mark) = 2 * spec.timings.bit1Mark := by
      rw [u32_of_range (by omega) (by omega)]
      omega
    rw [joinedHalves, times place (Nat.le_refl _), times (place + 1) (by omega), sum]
    rw [List.append_assoc] at done
    exact ⟨next, first.append later, done⟩

end Halves

theorem rc5_decoded : ManchesterDecoded infraredProtocolRc5 := by
  constructor <;> decide

theorem rc5_plain {count : Nat} (behind : count ≠ 0) : PlainAt infraredProtocolRc5 count :=
  ⟨fun _ => behind, fun _ _ _ _ => rfl⟩

/-- The first sample of a payload is the second half of a bit of which nothing was seen. -/
theorem decodeManchester_start (table : InfraredProtocolTable) (fromSpace : table.manchesterStartFromSpace = true)
    (decoder : InfraredCommonDecoder) (count : decoder.databitCnt = 0) (level : Bool) (timing : Nat)
    (half : (matchTiming timing table.timings.bit1Mark table.timings.bitTolerance ||
      matchTiming timing (2 * table.timings.bit1Mark) table.timings.bitTolerance) = true) :
    infraredCommonDecodeManchester table decoder level timing =
      infraredCommonDecodeManchester table (withBit decoder false) level timing := by
  have known : ¬ ((!matchTiming timing table.timings.bit1Mark table.timings.bitTolerance &&
      !matchTiming timing (2 * table.timings.bit1Mark) table.timings.bitTolerance) = true) := by
    rw [← Bool.not_or, half]
    decide
  have started : (withBit decoder false).databitCnt ≠ 0 := Nat.succ_ne_zero _
  unfold infraredCommonDecodeManchester
  rw [if_neg known, if_neg known, if_pos (⟨fromSpace, count⟩ : _ ∧ _), ← withBit]
  rw [if_neg fun (start : _ ∧ _) => started start.2]

/-- From the silence to the first half of the second bit. -/
theorem rc5_listen_start {decoder : InfraredCommonDecoder} (receiving : Receiving decoder [] false) (bit : Bool) :
    ∃ next, Listens infraredProtocolRc5 decoder
        (if false = bit then [(true, infraredProtocolRc5.timings.bit1Mark), (bit, infraredProtocolRc5.timings.bit1Mark)]
          else [(bit, 2 * infraredProtocolRc5.timings.bit1Mark)]) next ∧
      Reading next [false, bit] bit true := by
  have decoded := rc5_decoded
  have seen (timing : Nat) : Held (withBit (taking decoder true timing) false).data [false] :=
    withBit_held (taking decoder true timing) [] (held_nil _) receiving.databitCnt (by decide) false
  have count (timing : Nat) : (withBit (taking decoder true timing) false).databitCnt = 1 :=
    congrArg (· + 1) receiving.databitCnt
  have begins (timing : Nat) (half : (matchTiming timing 888 120 || matchTiming timing (2 * 888) 120) = true) :=
    decodeManchester_start infraredProtocolRc5.toInfraredProtocolTable rfl (taking decoder true timing)
      receiving.databitCnt true timing half
  cases bit with
  | false =>
    have decodes : infraredProtocolRc5.decode infraredProtocolRc5.toInfraredProtocolTable
        (taking decoder true infraredProtocolRc5.timings.bit1Mark) true infraredProtocolRc5.timings.bit1Mark =
        (.ok, { withBit (taking decoder true infraredProtocolRc5.timings.bit1Mark) false with switchDetect := false }) :=
      (begins _ (by decide)).trans (decodeManchester_second _ true decoded.single (fun _ => Nat.succ_ne_zero _) rfl)
    have second := listen_timing receiving decoded.splits (by simp) decodes
      (by simp only [count]; decide) ⟨rfl, rfl⟩
    have half : Reading { withBit (taking decoder true infraredProtocolRc5.timings.bit1Mark) false with
        switchDetect := false, timings := [] } [false] true false :=
      ⟨⟨receiving.state, rfl, rfl, count _, seen _⟩, rfl⟩
    have behind : [false].length ≠ 0 := Nat.one_ne_zero
    obtain ⟨next, first, reached⟩ := listen_first false decoded (rc5_plain behind) half (by decide)
    exact ⟨next, second.append first, reached⟩
  | true =>
    have decodes : infraredProtocolRc5.decode infraredProtocolRc5.toInfraredProtocolTable
        (taking decoder true (2 * infraredProtocolRc5.timings.bit1Mark)) true
        (2 * infraredProtocolRc5.timings.bit1Mark) =
        (.ok, withBit (withBit (taking decoder true (2 * infraredProtocolRc5.timings.bit1Mark)) false) true) :=
      (begins _ (by decide)).trans (decodeManchester_both _ true decoded.double decoded.notSingle
        (fun _ => Nat.succ_ne_zero _) rfl (by rw [count]; decide))
    have twice : (withBit (withBit (taking decoder true (2 * infraredProtocolRc5.timings.bit1Mark)) false)
        true).databitCnt = 2 := congrArg (· + 1) (count _)
    have both := listen_timing receiving decoded.splits (by simp) decodes (by rw [twice]; decide) ⟨rfl, rfl⟩
    refine ⟨_, both, ⟨receiving.state, rfl, rfl, twice, ?_⟩, rfl⟩
    exact withBit_held _ [false] (seen _) (count _) (by decide) true

theorem rc6_decoded : ManchesterDecoded infraredProtocolRc6 := by
  constructor <;> decide

theorem rc6_plain {count : Nat} (early : count ≠ 4) (late : count ≠ 5) : PlainAt infraredProtocolRc6 count := by
  refine ⟨fun start => Bool.noConfusion start, fun decoder level timing counted => ?_⟩
  simp only [infraredProtocolRc6, infraredDecoderRc6DecodeManchester, counted, early, late, if_false]

theorem rc6_listen_preamble {decoder : InfraredCommonDecoder} (waiting : Waiting decoder [] false) :
    ∃ next, Listens infraredProtocolRc6 decoder
        [(true, infraredProtocolRc6.timings.preambleMark), (false, infraredProtocolRc6.timings.preambleSpace)] next ∧
      Reading next [] false false := by
  obtain ⟨state, timings, level, -⟩ := waiting
  have markCheck : infraredCheckPreamble infraredProtocolRc6 (taking decoder true 2666) =
      (false, taking decoder true 2666) := by
    simp [infraredCheckPreamble, taking, infraredProtocolRc6, findPreamble]
  have mark : Hears infraredProtocolRc6 decoder [(true, 2666)] [] (taking decoder true 2666) :=
    Hears.silent (if_neg (by rw [level]; decide)) (by rw [timings]; decide) (by rw [timings]; rfl)
      (decodeLoop_waiting (taking decoder true 2666) false state markCheck)
  let spaced : InfraredCommonDecoder := { taking decoder true 2666 with level := false, timings := [2666, 889] }
  have spaceCheck : infraredCheckPreamble infraredProtocolRc6 spaced = (true, { spaced with timings := [] }) := by
    have oldest : oldestLevel spaced 2 = true := by
      rw [oldestLevel_succ, oldestLevel_one]
      rfl
    simp [infraredCheckPreamble, spaced, oldest, infraredProtocolRc6, findPreamble, matchTiming]
  have loop : decodeLoop infraredProtocolRc6 decodeFuel spaced false = .ok (false,
      { spaced with timings := [], state := .decode, databitCnt := 0, switchDetect := false }) := by
    rw [decodeFuel, decodeLoop, show spaced.state = .waitPreamble from state]
    simp only [spaceCheck, if_true, decodeLoop, infraredCommonDecodeBits, decodePending]
  have space : Hears infraredProtocolRc6 (taking decoder true 2666) [(false, 889)] []
      { spaced with timings := [], state := .decode, databitCnt := 0, switchDetect := false } :=
    Hears.silent (if_neg (by simp [taking])) (by simp [taking, timingsSize]) rfl loop
  exact ⟨_, ⟨mark.append space, rfl, rfl⟩, ⟨rfl, rfl, rfl, rfl, held_nil _⟩, rfl⟩

theorem setByte_byteAt (data : BitVec 64) : setByte data 0 (byteAt data 0) = data := by
  refine BitVec.eq_of_getLsbD_eq fun i inside => ?_
  rw [getLsbD_setByte _ _ inside]
  split
  · rw [getLsbD_byteAt _ _ (by omega)]
    congr 1
    omega
  · rfl

/-- The first half of the toggle bit, with the second half of the bit before it if the
toggle bit is set. -/
theorem rc6_listen_toggle {decoder : InfraredCommonDecoder} {bits : List Bool}
    (receiving : Receiving decoder bits false) (length : bits.length = 4) (toggle : Bool) :
    ∃ next, Listens infraredProtocolRc6 decoder [(true, if toggle then 1332 else 444)] next ∧
      Receiving next (bits ++ [toggle]) true := by
  generalize time : (if toggle then 1332 else 444) = timing
  have counted : decoder.databitCnt = 4 := receiving.databitCnt.trans length
  have written : setByte decoder.data 0 (byteAt decoder.data 0 ||| ((BitVec.ofBool toggle).setWidth 8 <<< 4)) =
      (accumulateLsb decoder toggle).data := by
    cases toggle
    · simp [accumulateLsb, counted, setByte_byteAt]
    · simp [accumulateLsb, counted]
  have decodes : infraredProtocolRc6.decode infraredProtocolRc6.toInfraredProtocolTable
      (taking decoder true timing) true timing =
      (.ok, { taking decoder true timing with databitCnt := 5, data := (accumulateLsb decoder toggle).data }) := by
    rw [← written, ← time]
    cases toggle <;> simp [infraredProtocolRc6, infraredDecoderRc6DecodeManchester, taking, counted, matchTiming]
  have held := held_accumulateLsb receiving.held receiving.databitCnt (by omega) toggle
  refine ⟨_, listen_timing receiving rc6_decoded.splits (by simp) decodes (Nat.le_of_ble_eq_true rfl) ⟨rfl, rfl⟩,
    receiving.state, rfl, rfl, ?_, held⟩
  rw [List.length_append, length]
  rfl

/-- A half of the toggle bit on its own. -/
theorem rc6_listen_wait {decoder : InfraredCommonDecoder} {bits : List Bool} (level : Bool)
    (receiving : Receiving decoder bits (!level)) (length : bits.length = 5) :
    ∃ next, Listens infraredProtocolRc6 decoder [(level, 888)] next ∧ Receiving next bits level := by
  have counted : decoder.databitCnt = 5 := receiving.databitCnt.trans length
  have decodes : infraredProtocolRc6.decode infraredProtocolRc6.toInfraredProtocolTable
      (taking decoder level 888) level 888 = (.ok, taking decoder level 888) := by
    simp [infraredProtocolRc6, infraredDecoderRc6DecodeManchester, taking, counted, matchTiming]
  exact ⟨_, listen_timing receiving rc6_decoded.splits (fun _ => ⟨by decide, by rw [length]; decide⟩) decodes
    (by simp only [taking, counted]; decide) ⟨rfl, rfl⟩,
    receiving.state, rfl, rfl, receiving.databitCnt, receiving.held⟩

/-- The first half of the bit behind the toggle bit, alone or with the half before it. -/
theorem rc6_listen_leave {decoder : InfraredCommonDecoder} {bits : List Bool} (level : Bool)
    (receiving : Receiving decoder bits (!level)) (length : bits.length = 5) {timing : Nat}
    (known : timing = 444 ∨ timing = 1332) :
    ∃ next, Listens infraredProtocolRc6 decoder [(level, timing)] next ∧ Reading next (bits ++ [level]) level true := by
  have counted : decoder.databitCnt = 5 := receiving.databitCnt.trans length
  have begins : infraredProtocolRc6.decode infraredProtocolRc6.toInfraredProtocolTable
      (taking decoder level timing) level timing =
      infraredCommonDecodeManchester infraredProtocolRc6.toInfraredProtocolTable
        { taking decoder level timing with switchDetect := false } level 444 := by
    obtain rfl | rfl := known <;>
      simp [infraredProtocolRc6, infraredDecoderRc6DecodeManchester, taking, counted, matchTiming]
  have decodes : infraredProtocolRc6.decode infraredProtocolRc6.toInfraredProtocolTable
      (taking decoder level timing) level timing = (.ok, withBit (taking decoder level timing) level) :=
    begins.trans (decodeManchester_first _ level rc6_decoded.single rc6_decoded.notDouble
      (fun start => Bool.noConfusion start) rfl (by simp only [taking, counted]; decide))
  exact listen_bit level rc6_decoded (⟨receiving, rfl⟩ : Reading decoder bits (!level) decoder.switchDetect) (by rw [length]; decide)
    (by obtain rfl | rfl := known <;> decide) decodes

theorem rc6_listen_around {decoder : InfraredCommonDecoder} {bits : List Bool}
    (receiving : Receiving decoder bits false) (length : bits.length = 4) (toggle bit : Bool) :
    ∃ next, Listens infraredProtocolRc6 decoder
        ((if false = toggle then [(true, 444), (toggle, 888)] else [(toggle, 1332)]) ++
          (if toggle = bit then [(!toggle, 888), (bit, 444)] else [(bit, 1332)])) next ∧
      Reading next (bits ++ [toggle, bit]) bit true := by
  have five : (bits ++ [toggle]).length = 5 := by rw [List.length_append, length]; rfl
  obtain ⟨first, started, receiving⟩ := rc6_listen_toggle receiving length toggle
  cases toggle with
  | false =>
    obtain ⟨second, half, receiving⟩ := rc6_listen_wait false receiving five
    cases bit with
    | false =>
      obtain ⟨third, other, receiving⟩ := rc6_listen_wait true receiving five
      obtain ⟨next, left, reading⟩ := rc6_listen_leave false receiving five (.inl rfl)
      exact ⟨next, started.append (half.append (other.append left)), by simpa using reading⟩
    | true =>
      obtain ⟨next, left, reading⟩ := rc6_listen_leave true receiving five (.inr rfl)
      exact ⟨next, started.append (half.append left), by simpa using reading⟩
  | true =>
    cases bit with
    | true =>
      obtain ⟨second, half, receiving⟩ := rc6_listen_wait false receiving five
      obtain ⟨next, left, reading⟩ := rc6_listen_leave true receiving five (.inl rfl)
      exact ⟨next, started.append (half.append left), by simpa using reading⟩
    | false =>
      obtain ⟨next, left, reading⟩ := rc6_listen_leave false receiving five (.inr rfl)
      exact ⟨next, started.append left, by simpa using reading⟩

/-- A decoder after silence: without a preamble it takes what comes for a payload. -/
def Idle (spec : InfraredCommonProtocolSpec) (decoder : InfraredCommonDecoder) : Prop :=
  if spec.timings.preambleMark = 0 then Receiving decoder [] false else Waiting decoder [] false

theorem decodeLoop_silence (spec : InfraredCommonProtocolSpec) (decoder : InfraredCommonDecoder) {duration : Nat} (fuel : Nat) (found : Bool)
    (state : decoder.state = .waitPreamble) (timings : decoder.timings = [duration]) (level : decoder.level = false)
    (count : decoder.databitCnt = 0) :
    ∃ next, decodeLoop spec (fuel + 2) decoder found = .ok (found, next) ∧ Idle spec next ∧
      next.message = decoder.message ∧ next.toggle = decoder.toggle := by
  have check : infraredCheckPreamble spec decoder =
      (decide (spec.timings.preambleMark = 0), { decoder with timings := [] }) := by
    by_cases none : spec.timings.preambleMark = 0 <;>
      simp [infraredCheckPreamble, timings, level, none, findPreamble]
  rw [decodeLoop, state]
  by_cases none : spec.timings.preambleMark = 0
  · refine ⟨{ decoder with timings := [], state := .decode, databitCnt := 0, switchDetect := false }, ?_, ?_, rfl, rfl⟩
    · simp only [check, none, decide_true, if_true, decodeLoop, infraredCommonDecodeBits, decodePending]
    · rw [Idle, if_pos none]
      exact ⟨rfl, rfl, level, rfl, held_nil _⟩
  · refine ⟨{ decoder with timings := [] }, ?_, ?_, rfl, rfl⟩
    · simp only [check, none, decide_false, Bool.false_eq_true, if_false]
    · rw [Idle, if_neg none]
      exact ⟨state, rfl, level, count⟩

theorem listen_first_silence (decoder : InfraredCommonDecoder) (duration : Nat) :
    ∃ next, Listens spec (infraredCommonDecoderReset spec decoder) [(false, duration)] next ∧ Idle spec next := by
  generalize starts : (if (infraredCommonDecoderReset spec decoder).level = false then
    infraredCommonDecoderReset spec (infraredCommonDecoderReset spec decoder)
    else infraredCommonDecoderReset spec decoder) = start
  have fresh : start.state = .waitPreamble ∧ start.timings = [] ∧ start.databitCnt = 0 ∧
      start.message = (infraredCommonDecoderReset spec decoder).message ∧
      start.toggle = (infraredCommonDecoderReset spec decoder).toggle := by
    rw [← starts]
    split <;> exact ⟨rfl, rfl, rfl, rfl, rfl⟩
  obtain ⟨next, loop, idle, message, toggle⟩ := decodeLoop_silence spec
    (taking start false duration) 22 false fresh.1 rfl rfl fresh.2.2.1
  have heard := Hears.silent starts (by rw [fresh.2.1]; decide) (by rw [fresh.2.1]; rfl) loop
  exact ⟨next, ⟨heard, message.trans fresh.2.2.2.1, toggle.trans fresh.2.2.2.2⟩, idle⟩

theorem hear_silence {decoder next : InfraredCommonDecoder} {payload : List Bool} {duration : Nat}
    (receiving : Receiving decoder payload true) (splits : spec.timings.minSplitTime ≠ 0)
    (long : spec.timings.minSplitTime < duration)
    (full : foundLength spec.toInfraredProtocolTable payload.length = true) (once : spec.decodeRepeat = none)
    (interpreted : spec.interpret spec.toInfraredProtocolTable (taking decoder false duration) = (true, next))
    (kept : next.timings = [duration] ∧ next.level = false) :
    ∃ final, Hears spec decoder [(false, duration)] [next.message] final ∧ Idle spec final ∧
      final.message = next.message ∧ final.toggle = next.toggle := by
  obtain ⟨state, timings, level, count, -⟩ := receiving
  have found : foundLength spec.toInfraredProtocolTable (taking decoder false duration).databitCnt = true :=
    count ▸ full
  have bits : infraredCommonDecodeBits spec (taking decoder false duration) =
      .ok (.ready, taking decoder false duration) := by
    rw [infraredCommonDecodeBits, show (taking decoder false duration).timings = [duration] from rfl, decodePending]
    rw [if_pos]
    · rfl
    · exact ⟨⟨splits, by simp [taking]⟩, long, found⟩
  have ready := checkReady_of_interpret found interpreted
  simp only [once] at ready
  obtain ⟨final, loop, idle, message, toggle⟩ := decodeLoop_silence spec
    { next with databitCnt := 0, state := .waitPreamble } 21 true rfl kept.1 kept.2 rfl
  have whole : decodeLoop spec decodeFuel (taking decoder false duration) false = .ok (true, final) := by
    rw [decodeFuel, decodeLoop, show (taking decoder false duration).state = .decode from state]
    simp only [bits, ready]
    exact loop
  have alternates : decoder.level ≠ false := by rw [level]; decide
  have heard := Hears.reporting (if_neg alternates) (by rw [timings]; decide) (by rw [timings]; rfl) whole
  rw [message] at heard
  exact ⟨final, heard, idle, message, toggle⟩

/-- A received frame is a silence and a body that an idle decoder takes for the payload. -/
def FrameReceived (spec : InfraredCommonProtocolSpec) (samples : List Sample) (payload : List Bool) : Prop :=
  ∃ silence body, samples = (false, silence) :: body ∧ spec.timings.minSplitTime < silence ∧
    ∀ decoder, Idle spec decoder → ∃ next, Listens spec decoder body next ∧ Receiving next payload true

theorem rc5_frame_received {bit : Bool} {rest : List Bool} (length : rest.length = 12) :
    FrameReceived infraredProtocolRc5
      (mergeLevels (manchesterFrame infraredProtocolRc5.timings rc5HalfTime (false :: bit :: rest)))
      (false :: bit :: rest) := by
  have merged : mergeLevels (manchesterFrame infraredProtocolRc5.timings rc5HalfTime (false :: bit :: rest)) =
      (false, 27888) :: joinedHalves rc5HalfTime 0 false (bit :: rest) := by
    have halves := mergeLevels_afterFirst rc5HalfTime 0 false (bit :: rest) 888
    exact (mergeLevels_cons (false, 27000) halves).trans (if_pos rfl)
  refine ⟨27888, _, merged, by decide, fun decoder idle => ?_⟩
  have receiving : Receiving decoder [] false := idle
  obtain ⟨middle, start, reading⟩ := rc5_listen_start receiving bit
  obtain ⟨next, later, done⟩ := listen_halves bit rc5_decoded 1 rest
    (fun _ _ => (rfl : rc5HalfTime _ = 888)) (by decide) reading (by rw [length]; rfl)
    (fun count above => rc5_plain (by rw [List.length_cons] at above; omega))
  exact ⟨next, start.append later, done⟩

theorem rc6_joinedHalves (toggle bit : Bool) (rest : List Bool) :
    joinedHalves rc6HalfTime 0 true (false :: false :: false :: toggle :: bit :: rest) =
      [(false, 888)] ++ [(true, 444), (false, 444)] ++ [(true, 444), (false, 444)] ++
        ((if false = toggle then [(true, 444), (toggle, 888)] else [(toggle, 1332)]) ++
          (if toggle = bit then [(!toggle, 888), (bit, 444)] else [(bit, 1332)])) ++
        joinedHalves rc6HalfTime 5 bit rest := by
  simp only [List.append_assoc]
  rfl

theorem rc6_frame_received {toggle bit : Bool} {rest : List Bool} (length : rest.length = 15) :
    FrameReceived infraredProtocolRc6 (mergeLevels (manchesterFrame infraredProtocolRc6.timings rc6HalfTime
        (true :: false :: false :: false :: toggle :: bit :: rest)))
      (true :: false :: false :: false :: toggle :: bit :: rest) := by
  have merged : mergeLevels (manchesterFrame infraredProtocolRc6.timings rc6HalfTime
      (true :: false :: false :: false :: toggle :: bit :: rest)) =
      (false, 27000) :: ([(true, 2666), (false, 889)] ++ [(true, 444)] ++
        joinedHalves rc6HalfTime 0 true (false :: false :: false :: toggle :: bit :: rest)) := by
    have halves := mergeLevels_afterFirst rc6HalfTime 0 true (false :: false :: false :: toggle :: bit :: rest) 444
    have space := (mergeLevels_cons (false, 889) halves).trans (if_neg (by decide))
    have mark := (mergeLevels_cons (true, 2666) space).trans (if_neg (by decide))
    exact (mergeLevels_cons (false, 27000) mark).trans (if_neg (by decide))
  refine ⟨27000, _, merged, by decide, fun decoder idle => ?_⟩
  have decoded := rc6_decoded
  have waiting : Waiting decoder [] false := idle
  obtain ⟨_, preamble, reading⟩ := rc6_listen_preamble waiting
  obtain ⟨_, start, reading⟩ := listen_first true decoded (rc6_plain (by decide) (by decide)) reading (by decide)
  obtain ⟨_, mode2, reading⟩ := listen_next true decoded (rc6_plain (by decide) (by decide)) reading (by decide) false
  obtain ⟨_, mode1, reading⟩ := listen_next false decoded (rc6_plain (by decide) (by decide)) reading (by decide) false
  obtain ⟨_, mode0, reading⟩ := listen_next false decoded (rc6_plain (by decide) (by decide)) reading (by decide) false
  obtain ⟨_, around, reading⟩ := rc6_listen_around reading.toReceiving rfl toggle bit
  obtain ⟨next, later, done⟩ := listen_halves bit decoded 5 rest
    (fun i above => (if_neg (by omega) : rc6HalfTime i = 444)) (by decide) reading
    (by simp only [length]; rfl)
    (fun count above => rc6_plain (by simp only [List.length_append, List.length_cons] at above; omega)
      (by simp only [List.length_append, List.length_cons] at above; omega))
  rw [rc6_joinedHalves]
  have whole := (preamble.append start).append ((((mode2.append mode1).append mode0).append around).append later)
  exact ⟨next, whole, done⟩

end Xtreme.Infrared
