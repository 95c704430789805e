import Mathlib.Data.List.Basic
import Xtreme.IButton.Metakom

/-! What a reader makes of a key that sends without end. A high level and the low one behind
it are a pulse; the last pulse of a frame has the sync bit in its low level. Ten pulses give
a period that lies between the levels of a bit and a sync bit, whichever ten they are, and
then the reader goes from one sync bit to the next. -/
namespace Xtreme.IButton
open Xtreme.Library ShiftRegister

def highOf (bit : Bool) : Nat := if bit then metakom1Low else metakom0Low
def lowOf (bit : Bool) : Nat := if bit then metakom1Hi else metakom0Hi

def bitLevels (bit : Bool) : List LevelDuration := [(true, highOf bit), (false, lowOf bit)]

def byteBits (data : BitVec 32) (byte : Nat) : List Bool :=
  (List.range 8).map fun place => data.getMsbD (8 * byte + place)

def keyBits (data : BitVec 32) : List Bool := byteBits data 0 ++ byteBits data 1 ++ byteBits data 2 ++ byteBits data 3

/-- The start word and the key. -/
def frameBits (data : BitVec 32) : List Bool := false :: true :: false :: keyBits data

def frameLevels (data : BitVec 32) : List LevelDuration :=
  (false, metakomPeriod) :: (frameBits data).flatMap bitLevels

@[simp] theorem length_frameBits (data : BitVec 32) : (frameBits data).length = 35 := rfl

@[simp] theorem length_frameLevels (data : BitVec 32) : (frameLevels data).length = 71 := rfl

/-- A card that goes on at some place of its frame. -/
def cardAt (card : ProtocolMetakom) (index : Nat) : ProtocolMetakom := { card with encoderIndex := index }

variable (data : BitVec 32)

theorem keyBits_eq : keyBits data = (List.range 32).map data.getMsbD := rfl

variable (card : ProtocolMetakom)

theorem yield_key (index : Nat) : protocolMetakomEncoderYield (cardAt card (index + 7)) =
      (if index % 2 = 0 then (true, highOf (card.data.getLsbD (31 - index / 2)))
        else (false, lowOf (card.data.getLsbD (31 - index / 2))),
        cardAt card (if index + 8 ≥ 71 then 0 else index + 8)) := rfl

theorem sendLevels_bit {place : Nat} (inside : place < 32) (count : Nat) :
    sendLevels (count + 2) (cardAt card (2 * place + 7)) = bitLevels (card.data.getMsbD place) ++
        sendLevels count (cardAt card (if place = 31 then 0 else 2 * (place + 1) + 7)) := by
  have bit : card.data.getMsbD place = card.data.getLsbD (31 - place) := by
    rw [BitVec.getMsbD_eq_getLsbD, decide_eq_true inside, Bool.true_and]
  have half : (2 * place + 1) / 2 = place := by omega
  have high : protocolMetakomEncoderYield (cardAt card (2 * place + 7)) =
      ((true, highOf (card.data.getMsbD place)), cardAt card (2 * place + 1 + 7)) := by
    rw [yield_key, if_pos (Nat.mul_mod_right 2 place), if_neg (by omega), Nat.mul_div_cancel_left _ (by decide), bit]
  have low : protocolMetakomEncoderYield (cardAt card (2 * place + 1 + 7)) =
      ((false, lowOf (card.data.getMsbD place)), cardAt card (if place = 31 then 0 else 2 * (place + 1) + 7)) := by
    rw [yield_key, if_neg (by omega), half, bit]
    by_cases last : place = 31
    · rw [if_pos last, if_pos (by omega)]
    · rw [if_neg last, if_neg (by omega)]
      rfl
  rw [sendLevels, high]
  dsimp only
  rw [sendLevels, low]
  rfl

theorem sendLevels_bits (left count : Nat) {place : Nat} (inside : place + (left + 1) = 32) :
    sendLevels (count + 2 * (left + 1)) (cardAt card (2 * place + 7)) =
      ((List.range' place (left + 1)).map card.data.getMsbD).flatMap bitLevels ++ sendLevels count (cardAt card 0) := by
  induction left generalizing place with
  | zero =>
    obtain rfl : place = 31 := by omega
    exact sendLevels_bit card (by decide) count
  | succ left next =>
    have counts : count + 2 * (left + 1 + 1) = count + 2 * (left + 1) + 2 := by omega
    have bits : List.range' place (left + 1 + 1) = place :: List.range' (place + 1) (left + 1) := rfl
    rw [counts, sendLevels_bit card (by omega), if_neg (by omega), next (by omega), bits, List.map_cons,
      List.flatMap_cons, List.append_assoc]

theorem sendLevels_frame (count : Nat) : sendLevels (count + 71) (protocolMetakomEncoderStart card) =
      frameLevels card.data ++ sendLevels count (protocolMetakomEncoderStart card) := by
  have counts : count + 71 = count + 2 * (31 + 1) + 7 := by omega
  have step (level : LevelDuration) (index left : Nat)
      (sent : protocolMetakomEncoderYield (cardAt card index) = (level, cardAt card (index + 1))) :
      sendLevels (left + 1) (cardAt card index) = level :: sendLevels left (cardAt card (index + 1)) := by
    rw [sendLevels, sent]
  have word (left : Nat) : sendLevels (left + 7) (cardAt card 0) = (false, metakomPeriod) ::
        ([false, true, false].flatMap bitLevels ++ sendLevels left (cardAt card (2 * 0 + 7))) := by
    rw [step (false, metakomPeriod) 0 _ rfl, step (true, metakom0Low) 1 _ rfl, step (false, metakom0Hi) 2 _ rfl,
      step (true, metakom1Low) 3 _ rfl]
    rfl
  have start : protocolMetakomEncoderStart card = cardAt card 0 := rfl
  rw [start, word, sendLevels_bits card 31 count rfl, frameLevels]
  rfl

theorem sendLevels_offset (frames place count : Nat) :
    (sendLevels (71 * frames + place + count) (protocolMetakomEncoderStart card)).drop (71 * frames + place) =
      (sendLevels (place + count) (protocolMetakomEncoderStart card)).drop place := by
  induction frames with
  | zero => rw [Nat.zero_add]
  | succ frames next =>
    have counts : 71 * (frames + 1) + place + count = 71 * frames + place + count + 71 := by omega
    have places : 71 * (frames + 1) + place = 71 + (71 * frames + place) := by omega
    rw [counts, places, sendLevels_frame, ← length_frameLevels card.data, List.drop_append, Nat.add_sub_cancel_left,
      List.drop_eq_nil_of_le (Nat.le_add_right _ _), List.nil_append, length_frameLevels, next]

/-- A high level and the low one behind it. -/
def pulseLevels (pulse : Nat × Nat) : List LevelDuration := [(true, pulse.1), (false, pulse.2)]

def bitPulse (bit : Bool) : Nat × Nat := (highOf bit, lowOf bit)

def framePulses : List Bool → List (Nat × Nat)
  | [] => []
  | [bit] => [(highOf bit, lowOf bit + metakomPeriod)]
  | bit :: next :: bits => bitPulse bit :: framePulses (next :: bits)

/-- What is heard of a frame from its first bit on, and of what follows it. -/
def begunLevels (bit : Bool) (bits : List Bool) (signal : List LevelDuration) : List LevelDuration :=
  (true, highOf bit) :: endedLevels (false, lowOf bit) (bits.flatMap bitLevels ++ signal)

theorem begunLevels_cons (bit next : Bool) (bits : List Bool) (signal : List LevelDuration) :
    begunLevels bit (next :: bits) signal = pulseLevels (bitPulse bit) ++ begunLevels next bits signal := by
  simp [begunLevels, bitLevels, endedLevels, pulseLevels, bitPulse]

theorem begunLevels_frame (bit : Bool) (bits : List Bool) (signal : List LevelDuration) :
    begunLevels bit bits (frameLevels data ++ signal) =
      (framePulses (bit :: bits)).flatMap pulseLevels ++ begunLevels false (true :: false :: keyBits data) signal := by
  induction bits generalizing bit with
  | nil =>
    simp [begunLevels, frameLevels, frameBits, bitLevels, endedLevels, framePulses, pulseLevels]
  | cons next bits onward =>
    rw [begunLevels_cons, onward next, framePulses, List.flatMap_cons, List.append_assoc]

theorem framePulses_append (first : List Bool) {second : List Bool} (more : second ≠ []) :
    framePulses (first ++ second) = first.map bitPulse ++ framePulses second := by
  induction first with
  | nil => rfl
  | cons bit first next =>
    obtain ⟨other, others, rest⟩ := List.exists_cons_of_ne_nil (List.append_ne_nil_of_right_ne_nil first more)
    rw [List.cons_append, rest, framePulses, ← rest, next]
    rfl

@[simp] theorem length_framePulses (bits : List Bool) : (framePulses bits).length = bits.length := by
  induction bits with
  | nil => rfl
  | cons bit bits next =>
    cases bits with
    | nil => rfl
    | cons other bits =>
      rw [framePulses, List.length_cons, next]
      rfl

/-- A reader between pulses, in some state of its own, with what it has stored of a high level. -/
structure Listening where
  data : BitVec 32
  periodTime : Nat
  samples : List Nat
  sampleIndex : Nat
  tmpData : BitVec 8
  tmpCounter : Nat
  keyDataIndex : Nat
  state : MetakomState

def Listening.reader (listening : Listening) (proto : ProtocolMetakom) (stored : Nat) : ProtocolMetakom :=
  { proto with
    data := listening.data
    decoder :=
      { periodTime := listening.periodTime, lowTimeStorage := stored, periodSampleIndex := listening.sampleIndex,
        periodSampleData := listening.samples, tmpData := listening.tmpData, tmpCounter := listening.tmpCounter,
        keyDataIndex := listening.keyDataIndex, bitState := .waitFrontHigh, state := listening.state } }

/-- Pulses that lead a reader on without a report. -/
def Leads (first second : Listening) (pulses : List (Nat × Nat)) : Prop :=
  ∀ proto stored rest, ∃ stored', firstReport (first.reader proto stored) (pulses.flatMap pulseLevels ++ rest) =
    firstReport (second.reader proto stored') rest

section Leads
variable {first second third : Listening} {pulses pulses' : List (Nat × Nat)}

theorem Leads.refl (listening : Listening) : Leads listening listening [] := fun _ stored _ => ⟨stored, rfl⟩

theorem Leads.trans (leads : Leads first second pulses) (leads' : Leads second third pulses') :
    Leads first third (pulses ++ pulses') := by
  intro proto stored rest
  obtain ⟨stored', reaches⟩ := leads proto stored (pulses'.flatMap pulseLevels ++ rest)
  obtain ⟨stored'', reaches'⟩ := leads' proto stored' rest
  refine ⟨stored'', ?_⟩
  rw [List.flatMap_append, List.append_assoc, reaches, reaches']

theorem firstReport_pulse (listening : Listening) (proto : ProtocolMetakom) (stored high low : Nat)
    (rest : List LevelDuration) :
    firstReport (listening.reader proto stored) (pulseLevels (high, low) ++ rest) =
      if (processTimes (listening.reader proto high) low high).1 then
        some (processTimes (listening.reader proto high) low high).2.data
      else firstReport (processTimes (listening.reader proto high) low high).2 rest := rfl

theorem Leads.pulse {high low : Nat}
    (step : ∀ proto, processTimes (first.reader proto high) low high = (false, second.reader proto high)) :
    Leads first second [(high, low)] := by
  intro proto stored rest
  refine ⟨high, ?_⟩
  rw [List.flatMap_cons, List.flatMap_nil, List.append_nil, firstReport_pulse, step]
  rfl

end Leads

/-- With some samples of the period. -/
def syncing (samples : List Nat) : Listening :=
  ⟨0#32, 0, samples ++ List.replicate (metakomPeriodSampleCount - samples.length) 0, samples.length, 0#8, 0, 0,
    .waitPeriodSync⟩

def sampleOf (pulse : Nat × Nat) : Nat := (pulse.2 + pulse.1) % 2 ^ 32

def periodOf (samples : List Nat) : Nat :=
  samples.foldl (fun sum sample => (sum + sample) % 2 ^ 32) 0 / metakomPeriodSampleCount

/-- Looking for a sync bit. -/
def starting (samples : List Nat) (counter : Nat) : Listening :=
  ⟨0#32, periodOf samples, samples, metakomPeriodSampleCount, 0#8, counter, 0, .waitStartBit⟩

theorem set_sample {samples : List Nat} (room : samples.length < metakomPeriodSampleCount) (sample : Nat) :
    (samples ++ List.replicate (metakomPeriodSampleCount - samples.length) 0).set samples.length sample =
      (samples ++ [sample]) ++ List.replicate (metakomPeriodSampleCount - (samples ++ [sample]).length) 0 := by
  have left : metakomPeriodSampleCount - samples.length = metakomPeriodSampleCount - (samples.length + 1) + 1 := by
    omega
  rw [List.set_append_right _ _ (Nat.le_refl _), Nat.sub_self, left, List.length_append, List.append_assoc]
  rfl

theorem syncing_pulse {samples : List Nat} (pulse : Nat × Nat) (room : samples.length + 1 < metakomPeriodSampleCount) :
    Leads (syncing samples) (syncing (samples ++ [sampleOf pulse])) [pulse] := by
  refine Leads.pulse fun proto => ?_
  have counted : next8 samples.length = (samples ++ [sampleOf pulse]).length := by
    rw [next8, List.length_append, List.length_singleton]
    rw [metakomPeriodSampleCount] at room
    omega
  have more : (samples ++ [sampleOf pulse]).length ≠ metakomPeriodSampleCount := by
    rw [List.length_append, List.length_singleton]
    omega
  simp only [processTimes, Listening.reader, syncing, waitPeriodSync, counted, if_neg more]
  rw [← sampleOf, set_sample (by omega)]

theorem syncing_last {samples : List Nat} (pulse : Nat × Nat) (full : samples.length + 1 = metakomPeriodSampleCount) :
    Leads (syncing samples) (starting (samples ++ [sampleOf pulse]) 0) [pulse] := by
  refine Leads.pulse fun proto => ?_
  have counted : next8 samples.length = metakomPeriodSampleCount := by
    rw [next8, full]
    rfl
  have filled : (samples ++ [sampleOf pulse]).length = metakomPeriodSampleCount := by
    rw [List.length_append, List.length_singleton, full]
  simp only [processTimes, Listening.reader, syncing, waitPeriodSync, counted]
  rw [← sampleOf, set_sample (by omega), filled, Nat.sub_self, List.replicate_zero, List.append_nil]
  rfl

theorem syncing_pulses {samples : List Nat} {pulses : List (Nat × Nat)} (some : pulses ≠ [])
    (full : samples.length + pulses.length = metakomPeriodSampleCount) :
    Leads (syncing samples) (starting (samples ++ pulses.map sampleOf) 0) pulses := by
  induction pulses generalizing samples with
  | nil => exact absurd rfl some
  | cons pulse pulses next =>
    rw [List.length_cons] at full
    cases pulses with
    | nil => exact syncing_last pulse full
    | cons other pulses =>
      have counted : (samples ++ [sampleOf pulse]).length + (other :: pulses).length = metakomPeriodSampleCount := by
        rw [List.length_append, List.length_singleton]
        omega
      have onward := next (List.cons_ne_nil _ _) counted
      rw [List.append_assoc] at onward
      exact (syncing_pulse pulse (by rw [List.length_cons] at full; omega)).trans onward

/-- Between the levels of a bit, doubled below, and those of a sync bit. -/
def Tells (period : Nat) : Prop := 2 * metakom1Hi + 1 < period ∧ period < 2 * metakom0Hi + 2

theorem foldl_sum (samples : List Nat) (sum : Nat) (small : sum < 2 ^ 32) :
    samples.foldl (fun sum sample => (sum + sample) % 2 ^ 32) sum = (sum + samples.sum) % 2 ^ 32 := by
  induction samples generalizing sum with
  | nil => exact (Nat.mod_eq_of_lt small).symm
  | cons sample samples next =>
    rw [List.foldl_cons, next _ (Nat.mod_lt _ (by decide)), List.sum_cons, Nat.mod_add_mod, Nat.add_assoc]

theorem periodOf_tells {samples : List Nat} (least : 9 * 7920 ≤ samples.sum) (most : samples.sum ≤ 9 * 7920 + 30000) :
    Tells (periodOf samples) := by
  have period : periodOf samples = samples.sum / 10 := by
    rw [periodOf, foldl_sum _ _ (by decide), Nat.zero_add, Nat.mod_eq_of_lt (by omega)]
    rfl
  rw [Tells, metakom1Hi, metakom0Hi, metakomPeriod]
  omega

theorem sampleOf_bit (bit : Bool) : sampleOf (bitPulse bit) = 7920 := by
  cases bit <;> rfl

theorem sum_bitPulses (bits : List Bool) : ((bits.map bitPulse).map sampleOf).sum = bits.length * 7920 := by
  induction bits with
  | nil => rfl
  | cons bit bits next =>
    rw [List.map_cons, List.map_cons, List.sum_cons, sampleOf_bit, List.length_cons]
    omega

theorem sum_framePulses (bits : List Bool) : bits.length * 7920 ≤ ((framePulses bits).map sampleOf).sum ∧
      ((framePulses bits).map sampleOf).sum ≤ bits.length * 7920 + 8000 := by
  obtain rfl | ⟨bits, bit, rfl⟩ := List.eq_nil_or_concat' bits
  · exact ⟨Nat.le_refl _, Nat.zero_le _⟩
  have last : ((framePulses [bit]).map sampleOf).sum = 7920 + 8000 := by
    cases bit <;> rfl
  rw [framePulses_append bits (List.cons_ne_nil bit []), List.map_append, List.sum_append, sum_bitPulses, List.length_append, List.length_singleton]
  omega

/-! ### From sync bit to sync bit -/

def reading (samples : List Nat) (state : MetakomState) (data : BitVec 32) (bits : List Bool) (index : Nat) :
    Listening :=
  ⟨data, periodOf samples, samples, metakomPeriodSampleCount, ofBits bits, bits.length, index, state⟩

theorem word_enters (known word : List Bool) (full : word.length = 8) :
    (ofBits known : BitVec 32).shiftLeft 8 ||| (ofBits word : BitVec 8).setWidth 32 = ofBits (known ++ word) := by
  rw [setWidth_ofBits word (Nat.le_of_eq full), ofBits_append, full]
  rfl

section Words
variable {samples : List Nat} (tells : Tells (periodOf samples))
include tells

theorem Tells.low (bit : Bool) : ¬ lowOf bit > periodOf samples := by
  rw [Tells, metakom1Hi, metakomPeriod] at tells
  cases bit
  all_goals
    simp only [lowOf, metakom1Hi, metakom0Hi, metakomPeriod, if_true, Bool.false_eq_true, if_false]
    omega

theorem Tells.sync (bit : Bool) : lowOf bit + metakomPeriod > periodOf samples := by
  rw [Tells, metakom0Hi, metakomPeriod] at tells
  cases bit
  all_goals
    simp only [lowOf, metakom1Hi, metakom0Hi, metakomPeriod, if_true, Bool.false_eq_true, if_false]
    omega

theorem Tells.bit (bit : Bool) : (!decide (highOf bit < periodOf samples / 2)) = bit := by
  rw [Tells, metakom1Hi, metakom0Hi, metakomPeriod] at tells
  cases bit with
  | true =>
    rw [Bool.not_eq_true', decide_eq_false_iff_not, highOf, if_pos rfl, metakom1Low, metakomPeriod]
    omega
  | false =>
    rw [Bool.not_eq_false', decide_eq_true_iff, highOf, if_neg Bool.false_ne_true, metakom0Low, metakomPeriod]
    omega

theorem starting_bit {counter : Nat} (early : counter < 40) (bit : Bool) :
    Leads (starting samples counter) (starting samples (counter + 1)) [bitPulse bit] := by
  refine Leads.pulse fun proto => ?_
  have counted : next8 counter = counter + 1 := Nat.mod_eq_of_lt (by omega)
  simp only [processTimes, Listening.reader, starting, waitStartBit, if_neg (tells.low bit), counted,
    if_neg (show ¬ counter + 1 > 40 by omega)]

theorem starting_sync {counter : Nat} (bit : Bool) :
    Leads (starting samples counter) (reading samples .waitStartWord 0#32 [] 0)
      [(highOf bit, lowOf bit + metakomPeriod)] := by
  refine Leads.pulse fun proto => ?_
  have sync := tells.sync bit
  simp only [processTimes, Listening.reader, starting, waitStartBit, sync]
  rfl

theorem starting_frame {bits : List Bool} (some : bits ≠ []) {counter : Nat} (early : counter + bits.length ≤ 40) :
    Leads (starting samples counter) (reading samples .waitStartWord 0#32 [] 0) (framePulses bits) := by
  induction bits generalizing counter with
  | nil => exact absurd rfl some
  | cons bit bits next =>
    rw [List.length_cons] at early
    cases bits with
    | nil => exact starting_sync tells bit
    | cons other bits =>
      exact (starting_bit tells (by omega) bit).trans (next (List.cons_ne_nil _ _) (by omega))

theorem readBit_reading (proto : ProtocolMetakom) {state : MetakomState} {data : BitVec 32} {bits : List Bool}
    {index : Nat} (short : bits.length < 8) (bit : Bool) :
    readBit ((reading samples state data bits index).reader proto (highOf bit)).decoder (highOf bit) =
      ((reading samples state data (bits ++ [bit]) index).reader proto (highOf bit)).decoder := by
  have counted : next8 bits.length = (bits ++ [bit]).length := by
    rw [next8, List.length_append, List.length_singleton, Nat.mod_eq_of_lt (by omega)]
  show { ((reading samples state data bits index).reader proto (highOf bit)).decoder with
    tmpData := push (ofBits bits) (!decide (highOf bit < periodOf samples / 2))
    tmpCounter := next8 bits.length } = _
  rw [tells.bit bit, push_ofBits, counted]
  rfl

theorem startWord_bit (bits : List Bool) (short : bits.length + 1 < 3) (bit : Bool) :
    Leads (reading samples .waitStartWord 0#32 bits 0) (reading samples .waitStartWord 0#32 (bits ++ [bit]) 0)
      [bitPulse bit] := by
  refine Leads.pulse fun proto => ?_
  have counter : ((reading samples .waitStartWord 0#32 (bits ++ [bit]) 0).reader proto
      (highOf bit)).decoder.tmpCounter = bits.length + 1 := List.length_append
  show (false, waitStartWord _ (highOf bit)) = _
  rw [waitStartWord, readBit_reading tells proto (by omega) bit]
  rw [if_neg (by omega)]
  rfl

theorem startWord_last (bits : List Bool) (bit : Bool) (word : bits ++ [bit] = [false, true, false]) :
    Leads (reading samples .waitStartWord 0#32 bits 0) (reading samples .readWord 0#32 [] 0) [bitPulse bit] := by
  refine Leads.pulse fun proto => ?_
  have short : bits.length < 8 := by
    have length := congrArg List.length word
    rw [List.length_append] at length
    simp only [List.length_cons] at length
    omega
  show (false, waitStartWord _ (highOf bit)) = _
  rw [waitStartWord, readBit_reading tells proto short bit, word]
  rfl

theorem startWord : Leads (reading samples .waitStartWord 0#32 [] 0) (reading samples .readWord 0#32 [] 0)
    ([false, true, false].map bitPulse) :=
  (startWord_bit tells [] (by decide) false).trans
    ((startWord_bit tells [false] (by decide) true).trans (startWord_last tells [false, true] false rfl))

theorem readWord_bit {data : BitVec 32} {bits : List Bool} {index : Nat} (short : bits.length + 1 < 8) (bit : Bool) :
    Leads (reading samples .readWord data bits index) (reading samples .readWord data (bits ++ [bit]) index)
      [bitPulse bit] := by
  refine Leads.pulse fun proto => ?_
  have counter : ((reading samples .readWord data (bits ++ [bit]) index).reader proto (highOf bit)).decoder.tmpCounter =
      bits.length + 1 := List.length_append
  show (false, readWord _ (lowOf bit) (highOf bit)) = _
  rw [readWord, readBit_reading tells proto (by omega) bit]
  rw [if_neg (by omega)]
  rfl

theorem readWord_bits (data : BitVec 32) (bits more : List Bool) (index : Nat) (short : bits.length + more.length < 8) :
    Leads (reading samples .readWord data bits index) (reading samples .readWord data (bits ++ more) index)
      (more.map bitPulse) := by
  induction more generalizing bits with
  | nil =>
    rw [List.append_nil]
    exact Leads.refl _
  | cons bit more next =>
    rw [List.length_cons] at short
    have onward := next (bits ++ [bit]) (by rw [List.length_append, List.length_singleton]; omega)
    rw [List.append_assoc] at onward
    exact (readWord_bit tells (by omega) bit).trans onward

theorem readWord_last (known : List Bool) {bits : List Bool} {bit : Bool} (index low : Nat) (full : bits.length = 7)
    (even : metakomParityCheck (ofBits (bits ++ [bit])) = true) (few : index < 4)
    (last : index = 3 → low > periodOf samples) :
    Leads (reading samples .readWord (ofBits known) bits index)
      (reading samples (if index = 3 then .readStopWord else .readWord) (ofBits (known ++ (bits ++ [bit]))) []
        (index + 1))
      [(highOf bit, low)] := by
  refine Leads.pulse fun proto => ?_
  have eight : (bits ++ [bit]).length = 8 := by rw [List.length_append, full]; rfl
  have counter : ((reading samples .readWord (ofBits known) (bits ++ [bit]) index).reader proto
      (highOf bit)).decoder.tmpCounter = 8 := eight
  have tmpData : ((reading samples .readWord (ofBits known) (bits ++ [bit]) index).reader proto
      (highOf bit)).decoder.tmpData = ofBits (bits ++ [bit]) := rfl
  have words : next8 index = index + 1 := Nat.mod_eq_of_lt (by omega)
  have word := word_enters known (bits ++ [bit]) eight
  show (false, readWord _ low (highOf bit)) = _
  rw [readWord, readBit_reading tells proto (by omega) bit]
  dsimp only
  rw [counter, tmpData, if_pos even]
  by_cases third : index = 3
  · subst third
    have sync := last rfl
    rw [if_pos (show low > ((reading samples .readWord (ofBits known)
        (bits ++ [bit]) 3).reader proto (highOf bit)).decoder.periodTime from sync)]
    rw [← word]
    rfl
  · have more : ¬ next8 ((reading samples .readWord (ofBits known) (bits ++ [bit]) index).reader proto
        (highOf bit)).decoder.keyDataIndex = 4 := by
      show ¬ next8 index = 4
      omega
    rw [if_neg more, if_neg third, ← words, ← word]
    rfl

theorem readWord_word (known : List Bool) {word : List Bool} {index : Nat} (full : word.length = 8)
    (even : metakomParityCheck (ofBits word) = true) (few : index < 3) :
    Leads (reading samples .readWord (ofBits known) [] index)
      (reading samples .readWord (ofBits (known ++ word)) [] (index + 1)) (word.map bitPulse) := by
  obtain rfl | ⟨bits, bit, rfl⟩ := List.eq_nil_or_concat' word
  · cases full
  rw [List.length_append, List.length_singleton] at full
  have seven : bits.length = 7 := by omega
  have first := readWord_bits tells (ofBits known) [] bits index (by rw [seven]; decide)
  have last := readWord_last tells known index (lowOf bit) seven even (by omega)
    fun third => absurd third (Nat.ne_of_lt few)
  rw [if_neg (by omega)] at last
  rw [List.map_append]
  exact first.trans last

theorem readWord_key (known : List Bool) {word : List Bool} (full : word.length = 8)
    (even : metakomParityCheck (ofBits word) = true) :
    Leads (reading samples .readWord (ofBits known) [] 3) (reading samples .readStopWord (ofBits (known ++ word)) [] 4)
      (framePulses word) := by
  obtain rfl | ⟨bits, bit, rfl⟩ := List.eq_nil_or_concat' word
  · cases full
  rw [List.length_append, List.length_singleton] at full
  have seven : bits.length = 7 := by omega
  have first := readWord_bits tells (ofBits known) [] bits 3 (by rw [seven]; decide)
  have last := readWord_last tells known 3 _ seven even (by decide) fun _ => tells.sync bit
  rw [framePulses_append bits (List.cons_ne_nil bit [])]
  exact first.trans last

end Words

def EvenBytes (data : BitVec 32) : Prop := ∀ byte < 4, metakomParityCheck (data.extractLsb' (8 * byte) 8) = true

instance (data : BitVec 32) : Decidable (EvenBytes data) := inferInstanceAs (Decidable (∀ byte < 4, _))

theorem ofBits_byteBits {byte : Nat} (inside : byte < 4) :
    (ofBits (byteBits data byte) : BitVec 8) = data.extractLsb' (8 * (3 - byte)) 8 := by
  refine BitVec.eq_of_getMsbD_eq fun place small => ?_
  have whole : 8 * byte + place < 32 := by omega
  have bit : 8 * (3 - byte) + (8 - 1 - place) = 32 - 1 - (8 * byte + place) := by omega
  rw [getMsbD_ofBits _ small (by simp [byteBits]), byteBits, BitVec.getMsbD_eq_getLsbD, BitVec.getLsbD_extractLsb', bit]
  simp [small, BitVec.getMsbD_eq_getLsbD, whole]
  omega

theorem EvenBytes.word {data : BitVec 32} (even : EvenBytes data) {byte : Nat} (inside : byte < 4) :
    metakomParityCheck (ofBits (byteBits data byte)) = true := by
  rw [ofBits_byteBits data inside]
  exact even (3 - byte) (by omega)

theorem ofBits_keyBits : (ofBits (keyBits data) : BitVec 32) = data := by
  refine BitVec.eq_of_getMsbD_eq fun place small => ?_
  rw [getMsbD_ofBits _ small (by simp [keyBits, byteBits]), keyBits_eq]
  simp [small]

/-- Pulses after which a reader reports some data, whatever follows them. -/
def Reports (listening : Listening) (pulses : List (Nat × Nat)) (data : BitVec 32) : Prop :=
  ∀ proto stored rest, firstReport (listening.reader proto stored) (pulses.flatMap pulseLevels ++ rest) = some data

theorem Leads.reports {first second : Listening} {pulses pulses' : List (Nat × Nat)} {data : BitVec 32}
    (leads : Leads first second pulses) (reports : Reports second pulses' data) :
    Reports first (pulses ++ pulses') data := by
  intro proto stored rest
  obtain ⟨stored', reaches⟩ := leads proto stored (pulses'.flatMap pulseLevels ++ rest)
  rw [List.flatMap_append, List.append_assoc, reaches, reports]

/-- Further pulses make no difference. -/
theorem Reports.append {listening : Listening} {pulses : List (Nat × Nat)} {data : BitVec 32}
    (reports : Reports listening pulses data) (more : List (Nat × Nat)) : Reports listening (pulses ++ more) data := by
  intro proto stored rest
  rw [List.flatMap_append, List.append_assoc, reports]

section Keys
variable {samples : List Nat} (tells : Tells (periodOf samples)) {data : BitVec 32}
include tells

theorem readKey (even : EvenBytes data) :
    Leads (reading samples .readWord 0#32 [] 0) (reading samples .readStopWord data [] 4)
      (framePulses (keyBits data)) := by
  have byte0 := readWord_word tells [] rfl (even.word (by decide : 0 < 4)) (by decide : 0 < 3)
  have byte1 := readWord_word tells ([] ++ byteBits data 0) rfl (even.word (by decide : 1 < 4)) (by decide : 1 < 3)
  have byte2 := readWord_word tells ([] ++ byteBits data 0 ++ byteBits data 1) rfl (even.word (by decide : 2 < 4))
    (by decide : 2 < 3)
  have byte3 := readWord_key tells ([] ++ byteBits data 0 ++ byteBits data 1 ++ byteBits data 2) rfl
    (even.word (by decide : 3 < 4))
  have whole : (ofBits ([] ++ byteBits data 0 ++ byteBits data 1 ++ byteBits data 2 ++ byteBits data 3) : BitVec 32) =
      data := ofBits_keyBits data
  rw [whole] at byte3
  have pulses : framePulses (keyBits data) = (byteBits data 0).map bitPulse ++ (byteBits data 1).map bitPulse ++
      (byteBits data 2).map bitPulse ++ framePulses (byteBits data 3) := by
    have some : byteBits data 3 ≠ [] := List.cons_ne_nil _ _
    rw [keyBits, framePulses_append _ some, List.map_append, List.map_append]
  exact ((byte0.trans byte1).trans byte2).trans byte3

theorem stopWord_bit (bits : List Bool) (short : bits.length + 1 < 3) (bit : Bool) :
    Leads (reading samples .readStopWord data bits 4) (reading samples .readStopWord data (bits ++ [bit]) 4)
      [bitPulse bit] := by
  refine Leads.pulse fun proto => ?_
  have counter : ((reading samples .readStopWord data (bits ++ [bit]) 4).reader proto (highOf bit)).decoder.tmpCounter =
      bits.length + 1 := List.length_append
  show readStopWord _ (highOf bit) = _
  rw [readStopWord, readBit_reading tells proto (by omega) bit]
  rw [if_neg (by omega)]
  rfl

theorem stopWord : Reports (reading samples .readStopWord data [] 4) ([false, true, false].map bitPulse) data := by
  have last : Reports (reading samples .readStopWord data [false, true] 4) [bitPulse false] data := by
    intro proto stored rest
    have read : readStopWord ((reading samples .readStopWord data [false, true] 4).reader proto (highOf false))
        (highOf false) =
          (true, (reading samples .readStopWord data [false, true, false] 4).reader proto (highOf false)) := by
      rw [readStopWord, readBit_reading tells proto (by decide) false]
      rfl
    rw [List.flatMap_cons, List.flatMap_nil, List.append_nil, bitPulse, firstReport_pulse]
    show (if (readStopWord _ (highOf false)).1 then some (readStopWord _ (highOf false)).2.data else _) = _
    rw [read]
    rfl
  exact (stopWord_bit tells [] (by decide) false).reports ((stopWord_bit tells [false] (by decide) true).reports last)

/-- A reader that knows the period waits for a sync bit and reads the frame behind it. -/
theorem starting_reports (even : EvenBytes data) {bits : List Bool} (some : bits ≠ []) (few : bits.length ≤ 35) :
    Reports (starting samples 0) (framePulses bits ++ framePulses (frameBits data) ++ [false, true, false].map bitPulse)
      data := by
  have waits := starting_frame tells some (by omega : 0 + bits.length ≤ 40)
  have reads := (startWord tells).trans (readKey tells even)
  rw [List.append_assoc]
  exact waits.reports (reads.reports (stopWord tells))

end Keys

/-! ### From any offset on -/

theorem firstReport_low (reader : ProtocolMetakom) {time : Nat} (small : time < 2 ^ 32) (levels : List LevelDuration) :
    firstReport (protocolMetakomDecoderStart reader) ((false, time) :: levels) =
      firstReport ((syncing [time]).reader reader 0) levels := by
  have fed : protocolMetakomDecoderFeed (protocolMetakomDecoderStart reader) false time =
      (false, (syncing [(time + 0) % 2 ^ 32]).reader reader 0) := rfl
  rw [firstReport, fed, Nat.add_zero, Nat.mod_eq_of_lt small]
  rfl

theorem nine_pulses {time : Nat} (short : time ≤ 2 * metakomPeriod) {pulses : List (Nat × Nat)}
    (nine : pulses.length = 9) (least : 9 * 7920 ≤ (pulses.map sampleOf).sum) (most : (pulses.map sampleOf).sum ≤ 9 * 7920 + 8000) :
    ∃ samples, Tells (periodOf samples) ∧ Leads (syncing [time]) (starting samples 0) pulses := by
  have some : pulses ≠ [] := List.ne_nil_of_length_pos (by omega)
  have full : [time].length + pulses.length = metakomPeriodSampleCount := by
    rw [nine]
    rfl
  have sum : ([time] ++ pulses.map sampleOf).sum = time + (pulses.map sampleOf).sum := by
    rw [List.sum_append, List.sum_singleton]
  rw [metakomPeriod] at short
  exact ⟨_, periodOf_tells (by omega) (by omega), syncing_pulses some full⟩

/-- The first low level and nine pulses give the period, wherever the frame was entered. -/
theorem syncing_reports {data : BitVec 32} (even : EvenBytes data) {time : Nat} (short : time ≤ 2 * metakomPeriod)
    {bits : List Bool} (few : bits.length ≤ 35) :
    Reports (syncing [time]) (framePulses bits ++ framePulses (frameBits data) ++ framePulses (frameBits data) ++
      [false, true, false].map bitPulse) data := by
  by_cases many : 9 < bits.length
  case pos =>
    -- nine of the bits are samples, the sync bit behind the others leads to the frame that is read
    obtain ⟨first, second, rfl, nine⟩ : ∃ first second, bits = first ++ second ∧ first.length = 9 :=
      ⟨bits.take 9, bits.drop 9, (List.take_append_drop 9 bits).symm, List.length_take_of_le (Nat.le_of_lt many)⟩
    rw [List.length_append] at many few
    have some : second ≠ [] := List.ne_nil_of_length_pos (by omega)
    have sum : ((first.map bitPulse).map sampleOf).sum = 9 * 7920 := by
      rw [sum_bitPulses, nine]
    have length : (first.map bitPulse).length = 9 := by
      rw [List.length_map, nine]
    obtain ⟨samples, tells, syncs⟩ := nine_pulses short length (by omega) (by omega)
    have reports := syncs.reports ((starting_reports tells even some (by omega)).append
      (framePulses (keyBits data) ++ [false, true, false].map bitPulse))
    rw [framePulses_append _ some]
    simp only [List.append_assoc] at reports ⊢
    exact reports
  case neg =>
    -- with this frame's bits the samples do not reach the end of the next one
    obtain ⟨first, second, whole, nine⟩ : ∃ first second, frameBits data = first ++ second ∧
        first.length = 9 - bits.length :=
      ⟨_, _, (List.take_append_drop (9 - bits.length) (frameBits data)).symm,
        List.length_take_of_le (by rw [length_frameBits]; omega)⟩
    have rest : first.length + second.length = 35 := by
      rw [← List.length_append, ← whole, length_frameBits]
    have some : second ≠ [] := List.ne_nil_of_length_pos (by omega)
    obtain ⟨least, most⟩ := sum_framePulses bits
    have between : 9 * 7920 ≤ ((framePulses bits ++ first.map bitPulse).map sampleOf).sum ∧
        ((framePulses bits ++ first.map bitPulse).map sampleOf).sum ≤ 9 * 7920 + 8000 := by
      rw [List.map_append, List.sum_append, sum_bitPulses]
      omega
    have length : (framePulses bits ++ first.map bitPulse).length = 9 := by
      rw [List.length_append, length_framePulses, List.length_map]
      omega
    obtain ⟨samples, tells, syncs⟩ := nine_pulses short length between.1 between.2
    have reports := syncs.reports (starting_reports tells even some (by omega))
    have frame : framePulses (frameBits data) = first.map bitPulse ++ framePulses second := by
      rw [whole, framePulses_append _ some]
    rw [List.append_assoc (framePulses bits), List.append_assoc (framePulses bits)]
    rw [List.append_assoc (framePulses bits), List.append_assoc, ← List.append_assoc (first.map bitPulse), ← frame]
      at reports
    exact reports

theorem hears_bits (missed : Nat) {bits : List Bool} {place : Nat} (inside : place < 2 * bits.length) :
    ∃ (time : Nat) (rest : List Bool), time ≤ metakomPeriod ∧ rest.length ≤ bits.length ∧ ∀ reader signal,
      firstReport (protocolMetakomDecoderStart reader)
          (heardLevels missed ((bits.flatMap bitLevels).drop place ++ signal)) =
        firstReport (protocolMetakomDecoderStart reader)
          (endedLevels (false, time) (rest.flatMap bitLevels ++ signal)) := by
  have low : ∀ bit, lowOf bit ≤ metakomPeriod := by decide
  induction bits generalizing place with
  | nil => cases inside
  | cons bit bits next =>
    match place with
    -- a high level that has begun is passed over
    | 0 => exact ⟨lowOf bit, bits, low bit, Nat.le_succ _, fun reader signal => rfl⟩
    | 1 => exact ⟨lowOf bit - missed, bits, Nat.le_trans (Nat.sub_le _ _) (low bit), Nat.le_succ _, fun _ _ => rfl⟩
    | place + 2 =>
      have later : place < 2 * bits.length := by
        rw [List.length_cons] at inside
        omega
      obtain ⟨time, rest, short, few, hears⟩ := next later
      exact ⟨time, rest, short, Nat.le_succ_of_le few, hears⟩

theorem hears_frame (missed : Nat) (data : BitVec 32) {place : Nat} (inside : place < 71) :
    ∃ (time : Nat) (rest : List Bool), time ≤ metakomPeriod ∧ rest.length ≤ 35 ∧ ∀ reader signal,
      firstReport (protocolMetakomDecoderStart reader) (heardLevels missed ((frameLevels data).drop place ++ signal)) =
        firstReport (protocolMetakomDecoderStart reader)
          (endedLevels (false, time) (rest.flatMap bitLevels ++ signal)) := by
  cases place with
  | zero => exact ⟨metakomPeriod - missed, frameBits data, Nat.sub_le _ _, Nat.le_refl _, fun _ _ => rfl⟩
  | succ place => exact hears_bits missed (by rw [length_frameBits]; omega : place < 2 * (frameBits data).length)

theorem endedLevels_frame {time : Nat} (short : time ≤ metakomPeriod) (bits : List Bool) (signal : List LevelDuration) :
    ∃ time' ≤ 2 * metakomPeriod, endedLevels (false, time) (bits.flatMap bitLevels ++ (frameLevels data ++ signal)) =
      (false, time') ::
        ((framePulses bits).flatMap pulseLevels ++ begunLevels false (true :: false :: keyBits data) signal) := by
  cases bits with
  | nil => exact ⟨time + metakomPeriod, by omega, rfl⟩
  | cons bit bits =>
    refine ⟨time, by omega, ?_⟩
    rw [← begunLevels_frame]
    rfl

theorem begunLevels_startWord (signal : List LevelDuration) :
    ∃ rest, begunLevels false (true :: false :: keyBits data) signal =
      ([false, true, false].map bitPulse).flatMap pulseLevels ++ rest := by
  have key : keyBits data = data.getMsbD 0 :: (keyBits data).tail := rfl
  refine ⟨begunLevels (data.getMsbD 0) (keyBits data).tail signal, ?_⟩
  rfl

/-- **A card whose bytes have even parity is read** from four frames of its signal at most,
whenever the reader begins to listen, and what is reported first is the key of the card. -/
theorem metakom_reads_the_key (reader card : ProtocolMetakom) (even : EvenBytes card.data) (offset missed count : Nat)
    (long : 4 * 71 ≤ count) :
    firstReport (protocolMetakomDecoderStart reader)
      (heardLevels missed ((sendLevels (offset + count) (protocolMetakomEncoderStart card)).drop offset)) =
        some card.data := by
  obtain ⟨frames, place, inside, rfl⟩ : ∃ frames place, place < 71 ∧ offset = 71 * frames + place :=
    ⟨offset / 71, offset % 71, Nat.mod_lt _ (by decide), (Nat.div_add_mod offset 71).symm⟩
  obtain ⟨more, rfl⟩ := Nat.exists_eq_add_of_le long
  have sent : sendLevels (place + (4 * 71 + more)) (protocolMetakomEncoderStart card) =
      frameLevels card.data ++ (frameLevels card.data ++ (frameLevels card.data ++ (frameLevels card.data ++
        sendLevels (place + more) (protocolMetakomEncoderStart card)))) := by
    rw [← sendLevels_frame, ← sendLevels_frame, ← sendLevels_frame, ← sendLevels_frame]
    congr 1
    omega
  obtain ⟨time, bits, short, few, hears⟩ := hears_frame missed card.data inside
  obtain ⟨time', short', entered⟩ := endedLevels_frame card.data short bits
    (frameLevels card.data ++ (frameLevels card.data ++ sendLevels (place + more) (protocolMetakomEncoderStart card)))
  obtain ⟨rest, word⟩ := begunLevels_startWord card.data (sendLevels (place + more) (protocolMetakomEncoderStart card))
  have small : time' < 2 ^ 32 := Nat.lt_of_le_of_lt short' (by decide)
  have reports := syncing_reports even short' few reader 0 rest
  have dropped : place ≤ (frameLevels card.data).length := Nat.le_of_lt inside
  rw [sendLevels_offset, sent, List.drop_append_of_le_length dropped, hears, entered, begunLevels_frame,
    begunLevels_frame, word, firstReport_low reader small]
  simp only [List.flatMap_append, List.append_assoc] at reports ⊢
  exact reports

/-- Entered in the middle of a bit, the third of the key. -/
theorem entered_key_is_read : EvenBytes 0x03050609#32 ∧
      firstReport (protocolMetakomDecoderStart ⟨0#32, startedDecoder, 0⟩) (heardLevels 1000
          ((sendLevels (12 + 284) (protocolMetakomEncoderStart ⟨0x03050609#32, startedDecoder, 0⟩)).drop 12)) =
          some 0x03050609#32 :=
  ⟨by decide, metakom_reads_the_key ⟨0#32, startedDecoder, 0⟩ ⟨0x03050609#32, startedDecoder, 0⟩ (by decide) 12 1000 284
    (by decide)⟩

end Xtreme.IButton
