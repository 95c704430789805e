import Xtreme.SubGhz.CameAtomo
import Xtreme.Library.Simulation
import Xtreme.Library.WordBytes

/-! What a receiver makes of the parcels of a CAME Atomo remote. The key stream does
not depend on the bytes it hides, so that hiding them twice shows them again; and the
Manchester decoder stands in the middle of a zero bit when the first bit of a frame
comes, since the highest bit of a pack is always clear. -/
namespace Xtreme.SubGhz
open Xtreme.Library Xtreme.Toolbox

namespace AtomoPack

/-- Two packs, byte by byte. -/
def xor (buff key : AtomoPack) : AtomoPack := Vector.zipWith (· ^^^ ·) buff key

def clear : AtomoPack := Vector.replicate 8 0

theorem getElem_xorAt (buff : AtomoPack) (index : Nat) (mask : BitVec 8) {i : Nat} (inside : i < 8) :
    (buff.xorAt index mask)[i] = if i = index then buff[i] ^^^ mask else buff[i] := by
  simp [xorAt]

theorem xorAt_xor (buff key : AtomoPack) (index : Nat) (mask : BitVec 8) :
    (buff.xor key).xorAt index mask = (buff.xorAt index mask).xor key := by
  ext i inside : 1
  simp only [getElem_xorAt, xor, Vector.getElem_zipWith]
  split
  · rw [BitVec.xor_assoc, BitVec.xor_comm key[i], ← BitVec.xor_assoc]
  · rfl

theorem xorAt_set (buff : AtomoPack) {index : Nat} (mask byte : BitVec 8) (behind : 0 < index) :
    AtomoPack.xorAt (buff.set 0 byte) index mask = (buff.xorAt index mask).set 0 byte := by
  ext i inside : 1
  simp only [getElem_xorAt, Vector.getElem_set]
  by_cases first : 0 = i
  · rw [if_pos first, if_pos first, if_neg (by omega)]
  · rw [if_neg first, if_neg first]

@[simp] theorem clear_xor (key : AtomoPack) : clear.xor key = key := by
  ext i inside : 1
  simp [xor, clear]

@[simp] theorem xor_self (key : AtomoPack) : key.xor key = clear := by
  ext i inside : 1
  simp [xor, clear]

end AtomoPack

theorem atomoStream_xor (count bitCnt : Nat) (tmpB : BitVec 8) (buff key : AtomoPack) :
    atomoStream count bitCnt tmpB (buff.xor key) = (atomoStream count bitCnt tmpB buff).xor key := by
  induction count generalizing bitCnt tmpB buff with
  | zero => rfl
  | succ count ih =>
    simp only [atomoStream]
    split
    · rw [AtomoPack.xorAt_xor, ih]
    · exact ih _ _ _

theorem atomoStream_twice (count bitCnt : Nat) (tmpB : BitVec 8) (buff : AtomoPack) :
    atomoStream count bitCnt tmpB (atomoStream count bitCnt tmpB buff) = buff := by
  have stream (key : AtomoPack) : atomoStream count bitCnt tmpB key =
      (atomoStream count bitCnt tmpB AtomoPack.clear).xor key := by
    rw [← atomoStream_xor, AtomoPack.clear_xor]
  calc atomoStream count bitCnt tmpB (atomoStream count bitCnt tmpB buff)
      = atomoStream count bitCnt tmpB ((atomoStream count bitCnt tmpB AtomoPack.clear).xor buff) := by
        rw [stream buff]
    _ = (atomoStream count bitCnt tmpB (atomoStream count bitCnt tmpB AtomoPack.clear)).xor buff :=
        atomoStream_xor ..
    _ = buff := by rw [stream (atomoStream count bitCnt tmpB AtomoPack.clear), AtomoPack.xor_self, AtomoPack.clear_xor]

theorem atomoStream_set (count : Nat) {bitCnt : Nat} (tmpB byte : BitVec 8) (buff : AtomoPack)
    (behind : 8 ≤ bitCnt) :
    atomoStream count bitCnt tmpB (buff.set 0 byte) = (atomoStream count bitCnt tmpB buff).set 0 byte := by
  induction count generalizing bitCnt tmpB buff with
  | zero => rfl
  | succ count ih =>
    simp only [atomoStream]
    split
    · rw [AtomoPack.xorAt_set buff _ byte (Nat.div_pos behind (by decide)), ih _ _ (by omega)]
    · exact ih _ _ (by omega)

theorem atomoStream_first (count : Nat) {bitCnt : Nat} (tmpB : BitVec 8) (buff : AtomoPack)
    (behind : 8 ≤ bitCnt) : (atomoStream count bitCnt tmpB buff)[0] = buff[0] := by
  have kept := atomoStream_set count tmpB buff[0] buff behind
  rw [Vector.set_getElem_self] at kept
  rw [kept, Vector.getElem_set_self]

theorem atomoStream_last (count : Nat) {bitCnt place : Nat} (tmpB : BitVec 8) (buff : AtomoPack)
    (short : bitCnt + count ≤ 59) (low : place < 5) :
    (atomoStream count bitCnt tmpB buff)[7].getLsbD place = buff[7].getLsbD place := by
  induction count generalizing bitCnt tmpB buff with
  | zero => rfl
  | succ count ih =>
    simp only [atomoStream]
    rw [ih _ _ (by omega)]
    split
    · rw [AtomoPack.getElem_xorAt]
      split
      · have high : bitCnt % 8 < 3 := by omega
        rw [BitVec.getLsbD_xor, BitVec.getLsbD_ushiftRight]
        generalize bitCnt % 8 = shift at high
        have bits : ∀ shift < 3, ∀ place < 5, (0x80#8).getLsbD (shift + place) = false := by decide
        rw [bits shift high place low, Bool.xor_false]
      · rfl
    · rfl

theorem seed_decrypt (first : BitVec 8) :
    (-(first &&& 0x7F#8)) &&& 0x7F#8 = (~~~first + 1#8) &&& 0x7F#8 := by
  revert first
  decide

theorem first_decrypt (first : BitVec 8) :
    (((first ^^^ 5#8) &&& 0x7F#8) ^^^ 5#8) &&& 0x7F#8 = first &&& 0x7F#8 := by
  revert first
  decide

variable (pack : AtomoPack)

theorem atomoDecrypt_atomoEncrypt :
    atomoDecrypt (atomoEncrypt pack) = pack.set 0 (pack.get 0 &&& 0x7F#8) AtomoPack.first_inside := by
  have first := atomoStream_first 51 ((~~~pack[0] + 1#8) &&& 0x7F#8) pack (Nat.le_refl 8)
  have byte (pack : AtomoPack) : pack.get 0 = pack[0] := rfl
  simp only [atomoDecrypt, atomoEncrypt, byte, Vector.getElem_set_self, first, first_decrypt,
    seed_decrypt, Vector.set_set]
  rw [atomoStream_set _ _ _ _ (Nat.le_refl 8), atomoStream_twice]

/-- The first byte of a hidden pack has its highest bit clear, the last one its lower half. -/
theorem atomoEncrypt_first : ((atomoEncrypt pack).get 0).getLsbD 7 = false := by
  have byte (pack : AtomoPack) : pack.get 0 = pack[0] := rfl
  rw [byte]
  simp [atomoEncrypt]

theorem atomoEncrypt_last {place : Nat} (low : place < 5) :
    (atomoEncrypt pack)[7].getLsbD place = pack[7].getLsbD place := by
  rw [atomoEncrypt, Vector.getElem_set, if_neg (by decide), atomoStream_last 51 _ pack (by decide) low]

namespace AtomoPack

theorem getLsbD_word (pack : AtomoPack) {place : Nat} (inside : place < 64) :
    pack.word.getLsbD place = (pack[7 - place / 8]).getLsbD (place % 8) := by
  rw [word, ← Vector.foldl_toList, ← joinBytes, getLsbD_joinBytes _ inside, List.getElem?_reverse (by simp; omega)]
  simp only [Vector.length_toList, Vector.getElem?_toList]
  rw [Vector.getElem?_eq_getElem (by omega), Option.getD_some]

theorem packOf_word (pack : AtomoPack) : packOf pack.word = pack := by
  ext i inside place low
  simp only [packOf, Vector.getElem_ofFn, ← BitVec.getLsbD_eq_getElem, BitVec.getLsbD_setWidth,
    BitVec.getLsbD_ushiftRight, decide_eq_true low, Bool.true_and]
  rw [getLsbD_word _ (by omega)]
  have byte : 7 - (56 - 8 * i + place) / 8 = i := by omega
  have bit : (56 - 8 * i + place) % 8 = place := by omega
  simp only [byte, bit]

end AtomoPack

theorem getLsbD_atomoFrame {place : Nat} (inside : place < 60) :
    (atomoFrame pack).getLsbD place = !pack.word.getLsbD (place + 4) := by
  have mask : ∀ place < 60, (0xFFFFFFFFFFFFFFF#64).getLsbD place = true := by decide
  have ones : ∀ place < 64, (0xFFFFFFFFFFFFFFFF#64).getLsbD place = true := by decide
  rw [atomoFrame, BitVec.getLsbD_and, BitVec.getLsbD_ushiftRight, BitVec.getLsbD_xor, mask place inside,
    Nat.add_comm 4, ones _ (by omega), Bool.and_true, Bool.xor_true]

theorem frameBits_eq (frame : BitVec 64) :
    frameBits 62 frame = (List.range 60).reverse.map frame.getLsbD := rfl

/-- What a decoder has collected of a parcel: the bit of its header and its frame. -/
def collected (bits : List Bool) : BitVec 64 := ShiftRegister.ofBits (true :: bits)

/-- The data of a report, inverted and moved up, are the hidden pack. -/
theorem collected_frame (nibble : ∀ place < 4, (pack.get 7).getLsbD place = false) :
    (collected (frameBits 62 (atomoFrame pack)) ^^^ 0xFFFFFFFFFFFFFFFF#64) <<< 4 = pack.word := by
  have ones : ∀ place < 64, (0xFFFFFFFFFFFFFFFF#64).getLsbD place = true := by decide
  apply BitVec.eq_of_getLsbD_eq
  intro place inside
  rw [BitVec.getLsbD_shiftLeft, decide_eq_true inside]
  by_cases low : place < 4
  · rw [AtomoPack.getLsbD_word _ inside, decide_eq_true low]
    have last : 7 - place / 8 = 7 := by omega
    simp only [last]
    rw [Nat.mod_eq_of_lt (by omega)]
    exact (nibble place low).symm
  · obtain ⟨place, rfl⟩ := Nat.exists_eq_add_of_le (Nat.not_lt.mp low)
    rw [BitVec.getLsbD_xor, ones _ (by omega), collected, ShiftRegister.getLsbD_ofBits _ (by omega), List.reverse_cons, frameBits_eq,
      ← List.map_reverse, List.getElem?_append_left (by simp; omega)]
    simp [List.getElem?_range (show place < 60 by omega), getLsbD_atomoFrame _ (show place < 60 by omega),
      Nat.add_comm place]

/-- The highest bit of a hidden pack is clear, and so the first bit of its frame is set. -/
theorem frameBits_atomoEncrypt :
    ∃ bits, frameBits 62 (atomoFrame (atomoEncrypt pack)) = true :: bits := by
  have first : (atomoFrame (atomoEncrypt pack)).getLsbD 59 = true := by
    rw [getLsbD_atomoFrame _ (by decide), AtomoPack.getLsbD_word _ (by decide)]
    exact congrArg not (atomoEncrypt_first pack)
  refine ⟨(List.range 59).reverse.map (atomoFrame (atomoEncrypt pack)).getLsbD, ?_⟩
  rw [frameBits_eq, List.range_succ, List.reverse_append, List.reverse_singleton, List.singleton_append,
    List.map_cons, first]

theorem getLsbD_placed {width : Nat} (word : BitVec width) (source target : Nat) {place : Nat} (inside : place < 32) :
    (((word >>> source).setWidth 8).setWidth 32 <<< target).getLsbD place =
      (decide (target ≤ place) && decide (place < target + 8) && word.getLsbD (source + (place - target))) := by
  by_cases reached : target ≤ place
  · simp [inside, reached, Nat.sub_lt_iff_lt_add reached, Nat.add_comm 8]
  · simp [reached]

theorem cnt_of_bytes {cnt : BitVec 32} (fits : cnt ≤ 0xFFFF#32) :
    (((cnt >>> 8).setWidth 8).setWidth 32 <<< 8) ||| (cnt.setWidth 8).setWidth 32 = cnt := by
  have small : cnt.toNat < 2 ^ 16 := Nat.lt_succ_of_le (BitVec.le_def.mp fits)
  have high : ∀ place, 16 ≤ place → cnt.getLsbD place = false := fun place above =>
    Nat.testBit_lt_two_pow (Nat.lt_of_lt_of_le small (Nat.pow_le_pow_right (by decide) above))
  apply BitVec.eq_of_getLsbD_eq
  intro place inside
  have low := getLsbD_placed cnt 0 0 inside
  rw [BitVec.ushiftRight_zero, BitVec.shiftLeft_zero] at low
  rw [BitVec.getLsbD_or, getLsbD_placed _ _ _ inside, low]
  by_cases first : place < 8
  · simp [first, show ¬ 8 ≤ place by omega]
  · by_cases second : place < 16
    · simp [second, Nat.not_lt.mp first]
    · simp [second, high place (Nat.not_lt.mp second)]

/-- The serial number that a code carries. -/
def cameAtomoSerial (instanc : CameAtomoGeneric) : BitVec 32 := (instanc.data2 >>> 8).setWidth 32

theorem serial_of_bytes (data : BitVec 64) :
    (((data >>> 32).setWidth 8).setWidth 32 <<< 24) ||| (((data >>> 24).setWidth 8).setWidth 32 <<< 16) |||
      (((data >>> 16).setWidth 8).setWidth 32 <<< 8) ||| ((data >>> 8).setWidth 8).setWidth 32 =
      (data >>> 8).setWidth 32 := by
  apply BitVec.eq_of_getLsbD_eq
  intro place inside
  have last := getLsbD_placed data 8 0 inside
  rw [BitVec.shiftLeft_zero] at last
  rw [BitVec.getLsbD_or, BitVec.getLsbD_or, BitVec.getLsbD_or, getLsbD_placed _ _ _ inside,
    getLsbD_placed _ _ _ inside, getLsbD_placed _ _ _ inside, last, BitVec.getLsbD_setWidth,
    decide_eq_true inside]
  by_cases first : place < 8
  · simp [first, show ¬ 8 ≤ place by omega, show ¬ 16 ≤ place by omega, show ¬ 24 ≤ place by omega]
  · by_cases second : place < 16
    · simp [second, show 8 ≤ place by omega, show ¬ 16 ≤ place by omega, show ¬ 24 ≤ place by omega,
        show 16 + (place - 8) = 8 + place by omega]
    · by_cases third : place < 24
      · simp [second, third, show 16 ≤ place by omega, show ¬ 24 ≤ place by omega,
          show 24 + (place - 16) = 8 + place by omega]
      · simp [second, third, show 24 ≤ place by omega, show 32 + (place - 24) = 8 + place by omega]

/-- A listener that is shown the report of a parcel finds the pack in it. -/
theorem remoteController_collected (custom : SubGhzCustomBtn) (generic : CameAtomoGeneric)
    (first code : BitVec 8) (instanc : CameAtomoGeneric) (fits : instanc.cnt ≤ 0xFFFF#32)
    (data : generic.data = collected (frameBits 62 (atomoFrame (atomoEncrypt (atomoPack first instanc code))))) :
    let found := (cameAtomoRemoteController custom generic).1
    found.serial = cameAtomoSerial instanc ∧ found.cnt = instanc.cnt ∧ found.cnt2 = first &&& 0x7F#8 ∧
      found.btn = buttonOfCode ((code <<< 4) >>> 4) generic.btn := by
  have nibble : ∀ place < 4, ((atomoEncrypt (atomoPack first instanc code)).get 7).getLsbD place = false := by
    intro place low
    refine (atomoEncrypt_last (atomoPack first instanc code) (by omega)).trans ?_
    simp [atomoPack, low]
  have shown : atomoDecrypt (packOf ((generic.data ^^^ 0xFFFFFFFFFFFFFFFF#64) <<< 4)) =
      (atomoPack first instanc code).set 0 (first &&& 0x7F#8) := by
    rw [data, collected_frame _ nibble, AtomoPack.packOf_word, atomoDecrypt_atomoEncrypt]
    rfl
  simp only [cameAtomoRemoteController, shown]
  exact ⟨serial_of_bytes instanc.data2, cnt_of_bytes fits, rfl, rfl⟩

theorem encodeFrameBits_pending (prev : Bool) (result : ManchesterEncoderResult) (bits : List Bool) :
    ∃ result', encodeFrameBits ⟨prev, 1⟩ result bits =
      (pendingRun prev bits, result', ⟨bits.getLastD prev, 1⟩) := by
  induction bits generalizing prev result with
  | nil => exact ⟨result, rfl⟩
  | cons bit bits ih =>
    obtain ⟨middle, round⟩ : ∃ middle, encodeFrameBit ⟨prev, 1⟩ result bit =
        (pendingResults prev bit, middle, ⟨bit, 1⟩) := by
      cases prev <;> cases bit <;> exact ⟨_, rfl⟩
    obtain ⟨result', rest⟩ := ih bit middle
    exact ⟨result', by simp only [encodeFrameBits, round, rest, pendingRun, List.getLastD_cons]⟩

theorem encodeFrameBits_reset (stale bit : Bool) (result : ManchesterEncoderResult) (bits : List Bool) :
    ∃ result', encodeFrameBits ⟨stale, 0⟩ result (bit :: bits) =
      (resultsFor (bit :: bits), result', ⟨bits.getLastD bit, 1⟩) := by
  have round : encodeFrameBit ⟨stale, 0⟩ result bit = ([.firstHalf bit], .firstHalf bit, ⟨bit, 1⟩) := rfl
  obtain ⟨result', rest⟩ := encodeFrameBits_pending bit (.firstHalf bit) bits
  exact ⟨result', by simp only [encodeFrameBits, round, rest, resultsFor, List.singleton_append]⟩

/-- The pulses of a parcel, from its header to the pause: a high one that closes it
counts, a low one is part of the pause. -/
def parcelPulses (bits : List Bool) : List ManchesterEncoderResult :=
  [.longHigh, .shortLow] ++ resultsFor (bits.map not) ++ if bits.getLastD true then [] else [.shortHigh]

variable {encState : ManchesterEncoderState}

theorem parcelUpload_eq (start : encState.step = 0)
    (result : ManchesterEncoderResult) {bits : List Bool} (nonempty : bits ≠ []) :
    ∃ result' stale, parcelUpload encState result bits =
      ((parcelPulses bits).map cameAtomoAddDurationToUpload ++ [.level false (cameAtomoTeDelta * 272)],
        result', ⟨stale, 0⟩) := by
  obtain ⟨stale, step⟩ := encState
  obtain rfl : step = 0 := start
  obtain ⟨bit, bits, rfl⟩ := List.exists_cons_of_ne_nil nonempty
  obtain ⟨result', sent⟩ := encodeFrameBits_reset stale (!bit) result (bits.map not)
  have last : (bits.map not).getLastD (!bit) = !(bits.getLastD bit) := by
    simp only [List.getLastD_eq_getLast?, List.getLast?_map]
    cases bits.getLast? <;> rfl
  simp only [parcelUpload, List.map_cons, sent, last, parcelPulses, List.getLastD_cons]
  cases bits.getLastD bit <;>
    simp [manchesterEncoderFinish, ManchesterEncoderResult.ofBits, cameAtomoAddDurationToUpload]

variable {parcels : List (List Bool)}

theorem parcelsUpload_eq (start : encState.step = 0)
    (result : ManchesterEncoderResult) (nonempty : ∀ bits ∈ parcels, bits ≠ []) :
    parcelsUpload encState result parcels = parcels.flatMap fun bits =>
      (parcelPulses bits).map cameAtomoAddDurationToUpload ++ [.level false (cameAtomoTeDelta * 272)] := by
  induction parcels generalizing encState result with
  | nil => rfl
  | cons bits parcels ih =>
    obtain ⟨result', stale, first⟩ := parcelUpload_eq start result (nonempty bits List.mem_cons_self)
    simp only [parcelsUpload, first, List.flatMap_cons]
    rw [ih rfl _ fun bits later => nonempty bits (List.mem_cons_of_mem _ later)]

/-! ## What the decoder hears -/

/-- A decoder in a receiver: marks between levels are not fed to it. -/
def cameAtomoMachine : Machine SubGhzProtocolDecoderCameAtomo LevelDuration (Option CameAtomoGeneric)
  | instanc, .level level duration => cameAtomoFeed instanc level duration
  | instanc, _ => (none, instanc)

/-- The reports of a decoder, and what becomes of it. -/
def cameAtomoHear (instanc : SubGhzProtocolDecoderCameAtomo) (samples : List LevelDuration) :
    List CameAtomoGeneric × SubGhzProtocolDecoderCameAtomo :=
  let (answers, final) := cameAtomoMachine.run instanc samples
  (answers.filterMap id, final)

theorem cameAtomoHear_cons {instanc next : SubGhzProtocolDecoderCameAtomo} {sample : LevelDuration}
    {report : Option CameAtomoGeneric} (fed : cameAtomoMachine instanc sample = (report, next))
    (samples : List LevelDuration) :
    cameAtomoHear instanc (sample :: samples) =
      (report.toList ++ (cameAtomoHear next samples).1, (cameAtomoHear next samples).2) := by
  simp only [cameAtomoHear, Machine.run, fed]
  cases report <;> rfl

theorem cameAtomoHear_append (instanc : SubGhzProtocolDecoderCameAtomo) (first second : List LevelDuration) :
    cameAtomoHear instanc (first ++ second) =
      ((cameAtomoHear instanc first).1 ++ (cameAtomoHear (cameAtomoHear instanc first).2 second).1,
        (cameAtomoHear (cameAtomoHear instanc first).2 second).2) := by
  simp only [cameAtomoHear, Machine.run_append, List.filterMap_append]

def receive (instanc : SubGhzProtocolDecoderCameAtomo) (bits : List Bool) (state : ManchesterState) :
    SubGhzProtocolDecoderCameAtomo :=
  { instanc with
    decoder := { instanc.decoder with
      decodeData := (bits.map not).foldl ShiftRegister.push instanc.decoder.decodeData
      decodeCountBit := instanc.decoder.decodeCountBit + BitVec.ofNat 8 bits.length }
    manchesterSavedState := state }

theorem advanceEvent_eq (instanc : SubGhzProtocolDecoderCameAtomo) (event : ManchesterEvent) :
    advanceEvent instanc event = receive instanc (manchesterAdvance instanc.manchesterSavedState event).1.toList
      (manchesterAdvance instanc.manchesterSavedState event).2 := by
  cases advanced : manchesterAdvance instanc.manchesterSavedState event with
  | mk data state => cases data <;> simp [advanceEvent, receive, advanced]

theorem receive_receive (instanc : SubGhzProtocolDecoderCameAtomo) (bits bits' : List Bool)
    (state state' : ManchesterState) :
    receive (receive instanc bits state) bits' state' = receive instanc (bits ++ bits') state' := by
  simp [receive, BitVec.ofNat_add, BitVec.add_assoc]

variable {instanc : SubGhzProtocolDecoderCameAtomo}

theorem cameAtomoFeed_pulse (step : instanc.decoder.parserStep = .decoderData) (pulse : ManchesterEncoderResult) :
    cameAtomoMachine instanc (cameAtomoAddDurationToUpload pulse) = (none, advanceEvent instanc pulse.event) := by
  cases pulse <;> simp only [cameAtomoAddDurationToUpload, cameAtomoMachine, cameAtomoFeed, step] <;> rfl

theorem cameAtomoHear_pulses (instanc : SubGhzProtocolDecoderCameAtomo)
    (step : instanc.decoder.parserStep = .decoderData) (pulses : List ManchesterEncoderResult) :
    cameAtomoHear instanc (pulses.map cameAtomoAddDurationToUpload) =
      ([], receive instanc (manchesterDecode instanc.manchesterSavedState (pulses.map (·.event))).1
        (manchesterDecode instanc.manchesterSavedState (pulses.map (·.event))).2) := by
  induction pulses generalizing instanc with
  | nil => simp [cameAtomoHear, Machine.run, receive]
  | cons pulse pulses ih =>
    have fed := cameAtomoFeed_pulse step pulse
    rw [advanceEvent_eq] at fed
    generalize advanced : manchesterAdvance instanc.manchesterSavedState pulse.event = next at fed
    have rest := ih (receive instanc next.1.toList next.2) step
    rw [List.map_cons, cameAtomoHear_cons fed, rest, receive_receive, List.map_cons, manchesterDecode, advanced]
    rfl

theorem awaitParcel_state (instanc : SubGhzProtocolDecoderCameAtomo) :
    (awaitParcel instanc).manchesterSavedState = manchesterResetState := by
  have reset : manchesterAdvance instanc.manchesterSavedState .reset = (none, manchesterResetState) := if_pos rfl
  simp only [awaitParcel, reset]
  decide

/-- The bits of a parcel whose frame begins with a one: the header is one more. The
pulse that may close it adds none. -/
theorem manchesterDecode_parcel (bits : List Bool) :
    ∃ state, manchesterDecode manchesterResetState ((parcelPulses (true :: bits)).map (·.event)) =
      (false :: false :: bits.map not, state) := by
  have start : manchesterDecode manchesterResetState [.longHigh, .shortLow, .shortHigh] =
      ([false, false], InPhase false) := rfl
  have pulses : (parcelPulses (true :: bits)).map (·.event) = [.longHigh, .shortLow, .shortHigh] ++
      ((pendingRun false (bits.map not)).map (·.event) ++ if bits.getLastD true then [] else [.shortHigh]) := by
    simp only [parcelPulses, List.map_append, List.getLastD_cons]
    cases bits.getLastD true <;> rfl
  have last : (bits.map not).getLastD false = !(bits.getLastD true) := by
    simp only [List.getLastD_eq_getLast?, List.getLast?_map]
    cases bits.getLast? <;> rfl
  have closing : (manchesterDecode (InPhase !(bits.getLastD true))
      (if bits.getLastD true then [] else [.shortHigh])).1 = [] := by
    cases bits.getLastD true <;> rfl
  refine ⟨_, Prod.ext ?_ rfl⟩
  rw [pulses, manchesterDecode_append, start, manchesterDecode_append, decode_pendingRun, last]
  simp only [closing, List.append_nil]
  rfl

def reported (generic : CameAtomoGeneric) (bits : List Bool) : CameAtomoGeneric :=
  { generic with data := collected bits, dataCountBit := 62 }

theorem cameAtomoHear_parcel {bits : List Bool}
    (step : instanc.decoder.parserStep = .decoderData) (length : bits.length = 59) :
    ∃ final, cameAtomoHear (awaitParcel instanc)
        ((parcelPulses (true :: bits)).map cameAtomoAddDurationToUpload ++ [.level false (cameAtomoTeDelta * 272)]) =
      ([reported instanc.generic (true :: bits)], awaitParcel final) ∧
      final.decoder.parserStep = .decoderData ∧ final.generic = reported instanc.generic (true :: bits) := by
  obtain ⟨state, decoded⟩ := manchesterDecode_parcel bits
  have heard := cameAtomoHear_pulses (awaitParcel instanc) step (parcelPulses (true :: bits))
  rw [awaitParcel_state, decoded] at heard
  generalize before : receive (awaitParcel instanc) (false :: false :: bits.map not) state = full at heard
  have data : full.decoder.decodeData = collected (true :: bits) := by
    rw [← before]
    have twice : (bits.map not).map not = bits := by simp [Function.comp_def]
    simp only [receive, List.map_cons, twice]
    rfl
  have count : full.decoder.decodeCountBit = 62#8 := by
    rw [← before]
    simp [receive, awaitParcel, length]
  have generic : full.generic = instanc.generic := before ▸ rfl
  have ready : full.decoder.parserStep = .decoderData := before ▸ step
  have pause : cameAtomoMachine full (.level false (cameAtomoTeDelta * 272)) =
      (some (reported instanc.generic (true :: bits)),
        awaitParcel { full with generic := reported instanc.generic (true :: bits) }) := by
    simp only [cameAtomoMachine, cameAtomoFeed, ready, data, count, generic]
    rfl
  refine ⟨{ full with generic := reported instanc.generic (true :: bits) }, ?_, ready, rfl⟩
  rw [cameAtomoHear_append, heard, cameAtomoHear_cons pause]
  rfl

theorem cameAtomoHear_parcels (step : instanc.decoder.parserStep = .decoderData)
    (framed : ∀ bits ∈ parcels, bits.length = 60 ∧ bits.head? = some true) :
    (cameAtomoHear (awaitParcel instanc) (parcels.flatMap fun bits =>
      (parcelPulses bits).map cameAtomoAddDurationToUpload ++ [.level false (cameAtomoTeDelta * 272)])).1 =
      parcels.map (reported instanc.generic) := by
  induction parcels generalizing instanc with
  | nil => rfl
  | cons bits parcels ih =>
    obtain ⟨length, first⟩ := framed bits List.mem_cons_self
    obtain ⟨bits, rfl⟩ := List.head?_eq_some_iff.mp first
    obtain ⟨final, heard, ready, generic⟩ := cameAtomoHear_parcel step (Nat.succ.inj length)
    have rest := ih ready fun bits later => framed bits (List.mem_cons_of_mem _ later)
    have same : reported (reported instanc.generic (true :: bits)) = reported instanc.generic := rfl
    rw [generic] at rest
    rw [List.flatMap_cons, cameAtomoHear_append, heard, rest]
    rfl

theorem cameAtomoHear_upload (instanc : SubGhzProtocolDecoderCameAtomo)
    (framed : ∀ bits ∈ parcels, bits.length = 60 ∧ bits.head? = some true) (start : encState.step = 0) (result : ManchesterEncoderResult) :
    (cameAtomoHear (cameAtomoReset instanc)
      ([.level true (cameAtomoTeLong * 15), .level false (cameAtomoTeLong * 60)] ++
        parcelsUpload encState result parcels)).1 = parcels.map (reported instanc.generic) := by
  have nonempty : ∀ bits ∈ parcels, bits ≠ [] := fun bits listed =>
    List.ne_nil_of_length_pos (by rw [(framed bits listed).1]; decide)
  have high : cameAtomoMachine (cameAtomoReset instanc) (.level true (cameAtomoTeLong * 15)) =
      (none, cameAtomoReset instanc) := rfl
  have low : cameAtomoMachine (cameAtomoReset instanc) (.level false (cameAtomoTeLong * 60)) =
      (none, awaitParcel { cameAtomoReset instanc with
        decoder := { instanc.decoder with parserStep := .decoderData } }) := rfl
  rw [parcelsUpload_eq start result nonempty, List.cons_append, List.cons_append, List.nil_append,
    cameAtomoHear_cons high, cameAtomoHear_cons low, cameAtomoHear_parcels rfl framed]
  rfl

/-! ## Whole uploads -/

/-- The pairs of neighbouring bits that are alike. Between them the level changes
twice, which takes one more entry of the upload. -/
def likeNeighbours : List Bool → Nat
  | first :: second :: bits => (if first = second then 1 else 0) + likeNeighbours (second :: bits)
  | _ => 0

theorem length_pendingRun (prev : Bool) (bits : List Bool) :
    (pendingRun (!prev) (bits.map not)).length = bits.length + likeNeighbours (prev :: bits) := by
  induction bits generalizing prev with
  | nil => rfl
  | cons bit bits ih =>
    rw [List.map_cons, pendingRun, List.length_append, ih, likeNeighbours]
    cases prev <;> cases bit <;> simp [pendingResults] <;> omega

/-- The entries of a parcel but its pause. A frame that ends with a zero has one more. -/
theorem length_parcelPulses (bit : Bool) (bits : List Bool) : (parcelPulses (bit :: bits)).length =
      3 + bits.length + likeNeighbours (bit :: bits) + if bits.getLastD bit then 0 else 1 := by
  simp only [parcelPulses, List.getLastD_cons, List.map_cons, resultsFor, List.length_append, List.length_cons,
    List.length_nil, length_pendingRun]
  split
  · rename_i last
    simp only [List.length_nil]
    omega
  · rename_i last
    simp only [List.length_singleton]
    omega

/-- Whether a frame ends with a zero. -/
def endsLow (bits : List Bool) : Bool := !bits.getLastD true

/-- The entries of some parcels: two before the bits and the pause behind them, one for each
bit, and one for each pair of like neighbours and each frame that ends with a zero. -/
theorem length_parcelsUpload (start : encState.step = 0)
    (result : ManchesterEncoderResult) (nonempty : ∀ bits ∈ parcels, bits ≠ []) :
    (parcelsUpload encState result parcels).length =
      3 * parcels.length + (parcels.map List.length).sum + (parcels.map likeNeighbours).sum +
        parcels.countP endsLow := by
  rw [parcelsUpload_eq start result nonempty]
  induction parcels with
  | nil => rfl
  | cons bits parcels ih =>
    have rest := ih fun bits later => nonempty bits (List.mem_cons_of_mem _ later)
    obtain ⟨bit, bits, rfl⟩ := List.exists_cons_of_ne_nil (nonempty bits List.mem_cons_self)
    have low : endsLow (bit :: bits) = !bits.getLastD bit := by rw [endsLow, List.getLastD_cons]
    rw [List.flatMap_cons, List.length_append, rest, List.length_append, List.length_map, length_parcelPulses,
      List.map_cons, List.countP_cons, low]
    cases bits.getLastD bit <;> simp <;> omega

/-- The bit streams of the eight parcels that a code is sent in. -/
def parcelBits (instanc : CameAtomoGeneric) (code : BitVec 8) : List (List Bool) :=
  (parcelFrames instanc code).map (frameBits 62)

theorem parcelBits_framed (instanc : CameAtomoGeneric) (code : BitVec 8) :
    ∀ bits ∈ parcelBits instanc code, bits.length = 60 ∧ bits.head? = some true := by
  intro bits listed
  simp only [parcelBits, parcelFrames, List.map_map, List.mem_map, Function.comp_apply] at listed
  obtain ⟨i, -, rfl⟩ := listed
  obtain ⟨rest, first⟩ := frameBits_atomoEncrypt
    (atomoPack (parcelCounter ((instanc.data2 >>> 56).setWidth 8) i) instanc code)
  exact ⟨by simp [frameBits_eq], by rw [first, List.head?_cons]⟩

/-- The codes of the four buttons are even, and so every frame ends with a one. -/
theorem parcelBits_last (instanc : CameAtomoGeneric) {code : BitVec 8} (even : code.getLsbD 0 = false) :
    ∀ bits ∈ parcelBits instanc code, bits.getLast? = some true := by
  intro bits listed
  simp only [parcelBits, parcelFrames, List.map_map, List.mem_map, Function.comp_apply] at listed
  obtain ⟨i, -, rfl⟩ := listed
  generalize parcelCounter ((instanc.data2 >>> 56).setWidth 8) i = first
  have last : (atomoFrame (atomoEncrypt (atomoPack first instanc code))).getLsbD 0 = true := by
    rw [getLsbD_atomoFrame _ (by decide), AtomoPack.getLsbD_word _ (by decide)]
    refine (congrArg not (atomoEncrypt_last _ (by decide))).trans ?_
    simpa [atomoPack] using even
  rw [← last]
  rfl

def sentButton (custom : SubGhzCustomBtn) (btn : BitVec 8) : BitVec 8 :=
  cameAtomoGetBtnCode (custom.keepOriginal btn)

theorem sentButton_ok {custom : SubGhzCustomBtn} {btn : BitVec 8} (key : custom.customBtnId = SubGhzCustomBtn.ok)
    (original : custom.customBtnOriginal = 0 ∨ custom.customBtnOriginal = btn) : sentButton custom btn = btn := by
  have kept : (custom.keepOriginal btn).customBtnOriginal = btn := by
    unfold SubGhzCustomBtn.keepOriginal
    split
    · rfl
    · rename_i known
      exact original.resolve_left known
  have same : (custom.keepOriginal btn).customBtnId = SubGhzCustomBtn.ok := by
    unfold SubGhzCustomBtn.keepOriginal
    split
    · exact key
    · exact key
  simp only [sentButton, cameAtomoGetBtnCode, kept, same]
  split <;> rfl

structure ParcelReading where
  dataCountBit : Nat
  serial : BitVec 32
  cnt : BitVec 32
  btn : BitVec 8
  cnt2 : BitVec 8
  deriving DecidableEq, Repr

def readParcel (custom : SubGhzCustomBtn) (report : CameAtomoGeneric) : ParcelReading :=
  let found := (cameAtomoRemoteController custom report).1
  ⟨report.dataCountBit, found.serial, found.cnt, found.btn, found.cnt2⟩

/-- The upload fits and is heard as its eight parcels, each with the serial number, the
button and the counter that were sent. -/
def UploadReadBack (rollingCounterMult : BitVec 8) (custom listener : SubGhzCustomBtn)
    (encState : ManchesterEncoderState) (result : ManchesterEncoderResult) (instanc : CameAtomoGeneric)
    (btn : BitVec 8) (decoder : SubGhzProtocolDecoderCameAtomo) : Prop :=
  ∃ encoder custom', cameAtomoGetUpload rollingCounterMult custom encState result instanc btn =
      some (encoder, custom') ∧
    (cameAtomoHear (cameAtomoReset decoder) encoder.upload).1.map (readParcel listener) =
      (List.range 8).map fun i => ⟨62, cameAtomoSerial instanc, encoder.generic.cnt, sentButton custom btn,
        parcelCounter ((instanc.data2 >>> 56).setWidth 8) i &&& 0x7F#8⟩

theorem cameAtomoNextCnt_fits (rollingCounterMult : BitVec 8) (cnt : BitVec 32) :
    cameAtomoNextCnt rollingCounterMult cnt ≤ 0xFFFF#32 := by
  unfold cameAtomoNextCnt
  split
  · split
    · decide
    · rename_i within
      exact BitVec.not_lt.mp within
  · decide

theorem button_of_code {btn : BitVec 8} (known : btn ∈ [1#8, 2#8, 3#8, 4#8]) (stale : BitVec 8) :
    buttonOfCode (((codeOfButton btn) <<< 4) >>> 4) stale = btn := by
  simp only [List.mem_cons, List.not_mem_nil, or_false] at known
  obtain rfl | rfl | rfl | rfl := known <;> rfl

theorem readParcel_reported (listener : SubGhzCustomBtn) (generic instanc : CameAtomoGeneric)
    (fits : instanc.cnt ≤ 0xFFFF#32) {btn : BitVec 8} (known : btn ∈ [1#8, 2#8, 3#8, 4#8]) (first : BitVec 8) :
    readParcel listener (reported generic
        (frameBits 62 (atomoFrame (atomoEncrypt (atomoPack first instanc (codeOfButton btn)))))) =
      ⟨62, cameAtomoSerial instanc, instanc.cnt, btn, first &&& 0x7F#8⟩ := by
  obtain ⟨serial, cnt, cnt2, button⟩ := remoteController_collected listener
    (reported generic (frameBits 62 (atomoFrame (atomoEncrypt (atomoPack first instanc (codeOfButton btn))))))
    first (codeOfButton btn) instanc fits rfl
  rw [button_of_code known] at button
  simp only [readParcel, serial, cnt, cnt2, button]
  rfl

/-- A first byte of seven bits comes back whole. -/
theorem atomoDecrypt_of_seven (seven : pack.get 0 < 0x80#8) :
    atomoDecrypt (atomoEncrypt pack) = pack := by
  have whole : ∀ first : BitVec 8, first < 0x80#8 → first &&& 0x7F#8 = first := by decide
  rw [atomoDecrypt_atomoEncrypt, whole _ seven]
  exact Vector.set_getElem_self AtomoPack.first_inside

section Upload
variable (rollingCounterMult : BitVec 8) (custom listener : SubGhzCustomBtn)
  (encState : ManchesterEncoderState) (result : ManchesterEncoderResult) (instanc : CameAtomoGeneric)
  (btn : BitVec 8) (decoder : SubGhzProtocolDecoderCameAtomo)

/-- The code that goes out, with the counter moved on. -/
def sentCode : CameAtomoGeneric :=
  { instanc with cnt := cameAtomoNextCnt rollingCounterMult instanc.cnt }

/-- The bit streams of the parcels of an upload. -/
def sentBits : List (List Bool) :=
  parcelBits (sentCode rollingCounterMult instanc) (codeOfButton (sentButton custom btn))

def sentUpload : List LevelDuration :=
  [.level true (cameAtomoTeLong * 15), .level false (cameAtomoTeLong * 60)] ++
    parcelsUpload (manchesterEncoderReset encState) result (sentBits rollingCounterMult custom instanc btn)

def sentEncoder : SubGhzProtocolEncoderCameAtomo where
  upload := sentUpload rollingCounterMult custom encState result instanc btn
  generic := { sentCode rollingCounterMult instanc with
    cnt2 := instanc.cnt2 + 1
    data := atomoFrame (atomoEncrypt (atomoPack (instanc.cnt2 + 1) (sentCode rollingCounterMult instanc)
      (codeOfButton (sentButton custom btn)))) }

/-- An upload of frames of 60 bits is stored if it has room. -/
theorem cameAtomoGetUpload_eq (length : instanc.dataCountBit = 62) :
    cameAtomoGetUpload rollingCounterMult custom encState result instanc btn =
      if (sentUpload rollingCounterMult custom encState result instanc btn).length ≤ cameAtomoSizeUpload then
        some (sentEncoder rollingCounterMult custom encState result instanc btn, custom.keepOriginal btn)
      else none := by
  simp only [cameAtomoGetUpload, length, sentUpload, sentEncoder, sentBits, sentCode, sentButton, parcelBits]

variable {custom btn}

theorem sentBits_framed : ∀ bits ∈ sentBits rollingCounterMult custom instanc btn,
    bits.length = 60 ∧ bits.head? = some true := parcelBits_framed _ _

theorem length_sentUpload (known : sentButton custom btn ∈ [1#8, 2#8, 3#8, 4#8]) :
    (sentUpload rollingCounterMult custom encState result instanc btn).length =
      506 + ((sentBits rollingCounterMult custom instanc btn).map likeNeighbours).sum := by
  have even : (codeOfButton (sentButton custom btn)).getLsbD 0 = false := by
    simp only [List.mem_cons, List.not_mem_nil, or_false] at known
    obtain same | same | same | same := known <;> rw [same] <;> rfl
  have parcels : (sentBits rollingCounterMult custom instanc btn).length = 8 := by
    simp [sentBits, parcelBits, parcelFrames]
  have framed : ∀ bits ∈ sentBits rollingCounterMult custom instanc btn, bits.length = 60 ∧ bits.head? = some true :=
    sentBits_framed rollingCounterMult instanc
  have nonempty : ∀ bits ∈ sentBits rollingCounterMult custom instanc btn, bits ≠ [] := fun bits listed =>
    List.ne_nil_of_length_pos (by rw [(framed bits listed).1]; decide)
  have lengths : ((sentBits rollingCounterMult custom instanc btn).map List.length).sum = 480 := by
    rw [List.map_congr_left fun bits listed => (framed bits listed).1, List.map_const', List.sum_replicate_nat, parcels]
  have high : (sentBits rollingCounterMult custom instanc btn).countP endsLow = 0 := by
    refine List.countP_eq_zero.mpr fun bits listed => ?_
    rw [endsLow, List.getLastD_eq_getLast?, parcelBits_last _ even bits listed]
    decide
  rw [sentUpload, List.length_append, length_parcelsUpload rfl result nonempty]
  simp only [List.length_cons, List.length_nil]
  omega

theorem readParcel_upload (known : sentButton custom btn ∈ [1#8, 2#8, 3#8, 4#8]) :
    (cameAtomoHear (cameAtomoReset decoder)
        (sentUpload rollingCounterMult custom encState result instanc btn)).1.map (readParcel listener) =
      (List.range 8).map fun i => ⟨62, cameAtomoSerial instanc, cameAtomoNextCnt rollingCounterMult instanc.cnt,
        sentButton custom btn, parcelCounter ((instanc.data2 >>> 56).setWidth 8) i &&& 0x7F#8⟩ := by
  rw [sentUpload, cameAtomoHear_upload decoder (sentBits_framed _ _) rfl, sentBits, parcelBits, parcelFrames,
    List.map_map, List.map_map, List.map_map]
  refine List.map_congr_left fun i _ => ?_
  exact readParcel_reported listener decoder.generic (sentCode rollingCounterMult instanc)
    (cameAtomoNextCnt_fits _ _) known _

end Upload

/-- **Parcels.** An upload is read back, parcel by parcel, exactly if its entries have
room: in the eight frames together at most 394 neighbouring bits are alike. The button
is the one asked for unless a direction key replaces it, and decryption undoes
encryption. -/
theorem cameAtomo_read_back_iff (rollingCounterMult : BitVec 8) (custom listener : SubGhzCustomBtn)
    (encState : ManchesterEncoderState) (result : ManchesterEncoderResult) (instanc : CameAtomoGeneric)
    (btn : BitVec 8) (decoder : SubGhzProtocolDecoderCameAtomo) (length : instanc.dataCountBit = 62)
    (known : sentButton custom btn ∈ [1#8, 2#8, 3#8, 4#8]) :
    (UploadReadBack rollingCounterMult custom listener encState result instanc btn decoder ↔
      ((sentBits rollingCounterMult custom instanc btn).map likeNeighbours).sum ≤ 394) ∧
    (custom.customBtnId = SubGhzCustomBtn.ok →
      custom.customBtnOriginal = 0 ∨ custom.customBtnOriginal = btn → sentButton custom btn = btn) ∧
    ∀ pack : AtomoPack, pack[0] < 0x80#8 → atomoDecrypt (atomoEncrypt pack) = pack := by
  refine ⟨?_, sentButton_ok, atomoDecrypt_of_seven⟩
  have stored := cameAtomoGetUpload_eq rollingCounterMult custom encState result instanc btn length
  have room : (sentUpload rollingCounterMult custom encState result instanc btn).length ≤ cameAtomoSizeUpload ↔
      ((sentBits rollingCounterMult custom instanc btn).map likeNeighbours).sum ≤ 394 := by
    rw [length_sentUpload _ _ _ _ known, cameAtomoSizeUpload]
    omega
  rw [← room]
  constructor
  · rintro ⟨encoder, custom', sent, -⟩
    rw [stored] at sent
    by_contra full
    rw [if_neg full] at sent
    exact nomatch sent
  · intro fits
    rw [if_pos fits] at stored
    exact ⟨_, _, stored, readParcel_upload rollingCounterMult listener encState result instanc decoder known⟩

def ordinaryCode : CameAtomoGeneric where
  data := 0
  serial := 0xA083
  dataCountBit := 62
  btn := 1
  cnt := 0x1FC
  cnt2 := 4
  seed := 0
  data2 := 0x0401FC0000A08300

/-- A receiver before its first sample. -/
def cameAtomoIdle : SubGhzProtocolDecoderCameAtomo where
  decoder := ⟨.reset, 0, 0, 0⟩
  generic := ordinaryCode
  manchesterSavedState := .start1

theorem cameAtomo_read_back_iff_ordinary :
    UploadReadBack 1 SubGhzCustomBtn.reset SubGhzCustomBtn.reset ⟨false, 0⟩ .shortLow ordinaryCode 1 cameAtomoIdle :=
  (cameAtomo_read_back_iff 1 SubGhzCustomBtn.reset SubGhzCustomBtn.reset ⟨false, 0⟩ .shortLow ordinaryCode 1
    cameAtomoIdle rfl (by decide)).1.mpr (by decide +kernel)

/-- The last parcel counter restarts at zero, whose key stream is clear: a code of zeros
then takes 946 entries, and the upload has 900. -/
theorem cameAtomo_upload_overflows :
    ¬ UploadReadBack 1 SubGhzCustomBtn.reset SubGhzCustomBtn.reset ⟨false, 0⟩ .shortLow
      { ordinaryCode with serial := 0, cnt := 0xFFFF, cnt2 := 0x7F, data2 := 0x7FFFFF0000000000 } 1
      cameAtomoIdle := by
  rintro ⟨encoder, custom', sent, -⟩
  have overflows : cameAtomoGetUpload 1 SubGhzCustomBtn.reset ⟨false, 0⟩ .shortLow
      { ordinaryCode with serial := 0, cnt := 0xFFFF, cnt2 := 0x7F, data2 := 0x7FFFFF0000000000 } 1 = none := by
    decide +kernel
  exact nomatch overflows.symm.trans sent

end Xtreme.SubGhz
