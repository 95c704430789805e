import Xtreme.BitLib.BitLib
import Xtreme.Library.WordBits

/-! Parity bits put in (`bit_lib_add_parity`), asked for (`bit_lib_test_parity`)
and taken out again (`bit_lib_remove_bit_every_nth`). The lengths the last two
are given are bytes, which a length that was put together may not fit. -/
namespace Xtreme.BitLib
open Xtreme.Library
open ShiftRegister (push ofBits)

variable {size destSize : Nat}

/-- The locals of `bit_lib_add_parity`. -/
structure AddParityState (size : Nat) where
  dest : Bytes size
  parityWord : BitVec 32
  j : Nat
  bitCount : Nat

/-- One turn of the inner loop: a bit is copied and enters the parity word. -/
def addParityBit (data : Bytes size) (position destPosition word : Nat) (state : AddParityState destSize)
    (bit : Nat) : AddParityState destSize :=
  { state with
    parityWord := (state.parityWord <<< 1) |||
      (BitVec.ofBool (bitLibGetBit data (position + word + bit))).setWidth 32
    dest := bitLibSetBit state.dest (destPosition + state.j) (bitLibGetBit data (position + word + bit))
    j := state.j + 1 }

def addParityMarker (parityWord : BitVec 32) : BitLibParity → Bool
  | .always0 => false
  | .always1 => true
  | .even => (bitLibTestParity32 parityWord .odd ^^ false) ^^ true
  | .odd => (bitLibTestParity32 parityWord .odd ^^ true) ^^ true

/-- One turn of the outer loop, from bit `word` of the source on. -/
def addParityBlock (data : Bytes size) (position destPosition parityLength : Nat) (parity : BitLibParity)
    (state : AddParityState destSize) (word : Nat) : AddParityState destSize :=
  let state := (List.range (parityLength - 1)).foldl (addParityBit data position destPosition word) state
  { dest := bitLibSetBit state.dest (destPosition + state.j) (addParityMarker state.parityWord parity)
    parityWord := 0
    j := state.j + 1
    bitCount := state.bitCount + parityLength }

/-- The bits of the source at which a block begins: the loop of the source
counts up by `parity_length - 1`, and would not end for a block of one bit. -/
def addParityWords (sourceLength parityLength : Nat) : List Nat :=
  (List.range ((sourceLength + (parityLength - 2)) / (parityLength - 1))).map (· * (parityLength - 1))

/-- The number of bits written, and the array they were written to. -/
def bitLibAddParity (data : Bytes size) (position : Nat) (dest : Bytes destSize) (destPosition : Nat)
    (sourceLength : BitVec 8) (parityLength : Nat) (parity : BitLibParity) : Nat × Bytes destSize :=
  let state := (addParityWords sourceLength.toNat parityLength).foldl
    (addParityBlock data position destPosition parityLength parity) ⟨dest, 0, 0, 0⟩
  (state.bitCount, state.dest)

/-- The word of a block, once its bits have entered it. -/
def parityWordOf (data : Bytes size) (position count : Nat) : BitVec 32 := ofBits (bitsFrom data position count)

/-- Bit `place` of the output: the data bits of a block, and then its marker. -/
def addedBit (data : Bytes size) (position parityLength : Nat) (parity : BitLibParity) (place : Nat) : Bool :=
  let block := position + place / parityLength * (parityLength - 1)
  if place % parityLength < parityLength - 1 then bitLibGetBit data (block + place % parityLength)
  else addParityMarker (parityWordOf data block (parityLength - 1)) parity

theorem addParityBits (data : Bytes size) (position destPosition word : Nat) (state : AddParityState destSize)
    (count : Nat) :
    (List.range count).foldl (addParityBit data position destPosition word) state =
      { state with
        parityWord := (bitsFrom data (position + word) count).foldl push state.parityWord
        dest := (List.range count).foldl (fun dest i =>
          bitLibSetBit dest (destPosition + state.j + i) (bitLibGetBit data (position + word + i))) state.dest
        j := state.j + count } := by
  induction count with
  | zero => rfl
  | succ count ih =>
    rw [List.range_succ, List.foldl_append, ih, List.foldl_append, ← bitsFrom_append, List.foldl_append]
    simp only [List.foldl_cons, addParityBit, ← Nat.add_assoc]
    rfl

/-- After some blocks: their bits are in place, and nothing else has changed. -/
structure Added (data : Bytes size) (position : Nat) (dest : Bytes destSize) (destPosition parityLength : Nat)
    (mode : BitLibParity) (blocks : Nat) (state : AddParityState destSize) : Prop where
  word : state.parityWord = 0
  j : state.j = blocks * parityLength
  bitCount : state.bitCount = blocks * parityLength
  bits : ∀ place, bitLibGetBit state.dest place =
    if destPosition ≤ place ∧ place < destPosition + blocks * parityLength then
      addedBit data position parityLength mode (place - destPosition)
    else bitLibGetBit dest place

variable {data : Bytes size} {dest : Bytes destSize} {position destPosition parityLength blocks : Nat}
  {mode : BitLibParity}

theorem addedBit_inBlock {offset : Nat} (within : offset < parityLength) :
    addedBit data position parityLength mode (blocks * parityLength + offset) =
      if offset < parityLength - 1 then bitLibGetBit data (position + blocks * (parityLength - 1) + offset)
      else addParityMarker (parityWordOf data (position + blocks * (parityLength - 1)) (parityLength - 1)) mode := by
  rw [addedBit, Nat.mul_comm blocks parityLength, Nat.mul_add_div (by omega), Nat.div_eq_of_lt within,
    Nat.mul_add_mod, Nat.mod_eq_of_lt within, Nat.add_zero]

theorem addParityBlock_added {state : AddParityState destSize} (several : 2 ≤ parityLength)
    (added : Added data position dest destPosition parityLength mode blocks state)
    (inside : destPosition + (blocks + 1) * parityLength ≤ 8 * destSize) :
    Added data position dest destPosition parityLength mode (blocks + 1)
      (addParityBlock data position destPosition parityLength mode state (blocks * (parityLength - 1))) := by
  obtain ⟨word, j, bitCount, bits⟩ := added
  have next : (blocks + 1) * parityLength = blocks * parityLength + parityLength := Nat.succ_mul _ _
  rw [addParityBlock, addParityBits, word, j]
  refine ⟨rfl, by simp only; omega, by simp only; omega, fun place => ?_⟩
  simp only
  rw [bitLibGetBit_setBit _ (by omega),
    bitLibGetBit_setRun _ _ (fun i => bitLibGetBit data (position + blocks * (parityLength - 1) + i)) (by omega), bits]
  by_cases marker : place = destPosition + (blocks * parityLength + (parityLength - 1))
  · have offset : place - destPosition = blocks * parityLength + (parityLength - 1) := by omega
    rw [if_pos marker, if_pos (by omega), offset, addedBit_inBlock (by omega), if_neg (Nat.lt_irrefl _)]
    rfl
  · rw [if_neg marker]
    by_cases copied : destPosition + blocks * parityLength ≤ place ∧
        place < destPosition + blocks * parityLength + (parityLength - 1)
    · have offset : place - destPosition =
          blocks * parityLength + (place - (destPosition + blocks * parityLength)) := by omega
      rw [if_pos copied, if_pos (by omega), offset, addedBit_inBlock (by omega), if_pos (by omega)]
    · rw [if_neg copied]
      by_cases earlier : destPosition ≤ place ∧ place < destPosition + blocks * parityLength
      · rw [if_pos earlier, if_pos (by omega)]
      · rw [if_neg earlier, if_neg (by omega)]

theorem added_blocks (several : 2 ≤ parityLength) (inside : destPosition + blocks * parityLength ≤ 8 * destSize) :
    Added data position dest destPosition parityLength mode blocks
      (((List.range blocks).map (· * (parityLength - 1))).foldl
        (addParityBlock data position destPosition parityLength mode) ⟨dest, 0, 0, 0⟩) := by
  induction blocks with
  | zero =>
    refine ⟨rfl, (Nat.zero_mul _).symm, (Nat.zero_mul _).symm, fun place => ?_⟩
    rw [if_neg (by omega)]
    rfl
  | succ blocks ih =>
    have next : (blocks + 1) * parityLength = blocks * parityLength + parityLength := Nat.succ_mul _ _
    rw [List.range_succ, List.map_append, List.foldl_append]
    exact addParityBlock_added several (ih (by omega)) inside

theorem addParityWords_eq (several : 2 ≤ parityLength) :
    addParityWords (blocks * (parityLength - 1)) parityLength = (List.range blocks).map (· * (parityLength - 1)) := by
  have rest : parityLength - 2 < parityLength - 1 := by omega
  rw [addParityWords, Nat.mul_comm, Nat.mul_add_div (by omega), Nat.div_eq_of_lt rest, Nat.add_zero]

theorem bitLibAddParity_added {sourceLength : BitVec 8} (several : 2 ≤ parityLength)
    (whole : sourceLength.toNat = blocks * (parityLength - 1))
    (inside : destPosition + blocks * parityLength ≤ 8 * destSize) :
    (bitLibAddParity data position dest destPosition sourceLength parityLength mode).1 = blocks * parityLength ∧
      ∀ place < blocks * parityLength,
        bitLibGetBit (bitLibAddParity data position dest destPosition sourceLength parityLength mode).2
          (destPosition + place) = addedBit data position parityLength mode place := by
  have added : Added data position dest destPosition parityLength mode blocks _ := added_blocks several inside
  rw [bitLibAddParity, whole, addParityWords_eq several]
  refine ⟨added.bitCount, fun place early => ?_⟩
  rw [added.bits, if_pos (by omega), Nat.add_sub_cancel_left]

theorem bitsFrom_added {output : Bytes destSize} (several : 2 ≤ parityLength)
    (bits : ∀ place < blocks * parityLength,
      bitLibGetBit output (destPosition + place) = addedBit data position parityLength mode place)
    {block : Nat} (within : block < blocks) :
    bitsFrom output (destPosition + block * parityLength) parityLength =
      bitsFrom data (position + block * (parityLength - 1)) (parityLength - 1) ++
        [addParityMarker (parityWordOf data (position + block * (parityLength - 1)) (parityLength - 1)) mode] := by
  have room : block * parityLength + parityLength ≤ blocks * parityLength := by
    rw [← Nat.succ_mul]
    exact Nat.mul_le_mul_right _ within
  have split : bitsFrom output (destPosition + block * parityLength) parityLength =
      bitsFrom output (destPosition + block * parityLength) (parityLength - 1) ++
        bitsFrom output (destPosition + block * parityLength + (parityLength - 1)) 1 := by
    rw [bitsFrom_append, Nat.sub_add_cancel (by omega)]
  rw [split]
  congr 1
  · apply List.map_congr_left
    intro offset inBlock
    rw [List.mem_range] at inBlock
    rw [Nat.add_assoc, bits _ (by omega), addedBit_inBlock (by omega), if_pos inBlock]
  · simp only [bitsFrom, List.range_one, List.map_cons, List.map_nil, Nat.add_zero]
    rw [Nat.add_assoc, bits _ (by omega), addedBit_inBlock (by omega), if_neg (Nat.lt_irrefl _)]

theorem testParity32_ofBits (bits : List Bool) (short : bits.length ≤ 32) :
    bitLibTestParity32 (ofBits bits) .even = parity bits ∧ bitLibTestParity32 (ofBits bits) .odd = !parity bits := by
  rw [bitLibTestParity32, bitLibTestParity32, parity_ofBits short]
  exact ⟨rfl, rfl⟩

/-- The marker modes find their markers. The other two ask for the parity that
the output does not have: `bit_lib_add_parity` makes the ones of a block even
in the even mode, and `bit_lib_test_parity` wants them odd there. -/
theorem testParityBlock_added {output : Bytes destSize} (several : 2 ≤ parityLength) (short : parityLength ≤ 32)
    (bits : ∀ place < blocks * parityLength,
      bitLibGetBit output (destPosition + place) = addedBit data position parityLength mode place)
    {block : Nat} (within : block < blocks) :
    bitLibTestParityBlock output destPosition mode parityLength block =
      decide (mode = .always0 ∨ mode = .always1) := by
  have room : block * parityLength + parityLength ≤ blocks * parityLength := by
    rw [← Nat.succ_mul]
    exact Nat.mul_le_mul_right _ within
  have marker := bits (block * parityLength + (parityLength - 1)) (by omega)
  rw [addedBit_inBlock (by omega), if_neg (Nat.lt_irrefl _)] at marker
  have place : destPosition + block * parityLength + parityLength - 1 =
      destPosition + (block * parityLength + (parityLength - 1)) := by omega
  have dataWord := (testParity32_ofBits (bitsFrom data (position + block * (parityLength - 1)) (parityLength - 1))
    (by rw [length_bitsFrom]; omega)).2
  have blockWord := testParity32_ofBits (bitsFrom output (destPosition + block * parityLength) parityLength)
    (by rw [length_bitsFrom]; exact short)
  rw [bitsFrom_added several bits within, parity_append_bit] at blockWord
  cases mode with
  | always0 => rw [bitLibTestParityBlock, place, marker]; rfl
  | always1 => rw [bitLibTestParityBlock, place, marker]; rfl
  | even =>
    rw [bitLibTestParityBlock, bitLibGetBits32_eq _ _ short, bitsFrom_added several bits within, blockWord.1,
      addParityMarker, parityWordOf, dataWord]
    simp
  | odd =>
    rw [bitLibTestParityBlock, bitLibGetBits32_eq _ _ short, bitsFrom_added several bits within, blockWord.2,
      addParityMarker, parityWordOf, dataWord]
    simp

theorem testParity_added {output : Bytes destSize} (several : 2 ≤ parityLength) (short : parityLength ≤ 32)
    (bits : ∀ place < blocks * parityLength,
      bitLibGetBit output (destPosition + place) = addedBit data position parityLength mode place) :
    bitLibTestParity output destPosition (blocks * parityLength) mode parityLength = true ↔
      mode = .always0 ∨ mode = .always1 ∨ blocks = 0 := by
  rw [bitLibTestParity, Nat.mul_div_cancel _ (by omega), List.all_eq_true]
  constructor
  · intro all
    rcases Nat.eq_zero_or_pos blocks with none | some
    · exact .inr (.inr none)
    · have first := all 0 (List.mem_range.mpr some)
      rw [testParityBlock_added several short bits some, decide_eq_true_eq] at first
      exact first.imp_right .inl
  · intro accepted block member
    have within := List.mem_range.mp member
    rw [testParityBlock_added several short bits within, decide_eq_true_eq]
    rcases accepted with always0 | always1 | none
    · exact .inl always0
    · exact .inr always1
    · omega

theorem bitLibRemoveBitEveryNth_length (data : Bytes size) {position length n : Nat} (several : 2 ≤ n)
    (inside : position + length ≤ 8 * size) :
    (bitLibRemoveBitEveryNth data position length n).1 = keptCount n length := by
  have count := (removing_loop data several inside).count
  unfold bitLibRemoveBitEveryNth
  dsimp only
  split_ifs with held
  · exact count
  · omega

/-- How many bits of some whole blocks and a part of one stay. -/
theorem keptCount_inBlock {n offset : Nat} (within : offset < n) :
    keptCount n (blocks * n + offset) = blocks * (n - 1) + offset := by
  have whole : blocks * n = blocks * (n - 1) + blocks := by
    rw [← Nat.mul_succ]
    congr 1
    omega
  rw [keptCount, Nat.mul_comm blocks n, Nat.mul_add_div (by omega), Nat.div_eq_of_lt within, Nat.mul_comm n blocks]
  omega

theorem keptCount_mono {n counter counter' : Nat} (ordered : counter ≤ counter') :
    keptCount n counter ≤ keptCount n counter' := by
  induction counter' with
  | zero => exact Nat.le_of_eq (by rw [Nat.le_zero.mp ordered])
  | succ counter' ih =>
    rcases Nat.lt_or_eq_of_le ordered with before | same
    · rw [keptCount_succ]
      split <;> omega
    · exact Nat.le_of_eq (by rw [same])

/-- Of two bits fewer, at least one fewer stays. -/
theorem keptCount_lt {n counter : Nat} (several : 2 ≤ n) (fewer : counter + 2 ≤ blocks * n) :
    keptCount n counter < blocks * (n - 1) := by
  obtain ⟨before, rfl⟩ : ∃ before, blocks = before + 1 := ⟨blocks - 1, by
    rcases Nat.eq_zero_or_pos blocks with none | some
    · rw [none] at fewer
      omega
    · omega⟩
  rw [Nat.succ_mul] at fewer
  have bound := keptCount_mono (n := n) (show counter ≤ before * n + (n - 2) by omega)
  rw [keptCount_inBlock (by omega)] at bound
  rw [Nat.succ_mul]
  omega

theorem keptPlace_eq {n : Nat} (several : 2 ≤ n) (place : Nat) :
    keptPlace n place = place / (n - 1) * n + place % (n - 1) := by
  have parts := Nat.div_add_mod place (n - 1)
  have whole : place / (n - 1) * n = (n - 1) * (place / (n - 1)) + place / (n - 1) := by
    rw [Nat.mul_comm (n - 1), ← Nat.mul_succ]
    congr 1
    omega
  rw [keptPlace]
  omega

theorem keptPlace_lt {n place : Nat} (several : 2 ≤ n) (inside : place < blocks * (n - 1)) :
    keptPlace n place < blocks * n := by
  have block : place / (n - 1) < blocks := Nat.div_lt_of_lt_mul (by rwa [Nat.mul_comm])
  have small := Nat.mod_lt place (show 0 < n - 1 by omega)
  have room : place / (n - 1) * n + n ≤ blocks * n := by
    rw [← Nat.succ_mul]
    exact Nat.mul_le_mul_right _ block
  rw [keptPlace_eq several]
  omega

/-- Taking every last bit of a block out leaves the data bits. -/
theorem addedBit_keptPlace (several : 2 ≤ parityLength) (place : Nat) :
    addedBit data position parityLength mode (keptPlace parityLength place) = bitLibGetBit data (position + place) := by
  have parts := Nat.div_add_mod place (parityLength - 1)
  have small := Nat.mod_lt place (show 0 < parityLength - 1 by omega)
  rw [keptPlace_eq several, addedBit_inBlock (by omega), if_pos small, Nat.mul_comm (place / _), Nat.add_assoc, parts]

/-- What is put together is accepted with the same mode, and taking the parity
out gives the source back, length and bits. Lengths are passed on as bytes. -/
def ParityRoundTrip (data : Bytes size) (position : Nat) (dest : Bytes destSize) (destPosition : Nat)
    (sourceLength : BitVec 8) (parityLength : Nat) (mode : BitLibParity) : Prop :=
  let added := bitLibAddParity data position dest destPosition sourceLength parityLength mode
  let length := added.1 % 256
  bitLibTestParity added.2 destPosition length mode parityLength = true ∧
    (bitLibRemoveBitEveryNth added.2 destPosition length parityLength).1 = sourceLength.toNat ∧
    ∀ i < sourceLength.toNat,
      bitLibGetBit (bitLibRemoveBitEveryNth added.2 destPosition length parityLength).2 (destPosition + i) =
        bitLibGetBit data (position + i)

/-- **Parity that was added is found and taken out again exactly in the marker
modes, as long as the output has fewer than 256 bits.** In the even and the odd
mode the check wants the other parity of each block, so only an empty source
passes it; a longer output is cut to a length that fits a byte. -/
theorem add_parity_round_trip_iff (data : Bytes size) (position : Nat) (dest : Bytes destSize) (destPosition : Nat)
    (sourceLength : BitVec 8) (parityLength : Nat) (mode : BitLibParity) (several : 2 ≤ parityLength)
    (short : parityLength ≤ 32) (whole : (parityLength - 1) ∣ sourceLength.toNat)
    (room : destPosition + sourceLength.toNat / (parityLength - 1) * parityLength ≤ 8 * destSize) :
    ParityRoundTrip data position dest destPosition sourceLength parityLength mode ↔
      (mode = .always0 ∨ mode = .always1 ∨ sourceLength.toNat = 0) ∧
        sourceLength.toNat / (parityLength - 1) * parityLength < 256 := by
  obtain ⟨blocks, shape⟩ := whole
  have positive : 0 < parityLength - 1 := by omega
  rw [shape, Nat.mul_div_cancel_left _ positive] at room
  have source : sourceLength.toNat = blocks * (parityLength - 1) := by rw [shape, Nat.mul_comm]
  have emptySource : sourceLength.toNat = 0 ↔ blocks = 0 := by
    rw [source, Nat.mul_eq_zero]
    omega
  obtain ⟨count, bits⟩ := @bitLibAddParity_added _ _ data dest position destPosition _ blocks mode _ several source room
  rw [ParityRoundTrip, emptySource, source, Nat.mul_div_cancel _ positive]
  simp only [count]
  by_cases fits : blocks * parityLength < 256
  · rw [Nat.mod_eq_of_lt fits, testParity_added several short bits]
    refine ⟨fun accepted => ⟨accepted.1, fits⟩, fun accepted => ⟨accepted.1, ?_, fun i early => ?_⟩⟩
    · rw [bitLibRemoveBitEveryNth_length _ several room]
      exact @keptCount_inBlock blocks _ 0 (by omega)
    · have kept : keptCount parityLength (blocks * parityLength) = blocks * (parityLength - 1) :=
        @keptCount_inBlock blocks _ 0 (by omega)
      rw [bitLibGetBit_removeBitEveryNth _ several room, if_pos (by omega), Nat.add_sub_cancel_left,
        bits _ (keptPlace_lt several early), addedBit_keptPlace several]
  · refine ⟨fun trip => ?_, fun accepted => absurd accepted.2 fits⟩
    have cut : blocks * parityLength % 256 + 2 ≤ blocks * parityLength := by omega
    have inside : destPosition + blocks * parityLength % 256 ≤ 8 * destSize := by omega
    have fewer := keptCount_lt several cut
    rw [← bitLibRemoveBitEveryNth_length _ several inside, trip.2.1] at fewer
    exact absurd fewer (Nat.lt_irrefl _)

theorem add_parity_round_trip_iff_byte :
    ParityRoundTrip (#v[0xA5] : Bytes 1) 0 (#v[0, 0] : Bytes 2) 3 8 5 .always1 ↔
      (BitLibParity.always1 = .always0 ∨ BitLibParity.always1 = .always1 ∨ (8 : BitVec 8).toNat = 0) ∧
        (8 : BitVec 8).toNat / (5 - 1) * 5 < 256 :=
  add_parity_round_trip_iff _ 0 _ 3 8 5 .always1 (by decide) (by decide) (by decide) (by decide)

/-- One bit with its even parity is not accepted as even. -/
theorem even_parity_refused :
    ¬ ParityRoundTrip (#v[0x80] : Bytes 1) 0 (#v[0] : Bytes 1) 0 1 2 .even := by
  intro trip
  exact absurd trip.1 (by decide +kernel)

end Xtreme.BitLib
