import Xtreme.Library.ShiftRegister

/-! Bits in byte arrays (`lib/bit_lib/bit_lib.c`): bit `position` is the bit
`position % 8` of byte `position / 8`, the highest bit of a byte first.

An array is known by its bits (`bytes_ext`), and every operation is described
by what `bitLibGetBit` gives after it. A read past the array gives zero; no
caller here makes one. -/
namespace Xtreme.BitLib
open Xtreme.Library
open ShiftRegister (push ofBits)

abbrev Bytes (size : Nat) := Vector (BitVec 8) size

variable {size : Nat}

def byteAt (data : Bytes size) (index : Nat) : BitVec 8 := (data[index]?).getD 0

def bitLibPushBit (data : Bytes size) (dataSize : Nat) (bit : Bool) : Bytes size :=
  let lastIndex := dataSize - 1
  let data := (List.range lastIndex).foldl (fun data i =>
    data.setIfInBounds i ((byteAt data i <<< 1) ||| ((byteAt data (i + 1) >>> 7) &&& 1#8))) data
  data.setIfInBounds lastIndex ((byteAt data lastIndex <<< 1) ||| (BitVec.ofBool bit).setWidth 8)

def bitLibSetBit (data : Bytes size) (position : Nat) (bit : Bool) : Bytes size :=
  if bit then
    data.setIfInBounds (position / 8) (byteAt data (position / 8) ||| (1#8 <<< (7 - position % 8)))
  else
    data.setIfInBounds (position / 8) (byteAt data (position / 8) &&& ~~~(1#8 <<< (7 - position % 8)))

/-- A length outside 1 to 8 stops the firmware at a `furi_check`. -/
def bitLibSetBits (data : Bytes size) (position : Nat) (byte : BitVec 8) (length : Nat) : Bytes size :=
  (List.range length).foldl (fun data i =>
    bitLibSetBit data (position + i) ((byte >>> ((length - 1) - i)) &&& 1#8 ≠ 0)) data

def bitLibGetBit (data : Bytes size) (position : Nat) : Bool :=
  (byteAt data (position / 8) >>> (7 - position % 8)) &&& 1#8 ≠ 0

def bitLibGetBits (data : Bytes size) (position length : Nat) : BitVec 8 :=
  let shift := position % 8
  if shift = 0 then byteAt data (position / 8) >>> (8 - length)
  else
    let value := byteAt data (position / 8) <<< shift
    let value := value ||| (byteAt data (position / 8 + 1) >>> (8 - shift))
    value >>> (8 - length)

def bitLibGetBits16 (data : Bytes size) (position length : Nat) : BitVec 16 :=
  if length ≤ 8 then (bitLibGetBits data position length).setWidth 16
  else
    ((bitLibGetBits data position 8).setWidth 16 <<< (length - 8)) |||
      (bitLibGetBits data (position + 8) (length - 8)).setWidth 16

def bitLibGetBits32 (data : Bytes size) (position length : Nat) : BitVec 32 :=
  if length ≤ 8 then (bitLibGetBits data position length).setWidth 32
  else if length ≤ 16 then
    ((bitLibGetBits data position 8).setWidth 32 <<< (length - 8)) |||
      (bitLibGetBits data (position + 8) (length - 8)).setWidth 32
  else if length ≤ 24 then
    ((bitLibGetBits data position 8).setWidth 32 <<< (length - 8)) |||
      ((bitLibGetBits data (position + 8) 8).setWidth 32 <<< (length - 16)) |||
      (bitLibGetBits data (position + 16) (length - 16)).setWidth 32
  else
    ((bitLibGetBits data position 8).setWidth 32 <<< (length - 8)) |||
      ((bitLibGetBits data (position + 8) 8).setWidth 32 <<< (length - 16)) |||
      ((bitLibGetBits data (position + 16) 8).setWidth 32 <<< (length - 24)) |||
      (bitLibGetBits data (position + 24) (length - 24)).setWidth 32

inductive BitLibParity
  | even
  | odd
  | always0
  | always1
  deriving DecidableEq, Repr

/-- The answer of `__builtin_parity`, whether the number of one bits is odd;
the source takes that for even parity. The other two modes crash. -/
def bitLibTestParity32 (bits : BitVec 32) : BitLibParity → Bool
  | .even => parity ((List.range 32).map bits.getLsbD)
  | .odd => !parity ((List.range 32).map bits.getLsbD)
  | .always0 | .always1 => false

/-- The check of block `i` in the loop of `bit_lib_test_parity`. -/
def bitLibTestParityBlock (bits : Bytes size) (position : Nat) (parity : BitLibParity)
    (parityLength i : Nat) : Bool :=
  match parity with
  | .even | .odd =>
    bitLibTestParity32 (bitLibGetBits32 bits (position + i * parityLength) parityLength) parity
  | .always0 => !bitLibGetBit bits (position + i * parityLength + parityLength - 1)
  | .always1 => bitLibGetBit bits (position + i * parityLength + parityLength - 1)

def bitLibTestParity (bits : Bytes size) (position length : Nat) (parity : BitLibParity)
    (parityLength : Nat) : Bool :=
  (List.range (length / parityLength)).all (bitLibTestParityBlock bits position parity parityLength)

/-- The locals of `bit_lib_remove_bit_every_nth` beside its loop counter. -/
structure RemoveState (size : Nat) where
  data : Bytes size
  resultCounter : Nat
  bitBuffer : BitVec 8
  bitCounter : Nat

/-- One turn of the loop of `bit_lib_remove_bit_every_nth`. -/
def removeBitStep (position n : Nat) (state : RemoveState size) (counter : Nat) : RemoveState size :=
  let state :=
    if (counter + 1) % n ≠ 0 then
      { state with
        bitBuffer := (state.bitBuffer <<< 1) |||
          (BitVec.ofBool (bitLibGetBit state.data (position + counter))).setWidth 8
        bitCounter := state.bitCounter + 1 }
    else state
  if state.bitCounter = 8 then
    ⟨bitLibSetBits state.data (position + state.resultCounter) state.bitBuffer 8, state.resultCounter + 8, 0, 0⟩
  else state

def bitLibRemoveBitEveryNth (data : Bytes size) (position length n : Nat) : Nat × Bytes size :=
  let state := (List.range length).foldl (removeBitStep position n) ⟨data, 0, 0, 0⟩
  if state.bitCounter ≠ 0 then
    (state.resultCounter + state.bitCounter,
      bitLibSetBits state.data (position + state.resultCounter) state.bitBuffer state.bitCounter)
  else (state.resultCounter, state.data)

def bitLibCopyBits {sourceSize : Nat} (data : Bytes size) (position length : Nat)
    (source : Bytes sourceSize) (sourcePosition : Nat) : Bytes size :=
  (List.range length).foldl (fun data i =>
    bitLibSetBit data (position + i) (bitLibGetBit source (sourcePosition + i))) data

def bitLibReverse8Fast (byte : BitVec 8) : BitVec 8 :=
  let byte := ((byte &&& 0xF0#8) >>> 4) ||| ((byte &&& 0x0F#8) <<< 4)
  let byte := ((byte &&& 0xCC#8) >>> 2) ||| ((byte &&& 0x33#8) <<< 2)
  ((byte &&& 0xAA#8) >>> 1) ||| ((byte &&& 0x55#8) <<< 1)

def memcpy (data : Bytes size) (start : Nat) (source : List (BitVec 8)) : Bytes size :=
  (List.range source.length).foldl (fun data i => data.setIfInBounds (start + i) (source.getD i 0)) data

variable (data : Bytes size)

theorem byteAt_setIfInBounds {index : Nat} (inside : index < size) (byte : BitVec 8) (place : Nat) :
    byteAt (data.setIfInBounds index byte) place = if place = index then byte else byteAt data place := by
  unfold byteAt
  by_cases same : index = place
  · subst same
    simp [inside]
  · simp [same, Ne.symm same]

theorem byteAt_memcpy (start : Nat) (source : List (BitVec 8)) {place : Nat} (inside : place < size) :
    byteAt (memcpy data start source) place =
      if start ≤ place ∧ place < start + source.length then source.getD (place - start) 0 else byteAt data place := by
  rw [memcpy]
  generalize source.length = count
  induction count with
  | zero =>
    rw [if_neg (by omega)]
    rfl
  | succ count ih =>
    rw [List.range_succ, List.foldl_append, List.foldl_cons, List.foldl_nil]
    by_cases last : place = start + count
    · rw [← last, byteAt_setIfInBounds _ inside, if_pos rfl, if_pos (by omega)]
      congr 1
      omega
    · rw [byteAt, Vector.getElem?_setIfInBounds_ne (Ne.symm last), ← byteAt, ih]
      exact if_congr (by omega) rfl rfl

variable (position : Nat)

theorem bitLibGetBit_eq :
    bitLibGetBit data position = (byteAt data (position / 8)).getMsbD (position % 8) := by
  have low (byte : BitVec 8) (place : Nat) :
      decide ((byte >>> place) &&& 1#8 ≠ 0) = byte.getLsbD place := by
    rw [BitVec.and_one_eq_setWidth_ofBool_getLsbD, BitVec.getLsbD_ushiftRight]
    cases byte.getLsbD place <;> rfl
  rw [BitVec.getMsbD_eq_getLsbD, decide_eq_true (by omega)]
  exact low _ _

theorem getMsbD_byteAt (index : Nat) {place : Nat} (inside : place < 8) :
    (byteAt data index).getMsbD place = bitLibGetBit data (8 * index + place) := by
  rw [bitLibGetBit_eq, show (8 * index + place) / 8 = index by omega,
    show (8 * index + place) % 8 = place by omega]

theorem bytes_ext {first second : Bytes size}
    (same : ∀ place < 8 * size, bitLibGetBit first place = bitLibGetBit second place) :
    first = second := by
  apply Vector.ext
  intro index inside
  have byte (data : Bytes size) : byteAt data index = data[index] := by
    simp [byteAt, Vector.getElem?_eq_getElem inside]
  rw [← byte, ← byte]
  apply BitVec.eq_of_getMsbD_eq
  intro place within
  rw [getMsbD_byteAt _ _ within, getMsbD_byteAt _ _ within, same _ (by omega)]

@[simp] theorem bitLibGetBit_zeros (place : Nat) :
    bitLibGetBit (Vector.replicate size 0) place = false := by
  have zero : byteAt (Vector.replicate size 0) (place / 8) = 0#8 := by
    rw [byteAt, Vector.getElem?_replicate]
    split <;> rfl
  rw [bitLibGetBit_eq, zero, BitVec.getMsbD_zero]

/-- A byte's only bit below `8` that a mask of one bit touches. -/
theorem getMsbD_one_shift {place place' : Nat} (inside : place < 8) (inside' : place' < 8) :
    (1#8 <<< (7 - place)).getMsbD place' = decide (place' = place) := by
  have all : ∀ place < 8, ∀ place' < 8,
      (1#8 <<< (7 - place)).getMsbD place' = decide (place' = place) := by decide
  exact all place inside place' inside'

theorem bitLibGetBit_setBit {position : Nat} (inside : position < 8 * size) (bit : Bool) (place : Nat) :
    bitLibGetBit (bitLibSetBit data position bit) place =
      if place = position then bit else bitLibGetBit data place := by
  have index : position / 8 < size := by omega
  have small : place % 8 < 8 := by omega
  rw [bitLibSetBit, bitLibGetBit_eq, bitLibGetBit_eq]
  cases bit with
  | true =>
    rw [if_pos rfl, byteAt_setIfInBounds data index]
    by_cases byte : place / 8 = position / 8
    · rw [if_pos byte, BitVec.getMsbD_or, getMsbD_one_shift (by omega) small, byte]
      by_cases same : place = position
      · simp [same]
      · rw [if_neg same, decide_eq_false (by omega), Bool.or_false]
    · rw [if_neg byte, if_neg (by omega)]
  | false =>
    rw [if_neg (by decide), byteAt_setIfInBounds data index]
    by_cases byte : place / 8 = position / 8
    · rw [if_pos byte, BitVec.getMsbD_and, BitVec.getMsbD_not, getMsbD_one_shift (by omega) small,
        byte, decide_eq_true small]
      by_cases same : place = position
      · simp [same]
      · rw [if_neg same, decide_eq_false (by omega)]
        simp
    · rw [if_neg byte, if_neg (by omega)]

theorem bitLibGetBit_setRun (bits : Nat → Bool) {length : Nat} (inside : position + length ≤ 8 * size) (place : Nat) :
    bitLibGetBit ((List.range length).foldl (fun data i =>
        bitLibSetBit data (position + i) (bits i)) data) place =
      if position ≤ place ∧ place < position + length then bits (place - position)
      else bitLibGetBit data place := by
  induction length with
  | zero => rw [List.range_zero, List.foldl_nil, if_neg (by omega)]
  | succ length ih =>
    rw [List.range_succ, List.foldl_append, List.foldl_cons, List.foldl_nil,
      bitLibGetBit_setBit _ (by omega), ih (by omega)]
    by_cases last : place = position + length
    · rw [if_pos last, if_pos (by omega), last, Nat.add_sub_cancel_left]
    · rw [if_neg last]
      by_cases earlier : position ≤ place ∧ place < position + length
      · rw [if_pos earlier, if_pos (by omega)]
      · rw [if_neg earlier, if_neg (by omega)]

theorem bitLibGetBit_setBits {position length : Nat} (byte : BitVec 8)
    (inside : position + length ≤ 8 * size) (place : Nat) :
    bitLibGetBit (bitLibSetBits data position byte length) place =
      if position ≤ place ∧ place < position + length then
        byte.getLsbD (length - 1 - (place - position))
      else bitLibGetBit data place := by
  have low (place : Nat) : decide ((byte >>> place) &&& 1#8 ≠ 0) = byte.getLsbD place := by
    rw [BitVec.and_one_eq_setWidth_ofBool_getLsbD, BitVec.getLsbD_ushiftRight]
    cases byte.getLsbD place <;> rfl
  rw [bitLibSetBits, bitLibGetBit_setRun data position _ inside]
  exact if_congr Iff.rfl (low _) rfl

theorem bitLibGetBit_copyBits {sourceSize : Nat} {position length : Nat}
    (source : Bytes sourceSize) (sourcePosition : Nat) (inside : position + length ≤ 8 * size) (place : Nat) :
    bitLibGetBit (bitLibCopyBits data position length source sourcePosition) place =
      if position ≤ place ∧ place < position + length then
        bitLibGetBit source (sourcePosition + (place - position))
      else bitLibGetBit data place :=
  bitLibGetBit_setRun data position (fun i => bitLibGetBit source (sourcePosition + i)) inside place

theorem byteAt_pushLoop {count : Nat} (inside : count < size) (index : Nat) :
    byteAt ((List.range count).foldl (fun data i =>
        data.setIfInBounds i ((byteAt data i <<< 1) ||| ((byteAt data (i + 1) >>> 7) &&& 1#8))) data)
        index =
      if index < count then (byteAt data index <<< 1) ||| ((byteAt data (index + 1) >>> 7) &&& 1#8)
      else byteAt data index := by
  induction count generalizing index with
  | zero => simp
  | succ count ih =>
    have before := ih (Nat.lt_of_succ_lt inside)
    rw [List.range_succ, List.foldl_append, List.foldl_cons, List.foldl_nil,
      byteAt_setIfInBounds _ (Nat.lt_of_succ_lt inside), before index, before count,
      before (count + 1), if_neg (Nat.lt_irrefl count), if_neg (Nat.not_succ_lt_self)]
    by_cases last : index = count
    · rw [if_pos last, if_pos (by omega), last]
    · rw [if_neg last]
      by_cases earlier : index < count
      · rw [if_pos earlier, if_pos (by omega)]
      · rw [if_neg earlier, if_neg (by omega)]

theorem getMsbD_shifted_in (byte next : BitVec 8) {place : Nat} (inside : place < 8) :
    ((byte <<< 1) ||| ((next >>> 7) &&& 1#8)).getMsbD place =
      if place < 7 then byte.getMsbD (place + 1) else next.getMsbD 0 := by
  have carry : (next >>> 7) &&& 1#8 = (BitVec.ofBool (next.getMsbD 0)).setWidth 8 := by
    rw [BitVec.and_one_eq_setWidth_ofBool_getLsbD]
    rfl
  have low : ∀ (bit : Bool) (place : Nat), place < 8 →
      ((BitVec.ofBool bit).setWidth 8).getMsbD place = (decide (place = 7) && bit) := by decide
  rw [BitVec.getMsbD_or, BitVec.getMsbD_shiftLeft, carry, low _ _ inside]
  by_cases last : place < 7
  · rw [if_pos last, decide_eq_false (by omega), Bool.false_and, Bool.or_false]
  · rw [if_neg last, decide_eq_true (by omega), Bool.true_and, BitVec.getMsbD_of_ge _ _ (by omega), Bool.false_or]

theorem bitLibGetBit_pushBit (bit : Bool) {place : Nat} (inside : place < 8 * size) :
    bitLibGetBit (bitLibPushBit data size bit) place =
      if place + 1 < 8 * size then bitLibGetBit data (place + 1) else bit := by
  have last : size - 1 < size := by omega
  have low : ∀ (bit : Bool) (place : Nat), place < 8 →
      ((BitVec.ofBool bit).setWidth 8).getMsbD place = (decide (place = 7) && bit) := by decide
  rw [bitLibPushBit, bitLibGetBit_eq, byteAt_setIfInBounds _ last, byteAt_pushLoop data last,
    byteAt_pushLoop data last, if_neg (Nat.lt_irrefl (size - 1)), bitLibGetBit_eq]
  by_cases ends : place / 8 = size - 1
  · rw [if_pos ends, BitVec.getMsbD_or, BitVec.getMsbD_shiftLeft, low _ _ (by omega)]
    by_cases more : place + 1 < 8 * size
    · rw [if_pos more, decide_eq_false (by omega), Bool.false_and, Bool.or_false,
        show (place + 1) / 8 = size - 1 by omega, show (place + 1) % 8 = place % 8 + 1 by omega]
    · rw [if_neg more, decide_eq_true (by omega), Bool.true_and, BitVec.getMsbD_of_ge _ _ (by omega), Bool.false_or]
  · have more : place + 1 < 8 * size := by omega
    have early : place / 8 < size - 1 := by omega
    rw [if_neg ends, if_pos early, getMsbD_shifted_in _ _ (by omega), if_pos more]
    by_cases within : place % 8 < 7
    · rw [if_pos within, show (place + 1) / 8 = place / 8 by omega,
        show (place + 1) % 8 = place % 8 + 1 by omega]
    · rw [if_neg within, show (place + 1) / 8 = place / 8 + 1 by omega,
        show (place + 1) % 8 = 0 by omega]

theorem bitLibGetBit_pushZeros (count : Nat) {place : Nat} (inside : place < 8 * size) :
    bitLibGetBit ((List.range count).foldl (fun data _ => bitLibPushBit data size false) data) place =
      (decide (place + count < 8 * size) && bitLibGetBit data (place + count)) := by
  induction count generalizing place with
  | zero => simp [inside]
  | succ count ih =>
    rw [List.range_succ, List.foldl_append, List.foldl_cons, List.foldl_nil, bitLibGetBit_pushBit _ _ inside]
    by_cases more : place + 1 < 8 * size
    · rw [if_pos more, ih more, Nat.add_right_comm]
      rfl
    · rw [if_neg more, decide_eq_false (by omega), Bool.false_and]

/-- The array that shows some bits. -/
def bytesOf (size : Nat) (bits : Nat → Bool) : Bytes size :=
  Vector.ofFn fun index => ofBits ((List.range 8).map fun i => bits (8 * index.val + i))

theorem bitLibGetBit_bytesOf (bits : Nat → Bool) {place : Nat} (inside : place < 8 * size) :
    bitLibGetBit (bytesOf size bits) place = bits place := by
  have byte : byteAt (bytesOf size bits) (place / 8) =
      ofBits ((List.range 8).map fun i => bits (8 * (place / 8) + i)) := by
    rw [byteAt, bytesOf, Vector.getElem?_ofFn, dif_pos (show place / 8 < size by omega)]
    rfl
  rw [bitLibGetBit_eq, byte, ShiftRegister.getMsbD_ofBits _ (by omega) (by simp), List.getElem?_map,
    List.length_map, List.length_range, List.getElem?_range (by omega)]
  show bits _ = bits place
  congr 1
  omega

theorem bytesOf_eq {data : Bytes size} {bits : Nat → Bool}
    (same : ∀ place < 8 * size, bitLibGetBit data place = bits place) : bytesOf size bits = data :=
  bytes_ext fun place inside => by rw [bitLibGetBit_bytesOf _ inside, same place inside]

def bitsFrom (data : Bytes size) (position length : Nat) : List Bool :=
  (List.range length).map fun i => bitLibGetBit data (position + i)

@[simp] theorem length_bitsFrom (data : Bytes size) (position length : Nat) :
    (bitsFrom data position length).length = length := by
  simp [bitsFrom]

theorem bitsFrom_append (position first second : Nat) :
    bitsFrom data position first ++ bitsFrom data (position + first) second =
      bitsFrom data position (first + second) := by
  simp only [bitsFrom, List.range_add, List.map_append, List.map_map, Function.comp_def, Nat.add_assoc]

theorem getLsbD_ofBits_bitsFrom {width : Nat} {length i : Nat} (inside : i < width) :
    (ofBits (bitsFrom data position length) : BitVec width).getLsbD i =
      (decide (i < length) && bitLibGetBit data (position + (length - 1 - i))) := by
  rw [ShiftRegister.getLsbD_ofBits _ inside]
  by_cases within : i < length
  · rw [List.getElem?_reverse (by simpa using within), length_bitsFrom, bitsFrom, List.getElem?_map,
      List.getElem?_range (by omega), decide_eq_true within]
    rfl
  · rw [List.getElem?_eq_none (by simpa using within), decide_eq_false within]
    rfl

theorem bitLibGetBits_eq {length : Nat} (short : length ≤ 8) :
    bitLibGetBits data position length = ofBits (bitsFrom data position length) := by
  have value : ∀ place < 8, (if position % 8 = 0 then byteAt data (position / 8)
      else (byteAt data (position / 8) <<< (position % 8)) |||
        (byteAt data (position / 8 + 1) >>> (8 - position % 8))).getMsbD place =
      bitLibGetBit data (position + place) := by
    intro place inside
    split_ifs with aligned
    · rw [getMsbD_byteAt _ _ inside, show 8 * (position / 8) = position by omega]
    · rw [BitVec.getMsbD_or, BitVec.getMsbD_shiftLeft, BitVec.getMsbD_ushiftRight, decide_eq_true inside,
        Bool.true_and]
      by_cases first : place < 8 - position % 8
      · rw [decide_eq_true first, Bool.not_true, Bool.false_and, Bool.or_false, getMsbD_byteAt _ _ (by omega)]
        congr 1
        omega
      · rw [decide_eq_false first, Bool.not_false, Bool.true_and, BitVec.getMsbD_of_ge _ _ (by omega),
          Bool.false_or, getMsbD_byteAt _ _ (by omega)]
        congr 1
        omega
  have shifted : bitLibGetBits data position length = (if position % 8 = 0 then byteAt data (position / 8)
      else (byteAt data (position / 8) <<< (position % 8)) |||
        (byteAt data (position / 8 + 1) >>> (8 - position % 8))) >>> (8 - length) := by
    unfold bitLibGetBits
    dsimp only
    split_ifs <;> rfl
  rw [shifted]
  apply BitVec.eq_of_getLsbD_eq
  intro i inside
  rw [getLsbD_ofBits_bitsFrom _ _ inside, BitVec.getLsbD_ushiftRight]
  by_cases within : i < length
  · rw [decide_eq_true within, ← value _ (by omega), BitVec.getMsbD_eq_getLsbD, decide_eq_true (by omega)]
    congr 1
    omega
  · rw [decide_eq_false within, Bool.false_and, BitVec.getLsbD_of_ge _ _ (by omega)]

theorem bitLibGetBits16_eq {length : Nat} (short : length ≤ 16) :
    bitLibGetBits16 data position length = ofBits (bitsFrom data position length) := by
  unfold bitLibGetBits16
  split_ifs with one
  · rw [bitLibGetBits_eq _ _ one, ShiftRegister.setWidth_ofBits _ (by simpa using one)]
  · rw [bitLibGetBits_eq _ _ (Nat.le_refl 8), bitLibGetBits_eq _ _ (by omega),
      ShiftRegister.setWidth_ofBits _ (by simp), ShiftRegister.setWidth_ofBits _ (by simp; omega)]
    have join := @ShiftRegister.ofBits_append 16 (bitsFrom data position 8)
      (bitsFrom data (position + 8) (length - 8))
    rw [length_bitsFrom, bitsFrom_append, show 8 + (length - 8) = length by omega] at join
    exact join.symm

theorem bitsFrom_eq_iff (bits : List Bool) : bitsFrom data position bits.length = bits ↔
      ∀ i < bits.length, bitLibGetBit data (position + i) = bits.getD i false := by
  constructor
  · intro same i inside
    have bit := congrArg (fun bits : List Bool => bits.getD i false) same
    simp only [bitsFrom, List.getD_eq_getElem?_getD, List.getElem?_map, List.getElem?_range inside] at bit
    exact bit
  · intro same
    apply List.ext_getElem (length_bitsFrom _ _ _)
    intro i _ inside
    have bit := same i inside
    rw [List.getD_eq_getElem?_getD, List.getElem?_eq_getElem inside] at bit
    simpa [bitsFrom] using bit

theorem bitLibGetBits16_eq_iff {length : Nat} {pattern : BitVec 16}
    (bits : List Bool) (same : length = bits.length) (short : length ≤ 16) (spells : pattern = ofBits bits) :
    bitLibGetBits16 data position length = pattern ↔
      ∀ i < length, bitLibGetBit data (position + i) = bits.getD i false := by
  subst same spells
  rw [bitLibGetBits16_eq _ _ short, ← bitsFrom_eq_iff]
  constructor
  · exact ShiftRegister.ofBits_injective (length_bitsFrom _ _ _) (by simpa using short)
  · intro equal
    rw [equal]

theorem bitLibGetBits32_eq {length : Nat} (short : length ≤ 32) :
    bitLibGetBits32 data position length = ofBits (bitsFrom data position length) := by
  have eight (position : Nat) : (bitLibGetBits data position 8).setWidth 32 =
      ofBits (bitsFrom data position 8) := by
    rw [bitLibGetBits_eq _ _ (Nat.le_refl 8), ShiftRegister.setWidth_ofBits _ (by simp)]
  have rest (position : Nat) {length : Nat} (few : length ≤ 8) :
      (bitLibGetBits data position length).setWidth 32 = ofBits (bitsFrom data position length) := by
    rw [bitLibGetBits_eq _ _ few, ShiftRegister.setWidth_ofBits _ (by simpa using few)]
  have join (position first second : Nat) : ((ofBits (bitsFrom data position first) : BitVec 32) <<< second) |||
          ofBits (bitsFrom data (position + first) second) =
        ofBits (bitsFrom data position (first + second)) := by
    rw [← bitsFrom_append, ShiftRegister.ofBits_append, length_bitsFrom]
  unfold bitLibGetBits32
  split_ifs with one two three
  · exact rest position one
  · rw [eight, rest _ (by omega), join, show 8 + (length - 8) = length by omega]
  · rw [eight, eight, rest _ (by omega), BitVec.or_assoc, show length - 16 = length - 8 - 8 by omega, join, show 8 + (length - 8 - 8) = length - 8 by omega,
      join, show 8 + (length - 8) = length by omega]
  · rw [eight, eight, eight, rest _ (by omega), BitVec.or_assoc, BitVec.or_assoc,
      show length - 24 = length - 8 - 8 - 8 by omega, join,
      show 8 + (length - 8 - 8 - 8) = length - 16 by omega,
      show length - 16 = length - 8 - 8 by omega, join,
      show 8 + (length - 8 - 8) = length - 8 by omega, join, show 8 + (length - 8) = length by omega]

/-! ## Removing every n-th bit -/

/-- How many of the first `counter` bits stay. -/
def keptCount (n counter : Nat) : Nat := counter - counter / n

/-- Where the `j`-th bit that stays comes from. -/
def keptPlace (n j : Nat) : Nat := j + j / (n - 1)

theorem keptCount_succ (n counter : Nat) : keptCount n (counter + 1) =
      if (counter + 1) % n ≠ 0 then keptCount n counter + 1 else keptCount n counter := by
  have fewer : counter / n ≤ counter := Nat.div_le_self _ _
  unfold keptCount
  rw [Nat.succ_div]
  by_cases last : n ∣ counter + 1
  · rw [if_pos last, if_neg (not_not.mpr (Nat.mod_eq_zero_of_dvd last))]
    omega
  · rw [if_neg last, if_pos (fun zero => last (Nat.dvd_of_mod_eq_zero zero))]
    omega

theorem keptPlace_keptCount {n counter : Nat} (several : 2 ≤ n) (stays : (counter + 1) % n ≠ 0) :
    keptPlace n (keptCount n counter) = counter := by
  obtain ⟨m, rfl⟩ : ∃ m, n = m + 1 := ⟨n - 1, by omega⟩
  have parts := Nat.div_add_mod counter (m + 1)
  have small : counter % (m + 1) < m := by
    have bound : counter % (m + 1) < m + 1 := Nat.mod_lt _ (by omega)
    by_contra large
    apply stays
    rw [Nat.add_mod, show counter % (m + 1) = m by omega]
    simp
  have kept : keptCount (m + 1) counter = m * (counter / (m + 1)) + counter % (m + 1) := by
    unfold keptCount
    have expand : (m + 1) * (counter / (m + 1)) = m * (counter / (m + 1)) + counter / (m + 1) := Nat.succ_mul m _
    omega
  have whole : (m * (counter / (m + 1)) + counter % (m + 1)) / m = counter / (m + 1) := by
    rw [Nat.mul_add_div (by omega), Nat.div_eq_of_lt small, Nat.add_zero]
  rw [keptPlace, kept, Nat.add_sub_cancel]
  have expand : (m + 1) * (counter / (m + 1)) = m * (counter / (m + 1)) + counter / (m + 1) := Nat.succ_mul m _
  omega

/-- The bits written so far are the first that stay, the buffer holds the ones
after them, and nothing else has changed: the loop writes behind where it reads. -/
structure Removing (data : Bytes size) (position n counter : Nat) (state : RemoveState size) : Prop where
  count : state.resultCounter + state.bitCounter = keptCount n counter
  few : state.bitCounter < 8
  buffer : ∀ i < state.bitCounter, state.bitBuffer.getLsbD i =
    bitLibGetBit data (position + keptPlace n (keptCount n counter - 1 - i))
  written : ∀ place, bitLibGetBit state.data place =
    if position ≤ place ∧ place < position + state.resultCounter then
      bitLibGetBit data (position + keptPlace n (place - position))
    else bitLibGetBit data place

theorem written_flush {data : Bytes size} {position n kept : Nat} {state : RemoveState size}
    (count : state.resultCounter + state.bitCounter = kept)
    (buffer : ∀ i < state.bitCounter, state.bitBuffer.getLsbD i =
      bitLibGetBit data (position + keptPlace n (kept - 1 - i)))
    (written : ∀ place, bitLibGetBit state.data place =
      if position ≤ place ∧ place < position + state.resultCounter then
        bitLibGetBit data (position + keptPlace n (place - position))
      else bitLibGetBit data place)
    (inside : position + kept ≤ 8 * size) (place : Nat) :
    bitLibGetBit (bitLibSetBits state.data (position + state.resultCounter) state.bitBuffer
        state.bitCounter) place =
      if position ≤ place ∧ place < position + kept then
        bitLibGetBit data (position + keptPlace n (place - position))
      else bitLibGetBit data place := by
  rw [bitLibGetBit_setBits _ _ (by omega), written]
  by_cases flushed : position + state.resultCounter ≤ place ∧
      place < position + state.resultCounter + state.bitCounter
  · rw [if_pos flushed, buffer _ (by omega), if_pos (by omega)]
    congr 3
    omega
  · rw [if_neg flushed]
    by_cases earlier : position ≤ place ∧ place < position + state.resultCounter
    · rw [if_pos earlier, if_pos (by omega)]
    · rw [if_neg earlier, if_neg (by omega)]

theorem removeBitStep_removing {data : Bytes size} {position n counter : Nat} {state : RemoveState size}
    (several : 2 ≤ n) (removing : Removing data position n counter state)
    (inside : position + counter < 8 * size) :
    Removing data position n (counter + 1) (removeBitStep position n state counter) := by
  obtain ⟨count, few, buffer, written⟩ := removing
  have bound : keptCount n counter ≤ counter := Nat.sub_le _ _
  have step := keptCount_succ n counter
  by_cases stays : (counter + 1) % n ≠ 0
  · rw [if_pos stays] at step
    -- the bit read lies behind everything written
    have read : bitLibGetBit state.data (position + counter) =
        bitLibGetBit data (position + keptPlace n (keptCount n counter)) := by
      rw [written, if_neg (by omega), keptPlace_keptCount several stays]
    have longer : ∀ i < state.bitCounter + 1, ((state.bitBuffer <<< 1) |||
        (BitVec.ofBool (bitLibGetBit state.data (position + counter))).setWidth 8).getLsbD i =
        bitLibGetBit data (position + keptPlace n (keptCount n counter + 1 - 1 - i)) := by
      intro i held
      cases i with
      | zero =>
        exact (ShiftRegister.getLsbD_push_zero _ _ (by omega)).trans read
      | succ i =>
        refine (ShiftRegister.getLsbD_push_succ _ _ _).trans ?_
        rw [decide_eq_true (by omega), Bool.true_and, buffer i (by omega)]
        congr 3
        omega
    by_cases full : state.bitCounter + 1 = 8
    · have flush := @written_flush size data position n (keptCount n counter + 1) ⟨state.data,
        state.resultCounter, (state.bitBuffer <<< 1) |||
          (BitVec.ofBool (bitLibGetBit state.data (position + counter))).setWidth 8,
        state.bitCounter + 1⟩ (by dsimp only; omega) longer written (by omega)
      have result : removeBitStep position n state counter =
          ⟨bitLibSetBits state.data (position + state.resultCounter) ((state.bitBuffer <<< 1) |||
            (BitVec.ofBool (bitLibGetBit state.data (position + counter))).setWidth 8) 8,
            state.resultCounter + 8, 0, 0⟩ := by
        unfold removeBitStep
        rw [if_pos stays]
        exact if_pos full
      rw [result]
      refine ⟨by dsimp only; omega, Nat.zero_lt_succ 7, fun i impossible => absurd impossible (Nat.not_lt_zero i), ?_⟩
      intro place
      have bits := flush place
      rw [full] at bits
      rw [bits, show keptCount n counter + 1 = state.resultCounter + 8 by omega]
    · have result : removeBitStep position n state counter =
          { state with
            bitBuffer := (state.bitBuffer <<< 1) |||
              (BitVec.ofBool (bitLibGetBit state.data (position + counter))).setWidth 8
            bitCounter := state.bitCounter + 1 } := by
        unfold removeBitStep
        rw [if_pos stays]
        exact if_neg full
      rw [result]
      refine ⟨by dsimp only; omega, by dsimp only; omega, ?_, written⟩
      intro i held
      rw [step]
      exact longer i held
  · rw [if_neg stays] at step
    have result : removeBitStep position n state counter = state := by
      unfold removeBitStep
      rw [if_neg stays]
      exact if_neg (by omega)
    rw [result]
    exact ⟨by omega, few, fun i held => by rw [step]; exact buffer i held, written⟩

theorem removing_loop {position n : Nat} (several : 2 ≤ n) {length : Nat} (inside : position + length ≤ 8 * size) :
    Removing data position n length
      ((List.range length).foldl (removeBitStep position n) ⟨data, 0, 0, 0⟩) := by
  induction length with
  | zero =>
    rw [List.range_zero, List.foldl_nil]
    refine ⟨by simp [keptCount], Nat.zero_lt_succ 7, fun i impossible => absurd impossible (Nat.not_lt_zero i), ?_⟩
    intro place
    rw [if_neg (by dsimp only; omega)]
  | succ length ih =>
    rw [List.range_succ, List.foldl_append, List.foldl_cons]
    exact removeBitStep_removing several (ih (by omega)) (by omega)

/-- The bits that stay close up; the rest of the array is as it was. -/
theorem bitLibGetBit_removeBitEveryNth {position length n : Nat} (several : 2 ≤ n)
    (inside : position + length ≤ 8 * size) (place : Nat) :
    bitLibGetBit (bitLibRemoveBitEveryNth data position length n).2 place =
      if position ≤ place ∧ place < position + keptCount n length then
        bitLibGetBit data (position + keptPlace n (place - position))
      else bitLibGetBit data place := by
  have bound : keptCount n length ≤ length := Nat.sub_le _ _
  obtain ⟨count, few, buffer, written⟩ := removing_loop data several inside
  unfold bitLibRemoveBitEveryNth
  dsimp only
  split_ifs with held within within
  · rw [written_flush count buffer written (by omega) place, if_pos within]
  · rw [written_flush count buffer written (by omega) place, if_neg within]
  · rw [written, if_pos (by omega)]
  · rw [written, if_neg (by omega)]

/-- In the mode for marker ones, the last bit of every block has to be one. -/
theorem bitLibTestParity_always1 (bits : Bytes size) (position length : Nat) (parityLength : Nat) :
    bitLibTestParity bits position length .always1 parityLength = true ↔ ∀ i < length / parityLength,
        bitLibGetBit bits (position + i * parityLength + parityLength - 1) = true := by
  simp [bitLibTestParity, bitLibTestParityBlock]

end Xtreme.BitLib
