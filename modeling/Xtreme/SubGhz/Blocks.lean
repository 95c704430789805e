import Xtreme.Library.ShiftRegister

/-! What the protocols of the sub-GHz receiver share (`blocks/math.c`,
`blocks/generic.h`). -/
namespace Xtreme.SubGhz
open Xtreme.Library

structure SubGhzBlockGeneric where
  data : BitVec 64
  serial : BitVec 32
  dataCountBit : Nat
  btn : BitVec 8
  cnt : BitVec 32
  cnt2 : BitVec 8
  seed : BitVec 32
  deriving DecidableEq, Repr

/-- `LevelDuration`: a level and how long it lasts, or one of the two marks that
stand between levels. -/
inductive LevelDuration
  | level (level : Bool) (duration : Nat)
  | reset
  | wait
  deriving DecidableEq, Repr

structure SubGhzBlockDecoder (Step : Type) where
  parserStep : Step
  teLast : Nat
  decodeData : BitVec 64
  decodeCountBit : BitVec 8
  deriving DecidableEq, Repr

/-- What `subghz_keystore_raw_get_data` answers about a file: so many bytes from an
address on, or none where they cannot be read. -/
abbrev KeystoreRaw := Nat → Nat → Option (List (BitVec 8))

def durationDiff (x y : Nat) : Nat := if x < y then y - x else x - y

def lowBits (key : BitVec 64) (bitCount : Nat) : List Bool := (List.range bitCount).map key.getLsbD

/-- `subghz_protocol_blocks_reverse_key`. -/
def reverseKey (key : BitVec 64) (bitCount : Nat) : BitVec 64 :=
  (lowBits key bitCount).foldl ShiftRegister.push 0

/-- One turn of the inner loop of `subghz_protocol_blocks_crc16`. -/
def blocksCrc16Bit (polynomial remainder : BitVec 16) : BitVec 16 :=
  if remainder &&& 0x8000#16 ≠ 0 then (remainder <<< 1) ^^^ polynomial else remainder <<< 1

def blocksCrc16Byte (polynomial remainder : BitVec 16) (byte : BitVec 8) : BitVec 16 :=
  (List.range 8).foldl (fun remainder _ => blocksCrc16Bit polynomial remainder) (remainder ^^^ (byte.setWidth 16 <<< 8))

def blocksCrc16 (message : List (BitVec 8)) (polynomial init : BitVec 16) : BitVec 16 :=
  message.foldl (blocksCrc16Byte polynomial) init

theorem getLsbD_reverseKey (key : BitVec 64) {bitCount : Nat} (room : bitCount ≤ 64) (place : Nat) :
    (reverseKey key bitCount).getLsbD place = (decide (place < bitCount) && key.getLsbD (bitCount - 1 - place)) := by
  by_cases inside : place < 64
  · show (ShiftRegister.ofBits (lowBits key bitCount) : BitVec 64).getLsbD place = _
    rw [ShiftRegister.getLsbD_ofBits _ inside]
    by_cases low : place < bitCount
    · simp [lowBits, low]
    · rw [List.getElem?_eq_none (by simpa [lowBits] using low)]
      simp [low]
  · rw [BitVec.getLsbD_of_ge _ _ (Nat.not_lt.mp inside), decide_eq_false (by omega), Bool.false_and]

theorem reverseKey_lt (key : BitVec 64) {bitCount : Nat} (room : bitCount ≤ 64) :
    (reverseKey key bitCount).toNat < 2 ^ bitCount := by
  refine Nat.lt_pow_two_of_testBit _ fun place above => ?_
  show (reverseKey key bitCount).getLsbD place = false
  rw [getLsbD_reverseKey key room, decide_eq_false (Nat.not_lt.mpr above), Bool.false_and]

theorem reverseKey_reverseKey {key : BitVec 64} {bitCount : Nat} (room : bitCount ≤ 64)
    (fits : key.toNat < 2 ^ bitCount) : reverseKey (reverseKey key bitCount) bitCount = key := by
  apply BitVec.eq_of_getLsbD_eq
  intro place inside
  rw [getLsbD_reverseKey _ room, getLsbD_reverseKey _ room]
  by_cases low : place < bitCount
  · rw [decide_eq_true low, decide_eq_true (by omega), Bool.true_and, Bool.true_and]
    congr 1
    omega
  · have clear : key.getLsbD place = false :=
      Nat.testBit_lt_two_pow (Nat.lt_of_lt_of_le fits (Nat.pow_le_pow_right (by decide) (Nat.not_lt.mp low)))
    rw [decide_eq_false low, Bool.false_and, clear]

end Xtreme.SubGhz
