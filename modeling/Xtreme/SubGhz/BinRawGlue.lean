import Xtreme.Library.Records
import Xtreme.SubGhz.BinRaw

/-! Packages of bits are glued together in the array that they lie in. Bits go towards its
start, and no bit is written over before it was read (`glueSegments_eq`). -/
namespace Xtreme.SubGhz
open Xtreme.Library

theorem getLsbD_bitWrite (value : BitVec 8) {bit place : Nat} (inside : place < 8) (bitValue : Bool) :
    (bitWrite value bit bitValue).getLsbD place = if place = bit then bitValue else value.getLsbD place := by
  have one : (1#8 <<< bit).getLsbD place = decide (place = bit) := by
    rw [BitVec.getLsbD_shiftLeft, decide_eq_true inside, Bool.true_and, BitVec.getLsbD_one]
    by_cases same : place = bit
    · simp [same]
    · rw [decide_eq_false same]
      by_cases below : place < bit
      · rw [decide_eq_true below, Bool.not_true, Bool.false_and]
      · rw [decide_eq_false (show ¬place - bit = 0 by omega), Bool.and_false, Bool.and_false]
  rw [bitWrite]
  cases bitValue with
  | true =>
    rw [if_pos rfl, BitVec.getLsbD_or, one]
    by_cases same : place = bit
    · simp [same]
    · simp [same]
  | false =>
    rw [if_neg Bool.false_ne_true, BitVec.getLsbD_and, BitVec.getLsbD_not, one, decide_eq_true inside]
    by_cases same : place = bit
    · simp [same]
    · simp [same]

theorem blocksGetBitArray_eq (data : ByteMemory) (index : Nat) :
    blocksGetBitArray data index = (data (index / 8)).getLsbD (7 - index % 8) := by
  rw [blocksGetBitArray, Nat.shiftRight_eq_div_pow, Nat.and_two_pow_sub_one_eq_mod index 3]

theorem blocksSetBitArray_eq (bitValue : Bool) (data : ByteMemory) {index maxSizeArray : Nat}
    (inside : index < maxSizeArray * 8) :
    ∃ after, blocksSetBitArray bitValue data index maxSizeArray = some after ∧
      ∀ other, blocksGetBitArray after other = if other = index then bitValue else blocksGetBitArray data other := by
  refine ⟨_, if_pos inside, fun other => ?_⟩
  rw [blocksGetBitArray_eq, blocksGetBitArray_eq, Nat.shiftRight_eq_div_pow, Nat.and_two_pow_sub_one_eq_mod index 3]
  by_cases sameByte : other / 8 = index / 2 ^ 3
  · rw [if_pos sameByte, getLsbD_bitWrite _ (by omega)]
    by_cases same : other = index
    · rw [if_pos same, if_pos (by omega)]
    · rw [if_neg same, if_neg (by omega)]
  · rw [if_neg sameByte, if_neg (by rintro rfl; exact sameByte rfl)]

theorem bitsFrom_append (data : ByteMemory) (start first second : Nat) :
    bitsFrom data start (first + second) = bitsFrom data start first ++ bitsFrom data (start + first) second := by
  induction first generalizing start with
  | zero => rw [Nat.zero_add, bitsFrom, List.nil_append, Nat.add_zero]
  | succ first ih => rw [Nat.succ_add, bitsFrom, bitsFrom, ih, List.cons_append, Nat.add_assoc start 1 first, Nat.add_comm 1 first]

theorem bitsFrom_congr {data other : ByteMemory} {start count : Nat}
    (same : ∀ place, start ≤ place → place < start + count → blocksGetBitArray other place = blocksGetBitArray data place) :
    bitsFrom other start count = bitsFrom data start count := by
  induction count generalizing start with
  | zero => rfl
  | succ count ih =>
    rw [bitsFrom, bitsFrom, same start (Nat.le_refl _) (by omega),
      ih fun place after before => same place (by omega) (by omega)]

def byteBits (byte : BitVec 8) : List Bool := (List.range 8).map fun place => byte.getLsbD (7 - place)

theorem bitsFrom_byte (data : ByteMemory) (offset : Nat) : bitsFrom data (offset * 8) 8 = byteBits (data offset) := by
  have place (index : Nat) (inside : index < 8) :
      blocksGetBitArray data (offset * 8 + index) = (data offset).getLsbD (7 - index) := by
    rw [blocksGetBitArray_eq, show (offset * 8 + index) / 8 = offset by omega,
      show (offset * 8 + index) % 8 = index by omega]
  have first := place 0
  simp only [bitsFrom, byteBits, Nat.add_assoc, Nat.add_zero] at first ⊢
  simp [first, place, List.range_succ]

theorem bitsFrom_bytes (data : ByteMemory) (offset size : Nat) :
    bitsFrom data (offset * 8) (size * 8) = (data.bytes offset size).flatMap byteBits := by
  induction size generalizing offset with
  | zero => rfl
  | succ size ih =>
    have next := ih (offset + 1)
    rw [Nat.succ_mul] at next
    rw [Nat.succ_mul, Nat.add_comm _ 8, bitsFrom_append, bitsFrom_byte, next, Nat.add_comm size 1,
      ByteMemory.bytes_append]
    simp [ByteMemory.bytes]

/-- Bits are moved towards the start of the array: those already there stay, and those
behind the ones moved are as they were. -/
theorem glueSegment_eq (bitBias : Nat) (turns : Nat) {y ind : Nat} {data : ByteMemory} (behind : ind ≤ y + bitBias)
    (inside : ind + turns ≤ binRawBufDataSize * 8) :
    ∃ after, glueSegment bitBias turns y data ind = some (after, ind + turns) ∧
      bitsFrom after 0 (ind + turns) = bitsFrom data 0 ind ++ bitsFrom data (y + bitBias) turns ∧
      ∀ place, y + bitBias + turns ≤ place → blocksGetBitArray after place = blocksGetBitArray data place := by
  induction turns generalizing y ind data with
  | zero => exact ⟨data, rfl, (List.append_nil _).symm, fun _ _ => rfl⟩
  | succ turns ih =>
    obtain ⟨written, set, bits⟩ := blocksSetBitArray_eq (blocksGetBitArray data (y + bitBias)) data
      (show ind < binRawBufDataSize * 8 by omega)
    obtain ⟨after, glued, moved, kept⟩ := @ih (y + 1) (ind + 1) written (by omega) (by omega)
    refine ⟨after, ?_, ?_, fun place later => ?_⟩
    · rw [glueSegment, set]
      exact glued.trans (by rw [Nat.add_assoc, Nat.add_comm 1])
    · have before : bitsFrom written 0 ind = bitsFrom data 0 ind :=
        bitsFrom_congr fun place _ low => by rw [bits, if_neg (by omega)]
      have rest : bitsFrom written (y + 1 + bitBias) turns = bitsFrom data (y + bitBias + 1) turns := by
        rw [Nat.add_right_comm]
        exact bitsFrom_congr fun place high _ => by rw [bits, if_neg (by omega)]
      rw [Nat.add_comm turns, ← Nat.add_assoc, moved, bitsFrom_append written 0 ind 1, before, rest,
        List.append_assoc, Nat.zero_add, bitsFrom, bitsFrom, bits, if_pos rfl, List.singleton_append,
        Nat.add_comm 1 turns, bitsFrom]
    · rw [kept place (by omega), bits, if_neg (by omega)]

theorem binRawGetFullByte_eq (bitCount : BitVec 16) : binRawGetFullByte bitCount = (bitCount.toNat + 7) / 8 := by
  rw [binRawGetFullByte, Nat.and_two_pow_sub_one_eq_mod bitCount.toNat 3]
  split <;> omega

/-- A package of a file: some bits, at the end of as many bytes as they need. -/
structure BinRawSegment where
  bitCount : Nat
  data : List (BitVec 8)
  filled : data.length = (bitCount + 7) / 8

namespace BinRawSegment

/-- The bits of a package: the last ones of its bytes. -/
def bits (segment : BinRawSegment) : List Bool :=
  (segment.data.flatMap byteBits).drop (segment.data.length * 8 - segment.bitCount)

/-- How many bytes some packages take. -/
def size (segments : List BinRawSegment) : Nat := (segments.map fun segment => segment.data.length).sum

/-- The entries of packages read from a byte on. -/
def markupsFrom : Nat → List BinRawSegment → List BinRAWMarkup
  | _, [] => []
  | byteBias, segment :: rest =>
    ⟨byteBias, BitVec.ofNat 16 segment.bitCount⟩ :: markupsFrom (byteBias + segment.data.length) rest

/-- The bits that are glued together: those before the first package of none. -/
def gluedBits : List BinRawSegment → List Bool
  | [] => []
  | segment :: rest => if segment.bitCount = 0 then [] else segment.bits ++ gluedBits rest

theorem length_flatMap_byteBits (data : List (BitVec 8)) : (data.flatMap byteBits).length = data.length * 8 := by
  rw [Nat.mul_comm]
  exact length_records (fun byte => by rw [byteBits, List.length_map, List.length_range]) data

@[simp] theorem length_bits (segment : BinRawSegment) : segment.bits.length = segment.bitCount := by
  have := segment.filled
  rw [bits, List.length_drop, length_flatMap_byteBits]
  omega

theorem size_cons (segment : BinRawSegment) (rest : List BinRawSegment) :
    size (segment :: rest) = segment.data.length + size rest := rfl

theorem gluedBits_eq_iff (segments : List BinRawSegment) : gluedBits segments = segments.flatMap bits ↔
      segments.Pairwise fun before after => before.bitCount = 0 → after.bitCount = 0 := by
  induction segments with
  | nil => exact ⟨fun _ => List.Pairwise.nil, fun _ => rfl⟩
  | cons segment rest ih =>
    rw [gluedBits, List.flatMap_cons, List.pairwise_cons]
    by_cases empty : segment.bitCount = 0
    · have none : segment.bits = [] := List.length_eq_zero_iff.mp (segment.length_bits.trans empty)
      have later : (∀ other ∈ rest, other.bitCount = 0) → rest.Pairwise fun before after =>
          before.bitCount = 0 → after.bitCount = 0 := fun zero =>
        List.pairwise_of_forall_mem_list fun before _ after member _ => zero after member
      rw [if_pos empty, none, List.nil_append, eq_comm, List.flatMap_eq_nil_iff]
      constructor
      · intro rest_nil
        have zero : ∀ other ∈ rest, other.bitCount = 0 := fun other member => by
          rw [← other.length_bits, rest_nil other member, List.length_nil]
        exact ⟨fun other member _ => zero other member, later zero⟩
      · rintro ⟨zero, -⟩ other member
        exact List.length_eq_zero_iff.mp (other.length_bits.trans (zero other member empty))
    · rw [if_neg empty, List.append_cancel_left_eq, ih]
      exact ⟨fun rest => ⟨fun _ _ zero => absurd zero empty, rest⟩, And.right⟩

end BinRawSegment

open BinRawSegment

theorem glueSegments_eq (segments : List BinRawSegment) {byteBias ind : Nat} {data : ByteMemory}
    (behind : ind ≤ byteBias * 8) (inside : byteBias + size segments ≤ binRawBufDataSize)
    (held : bitsFrom data (byteBias * 8) (size segments * 8) =
      (segments.flatMap fun segment => segment.data).flatMap byteBits) :
    ∃ after, glueSegments (markupsFrom byteBias segments) data ind =
        some (after, ind + (gluedBits segments).length) ∧
      bitsFrom after 0 (ind + (gluedBits segments).length) = bitsFrom data 0 ind ++ gluedBits segments := by
  induction segments generalizing byteBias ind data with
  | nil => exact ⟨data, rfl, (List.append_nil _).symm⟩
  | cons segment rest ih =>
    have filled := segment.filled
    rw [size_cons] at inside held
    have small : segment.bitCount < 2 ^ 16 := by
      unfold binRawBufDataSize at inside
      omega
    have count : (BitVec.ofNat 16 segment.bitCount).toNat = segment.bitCount := by
      rw [BitVec.toNat_ofNat, Nat.mod_eq_of_lt small]
    rw [markupsFrom, glueSegments, gluedBits]
    by_cases empty : segment.bitCount = 0
    · rw [if_pos (show BitVec.ofNat 16 segment.bitCount = 0 by rw [empty]; rfl), if_pos empty]
      exact ⟨data, rfl, (List.append_nil _).symm⟩
    · have some : ¬BitVec.ofNat 16 segment.bitCount = 0 := fun zero => empty (by
        rw [← count, zero, BitVec.ofNat_eq_ofNat, BitVec.toNat_zero])
      have full : binRawGetFullByte (BitVec.ofNat 16 segment.bitCount) = segment.data.length := by
        rw [binRawGetFullByte_eq, count, filled]
      have turns : segment.data.length * 8 - (segment.data.length * 8 - segment.bitCount) = segment.bitCount := by
        omega
      have whole : segment.data.length * 8 = segment.data.length * 8 - segment.bitCount + segment.bitCount := by omega
      -- What is held is the bytes of this package and then those of the others.
      rw [Nat.add_mul, bitsFrom_append, List.flatMap_cons, List.flatMap_append] at held
      obtain ⟨here, there⟩ := List.append_inj held (by rw [length_bitsFrom, length_flatMap_byteBits])
      have last : bitsFrom data (byteBias * 8 + (segment.data.length * 8 - segment.bitCount)) segment.bitCount =
          segment.bits := by
        rw [whole, bitsFrom_append] at here
        rw [BinRawSegment.bits, ← here]
        exact (List.drop_left' (length_bitsFrom ..)).symm
      obtain ⟨after, glued, moved, kept⟩ := @glueSegment_eq (segment.data.length * 8 - segment.bitCount)
        segment.bitCount (byteBias * 8) ind data (by omega) (by omega)
      have later : bitsFrom after ((byteBias + segment.data.length) * 8) (size rest * 8) =
          (rest.flatMap fun segment => segment.data).flatMap byteBits := by
        rw [Nat.add_mul, ← there]
        exact bitsFrom_congr fun place high _ => kept place (by omega)
      obtain ⟨done, others, all⟩ := @ih (byteBias + segment.data.length) (ind + segment.bitCount)
        after (by omega) (by omega) later
      refine ⟨done, ?_, ?_⟩
      · rw [if_neg some, full, count, if_neg empty, List.length_append, length_bits, ← Nat.add_assoc]
        dsimp only
        rw [turns, glued]
        exact others
      · rw [if_neg empty, List.length_append, length_bits, ← Nat.add_assoc, all, moved, last, List.append_assoc]

end Xtreme.SubGhz
