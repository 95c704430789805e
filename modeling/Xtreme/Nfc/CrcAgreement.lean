import Xtreme.Nfc.FrameCrc
import Xtreme.BitLib.Crc
import Xtreme.SubGhz.Blocks
import Mathlib.Tactic.IntervalCases

/-! The checksums of the repository agree. Some of them take the bits of a byte from the
highest one on and shift upwards, others from the lowest one on and shift downwards; read
from the other end, a register of the one kind is one of the other kind, with the polynomial
and the bytes turned round. -/
namespace Xtreme.Nfc
open Library BitLib Toolbox SubGhz FeedbackRegister

theorem map_byteAt {size : Nat} (data : Bytes size) : (List.range size).map (byteAt data) = data.toList := by
  apply List.ext_getElem
  · simp
  · intro index inside _
    have below : index < size := by simpa using inside
    simp [byteAt, Vector.getElem?_eq_getElem below]

theorem bitLibReverse16Fast_eq (data : BitVec 16) : bitLibReverse16Fast data = data.reverse := by
  apply BitVec.eq_of_getLsbD_eq
  intro place inside
  rw [BitVec.getLsbD_reverse, BitVec.getMsbD_eq_getLsbD, decide_eq_true inside]
  interval_cases place <;> simp [bitLibReverse16Fast]

theorem moved_bit {width : Nat} (word : BitVec (width + 1)) (place : Nat) :
    decide ((word >>> place) &&& 1#(width + 1) ≠ 0) = word.getLsbD place := by
  have lowest : (word >>> place).getLsbD 0 = word.getLsbD place := BitVec.getLsbD_ushiftRight ..
  rw [BitVec.and_one_eq_setWidth_ofBool_getLsbD, lowest]
  cases word.getLsbD place <;> simp

theorem blocksCrc16Bit_eq (polynomial : BitVec 16) : blocksCrc16Bit polynomial = shiftUp polynomial := by
  funext remainder
  have top : remainder &&& 0x8000#16 = if remainder.getMsbD 0 then 0x8000#16 else 0 :=
    BitVec.and_twoPow remainder 15
  rw [blocksCrc16Bit, top, shiftUp]
  cases remainder.getMsbD 0 <;> simp

theorem reverse_xor {width : Nat} (a b : BitVec width) : (a ^^^ b).reverse = a.reverse ^^^ b.reverse := by
  apply BitVec.eq_of_getLsbD_eq
  intro place _
  simp only [BitVec.getLsbD_reverse, BitVec.getLsbD_xor, BitVec.getMsbD_xor]

theorem reverse_blocksCrc16Byte (polynomial remainder : BitVec 16) (byte : BitVec 8) :
    (blocksCrc16Byte polynomial remainder byte).reverse =
      feedAll polynomial.reverse remainder.reverse (bitsOfBytes [byte.reverse]) := by
  have high : (byte.setWidth 16 <<< 8).reverse = byte.reverse.setWidth 16 := by
    apply BitVec.eq_of_getLsbD_eq
    intro place inside
    rw [BitVec.getLsbD_reverse, BitVec.getLsbD_setWidth, BitVec.getLsbD_reverse, BitVec.getMsbD_eq_getLsbD,
      BitVec.getMsbD_eq_getLsbD]
    by_cases low : place < 8
    · simp [low, show 15 - place - 8 = 7 - place by omega, show 15 - place < 16 by omega,
        show ¬ 15 - place < 8 by omega]
    · simp [low, show 15 - place < 8 by omega]
  rw [blocksCrc16Byte, List.foldl_const, blocksCrc16Bit_eq, List.length_range, reverse_shiftsUp, reverse_xor, high,
    feedAll_byte (by decide)]

theorem reverse_crc16Bit (polynom crc : BitVec 16) (byte : BitVec 8) (j : Nat) :
    (crc16Bit polynom byte crc j).reverse = FeedbackRegister.feed polynom.reverse crc.reverse (byte.getLsbD (7 - j)) := by
  apply BitVec.eq_of_getLsbD_eq
  intro place inside
  have top : decide ((crc >>> 15) &&& 1#16 ≠ 0) = crc.reverse.getLsbD 0 := by
    rw [BitVec.getLsbD_reverse]
    exact moved_bit crc 15
  have lowest : (crc.reverse ^^^ (BitVec.ofBool (byte.getLsbD (7 - j))).setWidth 16).getLsbD 0 =
      (crc.reverse.getLsbD 0 ^^ byte.getLsbD (7 - j)) := by
    simp
  rw [FeedbackRegister.feed, getLsbD_shift, lowest]
  simp only [crc16Bit, top, moved_bit byte (7 - j)]
  cases crc.reverse.getLsbD 0 ^^ byte.getLsbD (7 - j) <;> simp [BitVec.getLsbD_reverse]

/-- The bytes as the register takes them. -/
def enteredByte (refIn : Bool) (byte : BitVec 8) : BitVec 8 := if refIn then byte else byte.reverse

theorem reverse_crc16Byte (polynom crc : BitVec 16) (refIn : Bool) (byte : BitVec 8) :
    (crc16Byte polynom refIn crc byte).reverse =
      feedAll polynom.reverse crc.reverse (bitsOfBytes [enteredByte refIn byte]) := by
  have turns (byte : BitVec 8) (js : List Nat) : (js.foldl (crc16Bit polynom byte) crc).reverse =
      feedAll polynom.reverse crc.reverse (js.map fun j => byte.getLsbD (7 - j)) := by
    induction js generalizing crc with
    | nil => rfl
    | cons j js ih => rw [List.foldl_cons, ih, reverse_crc16Bit]; rfl
  have bits (byte : BitVec 8) : (List.range 8).map (fun j => byte.getLsbD (7 - j)) = bitsOfBytes [byte.reverse] := by
    rw [bitsOfBytes_cons]
    refine Eq.trans (List.map_congr_left fun j inside => ?_) (List.append_nil _).symm
    rw [BitVec.getLsbD_reverse, BitVec.getMsbD_eq_getLsbD, decide_eq_true (List.mem_range.mp inside), Bool.true_and]
  have reflected : ((bitLibReverse16Fast (byte.setWidth 16) >>> 8).setWidth 8).reverse = byte := by
    rw [bitLibReverse16Fast_eq]
    apply BitVec.eq_of_getLsbD_eq
    intro place inside
    rw [BitVec.getLsbD_reverse, BitVec.getMsbD_eq_getLsbD, BitVec.getLsbD_setWidth, BitVec.getLsbD_ushiftRight,
      BitVec.getLsbD_reverse, BitVec.getMsbD_eq_getLsbD]
    simp [inside, show 8 - 1 - place < 8 by omega, show 8 + (8 - 1 - place) < 16 by omega,
      show 16 - 1 - (8 + (8 - 1 - place)) = place by omega, show place < 16 by omega]
  rw [crc16Byte, turns, bits]
  cases refIn
  · rfl
  · rw [if_pos rfl, reflected]
    rfl

theorem crc16Byte_blocks (polynom crc : BitVec 16) (byte : BitVec 8) :
    crc16Byte polynom false crc byte = blocksCrc16Byte polynom crc byte := by
  have turned : (crc16Byte polynom false crc byte).reverse = (blocksCrc16Byte polynom crc byte).reverse :=
    (reverse_crc16Byte polynom crc false byte).trans (reverse_blocksCrc16Byte polynom crc byte).symm
  have same := congrArg BitVec.reverse turned
  rwa [BitVec.reverse_reverse_eq, BitVec.reverse_reverse_eq] at same

/-- Reflected bytes enter a register that is read from the other end like those of a frame. -/
theorem reverse_foldl_reflected (crc : BitVec 16) (data : List (BitVec 8)) :
    (data.foldl (crc16Byte 0x1021 true) crc).reverse = feedAll crcPoly crc.reverse (bitsOfBytes data) := by
  induction data generalizing crc with
  | nil => rfl
  | cons byte data ih =>
    have first : bitsOfBytes (byte :: data) = bitsOfBytes [byte] ++ bitsOfBytes data := bitsOfBytes_append [byte] data
    have poly : (0x1021 : BitVec 16).reverse = crcPoly := by decide
    rw [List.foldl_cons, ih, reverse_crc16Byte, poly, first, feedAll_append, enteredByte, if_pos rfl]

/-- ISO14443 B, ISO13239 and `bit_lib_crc16` with reflection agree; so do FeliCa, up to the order of its
bytes, and the sub-GHz protocols with `bit_lib_crc16` without reflection. -/
theorem crc_agreement {size : Nat} (data : Bytes size) :
    Iso14443CrcType.b.calculate data.toList = Iso13239CrcType.default.calculate data.toList ∧
      Iso13239CrcType.default.calculate data.toList = bitLibCrc16 data size 0x1021 0xFFFF true true 0xFFFF ∧
      felicaCrcCalculate data.toList = (bitLibCrc16 data size 0x1021 0 false false 0).extractLsb' 0 8 ++
          (bitLibCrc16 data size 0x1021 0 false false 0).extractLsb' 8 8 ∧
      ∀ polynomial init : BitVec 16,
        blocksCrc16 data.toList polynomial init = bitLibCrc16 data size polynomial init false false 0 := by
  have blocks (polynomial init : BitVec 16) :
      blocksCrc16 data.toList polynomial init = bitLibCrc16 data size polynomial init false false 0 := by
    have turns : crc16Byte polynomial false = blocksCrc16Byte polynomial := by
      funext crc byte
      exact crc16Byte_blocks polynomial crc byte
    simp only [bitLibCrc16, map_byteAt, turns]
    exact (BitVec.xor_zero).symm
  have frame : Iso13239CrcType.default.calculate data.toList = ~~~(feedAll crcPoly 0xFFFF (bitsOfBytes data.toList)) :=
    congrArg (~~~·) (foldl_bytes iso13239CrcByte_eq _ data.toList)
  refine ⟨?_, ?_, ?_, blocks⟩
  · rw [frame]
    exact congrArg (~~~·) (foldl_bytes iso14443CrcByte_eq _ data.toList)
  · have start : (0xFFFF : BitVec 16).reverse = 0xFFFF := by decide
    simp only [frame, bitLibCrc16, map_byteAt, bitLibReverse16Fast_eq, reverse_foldl_reflected]
    exact (BitVec.xor_allOnes).symm
  · rw [← blocks]
    show (blocksCrc16 data.toList 0x1021 0 <<< 8) ||| (blocksCrc16 data.toList 0x1021 0 >>> 8) = _
    generalize blocksCrc16 data.toList 0x1021 0 = crc
    apply BitVec.eq_of_getLsbD_eq
    intro place inside
    rw [BitVec.getLsbD_or, BitVec.getLsbD_shiftLeft, BitVec.getLsbD_append]
    by_cases low : place < 8
    · simp [low]
    · simp [inside, show place - 8 < 8 by omega, BitVec.getLsbD_of_ge crc (8 + place) (by omega)]

end Xtreme.Nfc
