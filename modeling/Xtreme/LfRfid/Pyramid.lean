import Xtreme.BitLib.Crc
import Xtreme.LfRfid.Awid

/-! The Farpointe Pyramid tag format (`lib/lfrfid/protocols/protocol_pyramid.c`):
a preamble of three bytes, thirteen bytes of which the last is a checksum, and
the preamble of the next frame. Its reader, as that of AWID, takes the parity
bits out of the register it was given before its last test. -/
namespace Xtreme.LfRfid.Pyramid
open Xtreme.Library Xtreme.BitLib
open ShiftRegister (ofBits)

def preambleSize : Nat := 3
def dataSize : Nat := 13
def encodedDataSize : Nat := preambleSize + dataSize + preambleSize

def checksumData (data : Bytes encodedDataSize) : Bytes 13 := Vector.ofFn fun i => bitLibGetBits data (16 + i.val * 8) 8

def calcChecksum (data : Bytes encodedDataSize) : BitVec 8 :=
  (bitLibCrc8 (checksumData data) 13 0x31 0x00 true true 0x00).setWidth 8

/-- `fmt_len`: how far the first one among 105 bits is from their end. -/
def formatLength (data : Bytes encodedDataSize) : BitVec 8 :=
  let j := (List.range 105).findIdx (bitLibGetBit data)
  BitVec.ofNat 8 (105 - j)

/-- The answer, and the register after it. -/
def protocolPyramidCanBeDecoded (data : Bytes encodedDataSize) : Bool × Bytes encodedDataSize :=
  -- check preamble
  if bitLibGetBits16 data 0 16 ≠ 0b0000000000000001#16 ∨ bitLibGetBits data 16 8 ≠ 0b00000001#8 then (false, data)
  else if bitLibGetBits16 data 128 16 ≠ 0b0000000000000001#16 ∨ bitLibGetBits data 136 8 ≠ 0b00000001#8 then
    (false, data)
  else if bitLibGetBits data 120 8 ≠ calcChecksum data then (false, data)
  else
    -- remove parity
    let data := (bitLibRemoveBitEveryNth data 8 (15 * 8) 8).2
    -- only support 26 bit format for now
    if formatLength data ≠ 26 then (false, data) else (true, data)

variable (data : Bytes encodedDataSize)

/-- Both preambles and the checksum are right. -/
structure Framed : Prop where
  preamble : bitLibGetBits16 data 0 16 = 0b0000000000000001#16 ∧ bitLibGetBits data 16 8 = 0b00000001#8
  next : bitLibGetBits16 data 128 16 = 0b0000000000000001#16 ∧ bitLibGetBits data 136 8 = 0b00000001#8
  checksum : bitLibGetBits data 120 8 = calcChecksum data

/-- Bit `place` of the register, counted without the parity bits behind the first byte. -/
def dataBit (place : Nat) : Bool :=
  if place < 8 then bitLibGetBit data place else bitLibGetBit data (8 + keptPlace 8 (place - 8))

/-- The start bit stands where a frame of 26 bits has it. -/
def Format26 : Prop := dataBit data 79 = true ∧ ∀ place < 79, dataBit data place = false

/-- The register without its parity bits. -/
def stripped : Bytes encodedDataSize := (bitLibRemoveBitEveryNth data 8 (15 * 8) 8).2

theorem bitLibGetBit_stripped {place : Nat} (early : place < 113) :
    bitLibGetBit (stripped data) place = dataBit data place := by
  have kept : keptCount 8 (15 * 8) = 105 := by decide
  have bit : bitLibGetBit (stripped data) place =
      if 8 ≤ place ∧ place < 8 + keptCount 8 (15 * 8) then bitLibGetBit data (8 + keptPlace 8 (place - 8))
      else bitLibGetBit data place := bitLibGetBit_removeBitEveryNth data (by decide) (by decide) place
  rw [bit, dataBit]
  by_cases first : place < 8
  · rw [if_neg (by omega), if_pos first]
  · rw [if_pos (by omega), if_neg first]

theorem formatLength_stripped : formatLength (stripped data) = 26 ↔ Format26 data := by
  have place : formatLength (stripped data) = 26 ↔
      (List.range 105).findIdx (bitLibGetBit (stripped data)) = 79 := by
    rw [formatLength, ← BitVec.toNat_inj, BitVec.toNat_ofNat]
    have word : (26 : BitVec 8).toNat = 26 := by decide
    omega
  rw [place, List.findIdx_eq (by decide)]
  simp only [List.getElem_range]
  constructor
  · rintro ⟨start, before⟩
    refine ⟨by rwa [← bitLibGetBit_stripped data (by decide)], fun place early => ?_⟩
    rw [← bitLibGetBit_stripped data (by omega)]
    exact before place early
  · rintro ⟨start, before⟩
    refine ⟨by rwa [bitLibGetBit_stripped data (by decide)], fun place early => ?_⟩
    rw [bitLibGetBit_stripped data (by omega)]
    exact before place early

/-- Taking the parity bits out moves the end of the preamble. -/
theorem stripped_ne (framed : Framed data) : stripped data ≠ data := by
  intro same
  have last : bitLibGetBit data 15 = true := by
    have bit := congrArg (fun word : BitVec 16 => word.getLsbD 0) framed.preamble.1
    simp only [bitLibGetBits16_eq _ _ (Nat.le_refl 16), getLsbD_ofBits_bitsFrom _ _ (by decide : 0 < 16)] at bit
    exact bit
  have next : bitLibGetBit data 16 = false := by
    have bit := congrArg (fun word : BitVec 8 => word.getLsbD 7) framed.preamble.2
    simp only [bitLibGetBits_eq _ _ (Nat.le_refl 8), getLsbD_ofBits_bitsFrom _ _ (by decide : 7 < 8)] at bit
    exact bit
  have moved : bitLibGetBit (stripped data) 15 = bitLibGetBit data 16 := bitLibGetBit_stripped data (by decide)
  rw [same, last, next] at moved
  cases moved

/-- The register reaches the removal exactly when it is framed. -/
theorem canBeDecoded_of_framed (framed : Framed data) : protocolPyramidCanBeDecoded data =
      if formatLength (stripped data) ≠ 26 then (false, stripped data) else (true, stripped data) := by
  rw [protocolPyramidCanBeDecoded, if_neg (by rw [not_or, not_not, not_not]; exact framed.preamble),
    if_neg (by rw [not_or, not_not, not_not]; exact framed.next), if_neg (not_not.mpr framed.checksum), stripped]

theorem canBeDecoded_of_not_framed (unframed : ¬ Framed data) : protocolPyramidCanBeDecoded data = (false, data) := by
  rw [protocolPyramidCanBeDecoded]
  split
  · rfl
  · rename_i preamble
    split
    · rfl
    · rename_i next
      split
      · rfl
      · rename_i checksum
        rw [not_or, not_not, not_not] at preamble next
        exact absurd ⟨preamble, next, not_not.mp checksum⟩ unframed

theorem pyramid_unchanged_iff :
    ((protocolPyramidCanBeDecoded data).1 = false → (protocolPyramidCanBeDecoded data).2 = data) ↔
      ¬ (Framed data ∧ ¬ Format26 data) := by
  by_cases framed : Framed data
  · rw [canBeDecoded_of_framed data framed]
    by_cases format : Format26 data
    · rw [if_neg (not_not.mpr ((formatLength_stripped data).mpr format))]
      exact ⟨fun _ both => both.2 format, fun _ rejected => Bool.noConfusion rejected⟩
    · rw [if_pos (mt (formatLength_stripped data).mp format)]
      simp only [forall_const]
      exact ⟨fun same => absurd same (stripped_ne data framed), fun other => absurd ⟨framed, format⟩ other⟩
  · rw [canBeDecoded_of_not_framed data framed]
    exact ⟨fun _ both => framed both.1, fun _ _ => rfl⟩

/-- **A rejected register is left alone exactly where the rejection comes before
the parity bits are taken out, or taking them out changes nothing.** For AWID
that is a wrong preamble, 22 even groups, a known format (which is accepted), or
bits that are the same where they close up. For Pyramid the removal always
changes the preamble, so a frame with the right preambles and checksum has to
be of the 26 bit format. -/
theorem rejected_unchanged_iff (awid : Bytes Awid.encodedDataSize) (pyramid : Bytes encodedDataSize) :
    (((Awid.protocolAwidCanBeDecoded awid).1 = false → (Awid.protocolAwidCanBeDecoded awid).2 = awid) ↔
        ¬ Awid.Preambled awid ∨ Awid.AllEven awid ∨ Awid.Supported (Awid.formatLength awid) ∨ Awid.Unmoved awid) ∧
      (((protocolPyramidCanBeDecoded pyramid).1 = false → (protocolPyramidCanBeDecoded pyramid).2 = pyramid) ↔
        ¬ (Framed pyramid ∧ ¬ Format26 pyramid)) :=
  ⟨Awid.awid_unchanged_iff awid, pyramid_unchanged_iff pyramid⟩

/-- A frame of AWID with one odd group and no format, and a frame of Pyramid without a start bit. -/
def formatlessAwid : Bytes Awid.encodedDataSize := #v[0x01, 0x10, 0, 0, 0, 0, 0, 0, 0, 0, 0, 0, 0x01]

def formatlessPyramid : Bytes encodedDataSize :=
  #v[0x00, 0x01, 0x01, 0, 0, 0, 0, 0, 0, 0, 0, 0, 0, 0, 0, 0xA7, 0x00, 0x01, 0x01]

/-- Both are rejected, and neither register is what it was. -/
theorem rejected_changed : (Awid.protocolAwidCanBeDecoded formatlessAwid).1 = false ∧
      (Awid.protocolAwidCanBeDecoded formatlessAwid).2 ≠ formatlessAwid ∧
      (protocolPyramidCanBeDecoded formatlessPyramid).1 = false ∧
      (protocolPyramidCanBeDecoded formatlessPyramid).2 ≠ formatlessPyramid := by
  decide +kernel

end Xtreme.LfRfid.Pyramid
