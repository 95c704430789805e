import Xtreme.BitLib.AddParity

/-! The AWID tag format (`lib/lfrfid/protocols/protocol_awid.c`). A frame is a
preamble byte and 22 groups of three bits and their parity; the reader keeps
the first byte of the next frame as well. It takes the parity bits out of the
register it was given before it looks at the format, and leaves it so. -/
namespace Xtreme.LfRfid.Awid
open Xtreme.Library Xtreme.BitLib
open ShiftRegister (ofBits)

def encodedDataSize : Nat := 13
def encodedDataLast : Nat := encodedDataSize - 1

/-- The answer, and the register after it. -/
def protocolAwidCanBeDecoded (data : Bytes encodedDataSize) : Bool × Bytes encodedDataSize :=
  -- check preamble and spacing
  if byteAt data 0 ≠ 0b00000001#8 ∨ byteAt data encodedDataLast ≠ 0b00000001#8 then (false, data)
  else
    -- check odd parity for every 4 bits starting from the second byte
    let parityError := bitLibTestParity data 8 88 .odd 4
    if parityError then (false, data)
    else
      let data := (bitLibRemoveBitEveryNth data 8 88 4).2
      -- avoid detection for invalid formats
      let len := bitLibGetBits data 8 8
      if len ≠ 26 ∧ len ≠ 50 ∧ len ≠ 37 ∧ len ≠ 34 ∧ len ≠ 36 then (false, data) else (true, data)

variable (data : Bytes encodedDataSize)

def Preambled : Prop := byteAt data 0 = 0b00000001#8 ∧ byteAt data encodedDataLast = 0b00000001#8

/-- Group `i`: three bits and their parity. -/
def group (i : Nat) : List Bool := bitsFrom data (8 + i * 4) 4

def AllOdd : Prop := ∀ i < 22, parity (group data i) = true

def AllEven : Prop := ∀ i < 22, parity (group data i) = false

/-- The format: the first eight bits that are not parity bits. -/
def formatLength : BitVec 8 := ofBits ((List.range 8).map fun j => bitLibGetBit data (8 + keptPlace 4 j))

def Supported (length : BitVec 8) : Prop := length = 26 ∨ length = 50 ∨ length = 37 ∨ length = 34 ∨ length = 36

/-- The register without its parity bits. -/
def stripped : Bytes encodedDataSize := (bitLibRemoveBitEveryNth data 8 88 4).2

instance : Decidable (Preambled data) := inferInstanceAs (Decidable (_ ∧ _))
instance : Decidable (AllOdd data) := inferInstanceAs (Decidable (∀ i < 22, _))
instance : Decidable (AllEven data) := inferInstanceAs (Decidable (∀ i < 22, _))
instance (length : BitVec 8) : Decidable (Supported length) := inferInstanceAs (Decidable (_ ∨ _))

theorem testParity_odd_iff : bitLibTestParity data 8 88 .odd 4 = true ↔ AllEven data := by
  have block (i : Nat) : bitLibTestParityBlock data 8 .odd 4 i = !parity (group data i) := by
    rw [bitLibTestParityBlock, bitLibGetBits32_eq _ _ (by decide)]
    exact (testParity32_ofBits _ (by rw [length_bitsFrom]; decide)).2
  simp only [bitLibTestParity, List.all_eq_true, List.mem_range, block, Bool.not_eq_true', AllEven]

theorem bitLibGetBit_stripped (place : Nat) : bitLibGetBit (stripped data) place =
      if 8 ≤ place ∧ place < 74 then bitLibGetBit data (8 + keptPlace 4 (place - 8)) else bitLibGetBit data place := by
  have kept : keptCount 4 88 = 66 := by decide
  have bit : bitLibGetBit (stripped data) place =
      if 8 ≤ place ∧ place < 8 + keptCount 4 88 then bitLibGetBit data (8 + keptPlace 4 (place - 8))
      else bitLibGetBit data place := bitLibGetBit_removeBitEveryNth data (by decide) (by decide) place
  rwa [kept] at bit

theorem formatLength_stripped : bitLibGetBits (stripped data) 8 8 = formatLength data := by
  have bits : bitsFrom (stripped data) 8 8 = (List.range 8).map fun j => bitLibGetBit data (8 + keptPlace 4 j) := by
    apply List.map_congr_left
    intro j inside
    rw [List.mem_range] at inside
    rw [bitLibGetBit_stripped, if_pos (by omega), Nat.add_sub_cancel_left]
  rw [bitLibGetBits_eq _ _ (Nat.le_refl 8), bits, formatLength]

/-- What the reader does with any register. -/
theorem protocolAwidCanBeDecoded_eq : protocolAwidCanBeDecoded data =
      if Preambled data ∧ ¬ AllEven data then (decide (Supported (formatLength data)), stripped data)
      else (false, data) := by
  have unfolded : protocolAwidCanBeDecoded data =
      if byteAt data 0 ≠ 0b00000001#8 ∨ byteAt data encodedDataLast ≠ 0b00000001#8 then (false, data)
      else if bitLibTestParity data 8 88 .odd 4 then (false, data)
      else if formatLength data ≠ 26 ∧ formatLength data ≠ 50 ∧ formatLength data ≠ 37 ∧ formatLength data ≠ 34 ∧
          formatLength data ≠ 36 then (false, stripped data)
      else (true, stripped data) := by
    rw [← formatLength_stripped]
    rfl
  have format : (formatLength data ≠ 26 ∧ formatLength data ≠ 50 ∧ formatLength data ≠ 37 ∧ formatLength data ≠ 34 ∧
      formatLength data ≠ 36) ↔ ¬ Supported (formatLength data) := by
    simp only [Supported, not_or]
  rw [unfolded]
  by_cases preambled : Preambled data
  · rw [if_neg (by rw [not_or, not_not, not_not]; exact preambled)]
    by_cases even : AllEven data
    · rw [if_pos ((testParity_odd_iff data).mpr even), if_neg (fun both => both.2 even)]
    · rw [if_neg (fun error => even ((testParity_odd_iff data).mp error)),
        if_pos (c := Preambled data ∧ _) ⟨preambled, even⟩]
      by_cases supported : Supported (formatLength data)
      · rw [if_neg (fun other => format.mp other supported), decide_eq_true supported]
      · rw [if_pos (format.mpr supported), decide_eq_false supported]
  · rw [if_pos (by rwa [← not_and_or]), if_neg (fun both => preambled both.1)]

/-- **The parity test has the wrong sign.** What is accepted has its preamble
and all groups of odd parity exactly where a preamble byte is wrong, the groups
are all odd, all even, or the format is not a known one: with the preamble and
a known format, one odd group is enough to be accepted. -/
theorem awid_accepts_odd_iff (data : Bytes encodedDataSize) :
    ((protocolAwidCanBeDecoded data).1 = true → Preambled data ∧ AllOdd data) ↔
      ¬ Preambled data ∨ AllOdd data ∨ AllEven data ∨ ¬ Supported (formatLength data) := by
  rw [protocolAwidCanBeDecoded_eq]
  by_cases reached : Preambled data ∧ ¬ AllEven data
  · rw [if_pos reached, decide_eq_true_eq]
    constructor
    · intro sound
      by_cases supported : Supported (formatLength data)
      · exact .inr (.inl (sound supported).2)
      · exact .inr (.inr (.inr supported))
    · rintro (noPreamble | odd | even | unsupported) supported
      · exact absurd reached.1 noPreamble
      · exact ⟨reached.1, odd⟩
      · exact absurd even reached.2
      · exact absurd supported unsupported
  · rw [if_neg reached]
    refine ⟨fun _ => ?_, fun _ accepted => Bool.noConfusion accepted⟩
    by_cases preambled : Preambled data
    · exact .inr (.inr (.inl (not_not.mp fun uneven => reached ⟨preambled, uneven⟩)))
    · exact .inl preambled

/-- Format 26 with the preamble and all other bits clear: of 22 groups only one is odd. -/
def oneOddGroup : Bytes encodedDataSize := #v[0x01, 0x0C, 0x80, 0, 0, 0, 0, 0, 0, 0, 0, 0, 0x01]

theorem awid_accepts_one_odd_group :
    (protocolAwidCanBeDecoded oneOddGroup).1 = true ∧ ¬ AllOdd oneOddGroup := by
  decide +kernel

/-- The bits that close up over the parity bits are those that were there. -/
def Unmoved : Prop := ∀ j < 66, bitLibGetBit data (8 + keptPlace 4 j) = bitLibGetBit data (8 + j)

instance : Decidable (Unmoved data) := inferInstanceAs (Decidable (∀ j < 66, _))

theorem stripped_eq_iff : stripped data = data ↔ Unmoved data := by
  constructor
  · intro same j inside
    have bit := bitLibGetBit_stripped data (8 + j)
    rw [if_pos (by omega), Nat.add_sub_cancel_left, same] at bit
    exact bit.symm
  · intro unmoved
    apply bytes_ext
    intro place _
    rw [bitLibGetBit_stripped]
    split
    · rename_i moved
      rw [unmoved (place - 8) (by omega), Nat.add_sub_of_le moved.1]
    · rfl

theorem awid_unchanged_iff :
    ((protocolAwidCanBeDecoded data).1 = false → (protocolAwidCanBeDecoded data).2 = data) ↔
      ¬ Preambled data ∨ AllEven data ∨ Supported (formatLength data) ∨ Unmoved data := by
  rw [protocolAwidCanBeDecoded_eq]
  by_cases reached : Preambled data ∧ ¬ AllEven data
  · rw [if_pos reached, decide_eq_false_iff_not, stripped_eq_iff]
    constructor
    · intro kept
      by_cases supported : Supported (formatLength data)
      · exact .inr (.inr (.inl supported))
      · exact .inr (.inr (.inr (kept supported)))
    · rintro (noPreamble | even | supported | unmoved) unsupported
      · exact absurd reached.1 noPreamble
      · exact absurd even reached.2
      · exact absurd supported unsupported
      · exact unmoved
  · rw [if_neg reached]
    refine ⟨fun _ => ?_, fun _ _ => rfl⟩
    by_cases preambled : Preambled data
    · exact .inr (.inl (not_not.mp fun uneven => reached ⟨preambled, uneven⟩))
    · exact .inl preambled

end Xtreme.LfRfid.Awid
