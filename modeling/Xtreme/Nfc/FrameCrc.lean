import Xtreme.Nfc.IsoCrc
import Xtreme.Toolbox.BitBufferAppend

/-! The checksums behind the frames of all types (`helpers/iso14443_crc.c`,
`helpers/iso13239_crc.c`, `helpers/felica_crc.c`). Those of ISO14443 and ISO13239
are registers with the same feedback, from which they start at different words: an
error within sixteen bits of a frame does not pass their check. -/
namespace Xtreme.Nfc
open Library BitLib Toolbox FeedbackRegister

inductive Iso14443CrcType
  | a
  | b
  deriving DecidableEq, Repr

inductive Iso13239CrcType
  | default
  | picopass
  deriving DecidableEq, Repr

def Iso14443CrcType.calculate : Iso14443CrcType → List (BitVec 8) → BitVec 16
  | .a, data => data.foldl iso14443CrcByte 0x6363#16
  | .b, data => ~~~(data.foldl iso14443CrcByte 0xFFFF#16)

def Iso13239CrcType.calculate : Iso13239CrcType → List (BitVec 8) → BitVec 16
  | .default, data => ~~~(data.foldl iso13239CrcByte 0xFFFF#16)
  | .picopass, data => data.foldl iso13239CrcByte 0xE012#16

/-- One turn of the inner loop of `felica_crc_calculate`. -/
def felicaCrcBit (crc : BitVec 16) : BitVec 16 :=
  if crc &&& 0x8000#16 ≠ 0 then (crc <<< 1) ^^^ 0x1021#16 else crc <<< 1

def felicaCrcByte (crc : BitVec 16) (byte : BitVec 8) : BitVec 16 :=
  (List.range 8).foldl (fun crc _ => felicaCrcBit crc) (crc ^^^ (byte.setWidth 16 <<< 8))

def felicaCrcCalculate (data : List (BitVec 8)) : BitVec 16 :=
  let crc := data.foldl felicaCrcByte 0
  (crc <<< 8) ||| (crc >>> 8)

section
variable {capacity : Nat} (calculate : List (BitVec 8) → BitVec 16) (buf : ParityBuffer capacity)

/-- `iso14443_crc_append` and its likes: the checksum goes out low byte first. -/
def crcAppend : Option (ParityBuffer capacity) :=
  let crc := calculate (buf.bytesFrom 0 buf.sizeBytes)
  bitBufferAppendBytes buf (splitBytes 2 crc).reverse

def crcCheck : Bool :=
  let dataSize := buf.sizeBytes
  2 < dataSize && (joinBytes (buf.bytesFrom (dataSize - 2) 2).reverse : BitVec 16) = calculate (buf.bytesFrom 0 (dataSize - 2))

def crcTrim : Option (ParityBuffer capacity) :=
  let dataSize := buf.sizeBytes
  Toolbox.furiAssert (2 < dataSize ∧ dataSize - 2 ≤ capacity) { buf with sizeBits := (dataSize - 2) * 8 }

end

section
variable {capacity : Nat}

def Iso14443CrcType.append (type : Iso14443CrcType) (buf : ParityBuffer capacity) : Option (ParityBuffer capacity) :=
  crcAppend type.calculate buf

def Iso14443CrcType.check (type : Iso14443CrcType) (buf : ParityBuffer capacity) : Bool := crcCheck type.calculate buf

def Iso13239CrcType.append (type : Iso13239CrcType) (buf : ParityBuffer capacity) : Option (ParityBuffer capacity) :=
  crcAppend type.calculate buf

def Iso13239CrcType.check (type : Iso13239CrcType) (buf : ParityBuffer capacity) : Bool := crcCheck type.calculate buf

end

/-- The checksums that take the lowest bit of a byte first, as it is sent. -/
inductive FrameCrc
  | iso14443 (type : Iso14443CrcType)
  | iso13239 (type : Iso13239CrcType)
  deriving DecidableEq, Repr

namespace FrameCrc
variable {capacity : Nat}

def calculate : FrameCrc → List (BitVec 8) → BitVec 16
  | iso14443 type => type.calculate
  | iso13239 type => type.calculate

def append : FrameCrc → ParityBuffer capacity → Option (ParityBuffer capacity)
  | iso14443 type => type.append
  | iso13239 type => type.append

def check : FrameCrc → ParityBuffer capacity → Bool
  | iso14443 type => type.check
  | iso13239 type => type.check

end FrameCrc

def crcPoly : BitVec 16 := 0x8408

theorem crcPoly_top : crcPoly.getMsbD 0 = true := by decide

theorem iso13239CrcByte_eq (crc : BitVec 16) (byte : BitVec 8) :
    iso13239CrcByte crc byte = feedAll crcPoly crc (bitsOfBytes [byte]) := by
  rw [feedAll_byte (by decide)]
  rfl

/-- The formula for the lower half of the register, and the upper half that only moves down. -/
theorem shifts_low : ∀ low : BitVec 8, (shift crcPoly)^[8] (low.setWidth 16) =
    ((low ^^^ (low <<< 4)).setWidth 16 <<< 8) ^^^ ((low ^^^ (low <<< 4)).setWidth 16 <<< 3) ^^^
      ((low ^^^ (low <<< 4)) >>> 4).setWidth 16 := by
  decide +kernel

theorem shifts_high : ∀ high : BitVec 8, (shift crcPoly)^[8] (high.setWidth 16 <<< 8) = high.setWidth 16 := by
  decide +kernel

theorem iso14443CrcByte_eq (crc : BitVec 16) (byte : BitVec 8) :
    iso14443CrcByte crc byte = feedAll crcPoly crc (bitsOfBytes [byte]) := by
  have halves : crc ^^^ byte.setWidth 16 =
      ((crc >>> 8).setWidth 8).setWidth 16 <<< 8 ^^^ (byte ^^^ crc.setWidth 8).setWidth 16 := by
    apply BitVec.eq_of_getLsbD_eq
    intro place inside
    by_cases low : place < 8
    · simp [low, inside, Bool.xor_comm]
    · simp [low, inside, show place - 8 < 8 by omega,
        show 8 + (place - 8) = place by omega]
  have upper : ((crc >>> 8).setWidth 8).setWidth 16 = crc >>> 8 := by
    apply BitVec.eq_of_toNat_eq
    simp only [BitVec.toNat_setWidth, BitVec.toNat_ushiftRight]
    omega
  rw [feedAll_byte (by decide), halves, shifts_xor, shifts_high, shifts_low, upper, ← BitVec.xor_assoc, ← BitVec.xor_assoc]
  rfl

namespace FrameCrc

/-- The word that the register starts from. -/
def start : FrameCrc → BitVec 16
  | iso14443 .a => 0x6363
  | iso14443 .b => 0xFFFF
  | iso13239 .default => 0xFFFF
  | iso13239 .picopass => 0xE012

/-- What is added to it in the end. -/
def mask : FrameCrc → BitVec 16
  | iso14443 .a => 0
  | iso14443 .b => 0xFFFF
  | iso13239 .default => 0xFFFF
  | iso13239 .picopass => 0

theorem calculate_eq (crc : FrameCrc) (data : List (BitVec 8)) :
    crc.calculate data = feedAll crcPoly crc.start (bitsOfBytes data) ^^^ crc.mask := by
  have complement (word : BitVec 16) : ~~~word = word ^^^ 0xFFFF#16 := (BitVec.xor_allOnes).symm
  cases crc with
  | iso14443 type =>
    cases type
    · exact (foldl_bytes iso14443CrcByte_eq _ data).trans (BitVec.xor_zero).symm
    · exact (congrArg (~~~·) (foldl_bytes iso14443CrcByte_eq _ data)).trans (complement _)
  | iso13239 type =>
    cases type
    · exact (congrArg (~~~·) (foldl_bytes iso13239CrcByte_eq _ data)).trans (complement _)
    · exact (foldl_bytes iso13239CrcByte_eq _ data).trans (BitVec.xor_zero).symm

/-- The word that a register is left with by a frame that passes. -/
def residue (crc : FrameCrc) : BitVec 16 := (shift crcPoly)^[16] crc.mask

variable {capacity : Nat}

theorem append_eq (crc : FrameCrc) (buf : ParityBuffer capacity) : crc.append buf = crcAppend crc.calculate buf := by
  cases crc <;> rfl

theorem check_eq (crc : FrameCrc) (buf : ParityBuffer capacity) : crc.check buf = crcCheck crc.calculate buf := by
  cases crc <;> rfl

end FrameCrc

section
variable {capacity : Nat} {buf : ParityBuffer capacity}

theorem contents_whole {count : Nat} (size : buf.sizeBits = 8 * count) :
    buf.contents = bitsOfBytes (buf.bytesFrom 0 count) := by
  rw [ParityBuffer.contents, bitsOfBytes, ParityBuffer.length_bytesFrom, size]
  apply List.map_congr_left
  intro place inside
  have index : place / 8 < count := by
    have := List.mem_range.mp inside
    omega
  rw [streamBit, ParityBuffer.bytesFrom, List.getD_eq_getElem?_getD, List.getElem?_map, List.getElem?_range index,
    Option.map_some, Option.getD_some, Nat.zero_add]

theorem sizeBytes_whole {count : Nat} (size : buf.sizeBits = 8 * count) : buf.sizeBytes = count := by
  rw [ParityBuffer.sizeBytes, if_neg (by omega)]
  omega

theorem bytesFrom_add (buf : ParityBuffer capacity) (start first second : Nat) :
    buf.bytesFrom start (first + second) = buf.bytesFrom start first ++ buf.bytesFrom (start + first) second := by
  simp only [ParityBuffer.bytesFrom, List.range_add, List.map_append, List.map_map, Function.comp_def, Nat.add_assoc]

/-- A frame passes exactly if it leaves the register with the residue. -/
theorem check_iff (crc : FrameCrc) {count : Nat} (size : buf.sizeBits = 8 * (count + 2)) (filled : 0 < count) :
    crc.check buf = true ↔ feedAll crcPoly crc.start buf.contents = crc.residue := by
  have register : feedAll crcPoly crc.start buf.contents = (shift crcPoly)^[16]
      (feedAll crcPoly crc.start (bitsOfBytes (buf.bytesFrom 0 count)) ^^^ joinBytes (buf.bytesFrom count 2).reverse) := by
    rw [contents_whole size, bytesFrom_add, bitsOfBytes_append, feedAll_append, Nat.zero_add,
      feedAll_bytes _ _ (by simp), ParityBuffer.length_bytesFrom]
  have last : count + 2 - 2 = count := Nat.add_sub_cancel ..
  rw [crc.check_eq, register, FrameCrc.residue, ((shift_injective crcPoly_top).iterate 16).eq_iff]
  simp only [crcCheck, sizeBytes_whole size, last, crc.calculate_eq, Bool.and_eq_true, decide_eq_true_eq,
    show 2 < count + 2 by omega, true_and]
  constructor
  · intro same
    rw [same, ← BitVec.xor_assoc, BitVec.xor_self, BitVec.zero_xor]
  · intro same
    rw [← same, ← BitVec.xor_assoc, BitVec.xor_self, BitVec.zero_xor]

theorem feedAll_residue (crc : FrameCrc) (data : List (BitVec 8)) :
    feedAll crcPoly crc.start (bitsOfBytes data ++ bitsOfBytes (splitBytes 2 (crc.calculate data)).reverse) =
      crc.residue := by
  rw [feedAll_append, feedAll_bytes _ _ (by simp), List.reverse_reverse, joinBytes_splitBytes (by decide), crc.calculate_eq,
    ← BitVec.xor_assoc, BitVec.xor_self, BitVec.zero_xor]
  rfl

end

/-- Contents that differ from a frame, in places that lie within sixteen bits. -/
def Burst (frame received : List Bool) : Prop :=
  frame ≠ received ∧ frame.length = received.length ∧
    ∃ start, ∀ place, frame[place]? ≠ received[place]? → start ≤ place ∧ place < start + 16

theorem feedAll_ne {frame received : List Bool} (burst : Burst frame received) (crc : BitVec 16) :
    feedAll crcPoly crc frame ≠ feedAll crcPoly crc received := by
  obtain ⟨differ, length, start, within⟩ := burst
  have same {place : Nat} (outside : place < start ∨ start + 16 ≤ place) : frame[place]? = received[place]? := by
    by_contra apart
    have := within place apart
    omega
  have front : frame.take start = received.take start := by
    apply List.ext_getElem?
    intro place
    rw [List.getElem?_take, List.getElem?_take]
    split
    · rename_i before
      exact same (.inl before)
    · rfl
  have back : frame.drop (start + 16) = received.drop (start + 16) := by
    apply List.ext_getElem?
    intro place
    rw [List.getElem?_drop, List.getElem?_drop]
    exact same (.inr (Nat.le_add_right ..))
  have parts (bits : List Bool) : bits = bits.take start ++ (bits.drop start).take 16 ++ bits.drop (start + 16) := by
    rw [List.append_assoc, ← List.drop_drop, List.take_append_drop, List.take_append_drop]
  rw [parts frame, parts received, front, back]
  apply feedAll_burst crcPoly_top
  · rw [List.length_take, List.length_take, List.length_drop, List.length_drop, length]
  · exact List.length_take_le 16 _
  · intro middle
    exact differ (by rw [parts frame, parts received, front, back, middle])

/-- A frame that was made of a message of whole bytes passes its check and is trimmed to the message;
received with an error burst of up to sixteen bits, it does not pass. -/
theorem bursts_detected (crc : FrameCrc) {capacity : Nat} {message frame : ParityBuffer capacity}
    (filled : 0 < message.sizeBits) (whole : message.sizeBits % 8 = 0) (made : crc.append message = some frame) :
    crc.check frame = true ∧ (∃ trimmed, crcTrim frame = some trimmed ∧ trimmed.contents = message.contents) ∧
      ∀ {capacity' : Nat} (received : ParityBuffer capacity'), Burst frame.contents received.contents →
        crc.check received = false := by
  obtain ⟨count, size⟩ : ∃ count, message.sizeBits = 8 * count := ⟨message.sizeBits / 8, by omega⟩
  rw [crc.append_eq, crcAppend, sizeBytes_whole size] at made
  have appends := (appendBytes_iff made).mpr (.inl (ParityBuffer.unused_eq_nil_iff.mpr whole))
  have frameSize : frame.sizeBits = 8 * (count + 2) := by
    rw [appends.size, size, length_bitsOfBytes, List.length_reverse, length_splitBytes, Nat.mul_add]
  have passes : feedAll crcPoly crc.start frame.contents = crc.residue := by
    rw [appends.contents, contents_whole size, feedAll_residue]
  refine ⟨(check_iff crc frameSize (by omega)).mpr passes, ?_, fun received burst => ?_⟩
  · refine ⟨{ frame with sizeBits := (frame.sizeBytes - 2) * 8 }, if_pos ?_, ?_⟩
    · rw [sizeBytes_whole frameSize]
      obtain ⟨room, -⟩ := Toolbox.furiAssert_eq_some.mp made
      rw [sizeBytes_whole size] at room
      omega
    · have trimmed : (frame.sizeBytes - 2) * 8 = message.sizeBits := by
        rw [sizeBytes_whole frameSize]
        omega
      have front : frame.contents.take message.sizeBits = message.contents := by
        rw [appends.contents, List.take_left' ParityBuffer.length_contents]
      rw [← front, ParityBuffer.contents, ParityBuffer.contents, ← List.map_take, List.take_range, trimmed,
        Nat.min_eq_left (by omega)]
  · have length := burst.2.1
    rw [ParityBuffer.length_contents, ParityBuffer.length_contents, frameSize] at length
    rw [Bool.eq_false_iff, Ne, check_iff crc length.symm (by omega), ← passes]
    exact fun same => feedAll_ne burst crc.start same.symm

/-- HLTA, its frame, and the frame with one bit wrong. -/
def hlta : ParityBuffer 4 := ⟨#v[0x50, 0x00, 0x00, 0x00], Vector.replicate _ 0, 16⟩
def hltaFrame : ParityBuffer 4 := ⟨#v[0x50, 0x00, 0x57, 0xCD], Vector.replicate _ 0, 32⟩
def hltaReceived : ParityBuffer 4 := ⟨#v[0x58, 0x00, 0x57, 0xCD], Vector.replicate _ 0, 32⟩

theorem bursts_detected_hlta : (FrameCrc.iso14443 .a).check hltaReceived = false := by
  have within : ∀ place < 32, hltaFrame.contents[place]? ≠ hltaReceived.contents[place]? → 3 ≤ place ∧ place < 3 + 16 := by
    decide +kernel
  refine (@bursts_detected (.iso14443 .a) 4 hlta hltaFrame (by decide) (by decide) (by decide +kernel)).2.2 hltaReceived
    ⟨by decide +kernel, rfl, 3, fun place apart => within place ?_ apart⟩
  by_contra outside
  rw [List.getElem?_eq_none (Nat.not_lt.mp outside), List.getElem?_eq_none (Nat.not_lt.mp outside)] at apart
  exact apart rfl

end Xtreme.Nfc
