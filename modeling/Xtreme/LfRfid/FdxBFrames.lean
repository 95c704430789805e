import Xtreme.Library.SlidingWindow
import Xtreme.LfRfid.FdxB

/-! What the FDX-B reader makes of a tag that sends its frame over and over. -/
namespace Xtreme.LfRfid.FdxB
open Xtreme.Library Xtreme.BitLib

def blockBit (data : Bytes decodedDataSize) (i j : Nat) : Bool :=
  if i < 8 then bitLibGetBit data (8 * i + j)
  else if i = 8 then bitLibGetBit (halfWordBytes (crcResult data)) (8 + j)
  else if i = 9 then bitLibGetBit (halfWordBytes (crcResult data)) j
  else bitLibGetBit data (8 * (i - 2) + j)

def frameBit (data : Bytes decodedDataSize) (place : Nat) : Bool :=
  if place < 11 then place = 0
  else if (place - 11) % 9 = 0 then true
  else blockBit data ((place - 11) / 9) ((place - 11) % 9 - 1)

variable (data : Bytes decodedDataSize)

theorem frameBit_zero : frameBit data 0 = true := rfl

variable {place : Nat}

theorem frameBit_header (low : 1 ≤ place) (high : place < 11) :
    frameBit data place = false := by
  rw [frameBit, if_pos high, decide_eq_false (by omega)]

theorem frameBit_marker (i : Nat) : frameBit data (11 + 9 * i) = true := by
  rw [frameBit, if_neg (by omega), if_pos (by omega)]

theorem frameBit_block (i : Nat) {j : Nat} (inside : j < 8) :
    frameBit data (12 + 9 * i + j) = blockBit data i j := by
  rw [frameBit, if_neg (by omega), if_neg (by omega), show (12 + 9 * i + j - 11) / 9 = i by omega,
    show (12 + 9 * i + j - 11) % 9 - 1 = j by omega]

variable (start : Bytes encodedByteFullSize)

/-- One block: its marker, its eight bits unless the checksum belongs there,
and nothing else. -/
theorem getBit_encodeBlock {i : Nat} (few : i < 13) (place : Nat) : bitLibGetBit (encodeBlock data start i) place =
      if place = 11 + 9 * i then true
      else if 12 + 9 * i ≤ place ∧ place < 12 + 9 * i + 8 ∧ i ≠ 8 ∧ i ≠ 9 then
        blockBit data i (place - (12 + 9 * i))
      else bitLibGetBit start place := by
  have size : 8 * encodedByteFullSize = 144 := rfl
  have marked (place : Nat) : bitLibGetBit (bitLibSetBit start (11 + 9 * i) true) place =
      if place = 11 + 9 * i then true else bitLibGetBit start place :=
    bitLibGetBit_setBit _ (by omega) _ _
  unfold encodeBlock
  by_cases checksum : i = 8 ∨ i = 9
  · rw [if_pos checksum, marked, if_neg (show ¬ (12 + 9 * i ≤ place ∧ _) by omega)]
  rw [if_neg checksum]
  by_cases early : i < 8
  · rw [if_pos early, bitLibGetBit_copyBits _ _ _ (by omega), marked]
    by_cases inside : 12 + 9 * i ≤ place ∧ place < 12 + 9 * i + 8
    · rw [if_pos inside, if_neg (by omega), if_pos (by omega), blockBit, if_pos early, Nat.mul_comm]
    · rw [if_neg inside, if_neg (show ¬ (12 + 9 * i ≤ place ∧ _) by omega)]
  · rw [if_neg early, bitLibGetBit_copyBits _ _ _ (by omega), marked]
    by_cases inside : 12 + 9 * i ≤ place ∧ place < 12 + 9 * i + 8
    · rw [if_pos inside, if_neg (by omega), if_pos (by omega), blockBit, if_neg early, if_neg (by omega),
        if_neg (by omega), Nat.mul_comm]
    · rw [if_neg inside, if_neg (show ¬ (12 + 9 * i ≤ place ∧ _) by omega)]

theorem getBit_encodeBlocks {i j : Nat} (block : i < 13) (inside : j < 9) :
    bitLibGetBit ((List.range 13).foldl (encodeBlock data) start) (11 + 9 * i + j) =
      if j = 0 then true
      else if i ≠ 8 ∧ i ≠ 9 then blockBit data i (j - 1)
      else bitLibGetBit start (11 + 9 * i + j) := by
  suffices ∀ count ≤ 13, bitLibGetBit ((List.range count).foldl (encodeBlock data) start) (11 + 9 * i + j) =
        if i < count then
          if j = 0 then true
          else if i ≠ 8 ∧ i ≠ 9 then blockBit data i (j - 1)
          else bitLibGetBit start (11 + 9 * i + j)
        else bitLibGetBit start (11 + 9 * i + j) by
    rw [this 13 (Nat.le_refl _), if_pos block]
  intro count
  induction count with
  | zero => intro _; rfl
  | succ count ih =>
    intro few
    rw [List.range_succ, List.foldl_append, List.foldl_cons, List.foldl_nil,
      getBit_encodeBlock data _ (by omega), ih (by omega)]
    by_cases this : i = count
    · subst this
      rw [if_neg (Nat.lt_irrefl i), if_pos (Nat.lt_succ_self i)]
      by_cases marker : j = 0
      · rw [if_pos (by omega), if_pos marker]
      · rw [if_neg (by omega), if_neg marker]
        by_cases checksum : i ≠ 8 ∧ i ≠ 9
        · rw [if_pos (by omega), if_pos checksum, show 11 + 9 * i + j - (12 + 9 * i) = j - 1 by omega]
        · rw [if_neg (by omega), if_neg checksum]
    · rw [if_neg (by omega), if_neg (by omega), if_congr (show i < count + 1 ↔ i < count by omega) rfl rfl]

theorem getBit_encodeBlocks_header (header : place < 11) :
    bitLibGetBit ((List.range 13).foldl (encodeBlock data) start) place = bitLibGetBit start place := by
  suffices ∀ count ≤ 13, bitLibGetBit ((List.range count).foldl (encodeBlock data) start) place =
      bitLibGetBit start place from this 13 (Nat.le_refl _)
  intro count
  induction count with
  | zero => intro _; rfl
  | succ count ih =>
    intro few
    rw [List.range_succ, List.foldl_append, List.foldl_cons, List.foldl_nil,
      getBit_encodeBlock data _ (by omega), ih (by omega), if_neg (by omega), if_neg (by omega)]

theorem getBit_encode (inside : place < 128) :
    bitLibGetBit (encode data) place = frameBit data place := by
  have size : 8 * encodedByteFullSize = 144 := rfl
  have cleared (place : Nat) : bitLibGetBit (bitLibSetBit (Vector.replicate encodedByteFullSize 0) 0 true) place =
        decide (place = 0) := by
    rw [bitLibGetBit_setBit _ (by omega)]
    by_cases first : place = 0
    · rw [if_pos first, decide_eq_true first]
    · rw [if_neg first, decide_eq_false first, bitLibGetBit_zeros]
  rw [encode, bitLibGetBit_copyBits _ _ _ (by omega), bitLibGetBit_copyBits _ _ _ (by omega)]
  by_cases header : place < 11
  · rw [if_neg (by omega), if_neg (by omega), getBit_encodeBlocks_header data _ header, cleared,
      frameBit, if_pos header]
  obtain ⟨i, j, block, column, rfl⟩ : ∃ i j, i < 13 ∧ j < 9 ∧ place = 11 + 9 * i + j :=
    ⟨(place - 11) / 9, (place - 11) % 9, by omega, by omega, by omega⟩
  by_cases marker : j = 0
  · subst marker
    rw [if_neg (by omega), if_neg (by omega), getBit_encodeBlocks data _ block (by omega)]
    exact (frameBit_marker data i).symm
  obtain ⟨j, rfl⟩ : ∃ j', j = j' + 1 := ⟨j - 1, by omega⟩
  rw [show 11 + 9 * i + (j + 1) = 12 + 9 * i + j by omega, frameBit_block data i (by omega)]
  by_cases low : i = 9
  · rw [if_pos (by omega), blockBit, if_neg (by omega), if_neg (by omega), if_pos low]
    congr 1
    omega
  by_cases high : i = 8
  · rw [if_neg (by omega), if_pos (by omega), blockBit, if_neg (by omega), if_pos high]
    congr 1
    omega
  · rw [if_neg (by omega), if_neg (by omega), show 12 + 9 * i + j = 11 + 9 * i + (j + 1) by omega,
      getBit_encodeBlocks data _ block (by omega), if_neg (by omega), if_pos ⟨high, low⟩]
    rfl

theorem halfWord_bytes (value : BitVec 16) : halfWord (halfWordBytes value) = value := by
  have bytes (low high : BitVec 8) : byteAt #v[low, high] 0 = low ∧ byteAt #v[low, high] 1 = high :=
    ⟨rfl, rfl⟩
  rw [halfWord, halfWordBytes, (bytes _ _).1, (bytes _ _).2]
  apply BitVec.eq_of_getLsbD_eq
  intro place inside
  rw [BitVec.getLsbD_or, BitVec.getLsbD_shiftLeft, BitVec.getLsbD_setWidth, BitVec.getLsbD_setWidth, BitVec.getLsbD_setWidth, decide_eq_true inside]
  by_cases low : place < 8
  · simp [low]
  · simp [low, show place - 8 < 8 by omega, show place - 8 < 16 by omega,
      show 8 + (place - 8) = place by omega]

/-- A header in an array: a one and ten zeros from `position` on. -/
def HeaderAt (window : Nat → Bool) (position : Nat) : Prop :=
  window position = true ∧ ∀ i, 1 ≤ i → i ≤ 10 → window (position + i) = false

variable (encodedData : Bytes encodedByteFullSize)

theorem header_iff (position : Nat) : bitLibGetBits16 encodedData position 11 = 0b10000000000#16 ↔
      HeaderAt (bitLibGetBit encodedData) position := by
  rw [@bitLibGetBits16_eq_iff _ encodedData position 11 _ (true :: List.replicate 10 false) rfl
    (by omega) (by decide)]
  have pattern : ∀ i < 11, (true :: List.replicate 10 false).getD i false = decide (i = 0) := by decide
  constructor
  · intro bits
    refine ⟨bits 0 (by omega), fun i low high => ?_⟩
    rw [bits i (by omega), pattern i (by omega), decide_eq_false (by omega)]
  · rintro ⟨one, zeros⟩ i inside
    by_cases first : i = 0
    · rw [first]
      exact one
    · rw [zeros i (by omega) (by omega), pattern i inside, decide_eq_false first]

theorem markers_iff : bitLibTestParity encodedData 3 (13 * 9) .always1 9 = true ↔
      ∀ i < 13, bitLibGetBit encodedData (11 + 9 * i) = true := by
  rw [bitLibTestParity_always1]
  refine forall₂_congr fun i _ => ?_
  rw [show 3 + i * 9 + 9 - 1 = 11 + 9 * i by omega]

/-- What an accepted window has to show, the checksum apart. -/
structure Marked (window : Nat → Bool) : Prop where
  header : HeaderAt window 0
  nextHeader : HeaderAt window 128
  markers : ∀ i < 13, window (11 + 9 * i) = true

variable {protocol : ProtocolFdxB}

theorem marked_of_accepted (accepted : protocolFdxBCanBeDecoded protocol = true) :
    Marked (bitLibGetBit protocol.encodedData) := by
  unfold protocolFdxBCanBeDecoded at accepted
  split_ifs at accepted with header nextHeader markers
  rw [not_not] at header nextHeader
  rw [Bool.not_eq_true', Bool.not_eq_false] at markers
  exact ⟨(header_iff _ _).mp header, (header_iff _ _).mp nextHeader, (markers_iff _).mp markers⟩

/-- A window onto the repeated frame, from its first bit. -/
def frameWindow (data : Bytes decodedDataSize) (place : Nat) : Bool := frameBit data (place % 128)

theorem frameWindow_block {i j : Nat} (block : i < 13) (inside : j < 8) :
    frameWindow data (12 + 9 * i + j) = blockBit data i j := by
  rw [frameWindow, Nat.mod_eq_of_lt (by omega), frameBit_block data i inside]

theorem marked_frameWindow : Marked (frameWindow data) where
  header := ⟨rfl, fun i low high => by
    rw [frameWindow, frameBit_header data (by omega) (by omega)]⟩
  nextHeader := ⟨rfl, fun i low high => by
    rw [frameWindow, frameBit_header data (by omega) (by omega)]⟩
  markers i few := by
    rw [frameWindow, Nat.mod_eq_of_lt (by omega), frameBit_marker]

theorem HeaderAt.congr {first second : Nat → Bool} {position : Nat}
    (same : ∀ i ≤ 10, first (position + i) = second (position + i)) (header : HeaderAt first position) :
    HeaderAt second position :=
  ⟨(same 0 (by omega)).symm.trans header.1, fun i low high => (same i high).symm.trans (header.2 i low high)⟩

theorem Marked.congr {first second : Nat → Bool} (same : ∀ place < 144, first place = second place)
    (marked : Marked first) : Marked second where
  header := marked.header.congr fun i _ => same _ (by omega)
  nextHeader := marked.nextHeader.congr fun i _ => same _ (by omega)
  markers i few := (same _ (by omega)).symm.trans (marked.markers i few)

/-- The bytes the checksum is computed over. -/
theorem getBit_crcData (inside : place < 64) : bitLibGetBit ((List.range 8).foldl (fun crcData i =>
        bitLibCopyBits crcData (i * 8) 8 encodedData (12 + 9 * i)) (Vector.replicate 8 0 : Bytes 8)) place =
      bitLibGetBit encodedData (12 + 9 * (place / 8) + place % 8) := by
  suffices ∀ count ≤ 8, bitLibGetBit ((List.range count).foldl (fun crcData i =>
      bitLibCopyBits crcData (i * 8) 8 encodedData (12 + 9 * i)) (Vector.replicate 8 0 : Bytes 8)) place =
        if place < 8 * count then bitLibGetBit encodedData (12 + 9 * (place / 8) + place % 8) else false by
    rw [this 8 (Nat.le_refl _), if_pos inside]
  intro count
  induction count with
  | zero =>
    intro _
    rw [List.range_zero, List.foldl_nil, bitLibGetBit_zeros, if_neg (by omega)]
  | succ count ih =>
    intro few
    rw [List.range_succ, List.foldl_append, List.foldl_cons, List.foldl_nil,
      bitLibGetBit_copyBits _ _ _ (by omega), ih (by omega)]
    by_cases this : count * 8 ≤ place ∧ place < count * 8 + 8
    · rw [if_pos this, if_pos (by omega)]
      congr 1
      omega
    · rw [if_neg this, if_congr (show place < 8 * (count + 1) ↔ place < 8 * count by omega) rfl rfl]

/-- **A frame is accepted.** -/
theorem accepted_of_frame {data : Bytes decodedDataSize}
    (frame : ∀ place < 144, bitLibGetBit protocol.encodedData place = frameWindow data place) :
    protocolFdxBCanBeDecoded protocol = true := by
  have marked : Marked (bitLibGetBit protocol.encodedData) :=
    (marked_frameWindow data).congr fun place inside => (frame place inside).symm
  have crc : crcResult ((List.range 8).foldl (fun crcData i =>
      bitLibCopyBits crcData (i * 8) 8 protocol.encodedData (12 + 9 * i)) (Vector.replicate 8 0 : Bytes 8)) =
        crcResult data := by
    refine bitLibCrc16_congr (fun i few => ?_) _ _ _ _ _
    apply BitVec.eq_of_getMsbD_eq
    intro j inside
    rw [getMsbD_byteAt _ _ inside, getMsbD_byteAt _ _ inside, getBit_crcData _ (by omega),
      frame _ (by omega), show (8 * i + j) / 8 = i by omega, show (8 * i + j) % 8 = j by omega,
      frameWindow_block data (by omega) inside, blockBit, if_pos few]
  have stored : bitLibCopyBits (bitLibCopyBits (Vector.replicate 2 0 : Bytes 2) 8 8 protocol.encodedData 84)
      0 8 protocol.encodedData 93 = halfWordBytes (crcResult data) := by
    apply bytes_ext
    intro place inside
    rw [bitLibGetBit_copyBits _ _ _ (by omega), bitLibGetBit_copyBits _ _ _ (by omega)]
    by_cases low : place < 8
    · rw [if_pos (by omega), frame _ (by omega),
        show 93 + (place - 0) = 12 + 9 * 9 + place by omega, frameWindow_block data (by omega) low]
      rfl
    · rw [if_neg (by omega), if_pos (by omega), frame _ (by omega),
        show 84 + (place - 8) = 12 + 9 * 8 + (place - 8) by omega,
        frameWindow_block data (by omega) (by omega)]
      show bitLibGetBit _ (8 + (place - 8)) = _
      rw [show 8 + (place - 8) = place by omega]
  unfold protocolFdxBCanBeDecoded
  rw [if_neg (not_not.mpr ((header_iff _ _).mpr marked.header)),
    if_neg (not_not.mpr ((header_iff _ _).mpr marked.nextHeader)),
    if_neg (by rw [(markers_iff _).mpr marked.markers]; exact Bool.noConfusion)]
  dsimp only
  rw [crc, stored, halfWord_bytes, if_neg (not_not.mpr rfl)]

/-- The register after a decode: the blocks closed up at its front, then what
lay behind them, then the zeros pushed in. -/
theorem getBit_decode_register (protocol : ProtocolFdxB) (inside : place < 144) :
    bitLibGetBit (protocolFdxBDecode protocol).encodedData place =
      if place < 104 then bitLibGetBit protocol.encodedData (12 + 9 * (place / 8) + place % 8)
      else if place < 133 then bitLibGetBit protocol.encodedData (place + 11)
      else false := by
  have size : 8 * encodedByteFullSize = 144 := rfl
  have kept : keptCount 9 (14 * 9) = 112 := rfl
  rw [protocolFdxBDecode, bitLibGetBit_pushZeros _ _ (by omega)]
  by_cases last : place < 133
  · rw [decide_eq_true (by omega), Bool.true_and, bitLibGetBit_removeBitEveryNth _ (by omega) (by omega)]
    by_cases block : place < 104
    · rw [if_pos (by omega), if_pos block]
      congr 1
      unfold keptPlace
      omega
    · rw [if_neg (by omega), if_neg block, if_pos last]
  · rw [decide_eq_false (by omega), Bool.false_and, if_neg (by omega), if_neg last]

/-- The data taken out: the blocks but for the two of the checksum. -/
theorem getBit_decode_data (protocol : ProtocolFdxB) (inside : place < 88) :
    bitLibGetBit (protocolFdxBDecode protocol).data place =
      bitLibGetBit (protocolFdxBDecode protocol).encodedData (if place < 64 then place else place + 16) := by
  have size : 8 * decodedDataSize = 88 := rfl
  have register : (protocolFdxBDecode protocol).data = bitLibCopyBits (bitLibCopyBits protocol.data 0 64
      (protocolFdxBDecode protocol).encodedData 0) 64 24 (protocolFdxBDecode protocol).encodedData 80 := by
    rw [protocolFdxBDecode]
  rw [register, bitLibGetBit_copyBits _ _ _ (by omega), bitLibGetBit_copyBits _ _ _ (by omega)]
  by_cases early : place < 64
  · rw [if_neg (by omega), if_pos (by omega), if_pos early]
    congr 1
    omega
  · rw [if_pos (by omega), if_neg early]
    congr 1
    omega

/-- **A frame is read back as the data it was made from.** -/
theorem decode_frame {data : Bytes decodedDataSize}
    (frame : ∀ place < 144, bitLibGetBit protocol.encodedData place = frameWindow data place) :
    (protocolFdxBDecode protocol).data = data := by
  apply bytes_ext
  intro place inside
  have inside : place < 88 := inside
  have block (place : Nat) (within : place < 104) : bitLibGetBit (protocolFdxBDecode protocol).encodedData place =
        blockBit data (place / 8) (place % 8) := by
    rw [getBit_decode_register protocol (by omega), if_pos within, frame _ (by omega),
      frameWindow_block data (by omega) (by omega)]
  rw [getBit_decode_data protocol inside, block _ (by split <;> omega)]
  by_cases early : place < 64
  · rw [if_pos early, blockBit, if_pos (by omega)]
    congr 1
    omega
  · rw [if_neg early, blockBit, if_neg (by omega), if_neg (by omega), if_neg (by omega)]
    congr 1
    omega

/-! ## Reading a stream -/

/-- A reader in front of a window. -/
def onWindow (window : Nat → Bool) : ProtocolFdxB where
  lastShort := false
  lastLevel := false
  encodedIndex := 0
  encodedData := bytesOf encodedByteFullSize window
  data := Vector.replicate decodedDataSize 0

theorem canBeDecoded_onWindow {window : Nat → Bool}
    (same : ∀ place < 144, bitLibGetBit protocol.encodedData place = window place) :
    protocolFdxBCanBeDecoded (onWindow window) = protocolFdxBCanBeDecoded protocol := by
  have register : (onWindow window).encodedData = protocol.encodedData := bytesOf_eq same
  unfold protocolFdxBCanBeDecoded
  rw [register]

theorem getBit_onWindow (window : Nat → Bool) (inside : place < 144) :
    bitLibGetBit (onWindow window).encodedData place = window place :=
  bitLibGetBit_bytesOf window inside

def left (window : Nat → Bool) (place : Nat) : Bool :=
  if place < 104 then window (12 + 9 * (place / 8) + place % 8)
  else if place < 133 then window (place + 11)
  else false

theorem getBit_pushBit (protocol : ProtocolFdxB) (bit : Bool) (inside : place < 144) :
    bitLibGetBit (pushBit protocol bit).encodedData place =
      pushed (bitLibGetBit protocol.encodedData) 144 bit place :=
  bitLibGetBit_pushBit protocol.encodedData bit inside

/-- The reader as one that slides a window over a stream. -/
def reader : WindowReader ProtocolFdxB 144 where
  register protocol := bitLibGetBit protocol.encodedData
  feed := feedBit
  Accepts window := protocolFdxBCanBeDecoded (onWindow window) = true
  leaves := left
  accepts_congr {first second} same accepted :=
    (@canBeDecoded_onWindow (onWindow first) second fun place inside =>
      (getBit_onWindow first inside).trans (same place inside)).trans accepted
  leaves_congr same place inside := by
    unfold left
    split_ifs
    · exact same _ (by omega)
    · exact same _ (by omega)
    · rfl
  feed_reports protocol bit := by
    rw [canBeDecoded_onWindow fun place inside => getBit_pushBit protocol bit inside, feedBit]
    split <;> rename_i accepted <;> simp [accepted]
  feed_rejected protocol bit rejected place inside := by
    rw [feedBit] at rejected ⊢
    split at rejected <;> rename_i accepted
    · exact Bool.noConfusion rejected
    · rw [if_neg accepted]
      exact getBit_pushBit protocol bit inside
  feed_accepted protocol bit reported place inside := by
    rw [feedBit] at reported ⊢
    split at reported <;> rename_i accepted
    · rw [if_pos accepted, getBit_decode_register _ inside, left]
      split_ifs
      · exact getBit_pushBit protocol bit (by omega)
      · exact getBit_pushBit protocol bit (by omega)
      · rfl
    · exact Bool.noConfusion reported

theorem marked_of_accepts {window : Nat → Bool} (accepted : reader.Accepts window) : Marked window :=
  (marked_of_accepted accepted).congr fun _ inside => getBit_onWindow window inside

theorem accepts_frame {window : Nat → Bool} (frame : ∀ place < 144, window place = frameWindow data place) :
    reader.Accepts window :=
  accepted_of_frame fun place inside => (getBit_onWindow window inside).trans (frame place inside)

/-- The bits of the repeated frame from `offset` on. -/
def stream (data : Bytes decodedDataSize) (offset i : Nat) : Bool := frameBit data ((offset + i) % 128)

/-- **No other header.** Ten zeros behind a one stand in the repeated frame at
its start only: elsewhere a marker follows within nine bits. -/
theorem header_aligned {start : Nat} (header : HeaderAt (fun place => frameBit data (place % 128)) start) :
    start % 128 = 0 := by
  by_contra moved
  by_cases early : start % 128 < 11
  · have marker := header.2 (11 - start % 128) (by omega) (by omega)
    dsimp only at marker
    rw [show (start + (11 - start % 128)) % 128 = 11 + 9 * 0 by omega] at marker
    exact Bool.noConfusion marker
  by_cases late : 119 ≤ start % 128
  · have one := header.2 (128 - start % 128) (by omega) (by omega)
    dsimp only at one
    rw [show (start + (128 - start % 128)) % 128 = 0 by omega] at one
    exact Bool.noConfusion one
  · have marker := header.2 (9 - (start % 128 - 11) % 9) (by omega) (by omega)
    dsimp only at marker
    rw [show (start + (9 - (start % 128 - 11) % 9)) % 128 = 11 + 9 * ((start % 128 - 11) / 9 + 1) by omega,
      frameBit_marker] at marker
    exact Bool.noConfusion marker

/-- A window in which nothing old is left is accepted at the start of a frame
only, and then shows the frame. -/
theorem accepts_late {old : Nat → Bool} (offset : Nat) {count : Nat}
    (late : 144 ≤ count) (accepted : reader.Accepts (slid old (stream data offset) 144 count)) :
    (offset + count) % 128 = 16 ∧
      ∀ place < 144, slid old (stream data offset) 144 count place = frameWindow data place := by
  have shown (place : Nat) : slid old (stream data offset) 144 count place =
      frameBit data ((offset + count + 112 + place) % 128) := by
    rw [slid_late _ _ late]
    exact congrArg (frameBit data) (by omega)
  have header : HeaderAt (fun place => frameBit data (place % 128)) (offset + count + 112) := by
    refine ⟨?_, fun i low high => ?_⟩
    · have one := (marked_of_accepts accepted).nextHeader.1
      rw [shown] at one
      rw [← one]
      exact congrArg (frameBit data) (by omega)
    · have zero := (marked_of_accepts accepted).nextHeader.2 i low high
      rw [shown] at zero
      rw [← zero]
      exact congrArg (frameBit data) (by omega)
  have aligned := header_aligned data header
  refine ⟨by omega, fun place inside => ?_⟩
  rw [shown]
  exact congrArg (frameBit data) (by omega)

/-- A window that still holds a part of an accepted one is not accepted: its two
headers cannot both be there, or a marker is missing. -/
theorem rejects_left (offset : Nat) (behind : offset % 128 = 16) {count : Nat} (early : count + 1 < 144) :
    ¬ reader.Accepts (slid (left (frameWindow data)) (stream data offset) 144 (count + 1)) := by
  intro accepted
  have marked := marked_of_accepts accepted
  have old (place : Nat) (inside : place + (count + 1) < 144) :
      slid (left (frameWindow data)) (stream data offset) 144 (count + 1) place =
        left (frameWindow data) (place + (count + 1)) := if_pos inside
  by_cases few : count + 1 < 4
  · -- the data bit in front of both headers is one bit of the tag's data
    have one := marked.header.1
    have zero := marked.nextHeader.2 1 (by omega) (by omega)
    rw [old _ (by omega), left, if_pos (by omega), frameWindow] at one
    rw [old _ (by omega), left, if_neg (by omega), if_pos (by omega), frameWindow,
      show (128 + 1 + (count + 1) + 11) % 128 =
        (12 + 9 * ((0 + (count + 1)) / 8) + (0 + (count + 1)) % 8) % 128 by omega, one] at zero
    exact Bool.noConfusion zero
  by_cases fourth : count + 1 = 4
  · -- the last marker falls into the next header
    have marker := marked.markers 12 (by omega)
    rw [old _ (by omega), left, if_neg (by omega), if_pos (by omega), frameWindow,
      frameBit_header data (by omega) (by omega)] at marker
    exact Bool.noConfusion marker
  by_cases some : count + 1 < 16
  · -- the next header would start in the zeros pushed in
    have one := marked.nextHeader.1
    rw [old _ (by omega), left, if_neg (by omega), if_neg (by omega)] at one
    exact Bool.noConfusion one
  · have aligned : (count + 1) % 128 = 0 :=
      @header_aligned data (count + 1) (by
        refine ⟨?_, fun i low high => ?_⟩
        · have one := marked.nextHeader.1
          rw [slid, if_neg (by omega)] at one
          rw [← one]
          exact congrArg (frameBit data) (by omega)
        · have zero := marked.nextHeader.2 i low high
          rw [slid, if_neg (by omega)] at zero
          rw [← zero]
          exact congrArg (frameBit data) (by omega))
    -- the first marker falls into the zeros pushed in
    have marker := marked.markers 0 (by omega)
    rw [old _ (by omega), left, if_neg (by omega), if_neg (by omega)] at marker
    exact Bool.noConfusion marker

theorem synchronised (offset : Nat) : reader.Synchronised (fun _ => false) (stream data offset) (frameWindow data)
      (fun count => (offset + count) % 128 = 16) where
  first count accepted := by
    have full : 144 ≤ count + 1 := by
      by_contra room
      have one := (marked_of_accepts accepted).header.1
      rw [slid, if_pos (by omega)] at one
      exact Bool.noConfusion one
    exact accepts_late data offset full accepted
  next start good count accepted := by
    have same : (fun i => stream data offset (start + i)) = stream data (offset + start) := by
      funext i
      rw [stream, stream, Nat.add_assoc]
    rw [same] at accepted ⊢
    rw [← Nat.add_assoc]
    by_cases early : count + 1 < 144
    · exact absurd accepted (rejects_left data _ good early)
    · exact accepts_late data _ (by omega) accepted

/-- Bit `n` of the frame the encoder repeats. -/
def sentBit (card : ProtocolFdxB) (n : Nat) : Bool :=
  bitLibGetBit (protocolFdxBEncoderStart card).encodedData (n % encodedBitSize)

/-- What the reader answers to bit `n` of a tag that started `offset` bits into its frame. -/
def answer (card receiver : ProtocolFdxB) (offset n : Nat) : Bool × ProtocolFdxB :=
  feedBit (reader.run (protocolFdxBDecoderStart receiver) (fun i => sentBit card (offset + i)) n)
    (sentBit card (offset + n))

/-- The last 144 bits of that stream, over a cleared register. -/
def streamWindow (card : ProtocolFdxB) (offset n : Nat) : Nat → Bool :=
  slid (fun _ => false) (fun i => sentBit card (offset + i)) 144 (n + 1)

theorem sentBit_eq (card : ProtocolFdxB) (offset : Nat) :
    (fun i => sentBit card (offset + i)) = stream card.data offset := by
  funext i
  exact getBit_encode card.data (Nat.mod_lt _ (by decide))

/-- **Reading a tag.** From the cleared state and wherever in its frame the tag
starts sending, the reader accepts within 272 bits; every window it accepts ends
sixteen bits into a frame, and gives all of the tag's data. Of the windows of
the stream itself exactly the full ones at that place are accepted. -/
theorem fdxB_reports_exactly_the_tag (receiver card : ProtocolFdxB) (offset : Nat) :
    (∃ n, n + 1 ≤ 272 ∧ (answer card receiver offset n).1 = true) ∧ (∀ n, (answer card receiver offset n).1 = true →
        (offset + n + 1) % 128 = 16 ∧ (answer card receiver offset n).2.data = card.data) ∧
      ∀ n, (protocolFdxBCanBeDecoded (onWindow (streamWindow card offset n)) = true ↔
          144 ≤ n + 1 ∧ (offset + n + 1) % 128 = 16) ∧
        (protocolFdxBCanBeDecoded (onWindow (streamWindow card offset n)) = true →
          (protocolFdxBDecode (onWindow (streamWindow card offset n))).data = card.data) := by
  have cleared : ∀ place < 144, reader.register (protocolFdxBDecoderStart receiver) place = false :=
    fun place _ => bitLibGetBit_zeros place
  have full (n : Nat) (late : 144 ≤ n + 1) (aligned : (offset + n + 1) % 128 = 16) :
      ∀ place < 144, slid (fun _ => false) (stream card.data offset) 144 (n + 1) place =
        frameWindow card.data place := by
    intro place inside
    rw [slid_late _ _ late]
    exact congrArg (frameBit card.data) (by omega)
  have alone (n : Nat) (accepted : reader.Accepts (streamWindow card offset n)) :
      (144 ≤ n + 1 ∧ (offset + n + 1) % 128 = 16) ∧
        ∀ place < 144, streamWindow card offset n place = frameWindow card.data place := by
    rw [streamWindow, sentBit_eq] at accepted ⊢
    have late : 144 ≤ n + 1 := by
      by_contra room
      have one := (marked_of_accepts accepted).header.1
      rw [slid, if_pos (by omega)] at one
      exact Bool.noConfusion one
    obtain ⟨aligned, frame⟩ := (synchronised card.data offset).first n accepted
    exact ⟨⟨late, by omega⟩, frame⟩
  refine ⟨?_, ?_, fun n => ⟨⟨fun accepted => (alone n accepted).1, ?_⟩, fun accepted => ?_⟩⟩
  · have accepted : reader.Accepts (slid (fun _ => false) (stream card.data offset) 144
        (143 + (128 - offset % 128) % 128 + 1)) :=
      accepts_frame card.data (full _ (by omega) (by omega))
    obtain ⟨n, early, reported⟩ := WindowReader.reports_by cleared accepted
    refine ⟨n, by omega, ?_⟩
    rw [answer, sentBit_eq]
    have bit : sentBit card (offset + n) = stream card.data offset n := congrFun (sentBit_eq card offset) n
    rw [bit]
    exact reported
  · intro n reported
    have bit : sentBit card (offset + n) = stream card.data offset n := congrFun (sentBit_eq card offset) n
    rw [answer, sentBit_eq, bit] at reported ⊢
    obtain ⟨aligned, frame⟩ := WindowReader.run_reports (synchronised card.data offset) cleared reported
    refine ⟨by omega, ?_⟩
    rw [feedBit] at reported ⊢
    split at reported <;> rename_i accepted
    · rw [if_pos accepted]
      exact decode_frame fun place inside =>
        (getBit_pushBit _ _ inside).trans (frame place inside)
    · exact Bool.noConfusion reported
  · rintro ⟨late, aligned⟩
    refine accepts_frame card.data ?_
    rw [streamWindow, sentBit_eq]
    exact full n late aligned
  · exact decode_frame fun place inside =>
      (getBit_onWindow _ inside).trans ((alone n accepted).2 place inside)

end Xtreme.LfRfid.FdxB
