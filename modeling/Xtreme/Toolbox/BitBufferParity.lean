import Xtreme.Toolbox.BitBuffer

/-! Bytes with their parity bits (`bit_buffer.c`), sent as nine bits each, the lowest
bit of a byte first. What was written is copied back with its data, and with its parity
bits only where the copy does not lose them: it stores each parity bit over those of the
bytes before it, except for the first of eight. -/
namespace Xtreme.Toolbox
open BitLib

structure ParityBuffer (capacityBytes : Nat) where
  data : Bytes capacityBytes
  parity : Bytes ((capacityBytes + 7) / 8)
  sizeBits : Nat
  deriving DecidableEq

variable {capacity capacity' size : Nat}

def furiBit (byte : BitVec 8) (place : Nat) : BitVec 8 := (byte >>> place) &&& 1#8

def ParityBuffer.parityBit (buffer : ParityBuffer capacity) (index : Nat) : Bool :=
  (byteAt buffer.parity (index / 8)).getLsbD (index % 8)

/-- `bit_buffer_get_size_bytes`. -/
def ParityBuffer.sizeBytes (buffer : ParityBuffer capacity) : Nat :=
  buffer.sizeBits / 8 + if buffer.sizeBits % 8 ≠ 0 then 1 else 0

/-- One turn of the loop that writes; `curr_bit_pos` is a `uint16_t`. -/
def writeByteWithParity (buffer : ParityBuffer capacity) (stream : Bytes size × Nat) (i : Nat) : Bytes size × Nat :=
  let (bitstream, currBitPos) := stream
  let nextParBit := furiBit (byteAt buffer.parity (i / 8)) (i % 8)
  if currBitPos % 8 = 0 then
    let bitstream := bitstream.setIfInBounds (currBitPos / 8) (byteAt buffer.data i)
    let currBitPos := (currBitPos + 8) % 2 ^ 16
    let bitstream := bitstream.setIfInBounds (currBitPos / 8) nextParBit
    (bitstream, (currBitPos + 1) % 2 ^ 16)
  else
    let bitstream := bitstream.setIfInBounds (currBitPos / 8)
      (byteAt bitstream (currBitPos / 8) ||| byteAt buffer.data i <<< (currBitPos % 8))
    let bitstream := bitstream.setIfInBounds (currBitPos / 8 + 1) (byteAt buffer.data i >>> (8 - currBitPos % 8))
    let bitstream := bitstream.setIfInBounds (currBitPos / 8 + 1)
      (byteAt bitstream (currBitPos / 8 + 1) ||| nextParBit <<< (currBitPos % 8))
    (bitstream, (currBitPos + 9) % 2 ^ 16)

/-- The bytes of `dest` afterwards, and `bits_written`. -/
def bitBufferWriteBytesWithParity (buffer : ParityBuffer capacity) (dest : Bytes size) : Bytes size × Nat :=
  (List.range buffer.sizeBytes).foldl (writeByteWithParity buffer) (dest, 0)

/-- One turn of the loop that copies. -/
def copyByteWithParity (buffer : ParityBuffer capacity) (data : Bytes size) (bitsProcessed currByte : Nat) :
    ParityBuffer capacity :=
  let low := byteAt data (bitsProcessed / 8) >>> (bitsProcessed % 8)
  let high := byteAt data (bitsProcessed / 8 + 1) <<< (8 - bitsProcessed % 8)
  let bit := furiBit (byteAt data (bitsProcessed / 8 + 1)) (bitsProcessed % 8)
  { buffer with
    data := buffer.data.setIfInBounds currByte (low ||| high)
    parity := buffer.parity.setIfInBounds (currByte / 8) (
      if bitsProcessed % 8 ≠ 0 then bit
      else byteAt buffer.parity (currByte / 8) ||| bit <<< (bitsProcessed % 8)) }

def copyWithParityLoop (buffer : ParityBuffer capacity) (data : Bytes size) (sizeBits bitsProcessed currByte : Nat) :
    ParityBuffer capacity × Nat :=
  if bitsProcessed < sizeBits then
    copyWithParityLoop (copyByteWithParity buffer data bitsProcessed currByte) data sizeBits
      (bitsProcessed + 9) (currByte + 1)
  else (buffer, currByte)
termination_by sizeBits - bitsProcessed

def bitBufferCopyBytesWithParity (buffer : ParityBuffer capacity) (data : Bytes size) (sizeBits : Nat) :
    ParityBuffer capacity :=
  if sizeBits < 9 then { buffer with sizeBits, data := buffer.data.setIfInBounds 0 (byteAt data 0) }
  else
    let (buffer, currByte) := copyWithParityLoop buffer data sizeBits 0 0
    { buffer with sizeBits := currByte * 8 }

def streamBit (stream : Bytes size) (place : Nat) : Bool := (byteAt stream (place / 8)).getLsbD (place % 8)

/-- The nine bits of each byte. -/
def ParityBuffer.frameBit (buffer : ParityBuffer capacity) (place : Nat) : Bool :=
  if place % 9 < 8 then (byteAt buffer.data (place / 9)).getLsbD (place % 9) else buffer.parityBit (place / 9)

theorem getLsbD_furiBit (byte : BitVec 8) (place index : Nat) :
    (furiBit byte place).getLsbD index = (decide (index = 0) && byte.getLsbD place) := by
  rw [furiBit, BitVec.and_one_eq_setWidth_ofBool_getLsbD, BitVec.getLsbD_ushiftRight, BitVec.getLsbD_setWidth]
  cases index with
  | zero => simp
  | succ index => simp

theorem streamBit_setIfInBounds (stream : Bytes size) {index : Nat} (inside : index < size) (byte : BitVec 8)
    (place : Nat) :
    streamBit (stream.setIfInBounds index byte) place =
      if place / 8 = index then byte.getLsbD (place % 8) else streamBit stream place := by
  rw [streamBit, byteAt_setIfInBounds _ inside]
  split <;> rfl

section
variable {buffer : ParityBuffer capacity}

/-- The first `count` bytes stand in the stream, and no bit behind them in their last byte. -/
structure Written (buffer : ParityBuffer capacity) (count : Nat) (stream : Bytes size) : Prop where
  frames : ∀ place < 9 * count, streamBit stream place = buffer.frameBit place
  clear : ∀ place, 9 * count ≤ place → place / 8 < (9 * count + 7) / 8 → streamBit stream place = false

theorem frameBit_data (index : Nat) {place : Nat} (after : 9 * index ≤ place) (before : place < 9 * index + 8) :
    buffer.frameBit place = (byteAt buffer.data index).getLsbD (place - 9 * index) := by
  rw [ParityBuffer.frameBit, if_pos (by omega), show place / 9 = index by omega,
    show place % 9 = place - 9 * index by omega]

theorem frameBit_parity (index : Nat) : buffer.frameBit (9 * index + 8) = buffer.parityBit index := by
  rw [ParityBuffer.frameBit, if_neg (by omega), show (9 * index + 8) / 9 = index by omega]

theorem position_step (stream : Bytes size) (count : Nat) :
    (writeByteWithParity buffer (stream, 9 * count % 2 ^ 16) count).2 = 9 * (count + 1) % 2 ^ 16 := by
  rw [writeByteWithParity]
  dsimp only
  split
  · omega
  · omega

theorem streamBit_step {stream : Bytes size} {position index : Nat} (short : position + 9 < 2 ^ 16)
    (room : position / 8 + 1 < size) (place : Nat) :
    streamBit (writeByteWithParity buffer (stream, position) index).1 place =
      if place / 8 = position / 8 + 1 then
        (byteAt buffer.data index).getLsbD (8 - position % 8 + place % 8) ||
          (decide (place % 8 = position % 8) && buffer.parityBit index)
      else if place / 8 = position / 8 then
        (decide (position % 8 ≠ 0) && streamBit stream place) ||
          (decide (position % 8 ≤ place % 8) && (byteAt buffer.data index).getLsbD (place % 8 - position % 8))
      else streamBit stream place := by
  have within : place % 8 < 8 := Nat.mod_lt _ (by decide)
  rw [writeByteWithParity]
  dsimp only
  by_cases aligned : position % 8 = 0
  · rw [if_pos aligned]
    rw [show (position + 8) % 2 ^ 16 / 8 = position / 8 + 1 by omega, streamBit_setIfInBounds _ room,
      streamBit_setIfInBounds _ (by omega)]
    refine if_congr Iff.rfl ?_ (if_congr Iff.rfl ?_ rfl)
    · rw [getLsbD_furiBit, aligned, BitVec.getLsbD_of_ge _ _ (Nat.le_add_right _ _)]
      rfl
    · simp [aligned]
  · rw [if_neg aligned]
    rw [streamBit_setIfInBounds _ room, streamBit_setIfInBounds _ room, streamBit_setIfInBounds _ (by omega)]
    refine ite_congr rfl (fun there => ?_) fun elsewhere => ?_
    · rw [byteAt_setIfInBounds _ room, if_pos rfl, BitVec.getLsbD_or, BitVec.getLsbD_ushiftRight,
        BitVec.getLsbD_shiftLeft, getLsbD_furiBit]
      rcases Nat.lt_trichotomy (place % 8) (position % 8) with below | same | above
      · simp [below, Nat.ne_of_lt below]
      · rw [same]
        simp [Nat.mod_lt, ParityBuffer.parityBit]
      · simp [Nat.ne_of_gt above, Nat.sub_ne_zero_of_lt above]
    · rw [if_neg elsewhere]
      refine ite_congr rfl (fun there => ?_) fun _ => rfl
      have reached : decide (position % 8 ≤ place % 8) = !decide (place % 8 < position % 8) := by
        rw [← decide_not]
        exact decide_eq_decide.mpr Nat.not_lt.symm
      rw [BitVec.getLsbD_or, BitVec.getLsbD_shiftLeft, streamBit, there, reached]
      simp [aligned, within]

theorem written_step {stream : Bytes size} {count : Nat} (written : Written buffer count stream)
    (short : 9 * (count + 1) < 2 ^ 16) (room : 9 * count / 8 + 1 < size) :
    Written buffer (count + 1) (writeByteWithParity buffer (stream, 9 * count) count).1 := by
  refine ⟨fun place before => ?_, fun place after inside => ?_⟩
  · rw [streamBit_step (by omega) room]
    split
    · by_cases parity : place = 9 * count + 8
      · rw [parity, frameBit_parity, BitVec.getLsbD_of_ge _ _ (by omega), Bool.false_or, decide_eq_true (by omega),
          Bool.true_and]
      · rw [frameBit_data count (by omega) (by omega), decide_eq_false (by omega), Bool.false_and,
          Bool.or_false, show 8 - 9 * count % 8 + place % 8 = place - 9 * count by omega]
    · split
      · by_cases old : place < 9 * count
        · rw [decide_eq_true (by omega), decide_eq_false (by omega), Bool.true_and, Bool.false_and, Bool.or_false,
            written.frames place old]
        · rw [frameBit_data count (by omega) (by omega), decide_eq_true (by omega : _ ≤ _), Bool.true_and,
            show place % 8 - 9 * count % 8 = place - 9 * count by omega]
          by_cases aligned : 9 * count % 8 = 0
          · rw [decide_eq_false (not_not.mpr aligned), Bool.false_and, Bool.false_or]
          · rw [written.clear place (by omega) (by omega), Bool.and_false, Bool.false_or]
      · exact written.frames place (by omega)
  · rw [streamBit_step (by omega) room, if_pos (by omega), BitVec.getLsbD_of_ge _ _ (by omega), Bool.false_or,
      decide_eq_false (by omega), Bool.false_and]

theorem write_loop (buffer : ParityBuffer capacity) (dest : Bytes size) (count : Nat) :
    ((List.range count).foldl (writeByteWithParity buffer) (dest, 0)).2 = 9 * count % 2 ^ 16 ∧
      (9 * count < 2 ^ 16 → (9 * count + 7) / 8 ≤ size →
        Written buffer count ((List.range count).foldl (writeByteWithParity buffer) (dest, 0)).1) := by
  induction count with
  | zero => exact ⟨rfl, fun _ _ => ⟨fun _ before => absurd before (Nat.not_lt_zero _), fun _ _ inside =>
      absurd inside (by omega)⟩⟩
  | succ count written =>
    obtain ⟨position, bits⟩ := written
    rw [List.range_succ, List.foldl_append, List.foldl_cons]
    generalize (List.range count).foldl (writeByteWithParity buffer) (dest, 0) = stream at position bits ⊢
    obtain ⟨stream, place⟩ := stream
    subst position
    refine ⟨position_step stream count, fun short room => ?_⟩
    rw [Nat.mod_eq_of_lt (by omega)]
    exact written_step (bits (by omega) (by omega)) short (by omega)

end

section
variable {source : ParityBuffer capacity} {other buffer : ParityBuffer capacity'} {stream : Bytes size} {count : Nat}

theorem copied_byte (frames : ∀ place < 9 * (count + 1), streamBit stream place = source.frameBit place) :
    byteAt stream (9 * count / 8) >>> (9 * count % 8) |||
        byteAt stream (9 * count / 8 + 1) <<< (8 - 9 * count % 8) =
      byteAt source.data count := by
  apply BitVec.eq_of_getLsbD_eq
  intro place inside
  have frame := frames (9 * count + place) (by omega)
  rw [frameBit_data count (by omega) (by omega), Nat.add_sub_cancel_left, streamBit] at frame
  rw [BitVec.getLsbD_or, BitVec.getLsbD_ushiftRight, BitVec.getLsbD_shiftLeft, decide_eq_true inside, Bool.true_and,
    ← frame]
  by_cases first : 9 * count % 8 + place < 8
  · rw [decide_eq_true (by omega : place < 8 - 9 * count % 8), Bool.not_true, Bool.false_and, Bool.or_false,
      show (9 * count + place) / 8 = 9 * count / 8 by omega,
      show (9 * count + place) % 8 = 9 * count % 8 + place by omega]
  · rw [decide_eq_false (by omega : ¬ place < 8 - 9 * count % 8), Bool.not_false, Bool.true_and,
      BitVec.getLsbD_of_ge _ _ (by omega), Bool.false_or, show (9 * count + place) / 8 = 9 * count / 8 + 1 by omega,
      show (9 * count + place) % 8 = place - (8 - 9 * count % 8) by omega]

/-- The parity bits after the copy of some bytes: of eight only the first joins what was
there before, and each of the others replaces all of them. -/
def copiedParity (source : ParityBuffer capacity) (other : ParityBuffer capacity') (count index : Nat) : Bool :=
  if count ≤ 8 * (index / 8) then other.parityBit index
  else if count = 8 * (index / 8) + 1 then
    other.parityBit index || (decide (index % 8 = 0) && source.parityBit (8 * (index / 8)))
  else decide (index % 8 = 0) && source.parityBit (min count (8 * (index / 8) + 8) - 1)

structure Copied (source : ParityBuffer capacity) (other : ParityBuffer capacity') (count : Nat)
    (buffer : ParityBuffer capacity') : Prop where
  data : ∀ index < count, byteAt buffer.data index = byteAt source.data index
  parity : ∀ index, buffer.parityBit index = copiedParity source other count index

theorem copied_none (source : ParityBuffer capacity) (other : ParityBuffer capacity') : Copied source other 0 other :=
  ⟨fun _ before => absurd before (Nat.not_lt_zero _), fun _ => (if_pos (Nat.zero_le _)).symm⟩

theorem parityBit_step (frames : ∀ place < 9 * (count + 1), streamBit stream place = source.frameBit place)
    (room : count < capacity') (index : Nat) :
    (copyByteWithParity buffer stream (9 * count) count).parityBit index =
      if index / 8 = count / 8 then
        (decide (count % 8 = 0) && buffer.parityBit index) || (decide (index % 8 = 0) && source.parityBit count)
      else buffer.parityBit index := by
  have bit : (byteAt stream (9 * count / 8 + 1)).getLsbD (9 * count % 8) = source.parityBit count := by
    rw [← frameBit_parity, ← frames (9 * count + 8) (by omega), streamBit,
      show (9 * count + 8) / 8 = 9 * count / 8 + 1 by omega, show (9 * count + 8) % 8 = 9 * count % 8 by omega]
  rw [ParityBuffer.parityBit, copyByteWithParity]
  rw [byteAt_setIfInBounds _ (by omega), apply_ite (fun byte : BitVec 8 => byte.getLsbD (index % 8))]
  refine ite_congr rfl (fun there => ?_) fun _ => rfl
  by_cases first : count % 8 = 0
  · rw [if_neg (by omega), show 9 * count % 8 = 0 by omega, BitVec.shiftLeft_zero, BitVec.getLsbD_or, getLsbD_furiBit,
      decide_eq_true first, Bool.true_and, ParityBuffer.parityBit, there, ← bit, show 9 * count % 8 = 0 by omega]
  · rw [if_pos (by omega), getLsbD_furiBit, bit, decide_eq_false first, Bool.false_and, Bool.false_or]

theorem copied_step (copied : Copied source other count buffer)
    (frames : ∀ place < 9 * (count + 1), streamBit stream place = source.frameBit place)
    (room : count < capacity') : Copied source other (count + 1) (copyByteWithParity buffer stream (9 * count) count) := by
  refine ⟨fun index before => ?_, fun index => ?_⟩
  · rw [copyByteWithParity]
    rw [byteAt_setIfInBounds _ room, copied_byte frames]
    split
    · rename_i last
      rw [last]
    · exact copied.data index (by omega)
  · rw [parityBit_step frames room, copied.parity index]
    unfold copiedParity
    by_cases there : index / 8 = count / 8
    · rw [if_pos there]
      by_cases first : count % 8 = 0
      · rw [decide_eq_true first, Bool.true_and, if_pos (by omega), if_neg (by omega), if_pos (by omega),
          show 8 * (index / 8) = count by omega]
      · rw [decide_eq_false first, Bool.false_and, Bool.false_or, if_neg (by omega), if_neg (by omega),
          show min (count + 1) (8 * (index / 8) + 8) - 1 = count by omega]
    · rw [if_neg there]
      by_cases ahead : count ≤ 8 * (index / 8)
      · rw [if_pos ahead, if_pos (by omega)]
      · rw [if_neg ahead, if_neg (by omega), if_neg (by omega), if_neg (by omega),
          show min (count + 1) (8 * (index / 8) + 8) = min count (8 * (index / 8) + 8) by omega]

theorem copied_loop (left : Nat) (copied : Copied source other count buffer)
    (frames : ∀ place < 9 * (count + left), streamBit stream place = source.frameBit place)
    (room : count + left ≤ capacity') :
    Copied source other (count + left) (copyWithParityLoop buffer stream (9 * (count + left)) (9 * count) count).1 ∧
      (copyWithParityLoop buffer stream (9 * (count + left)) (9 * count) count).2 = count + left := by
  induction left generalizing count buffer with
  | zero =>
    rw [Nat.add_zero, copyWithParityLoop, if_neg (Nat.lt_irrefl _)]
    exact ⟨copied, rfl⟩
  | succ left rest =>
    rw [copyWithParityLoop, if_pos (by omega), show count + (left + 1) = count + 1 + left by omega]
    rw [show count + (left + 1) = count + 1 + left by omega] at frames room
    exact rest (copied_step copied (fun place before => frames place (by omega)) (by omega)) frames room

end

/-- The parity bits that a copy keeps: a byte that is not alone among its eight has none
set, and that of one that is alone is set or not set in the buffer copied to. -/
def ParityKept (source : ParityBuffer capacity) (other : ParityBuffer capacity') (count : Nat) : Prop :=
  ∀ index < count,
    if 8 * (index / 8) + 1 < count then source.parityBit index = false
    else source.parityBit index = true ∨ other.parityBit index = false

instance (source : ParityBuffer capacity) (other : ParityBuffer capacity') (count : Nat) :
    Decidable (ParityKept source other count) := by
  unfold ParityKept
  infer_instance

section
variable {source : ParityBuffer capacity} {other : ParityBuffer capacity'} {count : Nat}

theorem copiedParity_iff : (∀ index < count, copiedParity source other count index = source.parityBit index) ↔
      ParityKept source other count := by
  have alone : ∀ index < count, ¬ 8 * (index / 8) + 1 < count →
      copiedParity source other count index = (other.parityBit index || source.parityBit index) := by
    intro index before single
    rw [copiedParity, if_neg (by omega), if_pos (by omega), decide_eq_true (by omega), Bool.true_and,
      show 8 * (index / 8) = index by omega]
  have several : ∀ index, 8 * (index / 8) + 1 < count → copiedParity source other count index =
      (decide (index % 8 = 0) && source.parityBit (min count (8 * (index / 8) + 8) - 1)) := by
    intro index more
    rw [copiedParity, if_neg (by omega), if_neg (by omega)]
  constructor
  · intro same index before
    split
    · rename_i more
      -- the last byte of the eight is never the first, so its parity bit reads as zero
      have behind : ∀ other' < count, other' / 8 = index / 8 → other' % 8 ≠ 0 → source.parityBit other' = false := by
        intro other' inside group rest
        rw [← same other' inside, several other' (group ▸ more), decide_eq_false rest, Bool.false_and]
      by_cases first : index % 8 = 0
      · rw [← same index before, several index more, decide_eq_true first]
        exact behind _ (by omega) (by omega) (by omega)
      · exact behind index before rfl first
    · rename_i single
      have kept := same index before
      rw [alone index before single] at kept
      cases set : source.parityBit index with
      | true => exact Or.inl rfl
      | false =>
        rw [set, Bool.or_false] at kept
        exact Or.inr kept
  · intro kept index before
    by_cases more : 8 * (index / 8) + 1 < count
    · have last := kept (min count (8 * (index / 8) + 8) - 1) (by omega)
      rw [if_pos (by omega)] at last
      have none := kept index before
      rw [if_pos more] at none
      rw [several index more, last, Bool.and_false, none]
    · have clear := kept index before
      rw [if_neg more] at clear
      rw [alone index before more]
      rcases clear with set | unset
      · rw [set, Bool.or_true]
      · rw [unset, Bool.false_or]

end

/-- **Bytes written with their parity bits are copied back** with the data always, as long
as the position fits its type, and with the parity bits exactly if they are of the kind
that a copy keeps. -/
theorem copies_back_iff (source : ParityBuffer capacity) (dest : Bytes size) (other : ParityBuffer capacity')
    (count : Nat) (whole : source.sizeBits = 8 * count) (filled : 1 ≤ count)
    (room : (9 * count + 8) / 8 ≤ size) (sufficient : count ≤ capacity') :
    let written := bitBufferWriteBytesWithParity source dest
    let copied := bitBufferCopyBytesWithParity other written.1 written.2
    (written.2 = 9 * count ∧ copied.sizeBits = 8 * count ∧
        (∀ index < count, byteAt copied.data index = byteAt source.data index) ∧
        ∀ index < count, copied.parityBit index = source.parityBit index) ↔
      9 * count < 2 ^ 16 ∧ ParityKept source other count := by
  have size : source.sizeBytes = count := by
    rw [ParityBuffer.sizeBytes, if_neg (by omega)]
    omega
  obtain ⟨position, frames⟩ := write_loop source dest count
  rw [← size, ← bitBufferWriteBytesWithParity, size] at position frames
  generalize bitBufferWriteBytesWithParity source dest = written at position frames
  obtain ⟨stream, bitsWritten⟩ := written
  dsimp only at position frames ⊢
  subst position
  by_cases short : 9 * count < 2 ^ 16
  · have written := frames short (by omega)
    rw [Nat.mod_eq_of_lt short]
    obtain ⟨copied, last⟩ := copied_loop count (copied_none source other)
      (by rw [Nat.zero_add]; exact written.frames) (by rwa [Nat.zero_add])
    rw [Nat.zero_add] at copied last
    have loop : bitBufferCopyBytesWithParity other stream (9 * count) =
        { (copyWithParityLoop other stream (9 * count) 0 0).1 with sizeBits := count * 8 } := by
      rw [bitBufferCopyBytesWithParity, if_neg (by omega)]
      dsimp only
      rw [last]
    rw [loop]
    have parity : ∀ index < count, ({ (copyWithParityLoop other stream (9 * count) 0 0).1 with
        sizeBits := count * 8 } : ParityBuffer capacity').parityBit index = copiedParity source other count index :=
      fun index _ => copied.parity index
    rw [← copiedParity_iff]
    constructor
    · rintro ⟨-, -, -, same⟩
      exact ⟨short, fun index before => (parity index before).symm.trans (same index before)⟩
    · rintro ⟨-, same⟩
      exact ⟨rfl, Nat.mul_comm _ _, copied.data, fun index before =>
        (parity index before).trans (same index before)⟩
  · refine iff_of_false (fun restored => ?_) fun fits => short fits.1
    omega

/-- One byte with its parity bit set. -/
theorem odd_byte_copies_back :
    let source : ParityBuffer 1 := ⟨#v[0xa5#8], #v[1#8], 8⟩
    let written := bitBufferWriteBytesWithParity source #v[0xff#8, 0xff#8]
    let copied := bitBufferCopyBytesWithParity (⟨#v[0#8], #v[0#8], 0⟩ : ParityBuffer 1) written.1 written.2
    (written.2 = 9 * 1 ∧ copied.sizeBits = 8 * 1 ∧
      (∀ index < 1, byteAt copied.data index = byteAt source.data index) ∧
      ∀ index < 1, copied.parityBit index = source.parityBit index) :=
  (copies_back_iff (⟨#v[0xa5#8], #v[1#8], 8⟩ : ParityBuffer 1) #v[0xff#8, 0xff#8]
    (⟨#v[0#8], #v[0#8], 0⟩ : ParityBuffer 1) 1 (by decide) (by decide) (by decide) (by decide)).mpr
    ⟨by decide, by decide +kernel⟩

/-- Two bytes of which the first has its parity bit set: the second's takes its place. -/
theorem first_parity_lost :
    ¬ ∀ (source : ParityBuffer 2) (dest : Bytes 3) (other : ParityBuffer 2), source.sizeBits = 8 * 2 →
      let written := bitBufferWriteBytesWithParity source dest
      let copied := bitBufferCopyBytesWithParity other written.1 written.2
      ∀ index < 2, copied.parityBit index = source.parityBit index := by
  intro restores
  have lost := restores ⟨#v[1#8, 0#8], #v[1#8], 16⟩ #v[0#8, 0#8, 0#8] ⟨#v[0#8, 0#8], #v[0#8], 0⟩ rfl
  revert lost
  decide +kernel

end Xtreme.Toolbox
