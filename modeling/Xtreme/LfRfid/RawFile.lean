import Xtreme.Library.CyclicReader
import Xtreme.Library.Records
import Xtreme.Stream.FileStream
import Xtreme.Toolbox.Varint

/-! Files of raw signals (`lfrfid_raw_file.c`, `tools/varint_pair.c`): a header
and then blocks of pairs, each block with its size before it. The two floats of
the header are kept as the words they are stored in.

A call that fails leaves `duration` and `pulse` alone. `buffer` is the memory
that was allocated for a block, of which the last block may fill only the front. -/
namespace Xtreme.LfRfid
open Xtreme.Library Xtreme.Stream Xtreme.Toolbox

def wordBytes (word : BitVec 32) : List UInt8 := (List.range 4).map fun i => ⟨(word >>> (8 * i)).setWidth 8⟩

def wordOfBytes (bytes : List UInt8) : BitVec 32 :=
  bytes.foldr (fun byte word => (word <<< 8) ||| byte.toBitVec.setWidth 32) 0

structure VarintPairUnpacked where
  value1 : BitVec 32
  value2 : BitVec 32
  length : Nat
  deriving DecidableEq, Repr

def varintPairUnpack (data : List UInt8) : Option VarintPairUnpacked :=
  let first := varintUint32Unpack data
  if data.length ≤ first.consumed then none
  else
    let second := varintUint32Unpack (data.drop first.consumed)
    some ⟨first.value, second.value, first.consumed + second.consumed⟩

def lfrfidRawFileMagic : BitVec 32 := 0x4C464952
def lfrfidRawFileVersion : BitVec 32 := 1

def lfrfidRawFileHeaderSize : Nat := 20

structure LFRFIDRawFile where
  stream : FileStream
  maxBufferSize : BitVec 32
  buffer : List UInt8
  bufferSize : BitVec 32
  bufferCounter : Nat

def lfrfidRawFileOpenRead (data : List UInt8) : LFRFIDRawFile :=
  ⟨⟨data, 0, Nat.zero_le _⟩, 0, [], 0, 0⟩

/-- `lfrfid_raw_file_read_header`: the words of `frequency` and `duty_cycle`. -/
def lfrfidRawFileReadHeader (file : LFRFIDRawFile) : Option (BitVec 32 × BitVec 32) × LFRFIDRawFile :=
  let read := fileStreamRead file.stream lfrfidRawFileHeaderSize
  let file := { file with stream := read.2 }
  let word (i : Nat) := wordOfBytes ((read.1.drop (4 * i)).take 4)
  if read.1.length = lfrfidRawFileHeaderSize then
    if word 0 = lfrfidRawFileMagic ∧ word 1 = lfrfidRawFileVersion then
      (some (word 2, word 3), { file with
        maxBufferSize := word 4, buffer := List.replicate (word 4).toNat 0, bufferSize := 0, bufferCounter := 0 })
    else (none, file)
  else (none, file)

/-- At the end of the file the stream is set behind the header; `pass_end` tells of it. -/
def lfrfidRawFileRewind (file : LFRFIDRawFile) : Bool × LFRFIDRawFile :=
  if fileStreamEof file.stream then
    (true, { file with stream := (fileStreamSeek file.stream lfrfidRawFileHeaderSize .fromStart).2 })
  else (false, file)

/-- The next block is read into the buffer. A size cut short overwrites only the low bytes of the word. -/
def lfrfidRawFileReadBlock (file : LFRFIDRawFile) : Bool × LFRFIDRawFile :=
  let size := fileStreamRead file.stream 4
  let file := { file with
    stream := size.2
    bufferSize := wordOfBytes (size.1 ++ (wordBytes file.bufferSize).drop size.1.length) }
  if size.1.length ≠ 4 then (false, file)
  else if file.maxBufferSize < file.bufferSize then (false, file)
  else
    let data := fileStreamRead file.stream file.bufferSize.toNat
    let file := { file with stream := data.2, buffer := data.1 ++ file.buffer.drop data.1.length }
    if data.1.length ≠ file.bufferSize.toNat then (false, file)
    else (true, { file with bufferCounter := 0 })

/-- The two numbers a call of `lfrfid_raw_file_read_pair` gives. -/
structure RawPair where
  duration : BitVec 32
  pulse : BitVec 32
  deriving DecidableEq, Repr

/-- The pair at the cursor of the buffer. -/
def lfrfidRawFileUnpackPair (file : LFRFIDRawFile) : Option RawPair × LFRFIDRawFile :=
  match varintPairUnpack ((file.buffer.take file.bufferSize.toNat).drop file.bufferCounter) with
  | some unpacked =>
    (some ⟨unpacked.value2, unpacked.value1⟩, { file with bufferCounter := file.bufferCounter + unpacked.length })
  | none => (none, file)

/-- `lfrfid_raw_file_read_pair`: the pair, `pass_end`, and the file after it. -/
def lfrfidRawFileReadPair (file : LFRFIDRawFile) : Option RawPair × Bool × LFRFIDRawFile :=
  if file.bufferSize.toNat ≤ file.bufferCounter then
    let rewound := lfrfidRawFileRewind file
    let block := lfrfidRawFileReadBlock rewound.2
    if block.1 then ((lfrfidRawFileUnpackPair block.2).1, rewound.1, (lfrfidRawFileUnpackPair block.2).2)
    else (none, rewound.1, block.2)
  else ((lfrfidRawFileUnpackPair file).1, false, (lfrfidRawFileUnpackPair file).2)

/-- A number as a file holds it: the bytes of one whole code. -/
structure VarintBytes where
  bytes : List UInt8
  ended : varintSymbols.Ended bytes

namespace VarintBytes

def value (number : VarintBytes) : BitVec 32 := BitVec.ofNat 32 (varintSymbols.value (2 ^ 7) number.bytes)

theorem unpack_append (number : VarintBytes) (rest : List UInt8) :
    (varintUint32Unpack (number.bytes ++ rest)).value = number.value ∧
      (varintUint32Unpack (number.bytes ++ rest)).consumed = number.bytes.length := by
  constructor
  · apply BitVec.eq_of_toNat_eq
    rw [varintUint32Unpack_value, number.ended.taken_append, value, BitVec.toNat_ofNat]
  · rw [varintUint32Unpack_consumed, number.ended.length_takeWhile]

theorem length_pos (number : VarintBytes) : 0 < number.bytes.length :=
  List.length_pos_iff.mpr number.ended.ne_nil

end VarintBytes

/-- A pair as a file holds it: the pulse before the duration. -/
structure PairBytes where
  pulse : VarintBytes
  duration : VarintBytes

namespace PairBytes

def bytes (pair : PairBytes) : List UInt8 := pair.pulse.bytes ++ pair.duration.bytes

def value (pair : PairBytes) : RawPair := ⟨pair.duration.value, pair.pulse.value⟩

theorem unpack_append (pair : PairBytes) (rest : List UInt8) : varintPairUnpack (pair.bytes ++ rest) =
      some ⟨pair.pulse.value, pair.duration.value, pair.bytes.length⟩ := by
  obtain ⟨value1, consumed1⟩ := pair.pulse.unpack_append (pair.duration.bytes ++ rest)
  obtain ⟨value2, consumed2⟩ := pair.duration.unpack_append rest
  have more := pair.duration.length_pos
  simp only [bytes, List.append_assoc, varintPairUnpack, consumed1, value1, List.drop_left, value2, consumed2]
  rw [if_neg (by simp only [List.length_append]; omega), List.length_append]

theorem bytes_ne_nil (pair : PairBytes) : pair.bytes ≠ [] := by
  exact List.append_ne_nil_of_left_ne_nil pair.pulse.ended.ne_nil _

end PairBytes

def pairsBytes (pairs : List PairBytes) : List UInt8 := pairs.flatMap PairBytes.bytes

/-- A block: at least one pair, and no more bytes than the buffer has. -/
structure RawBlock (maxBufferSize : BitVec 32) where
  pairs : List PairBytes
  nonempty : pairs ≠ []
  fits : (pairsBytes pairs).length ≤ maxBufferSize.toNat

namespace RawBlock
variable {maxBufferSize : BitVec 32}

def size (block : RawBlock maxBufferSize) : BitVec 32 := BitVec.ofNat 32 (pairsBytes block.pairs).length

def bytes (block : RawBlock maxBufferSize) : List UInt8 := wordBytes block.size ++ pairsBytes block.pairs

theorem toNat_size (block : RawBlock maxBufferSize) : block.size.toNat = (pairsBytes block.pairs).length := by
  rw [size, BitVec.toNat_ofNat, Nat.mod_eq_of_lt (Nat.lt_of_le_of_lt block.fits maxBufferSize.isLt)]

end RawBlock

/-- A file with a valid header and at least one block. -/
structure RawFile where
  frequency : BitVec 32
  dutyCycle : BitVec 32
  maxBufferSize : BitVec 32
  blocks : List (RawBlock maxBufferSize)
  nonempty : blocks ≠ []

namespace RawFile

def words (raw : RawFile) : List (BitVec 32) :=
  [lfrfidRawFileMagic, lfrfidRawFileVersion, raw.frequency, raw.dutyCycle, raw.maxBufferSize]

def header (raw : RawFile) : List UInt8 := raw.words.flatMap wordBytes

def bytes (raw : RawFile) : List UInt8 := raw.header ++ raw.blocks.flatMap RawBlock.bytes

def pairs (raw : RawFile) : List RawPair := (raw.blocks.flatMap RawBlock.pairs).map PairBytes.value

end RawFile

theorem length_wordBytes (word : BitVec 32) : (wordBytes word).length = 4 := by
  rw [wordBytes, List.length_map, List.length_range]

theorem getLsbD_wordOfBytes_cons (byte : UInt8) (bytes : List UInt8) {place : Nat} (inside : place < 32) :
    (wordOfBytes (byte :: bytes)).getLsbD place =
      if place < 8 then byte.toBitVec.getLsbD place else (wordOfBytes bytes).getLsbD (place - 8) := by
  have shape : wordOfBytes (byte :: bytes) = (wordOfBytes bytes <<< 8) ||| byte.toBitVec.setWidth 32 := rfl
  rw [shape, BitVec.getLsbD_or, BitVec.getLsbD_shiftLeft, BitVec.getLsbD_setWidth, decide_eq_true inside]
  split
  · simp [*]
  · rename_i high
    rw [BitVec.getLsbD_of_ge byte.toBitVec place (by omega)]
    simp [high]

theorem getLsbD_wordOfBytes_range' (word : BitVec 32) (start count : Nat) {place : Nat} (inside : place < 8 * count)
    (narrow : place < 32) :
    (wordOfBytes ((List.range' start count).map fun i => ⟨(word >>> (8 * i)).setWidth 8⟩)).getLsbD place =
      word.getLsbD (8 * start + place) := by
  induction count generalizing start place with
  | zero => omega
  | succ count ih =>
    rw [List.range'_succ, List.map_cons, getLsbD_wordOfBytes_cons _ _ narrow]
    split
    · rename_i low
      simp [low]
    · rw [ih (start + 1) (by omega) (by omega)]
      congr 1
      omega

theorem wordOfBytes_wordBytes (word : BitVec 32) : wordOfBytes (wordBytes word) = word := by
  apply BitVec.eq_of_getLsbD_eq
  intro place inside
  rw [wordBytes, List.range_eq_range', getLsbD_wordOfBytes_range' word 0 4 (by omega) inside, Nat.zero_add]

/-! ## Reading a well-formed file -/

theorem fileStreamRead_ahead {stream : FileStream} {front rest : List UInt8}
    (ahead : stream.data.drop stream.pos = front ++ rest) :
    (fileStreamRead stream front.length).1 = front ∧ (fileStreamRead stream front.length).2.data = stream.data ∧
      stream.data.drop (fileStreamRead stream front.length).2.pos = rest := by
  have bytes : (fileStreamRead stream front.length).1 = front := by
    calc (fileStreamRead stream front.length).1 = (stream.data.drop stream.pos).take front.length := rfl
      _ = front := by rw [ahead, List.take_left]
  refine ⟨bytes, rfl, ?_⟩
  have pos : (fileStreamRead stream front.length).2.pos =
      stream.pos + (fileStreamRead stream front.length).1.length := rfl
  rw [pos, bytes, ← List.drop_drop, ahead, List.drop_left]

/-- A file between two calls: some pairs of the block in the buffer are still
ahead, and behind them some whole blocks. -/
structure InBlock (raw : RawFile) (pairs : List PairBytes) (blocks : List (RawBlock raw.maxBufferSize))
    (file : LFRFIDRawFile) : Prop where
  data : file.stream.data = raw.bytes
  maxBufferSize : file.maxBufferSize = raw.maxBufferSize
  filled : file.bufferSize.toNat ≤ file.buffer.length
  inBuffer : (file.buffer.take file.bufferSize.toNat).drop file.bufferCounter = pairsBytes pairs
  behind : file.stream.data.drop file.stream.pos = blocks.flatMap RawBlock.bytes

variable {raw : RawFile} {file : LFRFIDRawFile} {pairs : List PairBytes} {blocks : List (RawBlock raw.maxBufferSize)}

theorem pairsBytes_eq_nil {pairs : List PairBytes} : pairsBytes pairs = [] ↔ pairs = [] := by
  cases pairs with
  | nil => simp [pairsBytes]
  | cons pair pairs => simp [pairsBytes, pair.bytes_ne_nil]

theorem InBlock.counter_iff (state : InBlock raw pairs blocks file) :
    file.bufferSize.toNat ≤ file.bufferCounter ↔ pairs = [] := by
  rw [← pairsBytes_eq_nil, ← state.inBuffer, List.drop_eq_nil_iff, List.length_take_of_le state.filled]

theorem InBlock.unpack {pair : PairBytes} (state : InBlock raw (pair :: pairs) blocks file) :
    (lfrfidRawFileUnpackPair file).1 = some pair.value ∧
      InBlock raw pairs blocks (lfrfidRawFileUnpackPair file).2 := by
  have ahead : (file.buffer.take file.bufferSize.toNat).drop file.bufferCounter = pair.bytes ++ pairsBytes pairs :=
    state.inBuffer
  have left : (file.buffer.take file.bufferSize.toNat).drop (file.bufferCounter + pair.bytes.length) =
      pairsBytes pairs := by
    rw [← List.drop_drop, ahead, List.drop_left]
  rw [lfrfidRawFileUnpackPair, ahead, pair.unpack_append]
  exact ⟨rfl, ⟨state.data, state.maxBufferSize, state.filled, left, state.behind⟩⟩

theorem InBlock.readBlock {block : RawBlock raw.maxBufferSize} (state : InBlock raw pairs (block :: blocks) file) :
    (lfrfidRawFileReadBlock file).1 = true ∧
      InBlock raw block.pairs blocks (lfrfidRawFileReadBlock file).2 := by
  have behind : file.stream.data.drop file.stream.pos =
      wordBytes block.size ++ (pairsBytes block.pairs ++ blocks.flatMap RawBlock.bytes) := by
    rw [state.behind, List.flatMap_cons, RawBlock.bytes, List.append_assoc]
  have four := length_wordBytes block.size
  obtain ⟨sizeRead, sameData, behindSize⟩ := fileStreamRead_ahead behind
  rw [four] at sizeRead sameData behindSize
  obtain ⟨dataRead, sameData', behindData⟩ := fileStreamRead_ahead behindSize
  have word : wordOfBytes (wordBytes block.size ++ (wordBytes file.bufferSize).drop 4) = block.size := by
    rw [List.drop_of_length_le (Nat.le_of_eq (length_wordBytes _)), List.append_nil, wordOfBytes_wordBytes]
  have fits : ¬ file.maxBufferSize < block.size := by
    rw [state.maxBufferSize, BitVec.lt_def, block.toNat_size]
    exact Nat.not_lt.mpr block.fits
  simp only [lfrfidRawFileReadBlock, sizeRead, four, word, fits, dataRead, ne_eq, not_true_eq_false, ↓reduceIte,
    block.toNat_size]
  refine ⟨trivial, ⟨?_, state.maxBufferSize, ?_, ?_, ?_⟩⟩
  · rw [sameData', sameData, state.data]
  · rw [block.toNat_size, List.length_append]
    exact Nat.le_add_right _ _
  · rw [block.toNat_size, List.take_left, List.drop_zero]
  · rw [sameData', behindData]

theorem InBlock.rewind_before_end {block : RawBlock raw.maxBufferSize}
    (state : InBlock raw pairs (block :: blocks) file) : lfrfidRawFileRewind file = (false, file) := by
  have more : file.stream.data.drop file.stream.pos ≠ [] := by
    rw [state.behind]
    refine List.append_ne_nil_of_left_ne_nil (List.append_ne_nil_of_left_ne_nil ?_ _) _
    exact List.ne_nil_of_length_pos (by rw [length_wordBytes]; decide)
  have before : ¬ file.stream.pos = file.stream.data.length := by
    intro atEnd
    exact more (by rw [atEnd, List.drop_length])
  rw [lfrfidRawFileRewind, fileStreamEof, storageFileEof, if_neg (by simp [before])]

theorem RawFile.length_header (raw : RawFile) : raw.header.length = lfrfidRawFileHeaderSize := by
  simp [header, words, length_wordBytes, lfrfidRawFileHeaderSize]

theorem RawFile.length_bytes (raw : RawFile) : lfrfidRawFileHeaderSize ≤ raw.bytes.length := by
  rw [bytes, List.length_append]
  exact Nat.le_add_right _ _

/-- The seek behind the header reaches its place in a file that is not longer
than an `int32_t` can tell. -/
theorem rewind_pos (small : raw.bytes.length ≤ 2 ^ 31 + 20) {stream : FileStream} (data : stream.data = raw.bytes) :
    (fileStreamSeek stream lfrfidRawFileHeaderSize .fromStart).2.data = stream.data ∧
      (fileStreamSeek stream lfrfidRawFileHeaderSize .fromStart).2.pos = lfrfidRawFileHeaderSize := by
  have long := raw.length_bytes
  rw [← data] at small long
  have header : lfrfidRawFileHeaderSize = 20 := rfl
  have back : ¬ 0 < int32 ((lfrfidRawFileHeaderSize : Int) - stream.data.length) := by
    rw [int32_of_range] <;> omega
  simp only [fileStreamSeek, seekPosition, Int.natCast_nonneg, ↓reduceIte, Int.toNat_natCast, fileStreamSize, back]
  exact ⟨rfl, Nat.min_eq_left long⟩

theorem InBlock.rewind_at_end (small : raw.bytes.length ≤ 2 ^ 31 + 20) (state : InBlock raw pairs [] file) :
    (lfrfidRawFileRewind file).1 = true ∧ InBlock raw pairs raw.blocks (lfrfidRawFileRewind file).2 := by
  have atEnd : file.stream.pos = file.stream.data.length := by
    have behind := state.behind
    rw [List.flatMap_nil, List.drop_eq_nil_iff] at behind
    exact Nat.le_antisymm file.stream.pos_le behind
  obtain ⟨sameData, pos⟩ := rewind_pos small state.data
  rw [lfrfidRawFileRewind, fileStreamEof, storageFileEof, if_pos (by simp [atEnd])]
  refine ⟨rfl, ⟨sameData.trans state.data, state.maxBufferSize, state.filled, state.inBuffer, ?_⟩⟩
  rw [pos, sameData, state.data, RawFile.bytes, ← raw.length_header, List.drop_left]

theorem InBlock.readPair_block {block : RawBlock raw.maxBufferSize}
    (empty : file.bufferSize.toNat ≤ file.bufferCounter)
    (rewound : InBlock raw pairs (block :: blocks) (lfrfidRawFileRewind file).2) :
    ∃ pair rest, block.pairs = pair :: rest ∧ (lfrfidRawFileReadPair file).1 = some pair.value ∧
      InBlock raw rest blocks (lfrfidRawFileReadPair file).2.2 := by
  obtain ⟨pair, rest, shape⟩ := List.exists_cons_of_ne_nil block.nonempty
  obtain ⟨read, inside⟩ := rewound.readBlock
  rw [shape] at inside
  obtain ⟨unpacked, left⟩ := inside.unpack
  refine ⟨pair, rest, shape, ?_, ?_⟩
  · rw [lfrfidRawFileReadPair, if_pos empty]
    simp only [read, ↓reduceIte, unpacked]
  · rw [lfrfidRawFileReadPair, if_pos empty]
    simp only [read, ↓reduceIte]
    exact left

/-- What is ahead of a file: the pairs left in the buffer, and those of the blocks behind it. -/
def Ahead (raw : RawFile) (ahead : List RawPair) (file : LFRFIDRawFile) : Prop :=
  ∃ pairs blocks, ahead = (pairs ++ blocks.flatMap RawBlock.pairs).map PairBytes.value ∧ InBlock raw pairs blocks file

theorem Ahead.next {pair : RawPair} {rest : List RawPair} (ahead : Ahead raw (pair :: rest) file) :
    (lfrfidRawFileReadPair file).1 = some pair ∧ Ahead raw rest (lfrfidRawFileReadPair file).2.2 := by
  obtain ⟨pairs, blocks, shape, state⟩ := ahead
  cases pairs with
  | cons first pairs =>
    obtain ⟨rfl, rfl⟩ := List.cons.inj shape
    have more : ¬ file.bufferSize.toNat ≤ file.bufferCounter := by
      rw [state.counter_iff]
      exact List.cons_ne_nil _ _
    obtain ⟨unpacked, left⟩ := state.unpack
    rw [lfrfidRawFileReadPair, if_neg more]
    exact ⟨unpacked, pairs, blocks, rfl, left⟩
  | nil =>
    have empty := state.counter_iff.mpr rfl
    cases blocks with
    | nil => cases shape
    | cons block blocks =>
      have before := state.rewind_before_end
      have rewound : InBlock raw [] (block :: blocks) (lfrfidRawFileRewind file).2 := by
        rw [before]
        exact state
      obtain ⟨first, others, first_eq, read, left⟩ := InBlock.readPair_block empty rewound
      rw [List.flatMap_cons, first_eq] at shape
      obtain ⟨rfl, rfl⟩ := List.cons.inj shape
      exact ⟨read, others, blocks, rfl, left⟩

theorem Ahead.again (small : raw.bytes.length ≤ 2 ^ 31 + 20) (ahead : Ahead raw [] file) :
    ∃ pair rest, raw.pairs = pair :: rest ∧ (lfrfidRawFileReadPair file).1 = some pair ∧
      Ahead raw rest (lfrfidRawFileReadPair file).2.2 := by
  obtain ⟨pairs, blocks, shape, state⟩ := ahead
  obtain ⟨none, later⟩ := List.append_eq_nil_iff.mp (List.map_eq_nil_iff.mp shape.symm)
  have empty := state.counter_iff.mpr none
  have atEnd : blocks = [] := by
    cases blocks with
    | nil => rfl
    | cons block blocks => exact absurd (List.append_eq_nil_iff.mp later).1 block.nonempty
  subst none atEnd
  have rewound := (state.rewind_at_end small).2
  obtain ⟨block, others, blocks_eq⟩ := List.exists_cons_of_ne_nil raw.nonempty
  rw [blocks_eq] at rewound
  obtain ⟨first, rest, first_eq, read, left⟩ := InBlock.readPair_block empty rewound
  refine ⟨first.value, (rest ++ others.flatMap RawBlock.pairs).map PairBytes.value, ?_, read, rest, others, rfl, left⟩
  rw [RawFile.pairs, blocks_eq, List.flatMap_cons, first_eq]
  rfl

/-- The pairs of a well-formed file are read in order, over and over. -/
def pairReader (raw : RawFile) (small : raw.bytes.length ≤ 2 ^ 31 + 20) :
    CyclicReader (fun file => ((lfrfidRawFileReadPair file).1, (lfrfidRawFileReadPair file).2.2)) raw.pairs where
  Ahead := LfRfid.Ahead raw
  next := Ahead.next
  again := Ahead.again small

theorem word_of_words {words : List (BitVec 32)} {word : BitVec 32} {i : Nat} (place : words[i]? = some word) :
    wordOfBytes (((words.flatMap wordBytes).drop (4 * i)).take 4) = word := by
  rw [record_at length_wordBytes, place, Option.map_some, Option.getD_some, wordOfBytes_wordBytes]

theorem readHeader_opened (raw : RawFile) :
    (lfrfidRawFileReadHeader (lfrfidRawFileOpenRead raw.bytes)).1 = some (raw.frequency, raw.dutyCycle) ∧
      Ahead raw raw.pairs (lfrfidRawFileReadHeader (lfrfidRawFileOpenRead raw.bytes)).2 := by
  have start : (lfrfidRawFileOpenRead raw.bytes).stream.data.drop (lfrfidRawFileOpenRead raw.bytes).stream.pos =
      raw.header ++ raw.blocks.flatMap RawBlock.bytes := rfl
  obtain ⟨read, data, behind⟩ := fileStreamRead_ahead start
  have long := raw.length_header
  rw [long] at read data behind
  have word (i : Nat) {word : BitVec 32} (place : raw.words[i]? = some word) :
      wordOfBytes ((raw.header.drop (4 * i)).take 4) = word := word_of_words place
  simp only [lfrfidRawFileReadHeader, read, long, word 0 rfl, word 1 rfl, word 2 rfl, word 3 rfl, word 4 rfl, and_self,
    ↓reduceIte]
  refine ⟨trivial, [], raw.blocks, rfl, ⟨data, rfl, ?_, ?_, ?_⟩⟩
  · exact Nat.zero_le _
  · exact List.drop_eq_nil_of_le (by simp)
  · exact behind

end Xtreme.LfRfid
