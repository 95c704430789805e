import Xtreme.Toolbox.Hex

/-! The PAC/Stanley tag format (`lib/lfrfid/protocols/protocol_pac_stanley.c`).
A frame is a preamble byte and twelve characters of ten bits: a start bit, seven
bits from the lowest on, their parity and a stop bit. The characters are those
of a text of eight digits and its checksum, behind a fixed start. -/
namespace Xtreme.LfRfid.PacStanley
open Xtreme.Library Xtreme.BitLib Xtreme.Toolbox
open ShiftRegister (ofBits)

def encodedByteFullSize : Nat := 17
def byteLength : Nat := 10
def dataStartIndex : Nat := 8 + 3 * byteLength + 1
def decodedDataSize : Nat := 4

structure ProtocolPACStanley where
  encodedIndex : Nat
  encodedData : Bytes encodedByteFullSize
  data : Bytes decodedDataSize
  deriving DecidableEq, Repr

section
variable (protocol : ProtocolPACStanley)

/-- Character `idx` with its parity bit. -/
def receivedByte (idx : Nat) : BitVec 8 :=
  bitLibReverse8Fast (bitLibGetBits protocol.encodedData (dataStartIndex + byteLength * idx) 8)

/-- The local array of `protocol_pac_stanley_decode`, eight characters and no terminator. -/
def asciiCardId : List (BitVec 8) := (List.range 8).map fun idx => receivedByte protocol idx &&& 0x7F#8

/-- What the parser does with the characters and the memory behind them, and the
protocol after it. The bytes it writes behind the data go elsewhere. -/
def protocolPacStanleyDecode (beyond : List (BitVec 8)) : HexParse × ProtocolPACStanley :=
  let parse := hexCharsToUint8 (asciiCardId protocol ++ beyond)
  (parse, { protocol with data := memcpy protocol.data 0 parse.written })

/-- One turn of the checksum loop: the checksum, and the character without its parity bit. -/
def checkByte (state : BitVec 8 × BitVec 8) (idx : Nat) : Option (BitVec 8 × BitVec 8) :=
  let byte := receivedByte protocol idx
  let strippedByte := byte &&& 0x7F#8 -- discard the parity bit
  if (BitVec.ofBool (bitLibTestParity32 (strippedByte.setWidth 32) .odd)).setWidth 8 ≠ (byte &&& 0x80#8) >>> 7 then none
  else some (if idx < 8 then state.1 ^^^ strippedByte else state.1, strippedByte)

def protocolPacStanleyCanBeDecoded : Bool :=
  -- check preamble
  if bitLibGetBits protocol.encodedData 0 8 ≠ 0b11111111#8 then false
  else if bitLibGetBit protocol.encodedData 8 ≠ false then false
  else if bitLibGetBit protocol.encodedData 9 ≠ false then false
  else if bitLibGetBit protocol.encodedData 10 ≠ true then false
  else if bitLibGetBits protocol.encodedData 11 8 ≠ 0b00000010#8 then false
  -- check next preamble
  else if bitLibGetBits protocol.encodedData 128 8 ≠ 0b11111111#8 then false
  else
    -- checksum
    match (List.range 9).foldlM (checkByte protocol) (0, 0) with
    | none => false
    | some state => state.2 = state.1

end

/-- The characters of a frame: a fixed start, and the digits of the data. -/
def idbytes (data : Bytes decodedDataSize) : Bytes 10 :=
  uint8ToHexChars data #v[ascii '2', ascii '0', 0, 0, 0, 0, 0, 0, 0, 0] 2 8

def startAndStopBits : Bytes encodedByteFullSize :=
  let encodedData := (List.range 16).foldl (fun encodedData i =>
    encodedData.setIfInBounds i (0x40#8 >>> ((i + 3) % 5 * 2))) (Vector.replicate encodedByteFullSize 0)
  (encodedData.setIfInBounds 0 0xFF).setIfInBounds 1 0x20

/-- The bits of a character and its parity: of a digit, or of the checksum at the end. -/
def pattern (idbytes : Bytes 10) (checksum : BitVec 8) (i : Nat) : BitVec 16 :=
  if i < 12 then
    let pattern := (bitLibReverse8Fast (byteAt idbytes (i - 2))).setWidth 16
    pattern ||| (BitVec.ofBool (bitLibTestParity32 (pattern.setWidth 32) .odd)).setWidth 16
  else
    ((bitLibReverse8Fast checksum &&& 0xFE#8) |||
      (BitVec.ofBool (bitLibTestParity32 (checksum.setWidth 32) .odd)).setWidth 8).setWidth 16

/-- A pattern shifted into the two bytes it lies in. -/
def placePattern (encodedData : Bytes encodedByteFullSize) (i : Nat) (pattern : BitVec 16) :
    Bytes encodedByteFullSize :=
  let shift := 7 - (i + 3) % 4 * 2
  let index := i + (i - 1) / 4
  let pattern := pattern <<< shift
  let encodedData :=
    encodedData.setIfInBounds index (byteAt encodedData index ||| ((pattern >>> 8) &&& 0xFF#16).setWidth 8)
  encodedData.setIfInBounds (index + 1) (byteAt encodedData (index + 1) ||| (pattern &&& 0xFF#16).setWidth 8)

/-- The checksum after a turn of the loop of `protocol_pac_stanley_encoder_start`. -/
def checksumTurn (idbytes : Bytes 10) (checksum : BitVec 8) (i : Nat) : BitVec 8 :=
  if 3 < i ∧ i < 12 then checksum ^^^ byteAt idbytes (i - 2) else checksum

def encodeTurn (idbytes : Bytes 10) (state : Bytes encodedByteFullSize × BitVec 8) (i : Nat) :
    Bytes encodedByteFullSize × BitVec 8 :=
  (placePattern state.1 i (pattern idbytes state.2 i), checksumTurn idbytes state.2 i)

/-- The loop up to some turn, which begins at two. -/
def encodeTurns (idbytes : Bytes 10) (turns : Nat) : Bytes encodedByteFullSize × BitVec 8 :=
  (List.range turns).foldl (fun state turn => encodeTurn idbytes state (turn + 2)) (startAndStopBits, 0)

def protocolPacStanleyEncoderStart (protocol : ProtocolPACStanley) : ProtocolPACStanley :=
  { protocol with encodedData := (encodeTurns (idbytes protocol.data) 11).1, encodedIndex := 0 }

/-- What a reader has when the tag begins again: the preamble follows the frame. -/
def withNextPreamble (protocol : ProtocolPACStanley) : ProtocolPACStanley :=
  { protocol with encodedData := protocol.encodedData.setIfInBounds 16 (byteAt protocol.encodedData 0) }

theorem getLsbD_shifted (byte : BitVec 8) (shift : Nat) {place : Nat} (inside : place < 16) :
    ((byte.setWidth 16 : BitVec 16) <<< shift).getLsbD place =
      (decide (shift ≤ place) && byte.getLsbD (place - shift)) := by
  rw [BitVec.getLsbD_shiftLeft, BitVec.getLsbD_setWidth, decide_eq_true inside,
    decide_eq_true (by omega : place - shift < 16), Bool.true_and, Bool.true_and]
  by_cases below : place < shift
  · rw [decide_eq_true below, decide_eq_false (by omega), Bool.not_true]
  · rw [decide_eq_false below, decide_eq_true (by omega)]
    rfl

theorem getLsbD_mask {place : Nat} (inside : place < 8) : (0xFF#16).getLsbD place = true := by
  revert place
  decide

theorem getMsbD_shifted_high (byte : BitVec 8) {shift place : Nat} (few : shift ≤ 7) (inside : place < 8) :
    (((((byte.setWidth 16 : BitVec 16) <<< shift) >>> 8) &&& 0xFF#16).setWidth 8 : BitVec 8).getMsbD place =
      (decide (8 ≤ place + shift) && byte.getMsbD (place + shift - 8)) := by
  rw [BitVec.getMsbD_eq_getLsbD, BitVec.getLsbD_setWidth, BitVec.getLsbD_and, BitVec.getLsbD_ushiftRight,
    getLsbD_mask (by omega), getLsbD_shifted _ _ (by omega), BitVec.getMsbD_eq_getLsbD, decide_eq_true inside,
    decide_eq_true (by omega : 8 - 1 - place < 8), decide_eq_true (by omega : shift ≤ 8 + (8 - 1 - place)),
    decide_eq_true (by omega : place + shift - 8 < 8)]
  simp only [Bool.true_and, Bool.and_true]
  by_cases reached : 8 ≤ place + shift
  · rw [decide_eq_true reached]
    congr 1
    omega
  · rw [decide_eq_false reached]
    exact BitVec.getLsbD_of_ge _ _ (by omega)

theorem getMsbD_shifted_low (byte : BitVec 8) (shift : Nat) {place : Nat} (inside : place < 8) :
    ((((byte.setWidth 16 : BitVec 16) <<< shift) &&& 0xFF#16).setWidth 8 : BitVec 8).getMsbD place =
      byte.getMsbD (place + shift) := by
  rw [BitVec.getMsbD_eq_getLsbD, BitVec.getLsbD_setWidth, BitVec.getLsbD_and, getLsbD_mask (by omega),
    getLsbD_shifted _ _ (by omega), BitVec.getMsbD_eq_getLsbD, decide_eq_true inside,
    decide_eq_true (by omega : 8 - 1 - place < 8)]
  simp only [Bool.true_and, Bool.and_true]
  by_cases reached : place + shift < 8
  · rw [decide_eq_true reached, decide_eq_true (by omega), Bool.true_and]
    congr 1
    omega
  · rw [decide_eq_false reached, decide_eq_false (by omega)]
    rfl
/-- Character `i` is put over what was there, ten places behind the one before it. -/
theorem bitLibGetBit_placePattern (encodedData : Bytes encodedByteFullSize) {i : Nat} (low : 2 ≤ i) (high : i ≤ 12)
    (byte : BitVec 8) (place : Nat) :
    bitLibGetBit (placePattern encodedData i (byte.setWidth 16)) place = (bitLibGetBit encodedData place ||
        (decide (10 * i ≤ place + 1) && byte.getMsbD (place + 1 - 10 * i))) := by
  have room : i + (i - 1) / 4 + 1 < encodedByteFullSize := by
    have : encodedByteFullSize = 17 := rfl
    omega
  have begins : 8 * (i + (i - 1) / 4) + 8 = 10 * i - 1 + (7 - (i + 3) % 4 * 2) := by omega
  have few : 7 - (i + 3) % 4 * 2 ≤ 7 := Nat.sub_le _ _
  have inside : place % 8 < 8 := Nat.mod_lt _ (by decide)
  rw [placePattern]
  generalize i + (i - 1) / 4 = index at room begins
  generalize 7 - (i + 3) % 4 * 2 = shift at few begins
  rw [bitLibGetBit_eq, bitLibGetBit_eq, byteAt_setIfInBounds _ room, byteAt_setIfInBounds _ (by omega),
    byteAt_setIfInBounds _ (by omega), if_neg (Nat.succ_ne_self index)]
  by_cases second : place / 8 = index + 1
  · rw [if_pos second, BitVec.getMsbD_or, getMsbD_shifted_low byte shift inside, second, decide_eq_true (by omega)]
    congr 2
    omega
  · rw [if_neg second]
    by_cases first : place / 8 = index
    · rw [if_pos first, BitVec.getMsbD_or, getMsbD_shifted_high byte few inside, first]
      congr 2
      · exact decide_eq_decide.mpr (by omega)
      · congr 1
        omega
    · rw [if_neg first]
      by_cases later : 10 * i ≤ place + 1
      · rw [BitVec.getMsbD_of_ge byte _ (by omega), Bool.and_false, Bool.or_false]
      · rw [decide_eq_false later, Bool.false_and, Bool.or_false]

/-- A character with its parity, as the encoder makes it of a digit. -/
def digitByte (c : BitVec 8) : BitVec 8 :=
  bitLibReverse8Fast c ||| (BitVec.ofBool (bitLibTestParity32 ((bitLibReverse8Fast c).setWidth 32) .odd)).setWidth 8

def checksumByte (checksum : BitVec 8) : BitVec 8 :=
  (bitLibReverse8Fast checksum &&& 0xFE#8) |||
    (BitVec.ofBool (bitLibTestParity32 (checksum.setWidth 32) .odd)).setWidth 8

def checksumAfter (idbytes : Bytes 10) (turns : Nat) : BitVec 8 :=
  (List.range turns).foldl (fun checksum turn => checksumTurn idbytes checksum (turn + 2)) 0

/-- The character that a turn sends. -/
def sentByte (idbytes : Bytes 10) (turn : Nat) : BitVec 8 :=
  if turn < 10 then digitByte (byteAt idbytes turn) else checksumByte (checksumAfter idbytes turn)

theorem pattern_eq (idbytes : Bytes 10) (turn : Nat) :
    pattern idbytes (checksumAfter idbytes turn) (turn + 2) = (sentByte idbytes turn).setWidth 16 := by
  have wider (byte : BitVec 8) : (byte.setWidth 16).setWidth 32 = byte.setWidth 32 := by
    apply BitVec.eq_of_toNat_eq
    rw [BitVec.toNat_setWidth, BitVec.toNat_setWidth, BitVec.toNat_setWidth]
    omega
  have bit (b : Bool) : (BitVec.ofBool b).setWidth 16 = ((BitVec.ofBool b).setWidth 8).setWidth 16 := by
    cases b <;> rfl
  have digit (c : BitVec 8) : (bitLibReverse8Fast c).setWidth 16 |||
      (BitVec.ofBool (bitLibTestParity32 (((bitLibReverse8Fast c).setWidth 16).setWidth 32) .odd)).setWidth 16 =
        (digitByte c).setWidth 16 := by
    rw [wider, bit, digitByte, BitVec.setWidth_or]
  rw [pattern, sentByte]
  by_cases several : turn < 10
  · rw [if_pos (by omega), if_pos several]
    exact digit _
  · rw [if_neg (by omega), if_neg several]
    rfl

theorem encodeTurns_succ (idbytes : Bytes 10) (turns : Nat) :
    encodeTurns idbytes (turns + 1) = encodeTurn idbytes (encodeTurns idbytes turns) (turns + 2) := by
  rw [encodeTurns, List.range_succ, List.foldl_append, List.foldl_cons, List.foldl_nil, ← encodeTurns]

theorem checksumAfter_succ (idbytes : Bytes 10) (turns : Nat) :
    checksumAfter idbytes (turns + 1) = checksumTurn idbytes (checksumAfter idbytes turns) (turns + 2) := by
  rw [checksumAfter, List.range_succ, List.foldl_append, List.foldl_cons, List.foldl_nil, ← checksumAfter]

theorem encodeTurns_checksum (idbytes : Bytes 10) (turns : Nat) :
    (encodeTurns idbytes turns).2 = checksumAfter idbytes turns := by
  induction turns with
  | zero => rfl
  | succ turns ih => rw [encodeTurns_succ, encodeTurn, checksumAfter_succ, ih]

theorem bitLibGetBit_encodeTurns (idbytes : Bytes 10) {turns : Nat} (few : turns ≤ 11) (place : Nat) :
    bitLibGetBit (encodeTurns idbytes turns).1 place =
      (bitLibGetBit startAndStopBits place || (decide (19 ≤ place ∧ place < 10 * turns + 19) &&
        (sentByte idbytes ((place - 19) / 10)).getMsbD ((place - 19) % 10))) := by
  induction turns with
  | zero =>
    rw [decide_eq_false (by omega), Bool.false_and, Bool.or_false]
    rfl
  | succ turns ih =>
    rw [encodeTurns_succ, encodeTurn, encodeTurns_checksum, pattern_eq,
      bitLibGetBit_placePattern _ (by omega) (by omega), ih (by omega), Bool.or_assoc]
    by_cases last : 10 * turns + 19 ≤ place ∧ place < 10 * turns + 29
    · have turn : (place - 19) / 10 = turns := by omega
      have bit : place + 1 - 10 * (turns + 2) = (place - 19) % 10 := by omega
      rw [decide_eq_false (by omega), decide_eq_true (by omega), decide_eq_true (by omega), turn, bit, Bool.false_and,
        Bool.false_or]
    · have outside : (decide (10 * (turns + 2) ≤ place + 1) &&
          (sentByte idbytes turns).getMsbD (place + 1 - 10 * (turns + 2))) = false := by
        by_cases later : 10 * (turns + 2) ≤ place + 1
        · rw [BitVec.getMsbD_of_ge _ _ (by omega), Bool.and_false]
        · rw [decide_eq_false later, Bool.false_and]
      have same : (19 ≤ place ∧ place < 10 * turns + 19) ↔ (19 ≤ place ∧ place < 10 * (turns + 1) + 19) := by omega
      rw [outside, Bool.or_false, decide_eq_decide.mpr same]

variable (protocol : ProtocolPACStanley) (old : Bytes decodedDataSize)

/-- What a reader has of a card, whatever data it had before. -/
def received : ProtocolPACStanley :=
  { withNextPreamble (protocolPacStanleyEncoderStart protocol) with data := old }

theorem byteAt_received (index : Nat) : byteAt (received protocol old).encodedData index =
      if index = 16 then byteAt (encodeTurns (idbytes protocol.data) 11).1 0
      else byteAt (encodeTurns (idbytes protocol.data) 11).1 index :=
  byteAt_setIfInBounds _ (by decide) _ _

/-- The frame itself is as it was sent. -/
theorem bitLibGetBit_received {place : Nat} (inside : place < 128) :
    bitLibGetBit (received protocol old).encodedData place =
      (bitLibGetBit startAndStopBits place || (decide (19 ≤ place ∧ place < 129) &&
        (sentByte (idbytes protocol.data) ((place - 19) / 10)).getMsbD ((place - 19) % 10))) := by
  rw [← bitLibGetBit_encodeTurns (idbytes protocol.data) (Nat.le_refl 11), bitLibGetBit_eq, bitLibGetBit_eq,
    byteAt_received, if_neg (by omega)]

/-- The bits that come before the characters. -/
theorem bitLibGetBit_received_start {place : Nat} (before : place < 19) :
    bitLibGetBit (received protocol old).encodedData place = bitLibGetBit startAndStopBits place := by
  rw [bitLibGetBit_received protocol old (by omega), decide_eq_false (by omega), Bool.false_and, Bool.or_false]

theorem bitLibGetBits_congr {size : Nat} {first second : Bytes size} {position position' length : Nat}
    (short : length ≤ 8)
    (same : ∀ i < length, bitLibGetBit first (position + i) = bitLibGetBit second (position' + i)) :
    bitLibGetBits first position length = bitLibGetBits second position' length := by
  rw [bitLibGetBits_eq _ _ short, bitLibGetBits_eq _ _ short]
  congr 1
  exact List.map_congr_left fun i member => same i (List.mem_range.mp member)

theorem received_preambles : bitLibGetBits (received protocol old).encodedData 0 8 = 0b11111111#8 ∧
      bitLibGetBits (received protocol old).encodedData 11 8 = 0b00000010#8 ∧
      bitLibGetBits (received protocol old).encodedData 128 8 = 0b11111111#8 := by
  have first : bitLibGetBits (received protocol old).encodedData 0 8 = bitLibGetBits startAndStopBits 0 8 :=
    bitLibGetBits_congr (Nat.le_refl 8) fun i _ => bitLibGetBit_received_start protocol old (by omega)
  have text : bitLibGetBits (received protocol old).encodedData 11 8 = bitLibGetBits startAndStopBits 11 8 :=
    bitLibGetBits_congr (Nat.le_refl 8) fun i _ => bitLibGetBit_received_start protocol old (by omega)
  have next : bitLibGetBits (received protocol old).encodedData 128 8 =
      bitLibGetBits (received protocol old).encodedData 0 8 := by
    have again : byteAt (received protocol old).encodedData 16 = byteAt (received protocol old).encodedData 0 := by
      rw [byteAt_received, byteAt_received, if_pos rfl, if_neg (by decide)]
    have aligned (index : Nat) : bitLibGetBits (received protocol old).encodedData (8 * index) 8 =
        byteAt (received protocol old).encodedData index := by
      simp [bitLibGetBits]
    exact (aligned 16).trans (again.trans (aligned 0).symm)
  have preamble : bitLibGetBits startAndStopBits 0 8 = 0b11111111#8 := by decide +kernel
  have start : bitLibGetBits startAndStopBits 11 8 = 0b00000010#8 := by decide +kernel
  exact ⟨first.trans preamble, text.trans start, next.trans (first.trans preamble)⟩

/-- Every character arrives as it was sent. -/
theorem receivedByte_received {idx : Nat} (inside : idx < 9) :
    receivedByte (received protocol old) idx = bitLibReverse8Fast (sentByte (idbytes protocol.data) (idx + 2)) := by
  have free : ∀ idx < 9, ∀ k < 8, bitLibGetBit startAndStopBits (dataStartIndex + byteLength * idx + k) = false := by
    decide +kernel
  have place (k : Nat) : dataStartIndex + byteLength * idx + k = 19 + 10 * (idx + 2) + k := by
    rw [dataStartIndex, byteLength]
    omega
  have bits : bitLibGetBits (received protocol old).encodedData (dataStartIndex + byteLength * idx) 8 =
      sentByte (idbytes protocol.data) (idx + 2) := ?_
  · rw [receivedByte, bits]
  apply BitVec.eq_of_getLsbD_eq
  intro i within
  rw [bitLibGetBits_eq _ _ (Nat.le_refl 8), getLsbD_ofBits_bitsFrom _ _ within, decide_eq_true within, Bool.true_and,
    bitLibGetBit_received protocol old (by rw [place]; omega), free idx inside _ (by omega), Bool.false_or, place,
    decide_eq_true (by omega), Bool.true_and]
  have turn : (19 + 10 * (idx + 2) + (8 - 1 - i) - 19) / 10 = idx + 2 := by omega
  have bit : (19 + 10 * (idx + 2) + (8 - 1 - i) - 19) % 10 = 8 - 1 - i := by omega
  rw [turn, BitVec.getMsbD_eq_getLsbD, decide_eq_true (by omega), Bool.true_and]
  congr 1
  omega

/-- A reader finds the character `c` in a byte, with its parity. -/
def Reads (byte c : BitVec 8) : Prop :=
  byte &&& 0x7F#8 = c ∧
    (BitVec.ofBool (bitLibTestParity32 (c.setWidth 32) .odd)).setWidth 8 = (byte &&& 0x80#8) >>> 7

instance (byte c : BitVec 8) : Decidable (Reads byte c) := inferInstanceAs (Decidable (_ ∧ _))

theorem reads_digitByte {c : BitVec 8} (seven : c.msb = false) : Reads (bitLibReverse8Fast (digitByte c)) c := by
  revert c
  decide +kernel

theorem reads_checksumByte {c : BitVec 8} (seven : c.msb = false) : Reads (bitLibReverse8Fast (checksumByte c)) c := by
  revert c
  decide +kernel

/-- The digits stand behind the fixed start. -/
theorem byteAt_idbytes (data : Bytes decodedDataSize) {idx : Nat} (inside : idx < 8) :
    byteAt (idbytes data) (idx + 2) = hexCharAt data idx := by
  rw [idbytes, byteAt_uint8ToHexChars _ _ (by decide), if_pos (by omega), Nat.add_sub_cancel]

theorem hexCharAt_seven {size : Nat} (src : Bytes size) (place : Nat) : (hexCharAt src place).msb = false := by
  have all : ∀ byte : BitVec 8, (chars.getD (byte &&& 0xF#8).toNat 0).msb = false := by decide +kernel
  exact all _

theorem checksumAfter_seven (data : Bytes decodedDataSize) (turns : Nat) :
    (checksumAfter (idbytes data) turns).msb = false := by
  induction turns with
  | zero =>
    rw [checksumAfter, List.range_zero, List.foldl_nil]
    decide
  | succ turns ih =>
    rw [checksumAfter_succ, checksumTurn]
    split
    · have place : turns + 2 - 2 = (turns - 2) + 2 := by omega
      rw [place, byteAt_idbytes data (by omega), BitVec.msb_xor, ih, hexCharAt_seven]
      rfl
    · exact ih

/-- Character `idx` of the nine that the reader checks. -/
def character (data : Bytes decodedDataSize) (idx : Nat) : BitVec 8 :=
  if idx < 8 then hexCharAt data idx else checksumAfter (idbytes data) 10

theorem reads_received {idx : Nat} (inside : idx < 9) :
    Reads (receivedByte (received protocol old) idx) (character protocol.data idx) := by
  rw [receivedByte_received protocol old inside, sentByte, character]
  by_cases digit : idx < 8
  · rw [if_pos (by omega), if_pos digit, byteAt_idbytes _ digit]
    exact reads_digitByte (hexCharAt_seven _ _)
  · have last : idx + 2 = 10 := by omega
    rw [if_neg digit, last]
    exact reads_checksumByte (checksumAfter_seven _ _)

theorem checkByte_reads {idx : Nat} {c : BitVec 8} (reads : Reads (receivedByte protocol idx) c)
    (state : BitVec 8 × BitVec 8) :
    checkByte protocol state idx = some (if idx < 8 then state.1 ^^^ c else state.1, c) := by
  rw [checkByte]
  simp only [reads.1]
  rw [if_neg (not_not.mpr reads.2)]

/-- The checksum loop runs through the digits. -/
theorem checkBytes_received {count : Nat} (few : count ≤ 8) :
    ∃ strippedByte, (List.range count).foldlM (checkByte (received protocol old)) (0, 0) =
      some (checksumAfter (idbytes protocol.data) (count + 2), strippedByte) := by
  induction count with
  | zero => exact ⟨0, rfl⟩
  | succ count ih =>
    obtain ⟨strippedByte, run⟩ := ih (by omega)
    have digit : count < 8 := by omega
    have turn : checksumAfter (idbytes protocol.data) (count + 1 + 2) =
        checksumAfter (idbytes protocol.data) (count + 2) ^^^ hexCharAt protocol.data count := by
      rw [checksumAfter_succ, checksumTurn, if_pos (by omega), Nat.add_sub_cancel, byteAt_idbytes _ digit]
    refine ⟨character protocol.data count, ?_⟩
    rw [List.range_succ, List.foldlM_append, run]
    simp only [List.foldlM_cons, Option.bind_eq_bind, Option.bind_some]
    rw [checkByte_reads _ (reads_received protocol old (Nat.lt_succ_of_lt digit)), if_pos digit, turn, character,
      if_pos digit]
    rfl

theorem received_accepted : protocolPacStanleyCanBeDecoded (received protocol old) = true := by
  obtain ⟨first, text, next⟩ := received_preambles protocol old
  have start (place : Nat) (before : place < 19) := bitLibGetBit_received_start protocol old before
  have fixed : bitLibGetBit startAndStopBits 8 = false ∧ bitLibGetBit startAndStopBits 9 = false ∧
      bitLibGetBit startAndStopBits 10 = true := by decide +kernel
  obtain ⟨strippedByte, run⟩ := checkBytes_received protocol old (Nat.le_refl 8)
  have loop : (List.range 9).foldlM (checkByte (received protocol old)) (0, 0) =
      some (checksumAfter (idbytes protocol.data) 10, checksumAfter (idbytes protocol.data) 10) := by
    rw [List.range_succ, List.foldlM_append, run]
    simp only [List.foldlM_cons, Option.bind_eq_bind, Option.bind_some]
    rw [checkByte_reads _ (reads_received protocol old (Nat.lt_succ_self 8))]
    rfl
  rw [protocolPacStanleyCanBeDecoded, if_neg (not_not.mpr first), start 8 (by decide), start 9 (by decide),
    start 10 (by decide), if_neg (not_not.mpr text), if_neg (not_not.mpr next), loop]
  exact decide_eq_true rfl

/-- What is extracted are the digits of the data. -/
theorem asciiCardId_received :
    asciiCardId (received protocol old) = (List.range 4).flatMap fun index => hexPair (byteAt protocol.data index) := by
  have digits : asciiCardId (received protocol old) = (List.range 8).map (hexCharAt protocol.data) := by
    apply List.map_congr_left
    intro idx member
    have digit := List.mem_range.mp member
    rw [(reads_received protocol old (Nat.lt_succ_of_lt digit)).1, character, if_pos digit]
  rw [digits]
  rfl

theorem decode_received (beyond : List (BitVec 8)) :
    (protocolPacStanleyDecode (received protocol old) beyond).2.data = protocol.data := by
  have bytes : ((List.range 4).flatMap fun index => hexPair (byteAt protocol.data index)) =
      ((List.range 4).map (byteAt protocol.data)).flatMap hexPair := by
    rw [List.flatMap_map]
  obtain ⟨more, written⟩ := @written_hexPairs false ((List.range 4).map (byteAt protocol.data)) beyond
  rw [← bytes, ← asciiCardId_received protocol old] at written
  apply bytes_ext
  intro place inside
  have index : place / 8 < decodedDataSize := by omega
  have four : place / 8 < 4 := index
  rw [bitLibGetBit_eq, bitLibGetBit_eq, protocolPacStanleyDecode]
  rw [byteAt_memcpy _ _ _ index, hexCharsToUint8, written, if_pos (by simp; omega), Nat.sub_zero,
    List.getD_eq_getElem?_getD, List.getElem?_append_left (by simp; omega), List.getElem?_map, List.getElem?_range four]
  rfl

/-- A decoder that reads no more than the eight characters, and writes no more than the data. -/
def Inside (parse : HexParse) : Prop := parse.read ≤ 8 ∧ parse.written.length ≤ decodedDataSize

instance (parse : HexParse) : Decidable (Inside parse) := inferInstanceAs (Decidable (_ ∧ _))

theorem inside_iff (beyond : List (BitVec 8)) :
    Inside (protocolPacStanleyDecode protocol beyond).1 ↔ ∃ c ∈ asciiCardId protocol, hexCharToHexNibble c = none := by
  have eight : (asciiCardId protocol).length = 2 * 4 := by rw [asciiCardId, List.length_map, List.length_range]
  have fewer := @written_lt_read false (asciiCardId protocol ++ beyond).length (asciiCardId protocol ++ beyond)
    (by omega)
  have iff := @read_le_iff false 4 (asciiCardId protocol) eight beyond
  rw [← iff]
  constructor
  · exact fun inside => inside.1
  · intro short
    have few : (hexCharsLoop false (asciiCardId protocol ++ beyond)).written.length ≤ 4 := by omega
    exact ⟨short, few⟩

/-- **The parser is not told where the characters end.** An accepted frame is
decoded within them exactly where one of them is no digit; where all are, the
parser reads and writes on as far as the memory behind them lets it. The data
of a card arrives in either case. -/
theorem pac_stanley_decode_iff (protocol card : ProtocolPACStanley) (beyond : List (BitVec 8)) :
    (protocolPacStanleyCanBeDecoded protocol = true →
      (Inside (protocolPacStanleyDecode protocol beyond).1 ↔ ∃ c ∈ asciiCardId protocol, hexCharToHexNibble c = none)) ∧
    ∀ old, protocolPacStanleyCanBeDecoded (received card old) = true ∧
      (protocolPacStanleyDecode (received card old) beyond).2.data = card.data :=
  ⟨fun _ => inside_iff protocol beyond, fun old => ⟨received_accepted card old, decode_received card old beyond⟩⟩

/-- A card, with more digits in the memory behind the characters. -/
def sampleCard : ProtocolPACStanley := ⟨0, Vector.replicate encodedByteFullSize 0, #v[0x12, 0xAB, 0x56, 0xF8]⟩

theorem pac_stanley_decode_outside : protocolPacStanleyCanBeDecoded (received sampleCard sampleCard.data) = true ∧
      ¬ Inside (protocolPacStanleyDecode (received sampleCard sampleCard.data) [ascii '4', ascii '1', 0]).1 := by
  decide +kernel

end Xtreme.LfRfid.PacStanley
