import Xtreme.BitLib.BitLib

/-! The checksums of `lib/bit_lib/bit_lib.c`. -/
namespace Xtreme.BitLib

variable {size : Nat}

/-- The swaps of `bit_lib_reverse_bits`, from the ends inwards. -/
def bitLibReverseBits (data : Bytes size) (position length : Nat) : Bytes size :=
  (List.range (length / 2)).foldl (fun data i =>
    let j := length - 1 - i
    let tmp := bitLibGetBit data (position + i)
    let data := bitLibSetBit data (position + i) (bitLibGetBit data (position + j))
    bitLibSetBit data (position + j) tmp) data

def bitLibReverse16Fast (data : BitVec 16) : BitVec 16 :=
  ((data &&& 0x8000) >>> 15) ||| ((data &&& 0x4000) >>> 13) ||| ((data &&& 0x2000) >>> 11) |||
    ((data &&& 0x1000) >>> 9) ||| ((data &&& 0x0800) >>> 7) ||| ((data &&& 0x0400) >>> 5) |||
    ((data &&& 0x0200) >>> 3) ||| ((data &&& 0x0100) >>> 1) ||| ((data &&& 0x0080) <<< 1) |||
    ((data &&& 0x0040) <<< 3) ||| ((data &&& 0x0020) <<< 5) ||| ((data &&& 0x0010) <<< 7) |||
    ((data &&& 0x0008) <<< 9) ||| ((data &&& 0x0004) <<< 11) ||| ((data &&& 0x0002) <<< 13) |||
    ((data &&& 0x0001) <<< 15)

/-- A byte alone in an array, as the callers of `bit_lib_reverse_bits` pass it. -/
def reverseByte (byte : BitVec 8) : BitVec 8 := byteAt (bitLibReverseBits #v[byte] 0 8) 0

/-- One turn of the inner loop of `bit_lib_crc8`. -/
def crc8Bit (polynom crc : BitVec 8) : BitVec 8 :=
  if crc &&& 0x80#8 ≠ 0 then (crc <<< 1) ^^^ polynom else crc <<< 1

def crc8Byte (polynom : BitVec 8) (refIn : Bool) (crc byte : BitVec 8) : BitVec 8 :=
  let byte := if refIn then reverseByte byte else byte
  (List.range 8).foldl (fun crc _ => crc8Bit polynom crc) (crc ^^^ byte)

def bitLibCrc8 (data : Bytes size) (dataSize : Nat) (polynom init : BitVec 8) (refIn refOut : Bool)
    (xorOut : BitVec 8) : BitVec 16 :=
  let crc := ((List.range dataSize).map (byteAt data)).foldl (crc8Byte polynom refIn) init
  let crc := if refOut then reverseByte crc else crc
  (crc ^^^ xorOut).setWidth 16

/-- One turn of the inner loop of `bit_lib_crc16`. -/
def crc16Bit (polynom : BitVec 16) (byte : BitVec 8) (crc : BitVec 16) (j : Nat) : BitVec 16 :=
  let c15 : Bool := (crc >>> 15) &&& 1#16 ≠ 0
  let bit : Bool := (byte >>> (7 - j)) &&& 1#8 ≠ 0
  if c15 ^^ bit then (crc <<< 1) ^^^ polynom else crc <<< 1

def crc16Byte (polynom : BitVec 16) (refIn : Bool) (crc : BitVec 16) (byte : BitVec 8) : BitVec 16 :=
  let byte := if refIn then (bitLibReverse16Fast (byte.setWidth 16) >>> 8).setWidth 8 else byte
  (List.range 8).foldl (crc16Bit polynom byte) crc

def bitLibCrc16 (data : Bytes size) (dataSize : Nat) (polynom init : BitVec 16) (refIn refOut : Bool)
    (xorOut : BitVec 16) : BitVec 16 :=
  let crc := ((List.range dataSize).map (byteAt data)).foldl (crc16Byte polynom refIn) init
  let crc := if refOut then bitLibReverse16Fast crc else crc
  crc ^^^ xorOut

/-! A checksum is about the bytes it covers and nothing else. -/

theorem bitLibCrc16_congr {otherSize : Nat} {data : Bytes size} {other : Bytes otherSize} {dataSize : Nat}
    (same : ∀ i < dataSize, byteAt data i = byteAt other i) (polynom init : BitVec 16)
    (refIn refOut : Bool) (xorOut : BitVec 16) :
    bitLibCrc16 data dataSize polynom init refIn refOut xorOut =
      bitLibCrc16 other dataSize polynom init refIn refOut xorOut := by
  unfold bitLibCrc16
  rw [List.map_congr_left fun i inside => same i (List.mem_range.mp inside)]

end Xtreme.BitLib
