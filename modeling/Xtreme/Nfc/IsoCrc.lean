import Xtreme.Toolbox.BitBuffer

/-! The checksums of ISO15693-3 and ISO14443-3A frames (`iso13239_crc.c`, `iso14443_crc.c`), of
the types that these protocols use. -/
namespace Xtreme.Nfc
open BitLib Toolbox

def iso13239CrcSize : Nat := 2

/-- One round of the inner loop of `iso13239_crc_calculate`. -/
def iso13239CrcBit (crc : BitVec 16) : BitVec 16 :=
  if crc.getLsbD 0 then (crc >>> 1) ^^^ 0x8408#16 else crc >>> 1

def iso13239CrcByte (crc : BitVec 16) (byte : BitVec 8) : BitVec 16 :=
  (List.range 8).foldl (fun crc _ => iso13239CrcBit crc) (crc ^^^ byte.setWidth 16)

def iso13239CrcCalculate (data : List (BitVec 8)) : BitVec 16 := ~~~(data.foldl iso13239CrcByte 0xFFFF#16)

/-- The checksum goes out low byte first. -/
def iso13239CrcBytes (data : List (BitVec 8)) : List (BitVec 8) :=
  let crc := iso13239CrcCalculate data
  [crc.extractLsb' 0 8, crc.extractLsb' 8 8]

def iso13239CrcCheck (buffer : BitBuffer) : Bool :=
  let size := buffer.sizeBytes
  iso13239CrcSize < size &&
    iso13239CrcBytes (buffer.bytes (size - 2)) = [buffer.byte (size - 2), buffer.byte (size - 1)]

def iso13239CrcTrim (buffer : BitBuffer) : BitBuffer :=
  { buffer with sizeBits := (buffer.sizeBytes - iso13239CrcSize) * 8 }

def iso14443CrcByte (crc : BitVec 16) (byte : BitVec 8) : BitVec 16 :=
  let byte := byte ^^^ crc.setWidth 8
  let byte := byte ^^^ (byte <<< 4)
  (crc >>> 8) ^^^ (byte.setWidth 16 <<< 8) ^^^ (byte.setWidth 16 <<< 3) ^^^ (byte >>> 4).setWidth 16

def iso14443CrcCalculate (data : List (BitVec 8)) : BitVec 16 := data.foldl iso14443CrcByte 0x6363#16

/-- The checksum goes out low byte first. -/
def crcBytes (crc : BitVec 16) : List (BitVec 8) := [crc.extractLsb' 0 8, crc.extractLsb' 8 8]

def iso14443CrcAppend (data : List (BitVec 8)) : List (BitVec 8) := data ++ crcBytes (iso14443CrcCalculate data)

def iso14443CrcCheck (buffer : BitBuffer) : Bool :=
  let size := buffer.sizeBytes
  2 < size && crcBytes (iso14443CrcCalculate (buffer.bytes (size - 2))) = [buffer.byte (size - 2), buffer.byte (size - 1)]

def iso14443CrcTrim (buffer : BitBuffer) : BitBuffer := { buffer with sizeBits := (buffer.sizeBytes - 2) * 8 }

end Xtreme.Nfc
