import Xtreme.BitLib.Crc

/-! The FDX-B animal tag format (`lib/lfrfid/protocols/protocol_fdx_b.c`).

A tag repeats a frame of 128 bits: a one and ten zeros, then thirteen blocks of
a marker one and eight bits. Eight blocks hold the first eight data bytes, two
their checksum with its high byte first, three the rest of the data. The reader
keeps 144 bits and wants to see the start of the next frame as well. What it
accepts it takes apart in place. -/
namespace Xtreme.LfRfid.FdxB
open Xtreme.BitLib

def encodedBitSize : Nat := 128
def encodedByteFullSize : Nat := 18
def decodedDataSize : Nat := 11
structure ProtocolFdxB where
  lastShort : Bool
  lastLevel : Bool
  encodedIndex : Nat
  encodedData : Bytes encodedByteFullSize
  data : Bytes decodedDataSize
  deriving DecidableEq

variable (protocol : ProtocolFdxB)

def protocolFdxBDecoderStart : ProtocolFdxB :=
  { protocol with encodedData := Vector.replicate encodedByteFullSize 0, lastShort := false }

/-- A `uint16_t` seen as the two bytes it lies in, the low one first. -/
def halfWord (bytes : Bytes 2) : BitVec 16 :=
  ((byteAt bytes 1).setWidth 16 <<< 8) ||| (byteAt bytes 0).setWidth 16

def halfWordBytes (value : BitVec 16) : Bytes 2 := #v[value.setWidth 8, (value >>> 8).setWidth 8]

/-- The checksum of the first eight bytes of an array. -/
def crcResult {size : Nat} (data : Bytes size) : BitVec 16 :=
  bitLibCrc16 data 8 0x1021 0x0000 false false 0x0000

def protocolFdxBCanBeDecoded : Bool :=
  if bitLibGetBits16 protocol.encodedData 0 11 ≠ 0b10000000000#16 then false
  else if bitLibGetBits16 protocol.encodedData 128 11 ≠ 0b10000000000#16 then false
  else if !bitLibTestParity protocol.encodedData 3 (13 * 9) .always1 9 then false
  else
    let crcData : Bytes 8 := (List.range 8).foldl (fun crcData i =>
      bitLibCopyBits crcData (i * 8) 8 protocol.encodedData (12 + 9 * i)) (Vector.replicate 8 0)
    let crcEx := bitLibCopyBits (Vector.replicate 2 0) 8 8 protocol.encodedData 84
    let crcEx := bitLibCopyBits crcEx 0 8 protocol.encodedData 93
    if crcResult crcData ≠ halfWord crcEx then false else true

def protocolFdxBDecode : ProtocolFdxB :=
  -- remove parity
  let encodedData := (bitLibRemoveBitEveryNth protocol.encodedData 3 (14 * 9) 9).2
  -- remove header pattern
  let encodedData := (List.range 11).foldl (fun encodedData _ =>
    bitLibPushBit encodedData encodedByteFullSize false) encodedData
  -- copy data without checksum
  let data := bitLibCopyBits protocol.data 0 64 encodedData 0
  let data := bitLibCopyBits data 64 24 encodedData 80
  { protocol with encodedData := encodedData, data := data }

def pushBit (bit : Bool) : ProtocolFdxB :=
  { protocol with encodedData := bitLibPushBit protocol.encodedData encodedByteFullSize bit }

/-- What `protocol_fdx_b_decoder_feed` does with a bit it has made out. -/
def feedBit (bit : Bool) : Bool × ProtocolFdxB :=
  if protocolFdxBCanBeDecoded (pushBit protocol bit) then
    (true, protocolFdxBDecode (pushBit protocol bit))
  else (false, pushBit protocol bit)

/-- One block of the loop of `protocol_fdx_b_encoder_start`. -/
def encodeBlock (data : Bytes decodedDataSize) (encodedData : Bytes encodedByteFullSize) (i : Nat) :
    Bytes encodedByteFullSize :=
  let encodedData := bitLibSetBit encodedData (11 + 9 * i) true
  if i = 8 ∨ i = 9 then encodedData
  else if i < 8 then bitLibCopyBits encodedData (12 + 9 * i) 8 data (i * 8)
  else bitLibCopyBits encodedData (12 + 9 * i) 8 data ((i - 2) * 8)

/-- The frame `protocol_fdx_b_encoder_start` builds. -/
def encode (data : Bytes decodedDataSize) : Bytes encodedByteFullSize :=
  let encodedData := bitLibSetBit (Vector.replicate encodedByteFullSize 0) 0 true
  let encodedData := (List.range 13).foldl (encodeBlock data) encodedData
  let crcRes := halfWordBytes (crcResult data)
  let encodedData := bitLibCopyBits encodedData 84 8 crcRes 8
  bitLibCopyBits encodedData 93 8 crcRes 0

def protocolFdxBEncoderStart : ProtocolFdxB :=
  { protocol with
    encodedData := encode protocol.data
    encodedIndex := 0
    lastShort := false
    lastLevel := false }

end Xtreme.LfRfid.FdxB
