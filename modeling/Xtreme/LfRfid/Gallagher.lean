import Xtreme.BitLib.Crc
import Xtreme.Toolbox.Manchester

/-! The Gallagher card format (`lib/lfrfid/protocols/protocol_gallagher.c`).

A card repeats a frame of 96 bits: a preamble with ten ones in a row, eight
scrambled bytes, each followed by its last bit inverted, and a checksum. The
fields of the card are spread over the bytes. The reader wants to see the
preamble of the next frame as well, and takes what it accepts apart in place. -/
namespace Xtreme.LfRfid.Gallagher
open Xtreme.BitLib Xtreme.Toolbox

def clockPerBit : Nat := 32
def encodedBitSize : Nat := 96
def encodedByteFullSize : Nat := 14
def decodedDataSize : Nat := 8
structure ProtocolGallagher where
  data : Bytes decodedDataSize
  encodedData : Bytes encodedByteFullSize
  encodedDataIndex : Nat
  encodedPolarity : Bool
  decoderManchesterState : ManchesterState
  deriving DecidableEq

def scrambleLut : List (BitVec 8) := [
    0xa3, 0xb0, 0x80, 0xc6, 0xb2, 0xf4, 0x5c, 0x6c, 0x81, 0xf1, 0xbb, 0xeb, 0x55, 0x67, 0x3c, 0x05,
    0x1a, 0x0e, 0x61, 0xf6, 0x22, 0xce, 0xaa, 0x8f, 0xbd, 0x3b, 0x1f, 0x5e, 0x44, 0x04, 0x51, 0x2e,
    0x4d, 0x9a, 0x84, 0xea, 0xf8, 0x66, 0x74, 0x29, 0x7f, 0x70, 0xd8, 0x31, 0x7a, 0x6d, 0xa4, 0x00,
    0x82, 0xb9, 0x5f, 0xb4, 0x16, 0xab, 0xff, 0xc2, 0x39, 0xdc, 0x19, 0x65, 0x57, 0x7c, 0x20, 0xfa,
    0x5a, 0x49, 0x13, 0xd0, 0xfb, 0xa8, 0x91, 0x73, 0xb1, 0x33, 0x18, 0xbe, 0x21, 0x72, 0x48, 0xb6,
    0xdb, 0xa0, 0x5d, 0xcc, 0xe6, 0x17, 0x27, 0xe5, 0xd4, 0x53, 0x42, 0xf3, 0xdd, 0x7b, 0x24, 0xac,
    0x2b, 0x58, 0x1e, 0xa7, 0xe7, 0x86, 0x40, 0xd3, 0x98, 0x97, 0x71, 0xcb, 0x3a, 0x0f, 0x01, 0x9b,
    0x6e, 0x1b, 0xfc, 0x34, 0xa6, 0xda, 0x07, 0x0c, 0xae, 0x37, 0xca, 0x54, 0xfd, 0x26, 0xfe, 0x0a,
    0x45, 0xa2, 0x2a, 0xc4, 0x12, 0x0d, 0xf5, 0x4f, 0x69, 0xe0, 0x8a, 0x77, 0x60, 0x3f, 0x99, 0x95,
    0xd2, 0x38, 0x36, 0x62, 0xb7, 0x32, 0x7e, 0x79, 0xc0, 0x46, 0x93, 0x2f, 0xa5, 0xba, 0x5b, 0xaf,
    0x52, 0x1d, 0xc3, 0x75, 0xcf, 0xd6, 0x4c, 0x83, 0xe8, 0x3d, 0x30, 0x4e, 0xbc, 0x08, 0x2d, 0x09,
    0x06, 0xd9, 0x25, 0x9e, 0x89, 0xf2, 0x96, 0x88, 0xc1, 0x8c, 0x94, 0x0b, 0x28, 0xf0, 0x47, 0x63,
    0xd5, 0xb3, 0x68, 0x56, 0x9c, 0xf9, 0x6f, 0x41, 0x50, 0x85, 0x8b, 0x9d, 0x59, 0xbf, 0x9f, 0xe2,
    0x8e, 0x6a, 0x11, 0x23, 0xa1, 0xcd, 0xb5, 0x7d, 0xc7, 0xa9, 0xc8, 0xef, 0xdf, 0x02, 0xb8, 0x03,
    0x6b, 0x35, 0x3e, 0x2c, 0x76, 0xc9, 0xde, 0x1c, 0x4b, 0xd1, 0xed, 0x14, 0xc5, 0xad, 0xe9, 0x64,
    0x4a, 0xec, 0x8d, 0xf7, 0x10, 0x43, 0x78, 0x15, 0x87, 0xe4, 0xd7, 0x92, 0xe1, 0xee, 0xe3, 0x90]

def descrambleLut : List (BitVec 8) := [
    0x2f, 0x6e, 0xdd, 0xdf, 0x1d, 0x0f, 0xb0, 0x76, 0xad, 0xaf, 0x7f, 0xbb, 0x77, 0x85, 0x11, 0x6d,
    0xf4, 0xd2, 0x84, 0x42, 0xeb, 0xf7, 0x34, 0x55, 0x4a, 0x3a, 0x10, 0x71, 0xe7, 0xa1, 0x62, 0x1a,
    0x3e, 0x4c, 0x14, 0xd3, 0x5e, 0xb2, 0x7d, 0x56, 0xbc, 0x27, 0x82, 0x60, 0xe3, 0xae, 0x1f, 0x9b,
    0xaa, 0x2b, 0x95, 0x49, 0x73, 0xe1, 0x92, 0x79, 0x91, 0x38, 0x6c, 0x19, 0x0e, 0xa9, 0xe2, 0x8d,
    0x66, 0xc7, 0x5a, 0xf5, 0x1c, 0x80, 0x99, 0xbe, 0x4e, 0x41, 0xf0, 0xe8, 0xa6, 0x20, 0xab, 0x87,
    0xc8, 0x1e, 0xa0, 0x59, 0x7b, 0x0c, 0xc3, 0x3c, 0x61, 0xcc, 0x40, 0x9e, 0x06, 0x52, 0x1b, 0x32,
    0x8c, 0x12, 0x93, 0xbf, 0xef, 0x3b, 0x25, 0x0d, 0xc2, 0x88, 0xd1, 0xe0, 0x07, 0x2d, 0x70, 0xc6,
    0x29, 0x6a, 0x4d, 0x47, 0x26, 0xa3, 0xe4, 0x8b, 0xf6, 0x97, 0x2c, 0x5d, 0x3d, 0xd7, 0x96, 0x28,
    0x02, 0x08, 0x30, 0xa7, 0x22, 0xc9, 0x65, 0xf8, 0xb7, 0xb4, 0x8a, 0xca, 0xb9, 0xf2, 0xd0, 0x17,
    0xff, 0x46, 0xfb, 0x9a, 0xba, 0x8f, 0xb6, 0x69, 0x68, 0x8e, 0x21, 0x6f, 0xc4, 0xcb, 0xb3, 0xce,
    0x51, 0xd4, 0x81, 0x00, 0x2e, 0x9c, 0x74, 0x63, 0x45, 0xd9, 0x16, 0x35, 0x5f, 0xed, 0x78, 0x9f,
    0x01, 0x48, 0x04, 0xc1, 0x33, 0xd6, 0x4f, 0x94, 0xde, 0x31, 0x9d, 0x0a, 0xac, 0x18, 0x4b, 0xcd,
    0x98, 0xb8, 0x37, 0xa2, 0x83, 0xec, 0x03, 0xd8, 0xda, 0xe5, 0x7a, 0x6b, 0x53, 0xd5, 0x15, 0xa4,
    0x43, 0xe9, 0x90, 0x67, 0x58, 0xc0, 0xa5, 0xfa, 0x2a, 0xb1, 0x75, 0x50, 0x39, 0x5c, 0xe6, 0xdc,
    0x89, 0xfc, 0xcf, 0xfe, 0xf9, 0x57, 0x54, 0x64, 0xa8, 0xee, 0x23, 0x0b, 0xf1, 0xea, 0xfd, 0xdb,
    0xbd, 0x09, 0xb5, 0x5b, 0x05, 0x86, 0x13, 0xf3, 0x24, 0xc5, 0x3f, 0x44, 0x72, 0x7c, 0x7e, 0x36]

/-- The loop that replaces `length` bytes from `start` on by what a table says. -/
def substitute {size : Nat} (lut : List (BitVec 8)) (data : Bytes size) (start length : Nat) : Bytes size :=
  (List.range length).foldl (fun data i =>
    data.setIfInBounds (start + i) (lut.getD (byteAt data (start + i)).toNat 0)) data

def protocolGallagherScramble {size : Nat} (data : Bytes size) (start length : Nat) : Bytes size :=
  substitute scrambleLut data start length

def protocolGallagherDescramble {size : Nat} (data : Bytes size) (start length : Nat) : Bytes size :=
  substitute descrambleLut data start length

variable (protocol : ProtocolGallagher)

def decodedFc (encodedData : Bytes encodedByteFullSize) : BitVec 32 :=
  (((byteAt encodedData 7).setWidth 32 &&& 0x0F#32) <<< 12) ||| ((byteAt encodedData 3).setWidth 32 <<< 4) |||
    (((byteAt encodedData 9).setWidth 32 >>> 4) &&& 0x0F#32)

def decodedCard (encodedData : Bytes encodedByteFullSize) : BitVec 32 :=
  ((byteAt encodedData 2).setWidth 32 <<< 16) ||| (((byteAt encodedData 6).setWidth 32 &&& 0x1F#32) <<< 11) |||
    ((byteAt encodedData 4).setWidth 32 <<< 3) |||
    (((byteAt encodedData 5).setWidth 32 &&& 0xE0#32) >>> 5)

def protocolGallagherDecode : ProtocolGallagher :=
  let encodedData := (bitLibRemoveBitEveryNth protocol.encodedData 16 (9 * 8) 9).2
  let encodedData := protocolGallagherDescramble encodedData 2 8
  -- Region code
  let data := bitLibSetBits protocol.data 0 ((byteAt encodedData 5 &&& 0x1E#8) >>> 1) 4
  -- Issue Level
  let data := bitLibSetBits data 4 (byteAt encodedData 9 &&& 0x0F#8) 4
  -- Facility Code
  let fc := decodedFc encodedData
  let data := data.setIfInBounds 3 (fc.setWidth 8)
  let data := data.setIfInBounds 2 ((fc >>> 8).setWidth 8)
  let data := data.setIfInBounds 1 ((fc >>> 8 >>> 8).setWidth 8)
  -- Card Number
  let card := decodedCard encodedData
  let data := data.setIfInBounds 7 (card.setWidth 8)
  let data := data.setIfInBounds 6 ((card >>> 8).setWidth 8)
  let data := data.setIfInBounds 5 ((card >>> 8 >>> 8).setWidth 8)
  let data := data.setIfInBounds 4 ((card >>> 8 >>> 8 >>> 8).setWidth 8)
  { protocol with encodedData := encodedData, data := data }

def protocolGallagherCanBeDecoded : Bool :=
  if bitLibGetBits16 protocol.encodedData 0 16 ≠ 0b0111111111101010#16 then false
  else if bitLibGetBits16 protocol.encodedData 96 16 ≠ 0b0111111111101010#16 then false
  else
    let checksumArr : Bytes 8 := Vector.ofFn fun i => bitLibGetBits protocol.encodedData (16 + 9 * i.val) 8
    let crc := bitLibGetBits protocol.encodedData (16 + 9 * 8) 8
    let calcCrc := (bitLibCrc8 checksumArr 8 0x7 0x2c false false 0x00).setWidth 8
    if crc ≠ calcCrc then false else true

def protocolGallagherDecoderStart : ProtocolGallagher :=
  { protocol with
    encodedData := Vector.replicate encodedByteFullSize 0
    decoderManchesterState := (manchesterAdvance protocol.decoderManchesterState .reset).2 }

def pushBit (bit : Bool) : ProtocolGallagher :=
  { protocol with encodedData := bitLibPushBit protocol.encodedData encodedByteFullSize bit }

/-- What `protocol_gallagher_decoder_feed` does with one bit of the Manchester decoder. -/
def feedBit (bit : Bool) : Bool × ProtocolGallagher :=
  if protocolGallagherCanBeDecoded (pushBit protocol bit) then
    (true, protocolGallagherDecode (pushBit protocol bit))
  else (false, pushBit protocol bit)

/-- The fields as `protocol_gallagher_encoder_start` reads them. -/
def regionCode (data : Bytes decodedDataSize) : BitVec 8 := bitLibGetBits data 0 4
def issueLevel (data : Bytes decodedDataSize) : BitVec 8 := bitLibGetBits data 4 4
def facilityCode (data : Bytes decodedDataSize) : BitVec 32 := bitLibGetBits32 data 8 24
def cardNumber (data : Bytes decodedDataSize) : BitVec 32 := bitLibGetBits32 data 32 32

/-- The bytes of the payload before they are scrambled. -/
def fieldBytes (rc il : BitVec 8) (fc cn : BitVec 32) : Bytes 8 :=
  #v[((cn &&& 0xffffff#32) >>> 16).setWidth 8, ((fc &&& 0xfff#32) >>> 4).setWidth 8,
    ((cn &&& 0x7ff#32) >>> 3).setWidth 8,
    (((cn &&& 0x7#32) <<< 5) ||| ((rc.setWidth 32 &&& 0xf#32) <<< 1)).setWidth 8,
    ((cn &&& 0xffff#32) >>> 11).setWidth 8,
    ((fc &&& 0xffff#32) >>> 12).setWidth 8,
    0#8,
    (((fc &&& 0xf#32) <<< 4) ||| (il.setWidth 32 &&& 0xf#32)).setWidth 8]

def payload (data : Bytes decodedDataSize) : Bytes 8 :=
  protocolGallagherScramble
    (fieldBytes (regionCode data) (issueLevel data) (facilityCode data) (cardNumber data)) 0 8

def encodeByte (payload : Bytes 8) (encodedData : Bytes encodedByteFullSize) (i : Nat) :
    Bytes encodedByteFullSize :=
  let encodedData := bitLibSetBits encodedData (16 + i * 9) (byteAt payload i) 8
  -- every byte is followed by a bit which is the inverse of the last bit
  bitLibSetBit encodedData (16 + i * 9 + 8) (byteAt payload i &&& 0x1#8 = 0#8)

/-- The frame `protocol_gallagher_encoder_start` writes over what the array held. -/
def encode (data : Bytes decodedDataSize) (encodedData : Bytes encodedByteFullSize) :
    Bytes encodedByteFullSize :=
  let encodedData := bitLibSetBits encodedData 0 0b01111111#8 8
  let encodedData := bitLibSetBits encodedData 8 0b11101010#8 8
  let payload := payload data
  let encodedData := (List.range 8).foldl (encodeByte payload) encodedData
  let crc := (bitLibCrc8 payload 8 0x7 0x2c false false 0x00).setWidth 8
  bitLibSetBits encodedData (16 + 9 * 8) crc 8

def protocolGallagherEncoderStart : ProtocolGallagher :=
  { protocol with encodedData := encode protocol.data protocol.encodedData }

/-- The level and duration of one half bit, and the encoder after it. -/
def protocolGallagherEncoderYield : (Bool × Nat) × ProtocolGallagher :=
  let level := bitLibGetBit protocol.encodedData protocol.encodedDataIndex
  let duration := clockPerBit / 2
  if protocol.encodedPolarity then ((level, duration), { protocol with encodedPolarity := false })
  else
    ((!level, duration), { protocol with
      encodedPolarity := true
      encodedDataIndex := (protocol.encodedDataIndex + 1) % encodedBitSize })

theorem descramble_scramble (byte : BitVec 8) :
    descrambleLut.getD (scrambleLut.getD byte.toNat 0).toNat 0 = byte := by
  have all : ∀ byte : BitVec 8, descrambleLut.getD (scrambleLut.getD byte.toNat 0).toNat 0 = byte := by
    decide +kernel
  exact all byte

theorem byteAt_substitute {size : Nat} (lut : List (BitVec 8)) (data : Bytes size) {start length : Nat}
    (inside : start + length ≤ size) (index : Nat) :
    byteAt (substitute lut data start length) index =
      if start ≤ index ∧ index < start + length then lut.getD (byteAt data index).toNat 0
      else byteAt data index := by
  unfold substitute
  induction length generalizing index with
  | zero => rw [List.range_zero, List.foldl_nil, if_neg (by omega)]
  | succ length ih =>
    have before := ih (by omega)
    have untouched : ¬ (start ≤ start + length ∧ start + length < start + length) := by omega
    rw [List.range_succ, List.foldl_append, List.foldl_cons, List.foldl_nil,
      byteAt_setIfInBounds _ (by omega), before index, before (start + length), if_neg untouched]
    by_cases last : index = start + length
    · rw [if_pos last, if_pos (by omega), last]
    · rw [if_neg last]
      by_cases earlier : start ≤ index ∧ index < start + length
      · rw [if_pos earlier, if_pos (by omega)]
      · rw [if_neg earlier, if_neg (by omega)]

end Xtreme.LfRfid.Gallagher
