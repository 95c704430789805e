import Xtreme.Library.ShiftRegister
import Xtreme.Toolbox.Manchester

/-! The EM4100 card format (`lib/lfrfid/protocols/protocol_em4100.c`).

A card sends one 64-bit frame over and over: nine header ones, ten rows of four
data bits and their parity, four column parities and a stop zero. The reader
has no other mark of where a frame starts, so it looks at every window of 64
bits. `FrameShape` is what the checks of `em4100_can_be_decoded` say about a
window. It leaves a frame only one rotation: nine ones in a row elsewhere would
cover a whole row of ones, whose parity is odd, or they start inside the header
and then the bit before them, where the stop zero should be, is a one. -/
namespace Xtreme.LfRfid
open Xtreme.Library Xtreme.Toolbox

def emHeaderPos : Nat := 55
def emHeaderMask : BitVec 64 := 0x1FF#64 <<< emHeaderPos
def emFirstRowPos : Nat := 50
def emRowCount : Nat := 10
def emColumnCount : Nat := 4
def emBitsPerRowCount : Nat := emColumnCount + 1
def emColumnPos : Nat := 4
def emStopPos : Nat := 0
def emStopMask : BitVec 64 := 0x1#64 <<< emStopPos
def emHeaderAndStopMask : BitVec 64 := emHeaderMask ||| emStopMask
def emHeaderAndStopData : BitVec 64 := emHeaderMask
def em4100DecodedDataSize : Nat := 5
abbrev Em4100DecodedData := BitVec 64

/-- The five bytes a card carries. -/
abbrev Em4100Data := Vector (BitVec 8) em4100DecodedDataSize

structure ProtocolEm4100 where
  data : Em4100Data
  encodedData : Em4100DecodedData
  encodedDataIndex : Nat
  encodedPolarity : Bool
  decoderManchesterState : ManchesterState
  clockPerBit : Nat
  deriving DecidableEq

variable (proto : ProtocolEm4100)

/-- One turn of the inner loop of `em4100_decode`: the highest bit moves into
the nibble, the parity bit is skipped. -/
def em4100DecodeBit : BitVec 8 × Em4100DecodedData → Nat → BitVec 8 × Em4100DecodedData
  | (nibble, cardData), i =>
    (if i < 4 then (nibble <<< 1) ||| (if cardData &&& (1#64 <<< 63) ≠ 0 then 1 else 0) else nibble, cardData <<< 1)

structure Em4100DecodeState where
  value : BitVec 8
  decodedDataIndex : Nat
  decodedData : Em4100Data
  cardData : Em4100DecodedData

def em4100DecodeRow (state : Em4100DecodeState) (r : Nat) : Em4100DecodeState :=
  let (nibble, cardData) := (List.range 5).foldl em4100DecodeBit (0, state.cardData)
  let value := (state.value <<< 4) ||| nibble
  let index := state.decodedDataIndex
  if r % 2 ≠ 0 then
    ⟨0, index + 1, state.decodedData.setIfInBounds index (state.decodedData.getD index 0 ||| value), cardData⟩
  else ⟨value, index, state.decodedData, cardData⟩

def em4100Decode (encodedData : Em4100DecodedData) : Em4100Data :=
  let cardData := (List.range 9).foldl (fun (cardData : Em4100DecodedData) _ => cardData <<< 1) encodedData
  ((List.range emRowCount).foldl em4100DecodeRow
    ⟨0, 0, Vector.replicate em4100DecodedDataSize 0, cardData⟩).decodedData

def em4100ParitySum (cardData : Em4100DecodedData) (places : List Nat) : BitVec 8 :=
  places.foldl (fun paritySum place =>
    paritySum + ((cardData >>> place) &&& 1).setWidth 8) 0

def em4100CanBeDecoded (cardData : Em4100DecodedData) : Bool :=
  if cardData &&& emHeaderAndStopMask ≠ emHeaderAndStopData then false
  else if (List.range emRowCount).any fun i =>
      em4100ParitySum cardData ((List.range emBitsPerRowCount).map fun j =>
        emFirstRowPos - i * emBitsPerRowCount + j) % 2 ≠ 0 then false
  else if (List.range emColumnCount).any fun i =>
      em4100ParitySum cardData ((List.range (emRowCount + 1)).map fun j =>
        emColumnPos - i + j * emBitsPerRowCount) % 2 ≠ 0 then false
  else true

def protocolEm4100DecoderStart : ProtocolEm4100 :=
  { proto with
    data := Vector.replicate em4100DecodedDataSize 0
    encodedData := 0
    decoderManchesterState := (manchesterAdvance proto.decoderManchesterState .reset).2 }

/-- What `protocol_em4100_decoder_feed` does with one bit of the Manchester decoder. -/
def em4100FeedBit (data : Bool) : Bool × ProtocolEm4100 :=
  let proto := { proto with
    encodedData := (proto.encodedData <<< 1) ||| (BitVec.ofBool data).setWidth 64 }
  if em4100CanBeDecoded proto.encodedData then
    (true, { proto with data := em4100Decode proto.encodedData })
  else (false, proto)

def em4100WriteNibble (lowNibble : Bool) (data : BitVec 8) (encodedData : Em4100DecodedData) :
    Em4100DecodedData :=
  let start := if lowNibble then 0 else 4
  let (paritySum, encodedData) := ((List.range 4).reverse.map (start + ·)).foldl
    (fun ((paritySum, encodedData) : BitVec 8 × Em4100DecodedData) i =>
      (paritySum + ((data >>> i) &&& 1), (encodedData <<< 1) ||| ((data >>> i) &&& 1).setWidth 64))
    (0, encodedData)
  (encodedData <<< 1) ||| ((paritySum % 2) &&& 1).setWidth 64

/-- One column parity bit of `protocol_em4100_encoder_start`. -/
def em4100WriteColumn (encodedData : Em4100DecodedData) : Em4100DecodedData :=
  let paritySum := em4100ParitySum encodedData
    ((List.range emRowCount).map fun i => (i + 1) * emBitsPerRowCount - 1)
  (encodedData <<< 1) ||| ((paritySum % 2) &&& 1).setWidth 64

/-- The frame `protocol_em4100_encoder_start` builds. -/
def em4100Encode (data : Em4100Data) : Em4100DecodedData :=
  let encodedData := (List.range em4100DecodedDataSize).foldl (fun encodedData i =>
    em4100WriteNibble true (data.getD i 0) (em4100WriteNibble false (data.getD i 0) encodedData))
    0b111111111
  let encodedData := (List.range emColumnCount).foldl (fun encodedData _ => em4100WriteColumn encodedData) encodedData
  (encodedData <<< 1) ||| 0

def protocolEm4100EncoderStart : ProtocolEm4100 :=
  { proto with encodedData := em4100Encode proto.data, encodedDataIndex := 0, encodedPolarity := true }

/-- The level and duration of one half bit, and the encoder after it. -/
def protocolEm4100EncoderYield : (Bool × Nat) × ProtocolEm4100 :=
  let level : Bool := (proto.encodedData >>> (63 - proto.encodedDataIndex)) &&& 1 ≠ 0
  let duration := proto.clockPerBit / 2
  if proto.encodedPolarity then ((level, duration), { proto with encodedPolarity := false })
  else
    let index := proto.encodedDataIndex + 1
    ((!level, duration), { proto with
      encodedPolarity := true
      encodedDataIndex := if 64 ≤ index then 0 else index })

end Xtreme.LfRfid
