import Xtreme.Infrared.Common

/-! RC5 and RC6, the two Manchester coded infrared protocols. Both carry a
toggle bit that the encoder flips with every message, so that a decoder can
tell a repeat from a key pressed again. -/
namespace Xtreme.Infrared

/-- `reverse`: the bits of a byte in the opposite order. -/
def reverse (value : BitVec 8) : BitVec 8 :=
  (List.range 8).foldl (fun reverseValue i =>
    reverseValue ||| (if value &&& (0x01#8 <<< i) ≠ 0 then 1#8 <<< (7 - i) else 0)) 0

/-- The wrapper around the common encoder that keeps the toggle bit. -/
structure InfraredToggleEncoder where
  commonEncoder : InfraredCommonEncoder
  toggleBit : Bool
  deriving DecidableEq, Repr

def infraredDecoderRc5Interpret (_ : InfraredProtocolTable) (decoder : InfraredCommonDecoder) :
    Bool × InfraredCommonDecoder :=
  -- Manchester inverse: a rising edge is a one
  let data := setByte (setByte decoder.data 0 (~~~(byteAt decoder.data 0))) 1 (~~~(byteAt decoder.data 1))
  let decoder := { decoder with data := data }
  let address : BitVec 32 := (reverse (byteAt data 0) &&& 0x1F).setWidth 32
  let command : BitVec 32 := ((reverse (byteAt data 1) >>> 2) &&& 0x3F).setWidth 32
  let startBit1 : Bool := wordAt data 0 &&& 0x01 ≠ 0
  let startBit2 : Bool := wordAt data 0 &&& 0x02 ≠ 0
  let toggle : Bool := wordAt data 0 &&& 0x04 ≠ 0
  if startBit1 then
    let protocol := if startBit2 then .rc5 else .rc5x
    let message := decoder.message
    let isRepeat :=
      if message.address = address ∧ message.command = command ∧ message.protocol = protocol then
        toggle == decoder.toggle
      else false
    (true, { decoder with toggle := toggle, message := ⟨protocol, address, command, isRepeat⟩ })
  else (false, decoder)

def infraredProtocolRc5 : InfraredCommonProtocolSpec where
  timings := {
    preambleMark := 0
    preambleSpace := 0
    bit1Mark := 888
    bit1Space := 0
    bit0Mark := 0
    bit0Space := 0
    preambleTolerance := 0
    bitTolerance := 120
    silenceTime := 2700 * 10
    minSplitTime := 2700 }
  manchesterStartFromSpace := true
  databitLen := [1 + 1 + 1 + 5 + 6, 0, 0, 0]
  decode := infraredCommonDecodeManchester
  encode := infraredCommonEncodeManchester
  interpret := infraredDecoderRc5Interpret
  decodeRepeat := none
  encodeRepeat := none

def infraredEncoderRc5Reset (encoder : InfraredToggleEncoder) (message : InfraredMessage) :
    InfraredToggleEncoder :=
  let commonEncoder := infraredCommonEncoderReset infraredProtocolRc5 encoder.commonEncoder
  let data := wordAt commonEncoder.data 0 ||| 0x01
  let data := if message.protocol = .rc5 then data ||| 0x02 else data
  let data := data ||| (if encoder.toggleBit then 0x04 else 0)
  let data := data ||| ((reverse (message.address.setWidth 8) >>> 3).setWidth 32 <<< 3)
  let data := data ||| ((reverse (message.command.setWidth 8) >>> 2).setWidth 32 <<< 8)
  let data := setWord commonEncoder.data 0 data
  let data := setByte data 0 (~~~(byteAt data 0))
  let data := setByte data 1 (~~~(byteAt data 1))
  ⟨{ commonEncoder with data := data, bitsToEncode := infraredProtocolRc5.maxLen }, !encoder.toggleBit⟩

def infraredDecoderRc6Interpret (_ : InfraredProtocolTable) (decoder : InfraredCommonDecoder) :
    Bool × InfraredCommonDecoder :=
  let data := wordAt decoder.data 0
  let address : BitVec 32 := (reverse ((data >>> 5).setWidth 8)).setWidth 32
  let command : BitVec 32 := (reverse ((data >>> 13).setWidth 8)).setWidth 32
  let startBit : Bool := data &&& 0x01 ≠ 0
  let toggle : Bool := data &&& 0x10 ≠ 0
  let mode := (data >>> 1) &&& 0x7
  if startBit ∧ mode = 0 then
    let message := decoder.message
    let isRepeat :=
      if message.address = address ∧ message.command = command ∧ message.protocol = .rc6 then
        toggle == decoder.toggle
      else false
    (true, { decoder with toggle := toggle, message := ⟨.rc6, address, command, isRepeat⟩ })
  else (false, decoder)

/-- The fourth bit of RC6, the toggle bit, lasts twice as long as the others and
is decoded apart. -/
def infraredDecoderRc6DecodeManchester (table : InfraredProtocolTable)
    (decoder : InfraredCommonDecoder) (level : Bool) (timing : Nat) :
    InfraredStatus × InfraredCommonDecoder :=
  let bit := table.timings.bit1Mark
  let tolerance := table.timings.bitTolerance
  let singleTiming := matchTiming timing bit tolerance
  let doubleTiming := matchTiming timing (2 * bit) tolerance
  let tripleTiming := matchTiming timing (3 * bit) tolerance
  if decoder.databitCnt = 4 then
    if singleTiming ^^ tripleTiming then
      let toggle := if singleTiming then !level else level
      (.ok, { decoder with
        databitCnt := decoder.databitCnt + 1
        data := setByte decoder.data 0 (byteAt decoder.data 0 ||| ((BitVec.ofBool toggle).setWidth 8 <<< 4)) })
    else (.error, decoder)
  else if decoder.databitCnt = 5 then
    if singleTiming || tripleTiming then
      infraredCommonDecodeManchester table { decoder with switchDetect := false } level
        (if tripleTiming then bit else timing)
    else if doubleTiming then (.ok, decoder)
    else (.error, decoder)
  else infraredCommonDecodeManchester table decoder level timing

def infraredEncoderRc6EncodeManchester (table : InfraredProtocolTable)
    (encoder : InfraredCommonEncoder) : Encoded InfraredCommonEncoder :=
  let out := infraredCommonEncodeManchester table encoder
  if encoder.bitsEncoded = 4 then { out with duration := out.duration * 2 } else out

def infraredProtocolRc6 : InfraredCommonProtocolSpec where
  timings := {
    preambleMark := 2666
    preambleSpace := 889
    bit1Mark := 444
    bit1Space := 0
    bit0Mark := 0
    bit0Space := 0
    preambleTolerance := 200
    bitTolerance := 120
    silenceTime := 2700 * 10
    minSplitTime := 2700 }
  manchesterStartFromSpace := false
  databitLen := [1 + 3 + 1 + 8 + 8, 0, 0, 0]
  decode := infraredDecoderRc6DecodeManchester
  encode := infraredEncoderRc6EncodeManchester
  interpret := infraredDecoderRc6Interpret
  decodeRepeat := none
  encodeRepeat := none

def infraredEncoderRc6Reset (encoder : InfraredToggleEncoder) (message : InfraredMessage) :
    InfraredToggleEncoder :=
  let commonEncoder := infraredCommonEncoderReset infraredProtocolRc6 encoder.commonEncoder
  let data := wordAt commonEncoder.data 0 ||| 0x01
  let data := data ||| (if encoder.toggleBit then 0x10 else 0)
  let data := data ||| ((reverse (message.address.setWidth 8)).setWidth 32 <<< 5)
  let data := data ||| ((reverse (message.command.setWidth 8)).setWidth 32 <<< 13)
  ⟨{ commonEncoder with
      data := setWord commonEncoder.data 0 data
      bitsToEncode := infraredProtocolRc6.maxLen }, !encoder.toggleBit⟩

end Xtreme.Infrared
