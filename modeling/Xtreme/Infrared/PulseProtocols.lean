import Xtreme.Infrared.Common

/-! The protocols that code a bit in the length of a pulse or of the pause after
it: NEC, Samsung32, SIRC, Kaseikyo, RCA and Pioneer (the directories of these
names under `lib/infrared/encoder_decoder`). Each has its table, the packing of
a message into the payload (`..._reset`), the way back (`..._interpret`) and,
where it has them, its repeat frames. -/
namespace Xtreme.Infrared

def InfraredCommonDecoder.withMessage (decoder : InfraredCommonDecoder) (protocol : InfraredProtocol)
    (address command : BitVec 32) : InfraredCommonDecoder :=
  { decoder with message := ⟨protocol, address, command, false⟩ }

def infraredNecRepeatPeriod : Nat := 110000
def infraredNecRepeatMark : Nat := 9000
def infraredNecRepeatSpace : Nat := 2250
def infraredNecRepeatPauseMin : Nat := 4000
def infraredNecRepeatPauseMax : Nat := 150000
def infraredNecBit1Mark : Nat := 560

def infraredDecoderNecInterpret (_ : InfraredProtocolTable) (decoder : InfraredCommonDecoder) :
    Bool × InfraredCommonDecoder :=
  let data := decoder.data
  if decoder.databitCnt = 32 then
    let address := byteAt data 0
    let addressInverse := byteAt data 1
    let command := byteAt data 2
    let commandInverse := byteAt data 3
    if command = ~~~commandInverse ∧ address = ~~~addressInverse then
      (true, decoder.withMessage .nec (address.setWidth 32) (command.setWidth 32))
    else
      (true, decoder.withMessage .necExt ((byteAt data 0).setWidth 32 ||| ((byteAt data 1).setWidth 32 <<< 8))
        ((byteAt data 2).setWidth 32 ||| ((byteAt data 3).setWidth 32 <<< 8)))
  else if decoder.databitCnt = 42 then
    let data1 := wordAt data 0
    let data2 := (wordAt data 1).setWidth 16
    let address := (data1 &&& 0x1FFF).setWidth 16
    let addressInverse := ((data1 >>> 13) &&& 0x1FFF).setWidth 16
    let command := ((data1 >>> 26) &&& 0x3F).setWidth 16 ||| ((data2 &&& 0x3) <<< 6)
    let commandInverse := (data2 >>> 2) &&& 0xFF
    if address = (~~~addressInverse &&& 0x1FFF) ∧ command = (~~~commandInverse &&& 0xFF) then
      (true, decoder.withMessage .nec42 (address.setWidth 32) (command.setWidth 32))
    else
      (true, decoder.withMessage .nec42Ext (address.setWidth 32 ||| (addressInverse.setWidth 32 <<< 13))
        (command.setWidth 32 ||| (commandInverse.setWidth 32 <<< 8)))
  else (false, decoder)

/-- The timings start from the space between message and repeat. -/
def infraredDecoderNecDecodeRepeat (table : InfraredProtocolTable) (decoder : InfraredCommonDecoder) :
    InfraredStatus × InfraredCommonDecoder :=
  match decoder.timings with
  | pause :: mark :: space :: stop :: _ =>
    if infraredNecRepeatPauseMin < pause ∧ pause < infraredNecRepeatPauseMax ∧
        matchTiming mark infraredNecRepeatMark table.timings.preambleTolerance ∧
        matchTiming space infraredNecRepeatSpace table.timings.preambleTolerance ∧
        matchTiming stop table.timings.bit1Mark table.timings.bitTolerance then
      (.ready, { decoder with timings := [] })
    else (.error, decoder)
  | _ => (.ok, decoder)

/-- `repeat_timings` of the NEC encoder. -/
def necRepeatTimings : List Nat :=
  [infraredNecRepeatPeriod - infraredNecRepeatMark - infraredNecRepeatSpace - infraredNecBit1Mark,
    infraredNecRepeatMark, infraredNecRepeatSpace, infraredNecBit1Mark]

/-- The part NEC and Samsung32 share: a repeat frame from its table of timings.
`upToRepeat` timings were encoded before the first one. -/
def encodeRepeatTimings (repeatTimings : List Nat) (upToRepeat firstDuration : Nat)
    (encoder : InfraredCommonEncoder) : Encoded InfraredCommonEncoder :=
  let repeatCnt := u32 ((encoder.timingsEncoded : Int) - upToRepeat)
  let duration :=
    if 0 < repeatCnt then repeatTimings.getD (repeatCnt % repeatTimings.length) 0 else firstDuration
  let done := u32 (repeatCnt + 1) % repeatTimings.length = 0
  ⟨if done then .done else .ok, duration, repeatCnt % 2 = 1,
    { encoder with timingsEncoded := u32 (encoder.timingsEncoded + 1) }⟩

def infraredEncoderNecEncodeRepeat (_ : InfraredProtocolTable) (encoder : InfraredCommonEncoder) :
    Encoded InfraredCommonEncoder :=
  -- space, two preamble timings, payload and stop bit
  encodeRepeatTimings necRepeatTimings (1 + 2 + encoder.bitsToEncode * 2 + 1)
    (u32 ((infraredNecRepeatPeriod : Int) - encoder.timingsSum)) encoder

def infraredProtocolNec : InfraredCommonProtocolSpec where
  timings := {
    preambleMark := 9000
    preambleSpace := 4500
    bit1Mark := infraredNecBit1Mark
    bit1Space := 1690
    bit0Mark := 560
    bit0Space := 560
    preambleTolerance := 200
    bitTolerance := 120
    silenceTime := infraredNecRepeatPeriod
    minSplitTime := infraredNecRepeatPauseMin }
  manchesterStartFromSpace := false
  databitLen := [42, 32, 0, 0]
  decode := infraredCommonDecodePdwm
  encode := infraredCommonEncodePdwm
  interpret := infraredDecoderNecInterpret
  decodeRepeat := some infraredDecoderNecDecodeRepeat
  encodeRepeat := some infraredEncoderNecEncodeRepeat

/-- `none` is `furi_crash`. -/
def infraredEncoderNecReset (encoder : InfraredCommonEncoder) (message : InfraredMessage) :
    Option InfraredCommonEncoder :=
  let encoder := infraredCommonEncoderReset infraredProtocolNec encoder
  match message.protocol with
  | .nec =>
    let address : BitVec 8 := message.address.setWidth 8
    let addressInverse := ~~~address
    let command : BitVec 8 := message.command.setWidth 8
    let commandInverse := ~~~command
    let data1 := address.setWidth 32 ||| (addressInverse.setWidth 32 <<< 8) |||
      (command.setWidth 32 <<< 16) ||| (commandInverse.setWidth 32 <<< 24)
    some { encoder with data := setWord encoder.data 0 data1, bitsToEncode := 32 }
  | .necExt =>
    let address : BitVec 16 := message.address.setWidth 16
    let data1 := address.setWidth 32 ||| ((message.command &&& 0xFFFF) <<< 16)
    some { encoder with data := setWord encoder.data 0 data1, bitsToEncode := 32 }
  | .nec42 =>
    let data1 := (message.address &&& 0x1FFF) ||| ((~~~message.address &&& 0x1FFF) <<< 13) |||
      ((message.command &&& 0x3F) <<< 26)
    let data2 := ((message.command &&& 0xC0) >>> 6) ||| ((~~~message.command &&& 0xFF) <<< 2)
    some { encoder with data := setWord (setWord encoder.data 0 data1) 1 data2, bitsToEncode := 42 }
  | .nec42Ext =>
    let data1 := (message.address &&& 0x3FFFFFF) ||| ((message.command &&& 0x3F) <<< 26)
    let data2 := (message.command &&& 0xFFC0) >>> 6
    some { encoder with data := setWord (setWord encoder.data 0 data1) 1 data2, bitsToEncode := 42 }
  | _ => none

def infraredSamsungRepeatPauseMin : Nat := 30000
def infraredSamsungRepeatPauseMax : Nat := 140000
def infraredSamsungRepeatPause1 : Nat := 46000
def infraredSamsungRepeatPause2 : Nat := 97000
def infraredSamsungRepeatMark : Nat := 4500
def infraredSamsungRepeatSpace : Nat := 4500
def infraredSamsungBit1Mark : Nat := 550
def infraredSamsungBit1Space : Nat := 1650

def infraredDecoderSamsung32Interpret (_ : InfraredProtocolTable) (decoder : InfraredCommonDecoder) :
    Bool × InfraredCommonDecoder :=
  let address1 := byteAt decoder.data 0
  let address2 := byteAt decoder.data 1
  let command := byteAt decoder.data 2
  let commandInverse := byteAt decoder.data 3
  if address1 = address2 ∧ command = ~~~commandInverse then
    (true, decoder.withMessage .samsung32 (address1.setWidth 32) (command.setWidth 32))
  else (false, decoder)

/-- The timings start from the space between message and repeat. -/
def infraredDecoderSamsung32DecodeRepeat (table : InfraredProtocolTable)
    (decoder : InfraredCommonDecoder) : InfraredStatus × InfraredCommonDecoder :=
  match decoder.timings with
  | pause :: mark :: space :: bitMark :: bitSpace :: stop :: _ =>
    if infraredSamsungRepeatPauseMin < pause ∧ pause < infraredSamsungRepeatPauseMax ∧
        matchTiming mark infraredSamsungRepeatMark table.timings.preambleTolerance ∧
        matchTiming space infraredSamsungRepeatSpace table.timings.preambleTolerance ∧
        matchTiming bitMark table.timings.bit1Mark table.timings.bitTolerance ∧
        matchTiming bitSpace table.timings.bit1Space table.timings.bitTolerance ∧
        matchTiming stop table.timings.bit1Mark table.timings.bitTolerance then
      (.ready, { decoder with timings := [] })
    else (.error, decoder)
  | _ => (.ok, decoder)

/-- `repeat_timings` of the Samsung32 encoder. -/
def samsungRepeatTimings : List Nat :=
  [infraredSamsungRepeatPause2, infraredSamsungRepeatMark, infraredSamsungRepeatSpace,
    infraredSamsungBit1Mark, infraredSamsungBit1Space, infraredSamsungBit1Mark]

def infraredEncoderSamsung32EncodeRepeat (_ : InfraredProtocolTable)
    (encoder : InfraredCommonEncoder) : Encoded InfraredCommonEncoder :=
  encodeRepeatTimings samsungRepeatTimings (1 + 2 + encoder.bitsEncoded * 2 + 1) infraredSamsungRepeatPause1 encoder

def infraredProtocolSamsung32 : InfraredCommonProtocolSpec where
  timings := {
    preambleMark := 4500
    preambleSpace := 4500
    bit1Mark := infraredSamsungBit1Mark
    bit1Space := infraredSamsungBit1Space
    bit0Mark := 550
    bit0Space := 550
    preambleTolerance := 200
    bitTolerance := 120
    silenceTime := 145000
    minSplitTime := 5000 }
  manchesterStartFromSpace := false
  databitLen := [32, 0, 0, 0]
  decode := infraredCommonDecodePdwm
  encode := infraredCommonEncodePdwm
  interpret := infraredDecoderSamsung32Interpret
  decodeRepeat := some infraredDecoderSamsung32DecodeRepeat
  encodeRepeat := some infraredEncoderSamsung32EncodeRepeat

def infraredEncoderSamsung32Reset (encoder : InfraredCommonEncoder) (message : InfraredMessage) :
    InfraredCommonEncoder :=
  let encoder := infraredCommonEncoderReset infraredProtocolSamsung32 encoder
  let address : BitVec 8 := message.address.setWidth 8
  let command : BitVec 8 := message.command.setWidth 8
  let commandInverse := ~~~command
  let data := wordAt encoder.data 0 ||| address.setWidth 32 ||| (address.setWidth 32 <<< 8) |||
    (command.setWidth 32 <<< 16) ||| (commandInverse.setWidth 32 <<< 24)
  { encoder with
    data := setWord encoder.data 0 data
    bitsToEncode := infraredProtocolSamsung32.maxLen }

def infraredSircSilence : Nat := 10000
def infraredSircMinSplitTime : Nat := infraredSircSilence - 1000
def infraredSircRepeatPeriod : Nat := 45000

def infraredDecoderSircInterpret (_ : InfraredProtocolTable) (decoder : InfraredCommonDecoder) :
    Bool × InfraredCommonDecoder :=
  let data := wordAt decoder.data 0
  let command : BitVec 8 := (data &&& 0x7F).setWidth 8
  let understood (protocol : InfraredProtocol) (address : BitVec 16) :=
    (true, decoder.withMessage protocol (address.setWidth 32) (command.setWidth 32))
  if decoder.databitCnt = 12 then understood .sirc (((data >>> 7) &&& 0x1F).setWidth 16)
  else if decoder.databitCnt = 15 then understood .sirc15 (((data >>> 7) &&& 0xFF).setWidth 16)
  else if decoder.databitCnt = 20 then understood .sirc20 (((data >>> 7) &&& 0x1FFF).setWidth 16)
  else (false, decoder)

/-- The pause before the next frame, which then starts from its preamble. -/
def restartFrame (encoder : InfraredCommonEncoder) : InfraredCommonEncoder :=
  { encoder with
    timingsSum := 0
    timingsEncoded := 1
    bitsEncoded := 0
    state := .preamble }

def infraredEncoderSircEncodeRepeat (_ : InfraredProtocolTable) (encoder : InfraredCommonEncoder) :
    Encoded InfraredCommonEncoder :=
  ⟨.ok, u32 ((infraredSircRepeatPeriod : Int) - encoder.timingsSum), false, restartFrame encoder⟩

def infraredProtocolSirc : InfraredCommonProtocolSpec where
  timings := {
    preambleMark := 2400
    preambleSpace := 600
    bit1Mark := 1200
    bit1Space := 600
    bit0Mark := 600
    bit0Space := 600
    preambleTolerance := 200
    bitTolerance := 120
    silenceTime := infraredSircSilence
    minSplitTime := infraredSircMinSplitTime }
  manchesterStartFromSpace := false
  databitLen := [20, 15, 12, 0]
  decode := infraredCommonDecodePdwm
  encode := infraredCommonEncodePdwm
  interpret := infraredDecoderSircInterpret
  decodeRepeat := none
  encodeRepeat := some infraredEncoderSircEncodeRepeat

/-- `none` is `furi_crash`. -/
def infraredEncoderSircReset (encoder : InfraredCommonEncoder) (message : InfraredMessage) :
    Option InfraredCommonEncoder :=
  let encoder := infraredCommonEncoderReset infraredProtocolSirc encoder
  let packed (addressMask : BitVec 32) (bitsToEncode : Nat) :=
    let data := (message.command &&& 0x7F) ||| ((message.address &&& addressMask) <<< 7)
    some { encoder with data := setWord encoder.data 0 data, bitsToEncode := bitsToEncode }
  match message.protocol with
  | .sirc => packed 0x1F 12
  | .sirc15 => packed 0xFF 15
  | .sirc20 => packed 0x1FFF 20
  | _ => none

/-- The wrapper SIRC and Pioneer put around `infrared_common_encode`: the frame
is done when its last bit is out, whether a mark or a space ends it. -/
def encodeUntilLastBit (spec : InfraredCommonProtocolSpec) (encoder : InfraredCommonEncoder) :
    Encoded InfraredCommonEncoder :=
  let out := infraredCommonEncode spec encoder
  if out.status = .ok ∧ out.encoder.bitsEncoded = out.encoder.bitsToEncode then
    { out with status := .done, encoder := { out.encoder with state := .encodeRepeat } }
  else out

def infraredEncoderSircEncode : InfraredCommonEncoder → Encoded InfraredCommonEncoder :=
  encodeUntilLastBit infraredProtocolSirc

def infraredKaseikyoUnit : Nat := 432

def infraredDecoderKaseikyoInterpret (_ : InfraredProtocolTable) (decoder : InfraredCommonDecoder) :
    Bool × InfraredCommonDecoder :=
  let data := byteAt decoder.data
  let vendorId : BitVec 16 := ((data 1).setWidth 16 <<< 8) ||| (data 0).setWidth 16
  let vendorParity := data 2 &&& 0x0F
  let genre1 := data 2 >>> 4
  let genre2 := data 3 &&& 0x0F
  let command : BitVec 16 := (data 3 >>> 4).setWidth 16 ||| ((data 4 &&& 0x3F).setWidth 16 <<< 4)
  let id := data 4 >>> 6
  let parity := data 5
  let vendorXor := data 0 ^^^ data 1
  let vendorParityCheck := (vendorXor &&& 0xF) ^^^ (vendorXor >>> 4)
  let parityCheck := data 2 ^^^ data 3 ^^^ data 4
  if vendorParity = vendorParityCheck ∧ parity = parityCheck then
    (true, decoder.withMessage .kaseikyo
      ((id.setWidth 32 <<< 24) ||| (vendorId.setWidth 32 <<< 8) ||| (genre1.setWidth 32 <<< 4) |||
        genre2.setWidth 32)
      (command.setWidth 32))
  else (false, decoder)

def infraredProtocolKaseikyo : InfraredCommonProtocolSpec where
  timings := {
    preambleMark := 8 * infraredKaseikyoUnit
    preambleSpace := 4 * infraredKaseikyoUnit
    bit1Mark := infraredKaseikyoUnit
    bit1Space := 3 * infraredKaseikyoUnit
    bit0Mark := infraredKaseikyoUnit
    bit0Space := infraredKaseikyoUnit
    preambleTolerance := 200
    bitTolerance := 120
    silenceTime := 130000
    minSplitTime := 4000 }
  manchesterStartFromSpace := false
  databitLen := [48, 0, 0, 0]
  decode := infraredCommonDecodePdwm
  encode := infraredCommonEncodePdwm
  interpret := infraredDecoderKaseikyoInterpret
  decodeRepeat := none
  encodeRepeat := none

def infraredEncoderKaseikyoReset (encoder : InfraredCommonEncoder) (message : InfraredMessage) :
    InfraredCommonEncoder :=
  let encoder := infraredCommonEncoderReset infraredProtocolKaseikyo encoder
  let address := message.address
  let command : BitVec 16 := message.command.setWidth 16
  let id : BitVec 8 := ((address >>> 24) &&& 3).setWidth 8
  let vendorId : BitVec 16 := ((address >>> 8) &&& 0xFFFF).setWidth 16
  let genre1 : BitVec 8 := ((address >>> 4) &&& 0xF).setWidth 8
  let genre2 : BitVec 8 := (address &&& 0xF).setWidth 8
  let data0 : BitVec 8 := (vendorId &&& 0xFF).setWidth 8
  let data1 : BitVec 8 := (vendorId >>> 8).setWidth 8
  let vendorXor := data0 ^^^ data1
  let vendorParity := (vendorXor &&& 0xF) ^^^ (vendorXor >>> 4)
  let data2 := (vendorParity &&& 0xF) ||| (genre1 <<< 4)
  let data3 := (genre2 &&& 0xF) ||| ((command &&& 0xF).setWidth 8 <<< 4)
  let data4 := (id <<< 6) ||| (command >>> 4).setWidth 8
  let data5 := data2 ^^^ data3 ^^^ data4
  { encoder with
    data := setByte (setByte (setByte (setByte (setByte (setByte encoder.data 0 data0) 1 data1)
      2 data2) 3 data3) 4 data4) 5 data5
    bitsToEncode := infraredProtocolKaseikyo.maxLen }

def infraredDecoderRcaInterpret (_ : InfraredProtocolTable) (decoder : InfraredCommonDecoder) :
    Bool × InfraredCommonDecoder :=
  let data := wordAt decoder.data 0
  let address : BitVec 8 := (data &&& 0xF).setWidth 8
  let command : BitVec 8 := ((data >>> 4) &&& 0xFF).setWidth 8
  let addressInverse : BitVec 8 := ((data >>> 12) &&& 0xF).setWidth 8
  let commandInverse : BitVec 8 := ((data >>> 16) &&& 0xFF).setWidth 8
  if command = ~~~commandInverse ∧ address = (~~~addressInverse &&& 0xF) then
    (true, decoder.withMessage .rca (address.setWidth 32) (command.setWidth 32))
  else (false, decoder)

def infraredProtocolRca : InfraredCommonProtocolSpec where
  timings := {
    preambleMark := 4000
    preambleSpace := 4000
    bit1Mark := 500
    bit1Space := 2000
    bit0Mark := 500
    bit0Space := 1000
    preambleTolerance := 200
    bitTolerance := 120
    silenceTime := 8000
    minSplitTime := 4000 }
  manchesterStartFromSpace := false
  databitLen := [24, 0, 0, 0]
  decode := infraredCommonDecodePdwm
  encode := infraredCommonEncodePdwm
  interpret := infraredDecoderRcaInterpret
  decodeRepeat := none
  encodeRepeat := none

def infraredEncoderRcaReset (encoder : InfraredCommonEncoder) (message : InfraredMessage) :
    InfraredCommonEncoder :=
  let encoder := infraredCommonEncoderReset infraredProtocolRca encoder
  let address : BitVec 8 := message.address.setWidth 8
  let addressInverse := ~~~address
  let command : BitVec 8 := message.command.setWidth 8
  let commandInverse := ~~~command
  let data := (address &&& 0xF).setWidth 32 ||| (command.setWidth 32 <<< 4) |||
    ((addressInverse &&& 0xF).setWidth 32 <<< 12) ||| (commandInverse.setWidth 32 <<< 16)
  { encoder with
    data := setWord encoder.data 0 data
    bitsToEncode := infraredProtocolRca.maxLen }

def infraredPioneerSilence : Nat := 26000

def infraredDecoderPioneerInterpret (table : InfraredProtocolTable) (decoder : InfraredCommonDecoder) :
    Bool × InfraredCommonDecoder :=
  if decoder.databitCnt = table.databitLen.getD 0 0 ∨ decoder.databitCnt = table.databitLen.getD 1 0 then
    let data := wordAt decoder.data 0
    let address : BitVec 8 := (data &&& 0xFF).setWidth 8
    let addressChecksum : BitVec 8 := ((data >>> 8) &&& 0xFF).setWidth 8
    let command : BitVec 8 := ((data >>> 16) &&& 0xFF).setWidth 8
    let commandChecksum : BitVec 8 := ((data >>> 24) &&& 0xFF).setWidth 8
    if addressChecksum ≠ ~~~address then (false, decoder)
    else if commandChecksum ≠ ~~~command then (false, decoder)
    else (true, decoder.withMessage .pioneer (address.setWidth 32) (command.setWidth 32))
  else (false, decoder)

def infraredEncoderPioneerEncodeRepeat (_ : InfraredProtocolTable) (encoder : InfraredCommonEncoder) :
    Encoded InfraredCommonEncoder :=
  ⟨.ok, infraredPioneerSilence, false, restartFrame encoder⟩

def infraredProtocolPioneer : InfraredCommonProtocolSpec where
  timings := {
    preambleMark := 8500
    preambleSpace := 4225
    bit1Mark := 500
    bit1Space := 1500
    bit0Mark := 500
    bit0Space := 500
    preambleTolerance := 200
    bitTolerance := 120
    silenceTime := infraredPioneerSilence
    minSplitTime := infraredPioneerSilence }
  manchesterStartFromSpace := false
  databitLen := [33, 32, 0, 0]
  decode := infraredCommonDecodePdwm
  encode := infraredCommonEncodePdwm
  interpret := infraredDecoderPioneerInterpret
  decodeRepeat := none
  encodeRepeat := some infraredEncoderPioneerEncodeRepeat

/-- `none` is `furi_crash`. -/
def infraredEncoderPioneerReset (encoder : InfraredCommonEncoder) (message : InfraredMessage) :
    Option InfraredCommonEncoder :=
  let encoder := infraredCommonEncoderReset infraredProtocolPioneer encoder
  match message.protocol with
  | .pioneer =>
    let address : BitVec 8 := (message.address &&& 0xFF).setWidth 8
    let command : BitVec 8 := (message.command &&& 0xFF).setWidth 8
    some { encoder with
      data := setByte (setByte (setByte (setByte (setByte encoder.data 0 address) 1 (~~~address))
        2 command) 3 (~~~command)) 4 0
      bitsToEncode := infraredProtocolPioneer.maxLen }
  | _ => none

def infraredEncoderPioneerEncode : InfraredCommonEncoder → Encoded InfraredCommonEncoder :=
  encodeUntilLastBit infraredProtocolPioneer

end Xtreme.Infrared
