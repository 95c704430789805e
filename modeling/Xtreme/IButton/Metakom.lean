import Xtreme.Library.ShiftRegister

/-! Metakom keys (`protocol_metakom.c`). A key sends its 32 bits over and over behind a long
low level and a start word; a bit is a high and a low level that together last a period, and
the longer one tells which bit. The reader takes the period from the first levels it hears. -/
namespace Xtreme.IButton
open Xtreme.Library ShiftRegister

/-- In cycles, 64 of them in a microsecond. -/
def metakomPeriod : Nat := 125 * 64

/-! The fractions are exact. -/
def metakom0Low : Nat := metakomPeriod * 33 / 100
def metakom0Hi : Nat := metakomPeriod * 66 / 100
def metakom1Low : Nat := metakomPeriod * 66 / 100
def metakom1Hi : Nat := metakomPeriod * 33 / 100

def metakomPeriodSampleCount : Nat := 10

inductive MetakomState
  | waitPeriodSync | waitStartBit | waitStartWord | readWord | readStopWord
  deriving DecidableEq, Repr

inductive MetakomBitState
  | waitFrontHigh | waitFrontLow
  deriving DecidableEq, Repr

structure ProtocolMetakomDecoder where
  /-- High and low period time. -/
  periodTime : Nat
  lowTimeStorage : Nat
  periodSampleIndex : Nat
  periodSampleData : List Nat
  tmpData : BitVec 8
  tmpCounter : Nat
  keyDataIndex : Nat
  bitState : MetakomBitState
  state : MetakomState
  deriving DecidableEq, Repr

structure ProtocolMetakom where
  data : BitVec 32
  decoder : ProtocolMetakomDecoder
  encoderIndex : Nat
  deriving DecidableEq, Repr

def startedDecoder : ProtocolMetakomDecoder :=
  { periodTime := 0, lowTimeStorage := 0, periodSampleIndex := 0,
    periodSampleData := List.replicate metakomPeriodSampleCount 0, tmpData := 0#8, tmpCounter := 0,
    keyDataIndex := 0, bitState := .waitFrontLow, state := .waitPeriodSync }

def protocolMetakomDecoderStart (proto : ProtocolMetakom) : ProtocolMetakom :=
  { proto with data := 0#32, decoder := startedDecoder }

def metakomParityCheck (data : BitVec 8) : Bool := ((List.range 8).countP data.getLsbD) % 2 = 0

/-- The high and the low time, at the end of a low level. -/
def metakomProcessBit (metakom : ProtocolMetakomDecoder) (polarity : Bool) (time : Nat) :
    Option (Nat × Nat) × ProtocolMetakomDecoder :=
  match metakom.bitState, polarity with
  | .waitFrontLow, false => (some (time, metakom.lowTimeStorage), { metakom with bitState := .waitFrontHigh })
  | .waitFrontHigh, true => (none, { metakom with lowTimeStorage := time, bitState := .waitFrontLow })
  | _, _ => (none, metakom)

/-- A counter of eight bits. -/
def next8 (counter : Nat) : Nat := (counter + 1) % 256

def waitPeriodSync (proto : ProtocolMetakom) (highTime lowTime : Nat) : ProtocolMetakom :=
  let metakom := proto.decoder
  let periodSampleData := metakom.periodSampleData.set metakom.periodSampleIndex ((highTime + lowTime) % 2 ^ 32)
  let metakom := { metakom with periodSampleData, periodSampleIndex := next8 metakom.periodSampleIndex }
  if metakom.periodSampleIndex = metakomPeriodSampleCount then
    let periodTime := metakom.periodSampleData.foldl (fun sum sample => (sum + sample) % 2 ^ 32) metakom.periodTime
    { proto with
      decoder := { metakom with periodTime := periodTime / metakomPeriodSampleCount, state := .waitStartBit } }
  else { proto with decoder := metakom }

def waitStartBit (proto : ProtocolMetakom) (highTime : Nat) : ProtocolMetakom :=
  let metakom := { proto.decoder with tmpCounter := next8 proto.decoder.tmpCounter }
  let metakom :=
    if highTime > metakom.periodTime then { metakom with tmpCounter := 0, state := .waitStartWord } else metakom
  let proto := { proto with decoder := metakom }
  if metakom.tmpCounter > 40 then protocolMetakomDecoderStart proto else proto

def readBit (metakom : ProtocolMetakomDecoder) (lowTime : Nat) : ProtocolMetakomDecoder :=
  { metakom with
    tmpData := push metakom.tmpData (!decide (lowTime < metakom.periodTime / 2))
    tmpCounter := next8 metakom.tmpCounter }

def waitStartWord (proto : ProtocolMetakom) (lowTime : Nat) : ProtocolMetakom :=
  let metakom := readBit proto.decoder lowTime
  let proto := { proto with decoder := metakom }
  if metakom.tmpCounter = 3 then
    if metakom.tmpData = 0b010#8 then
      { proto with decoder := { metakom with tmpCounter := 0, tmpData := 0#8, state := .readWord } }
    else protocolMetakomDecoderStart proto
  else proto

def readWord (proto : ProtocolMetakom) (highTime lowTime : Nat) : ProtocolMetakom :=
  let metakom := readBit proto.decoder lowTime
  let proto := { proto with decoder := metakom }
  if metakom.tmpCounter = 8 then
    if metakomParityCheck metakom.tmpData then
      let data := proto.data.shiftLeft 8 ||| metakom.tmpData.setWidth 32
      let metakom := { metakom with keyDataIndex := next8 metakom.keyDataIndex, tmpData := 0#8, tmpCounter := 0 }
      let proto := { proto with data, decoder := metakom }
      if metakom.keyDataIndex = 4 then
        -- the stop bit
        if highTime > metakom.periodTime then { proto with decoder := { metakom with state := .readStopWord } }
        else protocolMetakomDecoderStart proto
      else proto
    else protocolMetakomDecoderStart proto
  else proto

def readStopWord (proto : ProtocolMetakom) (lowTime : Nat) : Bool × ProtocolMetakom :=
  let metakom := readBit proto.decoder lowTime
  let proto := { proto with decoder := metakom }
  if metakom.tmpCounter = 3 then
    if metakom.tmpData = 0b010#8 then (true, proto) else (false, protocolMetakomDecoderStart proto)
  else (false, proto)

/-- What follows in each state when a low level has ended. -/
def processTimes (proto : ProtocolMetakom) (highTime lowTime : Nat) : Bool × ProtocolMetakom :=
  match proto.decoder.state with
  | .waitPeriodSync => (false, waitPeriodSync proto highTime lowTime)
  | .waitStartBit => (false, waitStartBit proto highTime)
  | .waitStartWord => (false, waitStartWord proto lowTime)
  | .readWord => (false, readWord proto highTime lowTime)
  | .readStopWord => readStopWord proto lowTime

/-- Every state begins with `metakom_process_bit`, and does nothing without a result. -/
def protocolMetakomDecoderFeed (proto : ProtocolMetakom) (level : Bool) (duration : Nat) : Bool × ProtocolMetakom :=
  match metakomProcessBit proto.decoder level duration with
  | (none, metakom) => (false, { proto with decoder := metakom })
  | (some (highTime, lowTime), metakom) => processTimes { proto with decoder := metakom } highTime lowTime

/-- A level and how long it lasts. -/
abbrev LevelDuration := Bool × Nat

def protocolMetakomEncoderStart (proto : ProtocolMetakom) : ProtocolMetakom := { proto with encoderIndex := 0 }

def protocolMetakomEncoderYield (proto : ProtocolMetakom) : LevelDuration × ProtocolMetakom :=
  let index := proto.encoderIndex
  let result : LevelDuration :=
    match index with
    -- sync bit
    | 0 => (false, metakomPeriod)
    -- start word (0b010)
    | 1 => (true, metakom0Low)
    | 2 => (false, metakom0Hi)
    | 3 => (true, metakom1Low)
    | 4 => (false, metakom1Hi)
    | 5 => (true, metakom0Low)
    | 6 => (false, metakom0Hi)
    | _ =>
      let dataStartIndex := index - 7
      let bitValue := proto.data.getLsbD (32 - 1 - dataStartIndex / 2)
      if dataStartIndex % 2 = 0 then (true, if bitValue then metakom1Low else metakom0Low)
      else (false, if bitValue then metakom1Hi else metakom0Hi)
  let encoderIndex := if index + 1 ≥ 1 + 3 * 2 + 32 * 2 then 0 else index + 1
  (result, { proto with encoderIndex })

def sendLevels : (count : Nat) → ProtocolMetakom → List LevelDuration
  | 0, _ => []
  | count + 1, proto =>
    let (level, proto) := protocolMetakomEncoderYield proto
    level :: sendLevels count proto

/-- The levels that have ended in some signal that begins with `level`: adjacent equal
levels are one. -/
def endedLevels (level : LevelDuration) : List LevelDuration → List LevelDuration
  | [] => []
  | next :: signal =>
    if next.1 = level.1 then endedLevels (level.1, level.2 + next.2) signal else level :: endedLevels next signal

def heardLevels (missed : Nat) : List LevelDuration → List LevelDuration
  | [] => []
  | (level, duration) :: signal => endedLevels (level, duration - missed) signal

def firstReport (reader : ProtocolMetakom) : List LevelDuration → Option (BitVec 32)
  | [] => none
  | (level, duration) :: levels =>
    let (ready, reader) := protocolMetakomDecoderFeed reader level duration
    if ready then some reader.data else firstReport reader levels

end Xtreme.IButton
