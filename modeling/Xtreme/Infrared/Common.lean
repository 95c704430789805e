import Mathlib.Algebra.Group.Int.Defs
import Mathlib.Algebra.GroupWithZero.Nat
import Mathlib.Data.List.Basic
import Xtreme.Library.Simulation

/-! The machinery all infrared protocols share (`infrared_i.h` and `common/`
under `lib/infrared/encoder_decoder`): the encoder that turns a payload into
levels and durations, and the decoder that turns them back.

Durations and counters are `Nat`; an unsigned word that can wrap is written
with `u32`. The flexible array `data` is one little-endian word, byte `i` of
the array at bit `8 * i`: no protocol uses more than six of its bytes, and the
sources themselves read and write it through `uint32_t *`. The pending
`timings` are a list with `timings_cnt` its length; storing a seventh one, past
the end of the C array, is a `DecoderFault`, and so is a `furi_check` that
fires. `furi_assert` is compiled out of the firmware and is left out here. -/
namespace Xtreme.Infrared
open Xtreme.Library

/-- An unsigned 32-bit word. -/
def u32 (x : Int) : Nat := (x % 2 ^ 32).toNat

theorem u32_of_range {x : Int} (low : 0 ≤ x) (high : x < 2 ^ 32) : u32 x = x.toNat := by
  rw [u32, Int.emod_eq_of_lt low high]

inductive InfraredProtocol where
  | unknown
  | nec
  | necExt
  | nec42
  | nec42Ext
  | samsung32
  | rc6
  | rc5
  | rc5x
  | sirc
  | sirc15
  | sirc20
  | kaseikyo
  | rca
  | pioneer
  deriving DecidableEq, Repr

/-- The field `repeat` is called `isRepeat`, since the word is taken. -/
structure InfraredMessage where
  protocol : InfraredProtocol
  address : BitVec 32
  command : BitVec 32
  isRepeat : Bool
  deriving DecidableEq, Repr

inductive InfraredStatus where
  | error
  | ok
  | done
  | ready
  deriving DecidableEq, Repr

structure InfraredTimings where
  minSplitTime : Nat
  silenceTime : Nat
  preambleMark : Nat
  preambleSpace : Nat
  bit1Mark : Nat
  bit1Space : Nat
  bit0Mark : Nat
  bit0Space : Nat
  preambleTolerance : Nat
  bitTolerance : Nat

def byteAt (data : BitVec 64) (index : Nat) : BitVec 8 := (data >>> (8 * index)).setWidth 8

def setByte (data : BitVec 64) (index : Nat) (value : BitVec 8) : BitVec 64 :=
  (data &&& ~~~(0xFF#64 <<< (8 * index))) ||| (value.setWidth 64 <<< (8 * index))

def wordAt (data : BitVec 64) (index : Nat) : BitVec 32 := (data >>> (32 * index)).setWidth 32

def setWord (data : BitVec 64) (index : Nat) (value : BitVec 32) : BitVec 64 :=
  (data &&& ~~~(0xFFFFFFFF#64 <<< (32 * index))) ||| (value.setWidth 64 <<< (32 * index))

inductive InfraredCommonStateDecoder where
  | waitPreamble
  | decode
  | processRepeat
  deriving DecidableEq, Repr

inductive InfraredCommonStateEncoder where
  | silence
  | preamble
  | encode
  | encodeRepeat
  deriving DecidableEq, Repr

/-- The decoder without its pointer to the protocol. `toggle` is what `context`
points to in the RC5 and RC6 decoders. -/
structure InfraredCommonDecoder where
  timings : List Nat
  message : InfraredMessage
  state : InfraredCommonStateDecoder
  switchDetect : Bool
  level : Bool
  databitCnt : Nat
  data : BitVec 64
  toggle : Bool
  deriving DecidableEq, Repr

/-- The encoder without its pointer to the protocol. -/
structure InfraredCommonEncoder where
  state : InfraredCommonStateEncoder
  switchDetect : Bool
  bitsToEncode : Nat
  bitsEncoded : Nat
  timingsSum : Nat
  timingsEncoded : Nat
  data : BitVec 64
  deriving DecidableEq, Repr

/-- The entries of `uint32_t timings[6]`. -/
def timingsSize : Nat := 6

/-- What an encoder call leaves in its out parameters, and the next state. -/
structure Encoded (σ : Type) where
  status : InfraredStatus
  duration : Nat
  level : Bool
  encoder : σ
  deriving DecidableEq, Repr

structure InfraredProtocolTable where
  timings : InfraredTimings
  manchesterStartFromSpace : Bool
  databitLen : List Nat

/-- `InfraredCommonProtocolSpec`: its functions reach the data through the
`protocol` pointer of the decoder or encoder they are given. -/
structure InfraredCommonProtocolSpec extends InfraredProtocolTable where
  decode : InfraredProtocolTable → InfraredCommonDecoder → Bool → Nat → InfraredStatus × InfraredCommonDecoder
  decodeRepeat : Option (InfraredProtocolTable → InfraredCommonDecoder → InfraredStatus × InfraredCommonDecoder)
  interpret : InfraredProtocolTable → InfraredCommonDecoder → Bool × InfraredCommonDecoder
  encode : InfraredProtocolTable → InfraredCommonEncoder → Encoded InfraredCommonEncoder
  encodeRepeat : Option (InfraredProtocolTable → InfraredCommonEncoder → Encoded InfraredCommonEncoder)

/-- `databit_len[0]`, the longest payload of the protocol. -/
def InfraredProtocolTable.maxLen (table : InfraredProtocolTable) : Nat := table.databitLen.headD 0

/-- `MATCH_TIMING`: strictly within the tolerance on both sides. -/
def matchTiming (x v delta : Nat) : Bool := x < v + delta && v - delta < x

def payloadBit (encoder : InfraredCommonEncoder) : Bool :=
  (byteAt encoder.data (encoder.bitsEncoded / 8)).getLsbD (encoder.bitsEncoded % 8)

def infraredCommonEncodeManchester (table : InfraredProtocolTable) (encoder : InfraredCommonEncoder) :
    Encoded InfraredCommonEncoder :=
  let logicValue := payloadBit encoder
  let evenTiming := encoder.timingsEncoded % 2 = 0
  let level := evenTiming ^^ logicValue
  let duration := table.timings.bit1Mark
  if evenTiming then
    ⟨.ok, duration, level, { encoder with bitsEncoded := encoder.bitsEncoded + 1 }⟩
  else if level ∧ encoder.bitsEncoded + 1 = encoder.bitsToEncode then
    -- the last space is not encoded
    ⟨.ok, duration, level, { encoder with bitsEncoded := encoder.bitsEncoded + 1 }⟩
  else ⟨.ok, duration, level, encoder⟩

def infraredCommonEncodePdwm (table : InfraredProtocolTable) (encoder : InfraredCommonEncoder) :
    Encoded InfraredCommonEncoder :=
  let timings := table.timings
  let logicValue := payloadBit encoder
  let pwm := timings.bit1Space = timings.bit0Space
  if encoder.timingsEncoded % 2 ≠ 0 then
    ⟨.ok, if logicValue then timings.bit1Mark else timings.bit0Mark, true,
      if pwm then { encoder with bitsEncoded := encoder.bitsEncoded + 1 } else encoder⟩
  else
    ⟨.ok, if logicValue then timings.bit1Space else timings.bit0Space, false,
      if pwm then encoder else { encoder with bitsEncoded := encoder.bitsEncoded + 1 }⟩

variable (spec : InfraredCommonProtocolSpec)

def countTiming (encoder : InfraredCommonEncoder) (duration : Nat) : InfraredCommonEncoder :=
  { encoder with
    timingsEncoded := u32 (encoder.timingsEncoded + 1)
    timingsSum := u32 (encoder.timingsSum + duration) }

def infraredCommonEncodeBits (encoder : InfraredCommonEncoder) : Encoded InfraredCommonEncoder :=
  let out := spec.encode spec.toInfraredProtocolTable encoder
  let encoder := countTiming out.encoder out.duration
  if encoder.bitsEncoded = encoder.bitsToEncode ∧ out.level = true then
    ⟨.done, out.duration, out.level, encoder⟩
  else ⟨out.status, out.duration, out.level, encoder⟩

/-- The `Encode` case of `infrared_common_encode`. -/
def encodeStateEncode (encoder : InfraredCommonEncoder) : Encoded InfraredCommonEncoder :=
  let out := infraredCommonEncodeBits spec encoder
  if out.status = .done then
    if spec.encodeRepeat.isSome then
      { out with encoder := { out.encoder with state := .encodeRepeat } }
    else
      { out with encoder := { out.encoder with
          timingsEncoded := 0
          timingsSum := 0
          bitsEncoded := 0
          switchDetect := false
          state := .silence } }
  else out

def infraredCommonEncode (encoder : InfraredCommonEncoder) : Encoded InfraredCommonEncoder :=
  let timings := spec.timings
  match encoder.state with
  | .silence =>
    ⟨.ok, timings.silenceTime, false,
      { encoder with
        state := .preamble
        timingsEncoded := u32 (encoder.timingsEncoded + 1)
        timingsSum := 0 }⟩
  | .preamble =>
    if timings.preambleMark ≠ 0 then
      if encoder.timingsEncoded = 1 then
        ⟨.ok, timings.preambleMark, true, countTiming encoder timings.preambleMark⟩
      else
        ⟨.ok, timings.preambleSpace, false,
          countTiming { encoder with state := .encode } timings.preambleSpace⟩
    else encodeStateEncode spec { encoder with state := .encode }
  | .encode => encodeStateEncode spec encoder
  | .encodeRepeat =>
    match spec.encodeRepeat with
    | some encodeRepeat => encodeRepeat spec.toInfraredProtocolTable encoder
    -- only reached through `Done`, which needs the function
    | none => ⟨.error, 0, false, encoder⟩

def payloadBytes (table : InfraredProtocolTable) : Nat :=
  let maxDatabitLen := table.databitLen.foldl max 0
  maxDatabitLen / 8 + if maxDatabitLen % 8 = 0 then 0 else 1

def infraredCommonEncoderReset (encoder : InfraredCommonEncoder) : InfraredCommonEncoder :=
  { encoder with
    timingsEncoded := 0
    timingsSum := 0
    bitsEncoded := 0
    state := .silence
    switchDetect := false
    data := (List.range (payloadBytes spec.toInfraredProtocolTable)).foldl
      (fun data index => setByte data index 0) encoder.data }

/-! ## The decoder -/

/-- Why the firmware would stop or write past an array. -/
inductive DecoderFault where
  /-- A timing stored behind the `timings` array. -/
  | timingsOverflow
  /-- `furi_check(databit_cnt <= databit_len[0])`. -/
  | databitCheck
  /-- The loop of `infrared_common_decode` has not come to an end. -/
  | stuck
  deriving DecidableEq, Repr

def accumulateLsb (decoder : InfraredCommonDecoder) (bit : Bool) : InfraredCommonDecoder :=
  let index := decoder.databitCnt / 8
  let shift := decoder.databitCnt % 8
  let data := if shift = 0 then setByte decoder.data index 0 else decoder.data
  { decoder with
    data := if bit then setByte data index (byteAt data index ||| (1#8 <<< shift)) else data
    databitCnt := decoder.databitCnt + 1 }

/-- The level of the oldest of `count` pending timings, the latest of which has
the decoder's level. -/
def oldestLevel (decoder : InfraredCommonDecoder) (count : Nat) : Bool :=
  (decoder.level.toNat + count + 1) % 2 = 1

theorem oldestLevel_succ (decoder : InfraredCommonDecoder) (count : Nat) :
    oldestLevel decoder (count + 1) = !oldestLevel decoder count := by
  unfold oldestLevel
  by_cases odd : (decoder.level.toNat + count + 1) % 2 = 1
  · rw [decide_eq_true odd, decide_eq_false (by omega)]
    rfl
  · rw [decide_eq_false odd, decide_eq_true (by omega)]
    rfl

@[simp] theorem oldestLevel_zero (decoder : InfraredCommonDecoder) :
    oldestLevel decoder 0 = !decoder.level := by
  cases level : decoder.level <;> simp [oldestLevel, level]

@[simp] theorem oldestLevel_one (decoder : InfraredCommonDecoder) :
    oldestLevel decoder 1 = decoder.level := by
  rw [oldestLevel_succ, oldestLevel_zero, Bool.not_not]

theorem oldestLevel_congr {decoder next : InfraredCommonDecoder} (same : next.level = decoder.level)
    (count : Nat) : oldestLevel next count = oldestLevel decoder count := by
  rw [oldestLevel, oldestLevel, same]

/-- The loop of `infrared_check_preamble` over pairs of mark and space. -/
def findPreamble (timings : InfraredTimings) : List Nat → Bool × List Nat
  | mark :: space :: rest =>
    if matchTiming mark timings.preambleMark timings.preambleTolerance ∧
        matchTiming space timings.preambleSpace timings.preambleTolerance then (true, rest)
    else findPreamble timings rest
  | pending => (false, pending)

def infraredCheckPreamble (decoder : InfraredCommonDecoder) : Bool × InfraredCommonDecoder :=
  if decoder.timings = [] then (false, decoder)
  else
    let pending :=
      if oldestLevel decoder decoder.timings.length then decoder.timings else decoder.timings.tail
    if spec.timings.preambleMark = 0 then (true, { decoder with timings := pending })
    else
      let (found, pending) := findPreamble spec.timings pending
      (found, { decoder with timings := pending })

/-- Some length of the protocol is reached. The C loop stops at the first zero. -/
def foundLength (table : InfraredProtocolTable) (databitCnt : Nat) : Bool :=
  (table.databitLen.takeWhile (· ≠ 0)).any (· = databitCnt)

/-- The loop of `infrared_common_decode_bits` over the pending timings. -/
def decodePending (decoder : InfraredCommonDecoder) :
    List Nat → Except DecoderFault (InfraredStatus × InfraredCommonDecoder)
  | [] => .ok (.ok, { decoder with timings := [] })
  | timing :: rest =>
    let timings := spec.timings
    let level := oldestLevel decoder (rest.length + 1)
    let split := timings.minSplitTime ≠ 0 ∧ level = false
    -- a long space: any length of the protocol will do
    if split ∧ timings.minSplitTime < timing ∧ foundLength spec.toInfraredProtocolTable decoder.databitCnt then
      .ok (.ready, { decoder with timings := timing :: rest })
    -- a short space after the longest payload: the signal goes on
    else if split ∧ ¬ timings.minSplitTime < timing ∧ spec.maxLen = decoder.databitCnt then
      .ok (.error, { decoder with timings := timing :: rest })
    else
      let (status, decoder) := spec.decode spec.toInfraredProtocolTable decoder level timing
      if spec.maxLen < decoder.databitCnt then .error .databitCheck
      else if status = .error then .ok (.error, { decoder with timings := timing :: rest })
      else if level = true ∧ spec.maxLen = decoder.databitCnt ∧ timings.minSplitTime = 0 then
        .ok (.ready, { decoder with timings := rest })
      else decodePending decoder rest

def infraredCommonDecodeBits (decoder : InfraredCommonDecoder) :
    Except DecoderFault (InfraredStatus × InfraredCommonDecoder) :=
  decodePending spec decoder decoder.timings

def infraredCommonDecodePdwm (table : InfraredProtocolTable) (decoder : InfraredCommonDecoder)
    (level : Bool) (timing : Nat) : InfraredStatus × InfraredCommonDecoder :=
  let timings := table.timings
  let analyzeTiming := level ^^ decide (timings.bit1Mark = timings.bit0Mark)
  let bit1 := if level then timings.bit1Mark else timings.bit1Space
  let bit0 := if level then timings.bit0Mark else timings.bit0Space
  let noInfoTiming :=
    if timings.bit1Mark = timings.bit0Mark then timings.bit1Mark else timings.bit1Space
  if analyzeTiming then
    if matchTiming timing bit1 timings.bitTolerance then (.ok, accumulateLsb decoder true)
    else if matchTiming timing bit0 timings.bitTolerance then (.ok, accumulateLsb decoder false)
    else (.error, decoder)
  else if matchTiming timing noInfoTiming timings.bitTolerance then (.ok, decoder)
  else (.error, decoder)

def infraredCommonDecodeManchester (table : InfraredProtocolTable) (decoder : InfraredCommonDecoder)
    (level : Bool) (timing : Nat) : InfraredStatus × InfraredCommonDecoder :=
  let bit := table.timings.bit1Mark
  let tolerance := table.timings.bitTolerance
  let singleTiming := matchTiming timing bit tolerance
  let doubleTiming := matchTiming timing (2 * bit) tolerance
  if !singleTiming && !doubleTiming then (.error, decoder)
  else
    let decoder :=
      if table.manchesterStartFromSpace ∧ decoder.databitCnt = 0 then
        accumulateLsb { decoder with switchDetect := true } false
      else decoder
    if decoder.switchDetect = false ∧ doubleTiming then (.error, decoder)
    else
      let switchDetect :=
        if decoder.switchDetect = false then true else if singleTiming then false else true
      let decoder := { decoder with switchDetect := switchDetect }
      if switchDetect then
        if table.maxLen = decoder.databitCnt then (.error, decoder)
        else (.ok, accumulateLsb decoder level)
      else (.ok, decoder)

def infraredCommonDecoderCheckReady (decoder : InfraredCommonDecoder) :
    Bool × InfraredCommonDecoder :=
  if foundLength spec.toInfraredProtocolTable decoder.databitCnt then
    let (interpreted, decoder) := spec.interpret spec.toInfraredProtocolTable decoder
    if interpreted then
      (true, { decoder with
        databitCnt := 0
        state := if spec.decodeRepeat.isSome then .processRepeat else .waitPreamble })
    else (false, decoder)
  else (false, decoder)

def infraredCommonDecoderResetState (decoder : InfraredCommonDecoder) : InfraredCommonDecoder :=
  { decoder with
    state := .waitPreamble
    databitCnt := 0
    switchDetect := false
    message := { decoder.message with protocol := .unknown }
    timings := if spec.timings.preambleMark = 0 then decoder.timings.tail else decoder.timings }

def infraredCommonDecoderReset (decoder : InfraredCommonDecoder) : InfraredCommonDecoder :=
  { infraredCommonDecoderResetState spec decoder with timings := [] }

/-- The loop of `infrared_common_decode`: `found` says that `message` points to
the decoder's message, whatever becomes of that message until the call returns. -/
def decodeLoop : Nat → InfraredCommonDecoder → Bool → Except DecoderFault (Bool × InfraredCommonDecoder)
  | 0, _, _ => .error .stuck
  | fuel + 1, decoder, found =>
    match decoder.state with
    | .waitPreamble =>
      let (preamble, decoder) := infraredCheckPreamble spec decoder
      if preamble then
        decodeLoop fuel { decoder with
          state := .decode
          databitCnt := 0
          switchDetect := false } found
      else .ok (found, decoder)
    | .decode =>
      match infraredCommonDecodeBits spec decoder with
      | .error fault => .error fault
      | .ok (.ready, decoder) =>
        let (ready, decoder) := infraredCommonDecoderCheckReady spec decoder
        if ready then decodeLoop fuel decoder true
        else if spec.maxLen = decoder.databitCnt then
          .ok (false, { decoder with state := .waitPreamble })
        else .ok (false, decoder)
      | .ok (.error, decoder) => decodeLoop fuel (infraredCommonDecoderResetState spec decoder) found
      | .ok (_, decoder) => .ok (found, decoder)
    | .processRepeat =>
      match spec.decodeRepeat with
      | none => .ok (found, decoder)
      | some decodeRepeat =>
        let (status, decoder) := decodeRepeat spec.toInfraredProtocolTable decoder
        match status with
        | .error => decodeLoop fuel (infraredCommonDecoderResetState spec decoder) found
        | .ready => .ok (true, { decoder with message := { decoder.message with isRepeat := true } })
        | _ => .ok (found, decoder)

/-- Rounds of the loop that always suffice (`decodeLoop_ends`). -/
def decodeFuel : Nat := 24

/-- `infrared_common_decode`: the message, if the call returns one, as it is then. -/
def infraredCommonDecode (decoder : InfraredCommonDecoder) (level : Bool) (duration : Nat) :
    Except DecoderFault (Option InfraredMessage × InfraredCommonDecoder) :=
  let decoder :=
    if decoder.level = level then infraredCommonDecoderReset spec decoder else decoder
  let decoder := { decoder with level := level }
  if timingsSize ≤ decoder.timings.length then .error .timingsOverflow
  else
    match decodeLoop spec decodeFuel { decoder with timings := decoder.timings ++ [duration] } false with
    | .error fault => .error fault
    | .ok (found, decoder) => .ok (if found then some decoder.message else none, decoder)

inductive DecoderCall where
  | sample (level : Bool) (duration : Nat)
  | checkReady
  deriving DecidableEq, Repr

def decoderCall (decoder : InfraredCommonDecoder) :
    DecoderCall → Except DecoderFault (Option InfraredMessage × InfraredCommonDecoder)
  | .sample level duration => infraredCommonDecode spec decoder level duration
  | .checkReady =>
    let (ready, decoder) := infraredCommonDecoderCheckReady spec decoder
    .ok (if ready then some decoder.message else none, decoder)

/-- A decoder answers calls with messages, until a fault stops it for good. -/
def decoderMachine : Machine (Except DecoderFault InfraredCommonDecoder) DecoderCall (Option InfraredMessage)
  | .error fault, _ => (none, .error fault)
  | .ok decoder, call =>
    match decoderCall spec decoder call with
    | .error fault => (none, .error fault)
    | .ok (message, decoder) => (message, .ok decoder)

end Xtreme.Infrared
