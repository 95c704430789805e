import Xtreme.Expansion.ExpansionWorker
import Xtreme.Library.BoundedQueue
import Xtreme.Library.Simulation

/-! The worker of the expansion service among the interrupts and threads that reach it: they put
bytes into its receive buffer and set its thread flags, between any two steps that it makes at
the one or the other. A byte is marked as late if the error flag is set when it comes. -/
namespace Xtreme.Expansion
open Library

def expansionWorkerFlagStop : BitVec 32 := BitVec.twoPow 32 0
def expansionWorkerFlagData : BitVec 32 := BitVec.twoPow 32 1
def expansionWorkerFlagError : BitVec 32 := BitVec.twoPow 32 2

def expansionAllFlags : BitVec 32 := expansionWorkerFlagData ||| expansionWorkerFlagStop

def furiFlagError : BitVec 32 := 0x80000000#32
def furiFlagErrorTimeout : BitVec 32 := 0xFFFFFFFE#32

def expansionWorkerBufferSize : Nat := sizeofExpansionFrame + 1

structure RxByte where
  data : BitVec 8
  late : Bool
  deriving DecidableEq, Repr

/-- The thread flags: the value of a notification, and whether it waits to be taken. -/
structure ThreadFlags where
  value : BitVec 32
  pending : Bool
  deriving DecidableEq, Repr

def furiThreadFlagsSet (thread : ThreadFlags) (flags : BitVec 32) : ThreadFlags := ⟨thread.value ||| flags, true⟩

/-- A pass of `furi_thread_flags_wait` for any of the flags. It returns all flags that are set, and
clears those that it waits for. Without a result it waits on. -/
def furiThreadFlagsWait (thread : ThreadFlags) (flags : BitVec 32) : Option (BitVec 32) × ThreadFlags :=
  if thread.pending then
    (if flags &&& thread.value ≠ 0 then some thread.value else none, ⟨thread.value &&& ~~~flags, false⟩)
  else (none, thread)

def ThreadFlags.ErrorSet (thread : ThreadFlags) : Prop := thread.value &&& expansionWorkerFlagError ≠ 0

instance (thread : ThreadFlags) : Decidable thread.ErrorSet :=
  inferInstanceAs (Decidable (thread.value &&& expansionWorkerFlagError ≠ 0))

/-- What the decoder receives: a part of the frame, or the checksum behind it. -/
inductive DecodePhase
  | content
  | checksum
  deriving DecidableEq, Repr

structure ReceiveCall where
  phase : DecodePhase
  dataSize : Nat
  received : List RxByte
  deriving DecidableEq, Repr

/-- Where the worker is: at its buffer or at its flags in a call, in a handler, or out of its loop. -/
inductive WorkerPlace
  | reading (call : ReceiveCall)
  | waiting (call : ReceiveCall)
  | handling
  | left
  deriving DecidableEq, Repr

def WorkerPlace.call : WorkerPlace → Option ReceiveCall
  | .reading call | .waiting call => some call
  | .handling | .left => none

def WorkerPlace.reads : WorkerPlace → Option ReceiveCall
  | .reading call => some call
  | _ => none

/-- The worker, with the frame that it decodes, what it took for it and the frames it handled.
`waits` counts the waits that ended. -/
structure ExpansionService (queue : BoundedQueue RxByte) (σ : Type) where
  rxBuf : queue.State
  threadFlags : ThreadFlags
  worker : ExpansionWorker σ
  place : WorkerPlace
  rxFrame : Memory
  totalSize : Nat
  taken : List RxByte
  waits : Nat
  handled : List (List RxByte)

section
variable {queue : BoundedQueue RxByte} {σ : Type}

/-- The next call of `expansion_protocol_decode`, if the frame is no garbage. -/
def decodePlace (rxFrame : Memory) (totalSize : Nat) : WorkerPlace :=
  match expansionFrameGetRemainingSize rxFrame totalSize with
  | none => .left
  | some 0 => .reading ⟨.checksum, 1, []⟩
  | some remainingSize => .reading ⟨.content, remainingSize, []⟩

def callReturned (call : ReceiveCall) (service : ExpansionService queue σ) : ExpansionService queue σ :=
  let service := { service with taken := service.taken ++ call.received }
  let data := call.received.map RxByte.data
  match call.phase with
  | .content =>
    if data.length = 0 then { service with place := .left }
    else
      let rxFrame := service.rxFrame.store service.totalSize data
      let totalSize := service.totalSize + data.length
      { service with rxFrame := rxFrame, totalSize := totalSize, place := decodePlace rxFrame totalSize }
  | .checksum =>
    if data.length ≠ 1 then { service with place := .left }
    else if data ≠ [expansionProtocolGetChecksum (frameBytes service.rxFrame service.totalSize)] then
      { service with place := .left }
    else { service with place := .handling, handled := service.handled ++ [service.taken] }

/-- `expansion_worker_receive_callback` at the receive buffer. -/
def readBuffer (call : ReceiveCall) (service : ExpansionService queue σ) : ExpansionService queue σ :=
  let (chunk, rxBuf) := queue.receive (call.dataSize - call.received.length) service.rxBuf
  let call := { call with received := call.received ++ chunk }
  let service := { service with rxBuf := rxBuf }
  if call.received.length = call.dataSize then callReturned call service
  else { service with place := .waiting call }

/-- What the callback leaves with after a wait. With data it goes back to its buffer. -/
def waitExitReason (flags : BitVec 32) : Option ExpansionWorkerExitReason :=
  if flags &&& furiFlagError ≠ 0 then
    if flags = furiFlagErrorTimeout then some .timeout else some .error
  else if flags &&& expansionWorkerFlagStop ≠ 0 then some .user
  else if flags &&& expansionWorkerFlagError ≠ 0 then some .error
  else none

/-- `expansion_worker_receive_callback` when its wait returns. -/
def waitReturned (call : ReceiveCall) (flags : BitVec 32) (service : ExpansionService queue σ) :
    ExpansionService queue σ :=
  let service := { service with waits := service.waits + 1 }
  match waitExitReason flags with
  | some reason => callReturned call { service with worker := service.worker.noteReason (some reason) }
  | none => { service with place := .reading call }

def workerStep (outcome : Outcome σ) (service : ExpansionService queue σ) : ExpansionService queue σ :=
  match service.place with
  | .reading call => readBuffer call service
  | .waiting call =>
    let (flags, threadFlags) := furiThreadFlagsWait service.threadFlags expansionAllFlags
    let service := { service with threadFlags := threadFlags }
    match flags with
    | some flags => waitReturned call flags service
    | none => service
  | .handling =>
    let (success, worker, _) := expansionHandlers service.worker service.rxFrame outcome
    let service := { service with worker := worker, totalSize := 0, taken := [] }
    if success then { service with place := decodePlace service.rxFrame 0 } else { service with place := .left }
  | .left => service

/-- What happens to a worker: the events of its port, a frame of its session that is not
acknowledged in time, the request to stop, the end of the time for a wait, and its own steps. -/
inductive ExpansionInput (σ : Type)
  | serialData (bytes : List (BitVec 8))
  | serialError
  | unacknowledged
  | stop
  | timeout
  | worker (outcome : Outcome σ)

/-- The bytes of a serial event, one by one. What the buffer has no room for is dropped. -/
def sendBytes (late : Bool) (rxBuf : queue.State) (bytes : List (BitVec 8)) : queue.State :=
  bytes.foldl (fun rxBuf data => (queue.send [⟨data, late⟩] rxBuf).2) rxBuf

def setFlags (flags : BitVec 32) (service : ExpansionService queue σ) : ExpansionService queue σ :=
  { service with threadFlags := furiThreadFlagsSet service.threadFlags flags }

def expansionStep (service : ExpansionService queue σ) : ExpansionInput σ → ExpansionService queue σ
  | .serialData bytes =>
    setFlags expansionWorkerFlagData
      { service with rxBuf := sendBytes (decide service.threadFlags.ErrorSet) service.rxBuf bytes }
  | .serialError => setFlags expansionWorkerFlagError service
  | .unacknowledged => setFlags expansionWorkerFlagError service
  | .stop => setFlags expansionWorkerFlagStop service
  | .timeout =>
    match service.place with
    | .waiting call =>
      if service.threadFlags.pending then service else waitReturned call furiFlagErrorTimeout service
    | _ => service
  | .worker outcome => workerStep outcome service

def expansionService : Machine (ExpansionService queue σ) (ExpansionInput σ) Unit := fun service input =>
  ((), expansionStep service input)

/-- A worker before its first frame. What its frame and its session pointer hold is left from before. -/
def expansionServiceStart (queue : BoundedQueue RxByte) (rxFrame : Memory) (rpcSession : Option σ) : ExpansionService queue σ :=
  ⟨queue.alloc expansionWorkerBufferSize, ⟨0, false⟩, ⟨.handShake, .unknown, rpcSession⟩, decodePlace rxFrame 0, rxFrame, 0, [],
    0, []⟩

def ExpansionService.inFrame (service : ExpansionService queue σ) : List RxByte :=
  service.taken ++ (service.place.call.map ReceiveCall.received).getD []

/-- Where the worker reads all that it asks for, and so does not come to its flags, nothing is late. -/
def ReadsEarly (service : ExpansionService queue σ) : ExpansionInput σ → Prop
  | .worker _ => ∀ call ∈ service.place.reads,
      call.dataSize - call.received.length ≤ (queue.contents service.rxBuf).length →
        ∀ byte ∈ (queue.contents service.rxBuf).take (call.dataSize - call.received.length), byte.late = false
  | _ => True

instance (service : ExpansionService queue σ) : ∀ input, Decidable (ReadsEarly service input)
  | .worker _ => inferInstanceAs (Decidable (∀ call ∈ service.place.reads,
      call.dataSize - call.received.length ≤ (queue.contents service.rxBuf).length →
        ∀ byte ∈ (queue.contents service.rxBuf).take (call.dataSize - call.received.length), byte.late = false))
  | .serialData _ | .serialError | .unacknowledged | .stop | .timeout => isTrue trivial

end
end Xtreme.Expansion
