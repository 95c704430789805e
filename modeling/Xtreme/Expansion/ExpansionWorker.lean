import Xtreme.Expansion.ExpansionProtocol

/-! The worker of the expansion service (`expansion_worker.c`), from its start to its exit.
What it does to the rest of the system is a list of effects: the RPC record and sessions it
opens and closes, what it feeds to a session, acknowledgements it releases, frames it sends
and baud rates it sets. Frames arrive with the outcomes of everything their handler calls. -/
namespace Xtreme.Expansion
open Library

inductive ExpansionWorkerState
  | handShake
  | connected
  | rpcActive
  deriving DecidableEq, Repr

inductive ExpansionWorkerExitReason
  | unknown
  | user
  | error
  | timeout
  deriving DecidableEq, Repr

def frameErrorNone : BitVec 8 := 0x00#8
def frameErrorBaudRate : BitVec 8 := 0x02#8

def controlCommandStartRpc : BitVec 8 := 0x00#8
def controlCommandStopRpc : BitVec 8 := 0x01#8

def expansionProtocolDefaultBaudRate : BitVec 32 := 9600#32

/-- The worker, with the session pointer as the last open left it. -/
structure ExpansionWorker (σ : Type*) where
  state : ExpansionWorkerState
  exitReason : ExpansionWorkerExitReason
  rpcSession : Option σ

/-- What a worker does outside itself, sessions by their pointers. -/
inductive Effect (σ : Type*)
  | serialInit (baud : BitVec 32)
  | serialSetBr (baud : BitVec 32)
  | send (frame : ExpansionFrame)
  | recordOpen
  | recordClose
  | sessionOpen (session : Option σ)
  | sessionClose (session : σ)
  | semaphoreAlloc
  | semaphoreFree
  | semaphoreRelease
  | feed (session : Option σ) (bytes : List (BitVec 8))
  | callbackConnected
  | callbackExit
  deriving DecidableEq, Repr

/-- How the calls of a handler turn out. No handler sends more than one frame. -/
structure Outcome (σ : Type*) where
  sent : Bool
  baudRateSupported : Bool
  session : Option σ
  sizeConsumed : Nat

variable {σ : Type*}

def expansionWorkerRpcSessionOpen (worker : ExpansionWorker σ) (outcome : Outcome σ) :
    Bool × ExpansionWorker σ × List (Effect σ) :=
  let worker := { worker with rpcSession := outcome.session }
  (worker.rpcSession.isSome, worker, [.recordOpen, .sessionOpen outcome.session] ++
      if worker.rpcSession.isSome then [.semaphoreAlloc] else [])

/-- Close the session that the pointer names. The pointer stays as it is. -/
def expansionWorkerRpcSessionClose (worker : ExpansionWorker σ) : List (Effect σ) :=
  (match worker.rpcSession with
    | some session => [.sessionClose session, .semaphoreFree]
    | none => []) ++ [.recordClose]

def handleStateHandshake (worker : ExpansionWorker σ) (rxFrame : Memory) (outcome : Outcome σ) :
    Bool × ExpansionWorker σ × List (Effect σ) :=
  if headerType rxFrame ≠ frameTypeBaudRate then (false, worker, [])
  else
    let baudRate := rxFrame 4 ++ rxFrame 3 ++ rxFrame 2 ++ rxFrame 1
    if outcome.baudRateSupported then
      let worker := { worker with state := .connected }
      let effects := [.callbackConnected, .send (.status frameErrorNone)]
      if !outcome.sent then (false, worker, effects)
      else (true, worker, effects ++ [.serialSetBr baudRate])
    else (outcome.sent, worker, [.send (.status frameErrorBaudRate)])

def handleStateConnected (worker : ExpansionWorker σ) (rxFrame : Memory) (outcome : Outcome σ) :
    Bool × ExpansionWorker σ × List (Effect σ) :=
  if headerType rxFrame = frameTypeControl then
    if rxFrame 1 ≠ controlCommandStartRpc then (false, worker, [])
    else
      let (opened, worker, effects) :=
        expansionWorkerRpcSessionOpen { worker with state := .rpcActive } outcome
      if !opened then (false, worker, effects)
      else (outcome.sent, worker, effects ++ [.send (.status frameErrorNone)])
  else if headerType rxFrame = frameTypeHeartbeat then (outcome.sent, worker, [.send .heartbeat])
  else (false, worker, [])

def handleStateRpcActive (worker : ExpansionWorker σ) (rxFrame : Memory) (outcome : Outcome σ) :
    Bool × ExpansionWorker σ × List (Effect σ) :=
  if headerType rxFrame = frameTypeData then
    let effects := [.send (.status frameErrorNone)]
    if !outcome.sent then (false, worker, effects)
    else
      (outcome.sizeConsumed = dataSize rxFrame, worker,
        effects ++ [.feed worker.rpcSession (rxFrame.bytes 2 (dataSize rxFrame))])
  else if headerType rxFrame = frameTypeControl then
    if rxFrame 1 ≠ controlCommandStopRpc then (false, worker, [])
    else
      let worker := { worker with state := .connected }
      (outcome.sent, worker, expansionWorkerRpcSessionClose worker ++ [.send (.status frameErrorNone)])
  else if headerType rxFrame = frameTypeStatus then
    if rxFrame 1 ≠ frameErrorNone then (false, worker, []) else (true, worker, [.semaphoreRelease])
  else if headerType rxFrame = frameTypeHeartbeat then (outcome.sent, worker, [.send .heartbeat])
  else (false, worker, [])

/-- `expansion_handlers`: the handler of each state. -/
def expansionHandlers (worker : ExpansionWorker σ) :
    Memory → Outcome σ → Bool × ExpansionWorker σ × List (Effect σ) :=
  match worker.state with
  | .handShake => handleStateHandshake worker
  | .connected => handleStateConnected worker
  | .rpcActive => handleStateRpcActive worker

/-- A frame that was received, with the exit reason if the wait for it set one. -/
structure Arrival (σ : Type*) where
  exitReason : Option ExpansionWorkerExitReason
  rxFrame : Memory
  outcome : Outcome σ

def ExpansionWorker.noteReason (worker : ExpansionWorker σ)
    (reason : Option ExpansionWorkerExitReason) : ExpansionWorker σ :=
  { worker with exitReason := reason.getD worker.exitReason }

/-- What a run did, each effect with the state whose handler was at work. -/
abbrev Trace (σ : Type*) := List (ExpansionWorkerState × Effect σ)

/-- The loop over the frames that are received. After the last one the receive fails, by a
timeout, an error, a request to stop or a malformed frame. -/
def expansionWorkerStateMachine (worker : ExpansionWorker σ) : List (Arrival σ) → ExpansionWorker σ × Trace σ
  | [] => (worker, [])
  | arrival :: arrivals =>
    let worker := worker.noteReason arrival.exitReason
    let (success, next, effects) := expansionHandlers worker arrival.rxFrame arrival.outcome
    let trace := effects.map (worker.state, ·)
    if success then
      let (last, rest) := expansionWorkerStateMachine next arrivals
      (last, trace ++ rest)
    else (next, trace)

def expansionWorker (rpcSession : Option σ) (heartbeatSent : Bool) (arrivals : List (Arrival σ))
    (lastReason : Option ExpansionWorkerExitReason) : Trace σ :=
  let worker : ExpansionWorker σ := ⟨.handShake, .unknown, rpcSession⟩
  let start : List (Effect σ) := [.serialInit expansionProtocolDefaultBaudRate, .send .heartbeat]
  let (last, trace) :=
    if heartbeatSent then
      let (last, trace) := expansionWorkerStateMachine worker arrivals
      (last.noteReason lastReason, trace)
    else (worker, [])
  let exit := (if last.state = .rpcActive then expansionWorkerRpcSessionClose last else []) ++
    if last.exitReason ≠ .user then [.callbackExit] else []
  start.map (worker.state, ·) ++ trace ++ exit.map (last.state, ·)

end Xtreme.Expansion
