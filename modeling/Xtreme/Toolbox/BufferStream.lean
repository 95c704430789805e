import Xtreme.Library.BoundedQueue
import Xtreme.Library.Effect

/-! Data that an interrupt writes to buffers of a pool, and a thread reads buffer by buffer
(`lib/toolbox/buffer_stream.c`). A pointer to a buffer is its place in the pool, and the
stream buffer of the kernel a queue of such pointers. -/
namespace Xtreme.Toolbox
open Xtreme.Library
open Effect (fault observe update)

/-- A buffer; of its memory, the bytes up to `size`. -/
structure Buffer where
  occupied : Bool
  data : List UInt8
  maxDataSize : Nat
  deriving DecidableEq, Repr

structure BufferStream (queue : BoundedQueue Nat) where
  streamOverrunCount : BitVec 32
  stream : queue.State
  index : Nat
  buffers : List Buffer

inductive BufferStreamFault
  | outOfBounds
  deriving DecidableEq, Repr

abbrev BufferStreamM (queue : BoundedQueue Nat) := Effect BufferStreamFault (BufferStream queue)

section
variable {queue : BoundedQueue Nat}

def bufferAt (place : Nat) : BufferStreamM queue Buffer := fun state =>
  match state.buffers[place]? with
  | some buffer => (.ok buffer, state)
  | none => (.error .outOfBounds, state)

def setBuffer (place : Nat) (buffer : Buffer) : BufferStreamM queue Unit :=
  update fun state => { state with buffers := state.buffers.set place buffer }

def bufferWrite (place : Nat) (data : List UInt8) : BufferStreamM queue Bool := do
  let buffer ← bufferAt place
  if buffer.occupied then pure false
  else if buffer.maxDataSize < (buffer.data.length + data.length) % 4294967296 then pure false
  else if buffer.maxDataSize < buffer.data.length + data.length then fault .outOfBounds
  else do
    setBuffer place { buffer with data := buffer.data ++ data }
    pure true

def bufferReset (place : Nat) : BufferStreamM queue Unit := do
  let buffer ← bufferAt place
  setBuffer place { buffer with occupied := false, data := [] }

def bufferStreamAlloc (bufferSize buffersCount : Nat) : BufferStream queue where
  streamOverrunCount := 0
  stream := queue.alloc buffersCount
  index := 0
  buffers := List.replicate buffersCount ⟨false, [], bufferSize⟩

def bufferStreamGetFreeBuffer (buffers : List Buffer) : Int :=
  match buffers.findIdx? fun buffer => !buffer.occupied with
  | some place => (BitVec.ofNat 8 place).toInt
  | none => -1

/-- The full buffer is handed over, and the data goes to a free one. -/
def sendToNext (data : List UInt8) : BufferStreamM queue Bool := do
  let index ← observe BufferStream.index
  let buffer ← bufferAt index
  setBuffer index { buffer with occupied := true }
  update fun state => { state with stream := (queue.send [index] state.stream).2 }
  let free := bufferStreamGetFreeBuffer (← observe BufferStream.buffers)
  if free = -1 then do
    update fun state => { state with streamOverrunCount := state.streamOverrunCount + 1 }
    pure false
  else do
    let next := (BitVec.ofInt 32 free).toNat
    update fun state => { state with index := next }
    -- the answer is not looked at
    let _ ← bufferWrite next data
    pure true

def bufferStreamSendFromIsr (data : List UInt8) : BufferStreamM queue Bool := do
  let index ← observe BufferStream.index
  if ← bufferWrite index data then pure true
  else sendToNext data

/-- A pointer, if there is a whole one. -/
def bufferStreamReceive : BufferStreamM queue (Option Nat) := fun state =>
  let received := queue.receive 1 state.stream
  (.ok received.1.head?, { state with stream := received.2 })

end

/-- A stream, what was received from it and sent to it, and the received buffers that the
reader still has, with what it found in them. -/
structure BufferRun (queue : BoundedQueue Nat) where
  stream : BufferStream queue
  received : List (List UInt8)
  held : List (Nat × List UInt8)
  sent : List UInt8

inductive BufferStreamCall
  | send (data : List UInt8)
  | receive
  | reset (place : Nat)
  deriving Repr

section
variable {queue : BoundedQueue Nat}

def bufferRunStart (bufferSize buffersCount : Nat) : BufferRun queue :=
  ⟨bufferStreamAlloc bufferSize buffersCount, [], [], []⟩

def onBuffers {α : Type} (program : BufferStreamM queue α) : Effect BufferStreamFault (BufferRun queue) α := fun run =>
  let (outcome, after) := program run.stream
  (outcome, { run with stream := after })

def bufferStreamCall : BufferStreamCall → Effect BufferStreamFault (BufferRun queue) Unit
  | .send data => do
    if ← onBuffers (bufferStreamSendFromIsr data) then update fun run => { run with sent := run.sent ++ data }
  | .receive => do
    match ← onBuffers bufferStreamReceive with
    | none => pure ()
    | some place =>
      let buffer ← onBuffers (bufferAt place)
      update fun run =>
        { run with received := run.received ++ [buffer.data], held := run.held ++ [(place, buffer.data)] }
  | .reset place => do
    onBuffers (bufferReset place)
    update fun run => { run with held := run.held.filter fun entry => entry.1 ≠ place }

end
end Xtreme.Toolbox
