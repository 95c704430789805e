import Mathlib.Tactic.TypeStar
import Xtreme.Library.ByteMemory

/-! Frames of the expansion protocol (`expansion_protocol.h`). The packed frame
structure is the memory from its first byte on, so that a store beyond its 66 bytes
would be seen. What the callbacks do between them is their own state. -/
namespace Xtreme.Expansion
open Library

/-- Memory from the first byte of a frame structure on. -/
abbrev Memory := ByteMemory

def expansionProtocolMaxDataSize : Nat := 64

def sizeofExpansionFrame : Nat := 66

def frameTypeHeartbeat : BitVec 8 := 1#8
def frameTypeStatus : BitVec 8 := 2#8
def frameTypeBaudRate : BitVec 8 := 3#8
def frameTypeControl : BitVec 8 := 4#8
def frameTypeData : BitVec 8 := 5#8

def headerType (frame : Memory) : BitVec 8 := frame 0
def dataSize (frame : Memory) : Nat := (frame 1).toNat

inductive ExpansionFrame
  | heartbeat
  | status (error : BitVec 8)
  | baudRate (baud : BitVec 32)
  | control (command : BitVec 8)
  | data (bytes : List (BitVec 8))
  deriving DecidableEq, Repr

/-- The fields of a frame structure that go with its type. -/
def frameContent (frame : Memory) : Option ExpansionFrame :=
  if headerType frame = frameTypeHeartbeat then some .heartbeat
  else if headerType frame = frameTypeStatus then some (.status (frame 1))
  else if headerType frame = frameTypeBaudRate then
    some (.baudRate (frame 4 ++ frame 3 ++ frame 2 ++ frame 1))
  else if headerType frame = frameTypeControl then some (.control (frame 1))
  else if headerType frame = frameTypeData ∧ dataSize frame ≤ expansionProtocolMaxDataSize then
    some (.data ((List.range (dataSize frame)).map fun index => frame (2 + index)))
  else none

def expansionFrameGetEncodedSize (frame : Memory) : Nat :=
  if headerType frame = frameTypeHeartbeat then 1
  else if headerType frame = frameTypeStatus then 1 + 1
  else if headerType frame = frameTypeBaudRate then 1 + 4
  else if headerType frame = frameTypeControl then 1 + 1
  else if headerType frame = frameTypeData then 1 + 1 + dataSize frame
  else 0

/-- The size of the contents as far as it is known, or nothing for garbage. -/
def contentSize (frame : Memory) (receivedContentSize : Nat) : Option Nat :=
  if headerType frame = frameTypeHeartbeat then some 0
  else if headerType frame = frameTypeStatus then some 1
  else if headerType frame = frameTypeBaudRate then some 4
  else if headerType frame = frameTypeControl then some 1
  else if headerType frame = frameTypeData then
    if receivedContentSize < 1 then some 1
    else if expansionProtocolMaxDataSize < dataSize frame then none
    else some (1 + dataSize frame)
  else none

def expansionFrameGetRemainingSize (frame : Memory) (receivedSize : Nat) : Option Nat :=
  if receivedSize < 1 then some 1
  else
    let receivedContentSize := receivedSize - 1
    (contentSize frame receivedContentSize).map fun contentSize =>
      if receivedContentSize < contentSize then contentSize - receivedContentSize else 0

inductive ExpansionProtocolStatus
  | ok
  | errorFormat
  | errorChecksum
  | errorCommunication
  deriving DecidableEq, Repr

def frameBytes (frame : Memory) (size : Nat) : List (BitVec 8) := (List.range size).map frame

/-- The checksum of the given bytes. -/
def expansionProtocolGetChecksum (data : List (BitVec 8)) : BitVec 8 :=
  data.foldl (fun checksum byte => checksum ^^^ byte) 0#8

/-- A receive callback: it fills in at most as many bytes as there is room for. -/
abbrev Receive (σ : Type*) := σ → (size : Nat) → {chunk : List (BitVec 8) // chunk.length ≤ size} × σ

/-- A send callback: it reports how many bytes it took. -/
abbrev Send (σ : Type*) := σ → List (BitVec 8) → Nat × σ

variable {σ : Type*}

/-- The state of a decoder in its loop. -/
structure Received (σ : Type*) where
  status : ExpansionProtocolStatus
  frame : Memory
  totalSize : Nat
  context : σ

/-- The loop of the decoder. It ends by itself (`receiveLoop_stops`), without a result
only if it is given too few passes. -/
def receiveLoop (receive : Receive σ) : Nat → Memory → Nat → σ → Option (Received σ)
  | 0, _, _, _ => none
  | passes + 1, frame, totalSize, context =>
    match expansionFrameGetRemainingSize frame totalSize with
    | none => some ⟨.errorFormat, frame, totalSize, context⟩
    | some 0 => some ⟨.ok, frame, totalSize, context⟩
    | some remainingSize =>
      let (chunk, context) := receive context remainingSize
      if chunk.1.length = 0 then some ⟨.errorCommunication, frame, totalSize, context⟩
      else
        receiveLoop receive passes (frame.store totalSize chunk.1) (totalSize + chunk.1.length) context

def expansionProtocolDecode (receive : Receive σ) (frame : Memory) (context : σ) :
    Option (ExpansionProtocolStatus × Memory × σ) :=
  (receiveLoop receive (sizeofExpansionFrame + 1) frame 0 context).map
    fun ⟨status, frame, totalSize, context⟩ =>
      if status ≠ .ok then (status, frame, context)
      else
        let (checksum, context) := receive context 1
        if checksum.1.length ≠ 1 then (.errorCommunication, frame, context)
        else if checksum.1 ≠ [expansionProtocolGetChecksum (frameBytes frame totalSize)] then
          (.errorChecksum, frame, context)
        else (.ok, frame, context)

def expansionProtocolEncode (send : Send σ) (frame : Memory) (context : σ) :
    ExpansionProtocolStatus × σ :=
  let encodedSize := expansionFrameGetEncodedSize frame
  if encodedSize = 0 then (.errorFormat, context)
  else
    let bytes := frameBytes frame encodedSize
    let (sent, context) := send context bytes
    if sent ≠ encodedSize then (.errorCommunication, context)
    else
      let (sent, context) := send context [expansionProtocolGetChecksum bytes]
      if sent ≠ 1 then (.errorCommunication, context) else (.ok, context)

end Xtreme.Expansion
