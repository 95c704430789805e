import Mathlib.Tactic.TypeStar
import Xtreme.Library.ByteMemory
import Xtreme.Library.Simulation

/-! The HID transport of the U2F application (`u2f_hid.c`): a worker that puts requests
together from 64-byte packets, answers them from the same buffer, and splits what it
answers into packets again. The U2F messages themselves are left to a layer of its own,
which reads its request from the buffer and writes its response there. -/
namespace Xtreme.U2f
open Library

def hidU2fPacketLen : Nat := 64

def u2fHidMaxPayloadLen : Nat := (hidU2fPacketLen - 7) + 128 * (hidU2fPacketLen - 5)

def u2fHidTypeMask : BitVec 8 := 0x80#8
def u2fHidTypeInit : BitVec 8 := 0x80#8

def u2fHidPing : BitVec 8 := u2fHidTypeInit ||| 0x01#8
def u2fHidMsg : BitVec 8 := u2fHidTypeInit ||| 0x03#8
def u2fHidLock : BitVec 8 := u2fHidTypeInit ||| 0x04#8
def u2fHidInit : BitVec 8 := u2fHidTypeInit ||| 0x06#8
def u2fHidWink : BitVec 8 := u2fHidTypeInit ||| 0x08#8
def u2fHidError : BitVec 8 := u2fHidTypeInit ||| 0x3f#8

def u2fHidErrInvalidCmd : BitVec 8 := 0x01#8

def u2fHidBroadcastCid : BitVec 32 := 0xFFFFFFFF#32

/-- What the transport calls of the U2F instance. A response is written over the request,
within the payload buffer. -/
structure MessageLayer (υ : Type*) where
  u2fMsgParse : υ → ByteMemory → Nat → Nat × ByteMemory × υ
  u2fWink : υ → υ
  u2fSetState : υ → Bool → υ
  within : ∀ instanc buf len place, u2fHidMaxPayloadLen ≤ place →
    (u2fMsgParse instanc buf len).2.1 place = buf place

/-- `struct U2fHid_packet`: a request as far as it is there, then its response. -/
structure U2fHidPacket where
  cid : BitVec 32
  len : Nat
  cmd : BitVec 8
  payload : ByteMemory

structure U2fHid (υ : Type*) where
  seqIdLast : BitVec 8
  reqBufPtr : Nat
  reqLenLeft : Nat
  lockCid : BitVec 32
  lock : Bool
  u2fInstance : υ
  packet : U2fHidPacket

/-- The channel of a packet, least significant byte first. -/
def cidBytes (cid : BitVec 32) : List (BitVec 8) :=
  [cid.extractLsb' 0 8, cid.extractLsb' 8 8, cid.extractLsb' 16 8, cid.extractLsb' 24 8]

def packetCid (packetBuf : List (BitVec 8)) : BitVec 32 :=
  packetBuf.getD 3 0#8 ++ packetBuf.getD 2 0#8 ++ packetBuf.getD 1 0#8 ++ packetBuf.getD 0 0#8

/-- A packet of full length, with zeros after its contents. -/
def fillPacket (contents : List (BitVec 8)) : List (BitVec 8) :=
  contents ++ List.replicate (hidU2fPacketLen - contents.length) 0#8

/-- The continuation packets of a response. Each takes at least a byte of what remains. -/
def sendContinuations (packet : U2fHidPacket) :
    Nat → (seqCnt : BitVec 8) → (dataPtr lenRemain : Nat) → List (List (BitVec 8))
  | 0, _, _, _ => []
  | fuel + 1, seqCnt, dataPtr, lenRemain =>
    if lenRemain = 0 then []
    else
      let lenCur := min lenRemain (hidU2fPacketLen - 5)
      fillPacket (cidBytes packet.cid ++ seqCnt :: packet.payload.bytes dataPtr lenCur) ::
        sendContinuations packet fuel (seqCnt + 1#8) (dataPtr + lenCur) (lenRemain - lenCur)

def u2fHidSendResponse (packet : U2fHidPacket) : List (List (BitVec 8)) :=
  let lenCur := min packet.len (hidU2fPacketLen - 7)
  fillPacket (cidBytes packet.cid ++ packet.cmd :: BitVec.ofNat 8 (packet.len >>> 8) :: BitVec.ofNat 8 packet.len ::
          packet.payload.bytes 0 lenCur) ::
    sendContinuations packet packet.len 0#8 lenCur (packet.len - lenCur)

variable {υ : Type*} (layer : MessageLayer υ)

def u2fHidSendError (worker : U2fHid υ) (error : BitVec 8) : List (List (BitVec 8)) × U2fHid υ :=
  let packet :=
    { worker.packet with
      len := 1
      cmd := u2fHidError
      payload := worker.packet.payload.store 0 [error] }
  (u2fHidSendResponse packet, { worker with packet })

/-- The response to a channel request: the nonce, a new channel and the versions. -/
def initResponse (randomCid : BitVec 32) : List (BitVec 8) :=
  cidBytes randomCid ++ [2#8, 1#8, 0#8, 1#8, 1#8]

/-- Process the request in the buffer: whether it was valid, the packets of the response
and the worker after it. -/
def u2fHidParseRequest (worker : U2fHid υ) (random : BitVec 32) :
    Bool × List (List (BitVec 8)) × U2fHid υ :=
  let packet := worker.packet
  if packet.cmd = u2fHidPing then (true, u2fHidSendResponse packet, worker)
  else if packet.cmd = u2fHidMsg then
    if worker.lock ∧ packet.cid ≠ worker.lockCid then (false, [], worker)
    else
      let (respLen, payload, u2fInstance) :=
        layer.u2fMsgParse worker.u2fInstance packet.payload packet.len
      if 0 < respLen then
        let packet := { packet with len := respLen, payload }
        (true, u2fHidSendResponse packet, { worker with u2fInstance, packet })
      else (false, [], { worker with u2fInstance, packet := { packet with payload } })
  else if packet.cmd = u2fHidLock then
    if packet.len ≠ 1 then (false, [], worker)
    else if packet.payload 0 = 0#8 then (true, [], { worker with lock := false, lockCid := 0#32 })
    else (true, [], { worker with lock := true, lockCid := packet.cid })
  else if packet.cmd = u2fHidInit then
    if packet.len ≠ 8 ∨ packet.cid ≠ u2fHidBroadcastCid ∨ worker.lock then (false, [], worker)
    else
      let packet :=
        { packet with len := 17, payload := packet.payload.store 8 (initResponse random) }
      (true, u2fHidSendResponse packet, { worker with packet })
  else if packet.cmd = u2fHidWink then
    if packet.len ≠ 0 then (false, [], worker)
    else
      (true, u2fHidSendResponse packet,
        { worker with u2fInstance := layer.u2fWink worker.u2fInstance })
  else (false, [], worker)

/-- A request as it stands in the buffer. -/
structure Request where
  cid : BitVec 32
  cmd : BitVec 8
  len : Nat
  payload : List (BitVec 8)
  deriving DecidableEq, Repr

def U2fHidPacket.request (packet : U2fHidPacket) : Request :=
  ⟨packet.cid, packet.cmd, packet.len, packet.payload.bytes 0 packet.len⟩

/-- What a worker does with a packet: the request it processed, if any, and what it sent. -/
structure Output where
  processed : Option Request
  sent : List (List (BitVec 8))

def takeInit (worker : U2fHid υ) (packetBuf : List (BitVec 8)) (len : Nat) : U2fHid υ :=
  let lenCur := min len (packetBuf.length - 7)
  { worker with
    seqIdLast := 0#8
    reqBufPtr := lenCur
    reqLenLeft := len - lenCur
    packet :=
      { cid := packetCid packetBuf
        len := len
        cmd := packetBuf.getD 4 0#8
        payload := worker.packet.payload.store 0 ((packetBuf.drop 7).take lenCur) } }

def takeContinuation (worker : U2fHid υ) (packetBuf : List (BitVec 8)) : U2fHid υ :=
  let lenCur := min worker.reqLenLeft (packetBuf.length - 5)
  { worker with
    seqIdLast := worker.seqIdLast + 1#8
    reqBufPtr := worker.reqBufPtr + lenCur
    reqLenLeft := worker.reqLenLeft - lenCur
    packet :=
      { worker.packet with
        payload :=
          worker.packet.payload.store worker.reqBufPtr ((packetBuf.drop 5).take lenCur) } }

/-- The end of a packet that was not refused: process the request if nothing is left to
receive. -/
def finishPacket (worker : U2fHid υ) (random : BitVec 32) : Output × U2fHid υ :=
  if worker.reqLenLeft = 0 then
    let processed := some worker.packet.request
    match u2fHidParseRequest layer worker random with
    | (true, sent, worker) => (⟨processed, sent⟩, worker)
    | (false, sent, worker) =>
      let (error, worker) := u2fHidSendError worker u2fHidErrInvalidCmd
      (⟨processed, sent ++ error⟩, worker)
  else (⟨none, []⟩, worker)

def packetIsInit (packetBuf : List (BitVec 8)) : Bool :=
  packetBuf.getD 4 0#8 &&& u2fHidTypeMask = u2fHidTypeInit

/-- The length in an initial packet. -/
def packetLen (packetBuf : List (BitVec 8)) : Nat :=
  (packetBuf.getD 5 0#8).toNat <<< 8 ||| (packetBuf.getD 6 0#8).toNat

/-- A packet as it was received; a short one does not fill the packet buffer. -/
def handleRequest (worker : U2fHid υ) (packetBuf : List (BitVec 8)) (random : BitVec 32) :
    Output × U2fHid υ :=
  if packetBuf.length = 0 then (⟨none, []⟩, worker)
  else if packetIsInit packetBuf then
    if packetBuf.length < 7 then (⟨none, []⟩, { worker with reqLenLeft := 0 })
    else
      let len := packetLen packetBuf
      if u2fHidMaxPayloadLen < len then
        (⟨none, []⟩, { worker with reqLenLeft := 0, packet := { worker.packet with len } })
      else finishPacket layer (takeInit worker packetBuf len) random
  else if packetBuf.length < 5 then (⟨none, []⟩, { worker with reqLenLeft := 0 })
  else
    let worker :=
      if 0 < worker.reqLenLeft ∧ packetCid packetBuf = worker.packet.cid ∧
          packetBuf.getD 4 0#8 = worker.seqIdLast then
        takeContinuation worker packetBuf
      else worker
    finishPacket layer worker random

inductive WorkerEvt
  | connect
  | disconnect
  | request (packetBuf : List (BitVec 8)) (random : BitVec 32)
  | unlock

def u2fHidWorker : Machine (U2fHid υ) WorkerEvt Output
  | worker, .connect =>
    (⟨none, []⟩, { worker with u2fInstance := layer.u2fSetState worker.u2fInstance true })
  | worker, .disconnect =>
    (⟨none, []⟩, { worker with u2fInstance := layer.u2fSetState worker.u2fInstance false })
  | worker, .request packetBuf random => handleRequest layer worker packetBuf random
  | worker, .unlock => (⟨none, []⟩, { worker with lock := false, lockCid := 0#32 })

/-- The worker as it is started: the memory of `malloc` is zero. -/
def u2fHidStart (u2fInst : υ) : U2fHid υ :=
  ⟨0#8, 0, 0, 0#32, false, u2fInst, ⟨0#32, 0, 0#8, fun _ => 0#8⟩⟩

end Xtreme.U2f
