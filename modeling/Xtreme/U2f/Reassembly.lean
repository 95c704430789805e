import Mathlib.Tactic.SplitIfs
import Xtreme.U2f.U2fHid

/-! Which requests a U2F worker processes. `Reassembly` says what a sequence of packets
amounts to: at most one message is pending, and each message comes out once, when it is
complete. The worker agrees with it packet by packet (`handleRequest_reassembles`), but for
packets that continue nothing: on such a packet it processes whatever stands in its buffer.
So its requests are the complete messages just if there are no such packets
(`requests_are_messages`). -/
namespace Xtreme.U2f
open Library

namespace Reassembly

/-- A message that is not complete yet. -/
structure Pending where
  cid : BitVec 32
  cmd : BitVec 8
  len : Nat
  received : List (BitVec 8)
  seq : BitVec 8

/-- A message, if that is all of it. -/
def deliver (pending : Pending) : Option Request × Option Pending :=
  if pending.received.length = pending.len then
    (some ⟨pending.cid, pending.cmd, pending.len, pending.received⟩, none)
  else (none, some pending)

/-- What a packet completes, and what is pending after it. A new message replaces a pending
one, a packet that is too short or announces too much drops it, and a continuation of another
channel or out of sequence changes nothing. -/
def step (pending : Option Pending) (packet : List (BitVec 8)) : Option Request × Option Pending :=
  if packet = [] then (none, pending)
  else if packetIsInit packet then
    if packet.length < 7 ∨ u2fHidMaxPayloadLen < packetLen packet then (none, none)
    else
      deliver
        { cid := packetCid packet
          cmd := packet.getD 4 0#8
          len := packetLen packet
          received := (packet.drop 7).take (packetLen packet)
          seq := 0#8 }
  else if packet.length < 5 then (none, none)
  else
    match pending with
    | none => (none, none)
    | some pending =>
      if packetCid packet = pending.cid ∧ packet.getD 4 0#8 = pending.seq then
        deliver
          { pending with
            received :=
              pending.received ++ (packet.drop 5).take (pending.len - pending.received.length)
            seq := pending.seq + 1#8 }
      else (none, some pending)

def stepEvent (pending : Option Pending) : WorkerEvt → Option Request × Option Pending
  | .request packet _ => step pending packet
  | _ => (none, pending)

def messages : Option Pending → List WorkerEvt → List Request
  | _, [] => []
  | pending, event :: events =>
    (stepEvent pending event).1.toList ++ messages (stepEvent pending event).2 events

end Reassembly

/-- The worker's counters and buffer hold the pending message, if there is one. -/
def Holds {υ : Type*} (worker : U2fHid υ) : Option Reassembly.Pending → Prop
  | none => worker.reqLenLeft = 0
  | some pending =>
    0 < worker.reqLenLeft ∧
    worker.reqBufPtr + worker.reqLenLeft = pending.len ∧
    pending.len ≤ u2fHidMaxPayloadLen ∧
    worker.packet.cid = pending.cid ∧ worker.packet.cmd = pending.cmd ∧
    worker.packet.len = pending.len ∧ worker.seqIdLast = pending.seq ∧
    worker.packet.payload.bytes 0 worker.reqBufPtr = pending.received

/-- A packet that continues nothing. -/
def Stray {υ : Type*} (worker : U2fHid υ) (packet : List (BitVec 8)) : Prop :=
  5 ≤ packet.length ∧ packetIsInit packet = false ∧ worker.reqLenLeft = 0

section Worker
variable {υ : Type*} (layer : MessageLayer υ) {worker : U2fHid υ}

/-- What is left to receive says whether a message is complete. -/
theorem deliver_holds {pending : Reassembly.Pending} (total : worker.reqBufPtr + worker.reqLenLeft = pending.len)
    (fits : pending.len ≤ u2fHidMaxPayloadLen) (cid : worker.packet.cid = pending.cid)
    (cmd : worker.packet.cmd = pending.cmd) (len : worker.packet.len = pending.len)
    (seq : worker.seqIdLast = pending.seq)
    (received : worker.packet.payload.bytes 0 worker.reqBufPtr = pending.received) :
    (Reassembly.deliver pending).1 = (if worker.reqLenLeft = 0 then some worker.packet.request else none) ∧
      Holds worker (Reassembly.deliver pending).2 := by
  have size : pending.received.length = worker.reqBufPtr := by rw [← received, ByteMemory.bytes_length]
  rw [Reassembly.deliver, size]
  by_cases complete : worker.reqLenLeft = 0
  · have whole : worker.reqBufPtr = pending.len := by omega
    rw [if_pos whole, if_pos complete]
    refine ⟨?_, complete⟩
    rw [U2fHidPacket.request, cid, cmd, len, ← whole, received]
  · rw [if_neg (by omega), if_neg complete]
    exact ⟨rfl, Nat.pos_of_ne_zero complete, total, fits, cid, cmd, len, seq, received⟩

theorem parseRequest_left (worker : U2fHid υ) (random : BitVec 32) :
    (u2fHidParseRequest layer worker random).2.2.reqLenLeft = worker.reqLenLeft := by
  simp only [u2fHidParseRequest]
  split_ifs <;> rfl

variable {pending : Option Reassembly.Pending}

theorem finishPacket_holds (worker : U2fHid υ) (random : BitVec 32) (holds : Holds worker pending) :
    (finishPacket layer worker random).1.processed =
        (if worker.reqLenLeft = 0 then some worker.packet.request else none) ∧
      Holds (finishPacket layer worker random).2 pending := by
  rw [finishPacket]
  by_cases complete : worker.reqLenLeft = 0
  · rw [if_pos complete, if_pos complete]
    have left := parseRequest_left layer worker random
    cases pending with
    | some pending => exact absurd complete (Nat.ne_of_gt holds.1)
    | none =>
      cases parsed : u2fHidParseRequest layer worker random with
      | mk valid rest =>
        rw [parsed] at left
        cases valid with
        | true => exact ⟨rfl, left.trans complete⟩
        | false => exact ⟨rfl, left.trans complete⟩
  · rw [if_neg complete, if_neg complete]
    exact ⟨rfl, holds⟩

theorem takeInit_holds (worker : U2fHid υ) {packet : List (BitVec 8)}
    (fits : packetLen packet ≤ u2fHidMaxPayloadLen) :
    let next := takeInit worker packet (packetLen packet)
    let message : Reassembly.Pending :=
      { cid := packetCid packet
        cmd := packet.getD 4 0#8
        len := packetLen packet
        received := (packet.drop 7).take (packetLen packet)
        seq := 0#8 }
    (Reassembly.deliver message).1 = (if next.reqLenLeft = 0 then some next.packet.request else none) ∧
      Holds next (Reassembly.deliver message).2 := by
  refine deliver_holds ?_ fits rfl rfl rfl rfl ?_
  · simp only [takeInit]
    omega
  · simp only [takeInit]
    have taken : (packet.drop 7).take (packetLen packet) =
        (packet.drop 7).take (min (packetLen packet) (packet.length - 7)) := by
      rw [← List.length_drop, List.take_eq_take_iff]
      omega
    have size : ((packet.drop 7).take (packetLen packet)).length =
        min (packetLen packet) (packet.length - 7) := by simp
    rw [← taken, ← size]
    have whole := @ByteMemory.bytes_store worker.packet.payload ((packet.drop 7).take (packetLen packet)) 0
    rwa [Nat.zero_add] at whole

variable {worker : U2fHid υ}

theorem takeContinuation_holds {pending : Reassembly.Pending}
    (holds : Holds worker (some pending)) (packet : List (BitVec 8)) :
    let next := takeContinuation worker packet
    let message : Reassembly.Pending :=
      { pending with
        received := pending.received ++ (packet.drop 5).take (pending.len - pending.received.length)
        seq := pending.seq + 1#8 }
    (Reassembly.deliver message).1 = (if next.reqLenLeft = 0 then some next.packet.request else none) ∧
      Holds next (Reassembly.deliver message).2 := by
  obtain ⟨more, total, fits, cid, cmd, len, seq, received⟩ := holds
  have size : pending.received.length = worker.reqBufPtr := by rw [← received, ByteMemory.bytes_length]
  refine deliver_holds ?_ fits cid cmd len (congrArg (· + 1#8) seq) ?_
  · simp only [takeContinuation]
    omega
  · simp only [takeContinuation]
    rw [size, show pending.len - worker.reqBufPtr = worker.reqLenLeft by omega]
    have taken : (packet.drop 5).take worker.reqLenLeft =
        (packet.drop 5).take (min worker.reqLenLeft (packet.length - 5)) := by
      rw [← List.length_drop, List.take_eq_take_iff]
      omega
    have chunk : ((packet.drop 5).take worker.reqLenLeft).length =
        min worker.reqLenLeft (packet.length - 5) := by simp
    rw [← taken, ← chunk, ByteMemory.bytes_store, received]

/-- **A packet does to the worker what it does to the pending message**, unless it is stray. -/
theorem handleRequest_reassembles
    (holds : Holds worker pending) {packet : List (BitVec 8)} (welcome : ¬Stray worker packet) (random : BitVec 32) :
    (handleRequest layer worker packet random).1.processed = (Reassembly.step pending packet).1 ∧
      Holds (handleRequest layer worker packet random).2 (Reassembly.step pending packet).2 := by
  rw [handleRequest, Reassembly.step.eq_def]
  by_cases empty : packet = []
  · rw [if_pos (by simp [empty]), if_pos empty]
    exact ⟨rfl, holds⟩
  rw [if_neg (by simpa using empty), if_neg empty]
  by_cases initial : packetIsInit packet
  · rw [if_pos initial, if_pos initial]
    by_cases short : packet.length < 7
    · rw [if_pos short, if_pos (.inl short)]
      exact ⟨rfl, rfl⟩
    rw [if_neg short]
    by_cases long : u2fHidMaxPayloadLen < packetLen packet
    · rw [if_pos long, if_pos (.inr long)]
      exact ⟨rfl, rfl⟩
    rw [if_neg long, if_neg (not_or.mpr ⟨short, long⟩)]
    obtain ⟨delivered, next⟩ := takeInit_holds worker (Nat.not_lt.mp long)
    rw [delivered]
    exact finishPacket_holds layer _ random next
  rw [if_neg initial, if_neg initial]
  by_cases short : packet.length < 5
  · rw [if_pos short, if_pos short]
    exact ⟨rfl, rfl⟩
  rw [if_neg short, if_neg short]
  cases pending with
  | none => exact absurd ⟨Nat.not_lt.mp short, by simpa using initial, holds⟩ welcome
  | some pending =>
    obtain ⟨more, total, fits, cid, cmd, len, seq, received⟩ := holds
    dsimp only
    rw [cid, seq]
    by_cases continues : packetCid packet = pending.cid ∧ packet.getD 4 0#8 = pending.seq
    · rw [if_pos ⟨more, continues⟩, if_pos continues]
      obtain ⟨delivered, next⟩ := takeContinuation_holds ⟨more, total, fits, cid, cmd, len, seq, received⟩ packet
      rw [delivered]
      exact finishPacket_holds layer _ random next
    · rw [if_neg (fun both => continues both.2), if_neg continues]
      have kept : Holds worker (some pending) := ⟨more, total, fits, cid, cmd, len, seq, received⟩
      obtain ⟨processed, next⟩ := finishPacket_holds layer worker random kept
      rw [if_neg (Nat.ne_of_gt more)] at processed
      exact ⟨processed, next⟩

theorem handleRequest_stray {packet : List (BitVec 8)} (stray : Stray worker packet) (random : BitVec 32) :
    (handleRequest layer worker packet random).1.processed = some worker.packet.request ∧
      Holds (handleRequest layer worker packet random).2 none ∧
      Reassembly.step none packet = (none, none) := by
  obtain ⟨long, continuation, nothing⟩ := stray
  have some : packet ≠ [] := by
    rintro rfl
    simp at long
  rw [handleRequest, if_neg (by simpa using some), if_neg (by simp [continuation]),
    if_neg (by omega), if_neg (by omega)]
  have stepped : Reassembly.step none packet = (none, none) := by
    simp only [Reassembly.step, if_neg some, continuation, if_neg (Nat.not_lt.mpr long)]
    rfl
  obtain ⟨processed, next⟩ := @finishPacket_holds _ layer none worker random nothing
  rw [if_pos nothing] at processed
  exact ⟨processed, next, stepped⟩

/-- The requests that a worker processes over a run. -/
def requests (worker : U2fHid υ) (events : List WorkerEvt) : List Request :=
  ((u2fHidWorker layer).run worker events).1.filterMap Output.processed

def Welcome (worker : U2fHid υ) : WorkerEvt → Prop
  | .request packet _ => ¬Stray worker packet
  | _ => True

/-- An event does to the worker what it does to the pending message. Only a stray packet
has a request processed that no message is. -/
theorem worker_reassembles (holds : Holds worker pending) (event : WorkerEvt) :
    Holds (u2fHidWorker layer worker event).2 (Reassembly.stepEvent pending event).2 ∧ (Welcome worker event →
        (u2fHidWorker layer worker event).1.processed = (Reassembly.stepEvent pending event).1) ∧
      (¬Welcome worker event → (∃ request, (u2fHidWorker layer worker event).1.processed = some request) ∧
          (Reassembly.stepEvent pending event).1 = none) := by
  have quiet : ∀ next : U2fHid υ, next.reqLenLeft = worker.reqLenLeft →
      next.reqBufPtr = worker.reqBufPtr → next.packet = worker.packet →
      next.seqIdLast = worker.seqIdLast → Holds next pending := by
    intro next left ptr packet seq
    cases pending with
    | none => exact left.trans holds
    | some pending =>
      simp only [Holds, left, ptr, packet, seq]
      exact holds
  cases event with
  | connect => exact ⟨quiet _ rfl rfl rfl rfl, fun _ => rfl, fun unmet => absurd trivial unmet⟩
  | disconnect => exact ⟨quiet _ rfl rfl rfl rfl, fun _ => rfl, fun unmet => absurd trivial unmet⟩
  | unlock => exact ⟨quiet _ rfl rfl rfl rfl, fun _ => rfl, fun unmet => absurd trivial unmet⟩
  | request packet random =>
    by_cases stray : Stray worker packet
    · obtain rfl : pending = none := by
        cases pending with
        | none => rfl
        | some pending => exact absurd stray.2.2 (Nat.ne_of_gt holds.1)
      obtain ⟨processed, next, stepped⟩ := handleRequest_stray layer stray random
      simp only [Reassembly.stepEvent, stepped]
      exact ⟨next, fun welcome => absurd stray welcome, fun _ => ⟨⟨_, processed⟩, trivial⟩⟩
    · obtain ⟨processed, next⟩ := handleRequest_reassembles layer holds stray random
      exact ⟨next, fun _ => processed, fun unmet => absurd stray unmet⟩

theorem run_holds (holds : Holds worker pending) (events : List WorkerEvt) :
    ∃ pending', Holds ((u2fHidWorker layer).run worker events).2 pending' := by
  induction events generalizing worker pending with
  | nil => exact ⟨pending, holds⟩
  | cons event events ih => exact ih (worker_reassembles layer holds event).1

theorem requests_cons (worker : U2fHid υ) (event : WorkerEvt) (events : List WorkerEvt) :
    requests layer worker (event :: events) = (u2fHidWorker layer worker event).1.processed.toList ++
        requests layer (u2fHidWorker layer worker event).2 events := by
  simp only [requests, Machine.run, List.filterMap_cons]
  cases (u2fHidWorker layer worker event).1.processed <;> rfl

/-- The requests of a run are the messages of its packets if no packet is stray, and more
than these otherwise. -/
theorem requests_messages (holds : Holds worker pending) (events : List WorkerEvt) :
    ((u2fHidWorker layer).RunMeets Welcome worker events →
        requests layer worker events = Reassembly.messages pending events) ∧
      (Reassembly.messages pending events).length ≤ (requests layer worker events).length ∧
      (¬(u2fHidWorker layer).RunMeets Welcome worker events →
        (Reassembly.messages pending events).length < (requests layer worker events).length) := by
  induction events generalizing worker pending with
  | nil => exact ⟨fun _ => rfl, Nat.le_refl _, fun unmet => absurd trivial unmet⟩
  | cons event events ih =>
    obtain ⟨next, same, extra⟩ := worker_reassembles layer holds event
    obtain ⟨equal, least, more⟩ := ih next
    rw [requests_cons, Reassembly.messages]
    by_cases welcome : Welcome worker event
    · rw [same welcome]
      refine ⟨fun meets => by rw [equal meets.2], ?_, fun unmet => ?_⟩
      · simpa using least
      · have rest := more fun meets => unmet ⟨welcome, meets⟩
        simpa using rest
    · obtain ⟨⟨request, processed⟩, nothing⟩ := extra welcome
      rw [processed, nothing]
      simp only [Option.toList_some, Option.toList_none, List.nil_append, List.length_append, List.length_singleton]
      exact ⟨fun meets => absurd meets.1 welcome, by omega, fun _ => by omega⟩

end Worker

end Xtreme.U2f
