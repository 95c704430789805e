import Mathlib.Tactic.SplitIfs
import Xtreme.U2f.HidMessages

/-! Channel locks of the U2F transport (`u2f_hid_worker` with its thread flags and lock timer).
The timer announces its expiry with a flag that the worker's wait does not name: the wait
neither ends for it nor clears it, so that it is seen with every later event. -/
namespace Xtreme.U2f
open Library

def workerEvtStop : Nat := 1
def workerEvtConnect : Nat := 2
def workerEvtDisconnect : Nat := 3
def workerEvtRequest : Nat := 4
def workerEvtUnlock : Nat := 5

def flag (place : Nat) : BitVec 32 := BitVec.twoPow 32 place

def workerEvtAwaited : BitVec 32 :=
  flag workerEvtStop ||| flag workerEvtConnect ||| flag workerEvtDisconnect ||| flag workerEvtRequest

/-- `furi_thread_flags_wait` for any of some flags: all flags that are set by then, and those
that stay set. Nothing, as long as none of the flags is set. -/
def furiThreadFlagsWait (flags set : BitVec 32) : Option (BitVec 32 × BitVec 32) :=
  if flags &&& set = 0#32 then none else some (set, set &&& ~~~flags)

/-- The channel of a valid lock request and its time in seconds. -/
def Request.locks (request : Request) : Option (BitVec 32 × BitVec 8) :=
  if request.cmd = u2fHidLock ∧ request.len = 1 then some (request.cid, request.payload.headD 0#8) else none

/-- The worker's thread. `owner` is the channel that has taken a lock which neither it nor
the timer has ended. -/
structure WorkerThread (υ : Type*) where
  worker : U2fHid υ
  flags : BitVec 32
  lockTimer : Bool
  running : Bool
  owner : Option (BitVec 32)

def ownerAfter (owner : Option (BitVec 32)) : Option (BitVec 32 × BitVec 8) → Option (BitVec 32)
  | none => owner
  | some (cid, timeout) =>
    if owner = none ∨ owner = some cid then if timeout = 0#8 then none else some cid else owner

def lockAfter (lock : Bool × BitVec 32) : Option (BitVec 32 × BitVec 8) → Bool × BitVec 32
  | none => lock
  | some (cid, timeout) => if timeout = 0#8 then (false, 0#32) else (true, cid)

def Output.locks (output : Output) : Option (BitVec 32 × BitVec 8) := output.processed.bind Request.locks

variable {υ : Type*} (layer : MessageLayer υ)

/-- The worker after news of the connection. -/
def announced (worker : U2fHid υ) (flags : BitVec 32) : U2fHid υ :=
  let worker := if flags.getLsbD workerEvtConnect then (u2fHidWorker layer worker .connect).2 else worker
  if flags.getLsbD workerEvtDisconnect then (u2fHidWorker layer worker .disconnect).2 else worker

def turn (thread : WorkerThread υ) (packetBuf : List (BitVec 8)) (random : BitVec 32) : Output × WorkerThread υ :=
  match furiThreadFlagsWait workerEvtAwaited thread.flags with
  | none => (⟨none, []⟩, thread)
  | some (flags, left) =>
    if flags.getLsbD workerEvtStop then
      (⟨none, []⟩, { thread with flags := left, lockTimer := false, running := false })
    else
      let worker := announced layer thread.worker flags
      let (output, worker) := if flags.getLsbD workerEvtRequest then handleRequest layer worker packetBuf random
        else (⟨none, []⟩, worker)
      let starts := output.locks.any fun request => request.2 ≠ 0#8
      let worker := if flags.getLsbD workerEvtUnlock then (u2fHidWorker layer worker .unlock).2 else worker
      (output, ⟨worker, left, starts || thread.lockTimer, true, ownerAfter thread.owner output.locks⟩)

inductive ThreadEvt
  | set (place : Nat)
  | expire
  | turn (packetBuf : List (BitVec 8)) (random : BitVec 32)

/-- The thread among USB events, expiries of its timer and turns of its loop. -/
def workerThread : Machine (WorkerThread υ) ThreadEvt Output
  | thread, .set place =>
    (⟨none, []⟩, if place = workerEvtUnlock then thread else { thread with flags := thread.flags ||| flag place })
  | thread, .expire =>
    (⟨none, []⟩, if thread.lockTimer then
      { thread with flags := thread.flags ||| flag workerEvtUnlock, lockTimer := false, owner := none } else thread)
  | thread, .turn packetBuf random => if thread.running then turn layer thread packetBuf random else (⟨none, []⟩, thread)

def startThread (u2fInst : υ) : WorkerThread υ := ⟨u2fHidStart u2fInst, 0#32, false, true, none⟩

/-- No lock request comes from another channel than a lock's owner, and no lock is taken
once a lock timer has expired. -/
def Undisturbed (thread : WorkerThread υ) (event : ThreadEvt) : Prop :=
  ∀ request ∈ (workerThread layer thread event).1.locks, (thread.owner = none ∨ thread.owner = some request.1) ∧
    (request.2 ≠ 0#8 → thread.flags.getLsbD workerEvtUnlock = false)

instance (thread : WorkerThread υ) (event : ThreadEvt) : Decidable (Undisturbed layer thread event) :=
  Option.decidableForallMem (Output.locks _)

/-- A request is answered with an error, and not shown to the message layer. -/
def Refused (worker : U2fHid υ) (request : Request) (result : Output × WorkerThread υ) : Prop :=
  result.2.worker.u2fInstance = worker.u2fInstance ∧ ∃ payload : ByteMemory, payload 0 = u2fHidErrInvalidCmd ∧
    result.1.sent = u2fHidSendResponse ⟨request.cid, 1, u2fHidError, payload⟩

structure KeepsLock (thread : WorkerThread υ) : Prop where
  held : ∀ owner, thread.owner = some owner → thread.worker.lock = true ∧ thread.worker.lockCid = owner
  refuses : ∀ owner, thread.owner = some owner → ∀ packetBuf random,
    ∀ request ∈ (turn layer thread packetBuf random).1.processed, request.cmd = u2fHidMsg → request.cid ≠ owner →
      Refused (announced layer thread.worker thread.flags) request (turn layer thread packetBuf random)
  gone : thread.flags.getLsbD workerEvtUnlock = true → ∀ packetBuf random,
    (turn layer thread packetBuf random).1.processed ≠ none → (turn layer thread packetBuf random).2.worker.lock = false

variable {layer} {worker : U2fHid υ} {random : BitVec 32}

theorem parseRequest_lock :
    ((u2fHidParseRequest layer worker random).2.2.lock, (u2fHidParseRequest layer worker random).2.2.lockCid) =
      lockAfter (worker.lock, worker.lockCid) worker.packet.request.locks := by
  by_cases locks : worker.packet.cmd = u2fHidLock
  · have ping : worker.packet.cmd ≠ u2fHidPing := by rw [locks]; decide
    have msg : worker.packet.cmd ≠ u2fHidMsg := by rw [locks]; decide
    rw [u2fHidParseRequest]
    rw [if_neg ping, if_neg msg, if_pos locks]
    by_cases one : worker.packet.len = 1
    · have asked : worker.packet.request.locks = some (worker.packet.cid, worker.packet.payload 0) := by
        rw [Request.locks, if_pos ⟨locks, one⟩, U2fHidPacket.request, one]
        rfl
      rw [if_neg (not_not_intro one), asked]
      dsimp only [lockAfter]
      split <;> rfl
    · have none : worker.packet.request.locks = Option.none := if_neg fun both => one both.2
      rw [if_pos one, none]
      rfl
  · have none : worker.packet.request.locks = Option.none := if_neg fun both => locks both.1
    rw [none, u2fHidParseRequest]
    dsimp only
    split_ifs <;> rfl

theorem finishPacket_lock :
    ((finishPacket layer worker random).2.lock, (finishPacket layer worker random).2.lockCid) =
      lockAfter (worker.lock, worker.lockCid) (finishPacket layer worker random).1.locks := by
  have parsed := @parseRequest_lock _ layer worker random
  rw [finishPacket]
  split
  · rcases result : u2fHidParseRequest layer worker random with ⟨valid, sent, next⟩
    rw [result] at parsed
    cases valid <;> exact parsed
  · rfl

theorem finishPacket_refuses (lock : worker.lock = true) {request : Request}
    (processed : (finishPacket layer worker random).1.processed = some request) (msg : request.cmd = u2fHidMsg)
    (other : request.cid ≠ worker.lockCid) :
    (finishPacket layer worker random).2.u2fInstance = worker.u2fInstance ∧
      ∃ payload : ByteMemory, payload 0 = u2fHidErrInvalidCmd ∧
        (finishPacket layer worker random).1.sent = u2fHidSendResponse ⟨request.cid, 1, u2fHidError, payload⟩ := by
  have parsed (cmd : worker.packet.cmd = u2fHidMsg) (cid : worker.packet.cid ≠ worker.lockCid) :
      u2fHidParseRequest layer worker random = (false, [], worker) := by
    have ping : worker.packet.cmd ≠ u2fHidPing := by rw [cmd]; decide
    rw [u2fHidParseRequest]
    rw [if_neg ping, if_pos cmd, if_pos ⟨lock, cid⟩]
  rw [finishPacket] at processed ⊢
  split at processed
  · next complete =>
    have equal : some worker.packet.request = some request := by
      rcases result : u2fHidParseRequest layer worker random with ⟨valid, sent, next⟩
      rw [result] at processed
      cases valid <;> exact processed
    obtain rfl := Option.some.inj equal
    rw [if_pos complete, parsed msg other]
    exact ⟨rfl, _, rfl, rfl⟩
  · cases processed

/-- A packet leaves lock and message layer alone until its message is complete. -/
theorem handleRequest_finishes (worker : U2fHid υ) (packetBuf : List (BitVec 8)) (random : BitVec 32) :
    ∃ ready : U2fHid υ, (ready.lock = worker.lock ∧ ready.lockCid = worker.lockCid ∧
        ready.u2fInstance = worker.u2fInstance) ∧
      (handleRequest layer worker packetBuf random = finishPacket layer ready random ∨
        handleRequest layer worker packetBuf random = (⟨none, []⟩, ready)) := by
  rw [handleRequest]
  dsimp only
  split_ifs
  all_goals first
    | refine ⟨_, ?_, Or.inr rfl⟩
      exact ⟨rfl, rfl, rfl⟩
    | refine ⟨_, ?_, Or.inl rfl⟩
      exact ⟨rfl, rfl, rfl⟩

theorem handleRequest_lock (packetBuf : List (BitVec 8)) :
    ((handleRequest layer worker packetBuf random).2.lock, (handleRequest layer worker packetBuf random).2.lockCid) =
      lockAfter (worker.lock, worker.lockCid) (handleRequest layer worker packetBuf random).1.locks := by
  obtain ⟨ready, ⟨lock, lockCid, -⟩, finishes | nothing⟩ := @handleRequest_finishes _ layer worker packetBuf random
  · rw [finishes, ← lock, ← lockCid, finishPacket_lock]
  · rw [nothing, ← lock, ← lockCid]
    rfl

theorem awaited_unlock (flags : BitVec 32) :
    (flags &&& ~~~workerEvtAwaited).getLsbD workerEvtUnlock = flags.getLsbD workerEvtUnlock := by
  have free : (~~~workerEvtAwaited).getLsbD workerEvtUnlock = true := by decide
  rw [BitVec.getLsbD_and, free, Bool.and_true]

theorem turn_cases (thread : WorkerThread υ) (packetBuf : List (BitVec 8)) (random : BitVec 32) :
    ((turn layer thread packetBuf random).1 = ⟨none, []⟩ ∧
      (turn layer thread packetBuf random).2.worker = thread.worker ∧
      (turn layer thread packetBuf random).2.owner = thread.owner ∧
      (turn layer thread packetBuf random).2.flags.getLsbD workerEvtUnlock = thread.flags.getLsbD workerEvtUnlock) ∨
    ∃ handled : Output × U2fHid υ, (turn layer thread packetBuf random).1 = handled.1 ∧
      (handled = (⟨none, []⟩, announced layer thread.worker thread.flags) ∨
        handled = handleRequest layer (announced layer thread.worker thread.flags) packetBuf random) ∧
      (turn layer thread packetBuf random).2.worker =
        (if thread.flags.getLsbD workerEvtUnlock then (u2fHidWorker layer handled.2 .unlock).2 else handled.2) ∧
      (turn layer thread packetBuf random).2.owner = ownerAfter thread.owner handled.1.locks ∧
      (turn layer thread packetBuf random).2.flags.getLsbD workerEvtUnlock = thread.flags.getLsbD workerEvtUnlock := by
  rw [turn, furiThreadFlagsWait]
  by_cases waits : workerEvtAwaited &&& thread.flags = 0#32
  · rw [if_pos waits]
    exact Or.inl ⟨rfl, rfl, rfl, rfl⟩
  rw [if_neg waits]
  dsimp only
  by_cases stops : thread.flags.getLsbD workerEvtStop = true
  · rw [if_pos stops]
    exact Or.inl ⟨rfl, rfl, rfl, awaited_unlock _⟩
  rw [if_neg stops]
  right
  by_cases asked : thread.flags.getLsbD workerEvtRequest = true
  · rw [if_pos asked]
    exact ⟨_, rfl, Or.inr rfl, rfl, rfl, awaited_unlock _⟩
  · rw [if_neg asked]
    exact ⟨_, rfl, Or.inl rfl, rfl, rfl, awaited_unlock _⟩

theorem announced_lock (worker : U2fHid υ) (flags : BitVec 32) :
    (announced layer worker flags).lock = worker.lock ∧ (announced layer worker flags).lockCid = worker.lockCid := by
  rw [announced]
  split_ifs <;> exact ⟨rfl, rfl⟩

/-- The owner's lock is the worker's, and no timer has expired since. -/
def Owned (thread : WorkerThread υ) : Prop :=
  ∀ owner, thread.owner = some owner →
    (thread.worker.lock, thread.worker.lockCid) = (true, owner) ∧ thread.flags.getLsbD workerEvtUnlock = false

theorem turn_owned {thread : WorkerThread υ} {packetBuf : List (BitVec 8)} (owned : Owned thread)
    (running : thread.running = true) (undisturbed : Undisturbed layer thread (.turn packetBuf random)) :
    Owned (turn layer thread packetBuf random).2 := by
  intro owner now
  obtain ⟨-, worker, owner', flags⟩ | ⟨handled, output, how, worker, owner', flags⟩ :=
    @turn_cases _ layer thread packetBuf random
  · rw [owner'] at now
    rw [worker, flags]
    exact owned owner now
  have lock : (handled.2.lock, handled.2.lockCid) = lockAfter (thread.worker.lock, thread.worker.lockCid) handled.1.locks := by
    obtain ⟨same, sameCid⟩ := @announced_lock _ layer thread.worker thread.flags
    rcases how with rfl | rfl
    · rw [← same, ← sameCid]
      rfl
    · rw [handleRequest_lock, same, sameCid]
  rw [Undisturbed, workerThread, if_pos running, output] at undisturbed
  rw [owner'] at now
  rw [flags, worker]
  cases asked : handled.1.locks with
  | none =>
    rw [asked] at now lock
    obtain ⟨held, clear⟩ := owned owner now
    rw [clear]
    exact ⟨lock.trans held, rfl⟩
  | some request =>
    obtain ⟨cid, timeout⟩ := request
    obtain ⟨mine, fresh⟩ := undisturbed _ asked
    rw [asked, ownerAfter, if_pos mine] at now
    rw [asked, lockAfter] at lock
    by_cases off : timeout = 0#8
    · rw [if_pos off] at now
      cases now
    · rw [if_neg off] at now lock
      rw [fresh off]
      exact ⟨lock.trans (congrArg (Prod.mk true) (Option.some.inj now)), rfl⟩

theorem workerThread_owned {thread : WorkerThread υ} {event : ThreadEvt} (owned : Owned thread)
    (undisturbed : Undisturbed layer thread event) : Owned (workerThread layer thread event).2 := by
  cases event with
  | set place =>
    dsimp only [workerThread]
    split
    · exact owned
    · next other =>
      intro owner now
      obtain ⟨held, clear⟩ := owned owner now
      refine ⟨held, ?_⟩
      rw [BitVec.getLsbD_or, clear, flag]
      simp [other]
  | expire =>
    dsimp only [workerThread]
    split
    · intro owner now
      cases now
    · exact owned
  | turn packetBuf random =>
    dsimp only [workerThread]
    split
    · next running => exact turn_owned owned running undisturbed
    · exact owned

theorem keepsLock_of_owned {thread : WorkerThread υ} (owned : Owned thread) : KeepsLock layer thread where
  held owner now := Prod.mk.inj (owned owner now).1
  refuses owner now packetBuf random request processed msg other := by
    obtain ⟨held, clear⟩ := owned owner now
    obtain ⟨held, heldCid⟩ := Prod.mk.inj held
    obtain ⟨same, sameCid⟩ := @announced_lock _ layer thread.worker thread.flags
    obtain ⟨nothing, -⟩ | ⟨handled, output, how, worker, -⟩ := @turn_cases _ layer thread packetBuf random
    · rw [nothing] at processed
      cases processed
    rw [Refused, worker, clear, output]
    rw [output] at processed
    rcases how with rfl | rfl
    · cases processed
    obtain ⟨ready, ⟨lock, lockCid, layer'⟩, finishes | nothing⟩ :=
      @handleRequest_finishes _ layer (announced layer thread.worker thread.flags) packetBuf random
    · rw [finishes] at processed ⊢
      rw [← layer']
      exact finishPacket_refuses (lock.trans (same.trans held)) processed msg
        (by rw [lockCid, sameCid, heldCid]; exact other)
    · rw [nothing] at processed
      cases processed
  gone expired packetBuf random some := by
    obtain ⟨nothing, -⟩ | ⟨handled, -, -, worker, -⟩ := @turn_cases _ layer thread packetBuf random
    · rw [nothing] at some
      exact absurd rfl some
    · rw [worker, if_pos expired]
      rfl

/-- **Locks are kept** in runs without lock requests of other channels and without locks after an expiry. -/
theorem locks_are_kept (layer : MessageLayer υ) (u2fInst : υ) {events : List ThreadEvt}
    (undisturbed : (workerThread layer).RunMeets (Undisturbed layer) (startThread u2fInst) events) :
    (workerThread layer).Throughout (KeepsLock layer) (startThread u2fInst) events :=
  have start : Owned (startThread u2fInst) := fun owner now => by cases now
  (Machine.throughout_of_step (fun _ _ owned => workerThread_owned owned) start undisturbed).imp fun _ => keepsLock_of_owned

/-- A valid lock request for a second by channel 1. -/
def lockPacket : List (BitVec 8) := fillPacket [1#8, 0#8, 0#8, 0#8, u2fHidLock, 0#8, 1#8, 1#8]

theorem single_lock_is_kept : (workerThread silentLayer).Throughout (KeepsLock silentLayer) (startThread ())
    [.set workerEvtRequest, .turn lockPacket 0#32, .expire, .set workerEvtConnect, .turn [] 0#32] :=
  locks_are_kept silentLayer () (by decide +kernel)

/-- A lock that is taken after another one's expiry is released in the same turn. -/
theorem second_lock_is_released : ¬ KeepsLock silentLayer ((workerThread silentLayer).run (startThread ())
    [.set workerEvtRequest, .turn lockPacket 0#32, .expire, .set workerEvtRequest, .turn lockPacket 0#32]).2 := by
  intro keeps
  have held := (keeps.held 1#32 (by decide +kernel)).1
  exact absurd held (by decide +kernel)

end Xtreme.U2f
