import Xtreme.Expansion.ExpansionWorker
import Mathlib.Data.List.Count

/-! Every run of the expansion worker keeps its books. A ledger notes the RPC records and
sessions that are open and refuses what nobody may do: to close what is not open, to open a
second session, to feed or acknowledge without one. The ledger takes the whole run, and no
entry is left at the exit. -/
namespace Xtreme.Expansion

/-- What is open: records, the session with its semaphore. -/
structure Ledger (σ : Type*) where
  records : Nat
  session : Option σ
  semaphore : Bool
  deriving DecidableEq, Repr

namespace Ledger
variable {σ : Type*}

def empty : Ledger σ := ⟨0, none, false⟩

variable [DecidableEq σ]

def enter (ledger : Ledger σ) : Effect σ → Option (Ledger σ)
  | .recordOpen => some { ledger with records := ledger.records + 1 }
  | .recordClose =>
    if 0 < ledger.records ∧ ledger.session = none then
      some { ledger with records := ledger.records - 1 }
    else none
  | .sessionOpen session =>
    if 0 < ledger.records ∧ ledger.session = none then some { ledger with session := session }
    else none
  | .sessionClose session =>
    if ledger.session = some session then some { ledger with session := none } else none
  | .semaphoreAlloc =>
    if ledger.session.isSome ∧ !ledger.semaphore then some { ledger with semaphore := true }
    else none
  | .semaphoreFree => if ledger.semaphore then some { ledger with semaphore := false } else none
  | .semaphoreRelease =>
    if ledger.session.isSome ∧ ledger.semaphore then some ledger else none
  | .feed session _ => if session.isSome ∧ session = ledger.session then some ledger else none
  | .serialInit _ | .serialSetBr _ | .send _ | .callbackConnected | .callbackExit => some ledger

def enterAll (ledger : Ledger σ) (effects : List (Effect σ)) : Option (Ledger σ) :=
  effects.foldlM enter ledger

@[simp] theorem enterAll_nil (ledger : Ledger σ) : ledger.enterAll [] = some ledger := rfl

@[simp] theorem enterAll_cons (ledger : Ledger σ) (effect : Effect σ) (effects : List (Effect σ)) :
    ledger.enterAll (effect :: effects) = (ledger.enter effect).bind (·.enterAll effects) := rfl

theorem enterAll_append (ledger : Ledger σ) (effects more : List (Effect σ)) :
    ledger.enterAll (effects ++ more) = (ledger.enterAll effects).bind (·.enterAll more) :=
  List.foldlM_append

theorem enter_counts {ledger next : Ledger σ} {effect : Effect σ} (entered : ledger.enter effect = some next) :
    ledger.records + [effect].count .recordOpen = next.records + [effect].count .recordClose ∧
    ∀ session, (if ledger.session = some session then 1 else 0) + [effect].count (.sessionOpen (some session)) =
      (if next.session = some session then 1 else 0) + [effect].count (.sessionClose session) := by
  cases effect with
  | recordOpen =>
    cases entered
    simp
  | recordClose =>
    simp only [enter, Option.ite_none_right_eq_some] at entered
    obtain ⟨⟨positive, -⟩, ⟨⟩⟩ := entered
    refine ⟨?_, by simp⟩
    change ledger.records + 0 = ledger.records - 1 + 1
    omega
  | sessionOpen opened =>
    simp only [enter, Option.ite_none_right_eq_some] at entered
    obtain ⟨⟨-, closed⟩, ⟨⟩⟩ := entered
    refine ⟨by simp, fun session => ?_⟩
    by_cases same : opened = some session <;> simp [closed, same]
  | sessionClose closed =>
    simp only [enter, Option.ite_none_right_eq_some] at entered
    obtain ⟨opened, ⟨⟩⟩ := entered
    refine ⟨by simp, fun session => ?_⟩
    by_cases same : closed = session <;> simp [opened, same]
  | feed fed bytes =>
    simp only [enter, Option.ite_none_right_eq_some] at entered
    obtain ⟨-, ⟨⟩⟩ := entered
    simp
  | semaphoreAlloc | semaphoreFree | semaphoreRelease =>
    simp only [enter, Option.ite_none_right_eq_some] at entered
    obtain ⟨-, ⟨⟩⟩ := entered
    simp
  | serialInit | serialSetBr | send | callbackConnected | callbackExit =>
    cases entered
    simp

theorem enterAll_counts {ledger next : Ledger σ} {effects : List (Effect σ)}
    (entered : ledger.enterAll effects = some next) :
    ledger.records + effects.count .recordOpen = next.records + effects.count .recordClose ∧
    ∀ session, (if ledger.session = some session then 1 else 0) + effects.count (.sessionOpen (some session)) =
      (if next.session = some session then 1 else 0) + effects.count (.sessionClose session) := by
  induction effects generalizing ledger with
  | nil =>
    cases entered
    exact ⟨rfl, fun _ => rfl⟩
  | cons effect effects rest =>
    obtain ⟨middle, first, last⟩ := Option.bind_eq_some_iff.mp entered
    obtain ⟨records, sessions⟩ := enter_counts first
    obtain ⟨recordsRest, sessionsRest⟩ := rest last
    have split (what : Effect σ) :
        (effect :: effects).count what = [effect].count what + effects.count what :=
      @List.count_append _ _ _ [effect] effects
    refine ⟨?_, fun session => ?_⟩
    · rw [split, split]
      omega
    · have before := sessions session
      have after := sessionsRest session
      rw [split, split]
      omega

end Ledger

variable {σ : Type*}

/-- What a worker has open. -/
def ExpansionWorker.booked (worker : ExpansionWorker σ) : Ledger σ :=
  if worker.state = .rpcActive then ⟨1, worker.rpcSession, worker.rpcSession.isSome⟩ else .empty

/-- A worker that is in a state with a session has one. It holds between frames, not at the exit. -/
def ExpansionWorker.Served (worker : ExpansionWorker σ) : Prop :=
  worker.state = .rpcActive → worker.rpcSession.isSome

theorem booked_idle {worker : ExpansionWorker σ} (idle : worker.state ≠ .rpcActive) :
    worker.booked = .empty := if_neg idle

theorem booked_active {worker : ExpansionWorker σ} (active : worker.state = .rpcActive) :
    worker.booked = ⟨1, worker.rpcSession, worker.rpcSession.isSome⟩ := if_pos active

/-- What a session must be open for. -/
def Effect.needsSession : Effect σ → Bool
  | .feed _ _ | .semaphoreRelease => true
  | _ => false

variable [DecidableEq σ]

theorem session_needed {ledger next : Ledger σ} {effect : Effect σ} (needed : effect.needsSession)
    (entered : ledger.enter effect = some next) : ledger.session.isSome := by
  cases effect with
  | feed session bytes =>
    simp only [Ledger.enter, Option.ite_none_right_eq_some] at entered
    obtain ⟨⟨given, same⟩, -⟩ := entered
    exact same ▸ given
  | semaphoreRelease =>
    simp only [Ledger.enter, Option.ite_none_right_eq_some] at entered
    exact entered.1.1
  | _ => cases needed

variable (worker : ExpansionWorker σ)

theorem open_booked (outcome : Outcome σ) :
    Ledger.empty.enterAll (expansionWorkerRpcSessionOpen worker outcome).2.2 =
      some ⟨1, outcome.session, outcome.session.isSome⟩ := by
  cases opened : outcome.session with
  | none => simp [expansionWorkerRpcSessionOpen, opened, Ledger.enter, Ledger.empty]
  | some session => simp [expansionWorkerRpcSessionOpen, opened, Ledger.enter, Ledger.empty]

theorem close_booked : Ledger.enterAll ⟨1, worker.rpcSession, worker.rpcSession.isSome⟩
      (expansionWorkerRpcSessionClose worker) = some .empty := by
  cases opened : worker.rpcSession with
  | none => simp [expansionWorkerRpcSessionClose, opened, Ledger.enter, Ledger.empty]
  | some session => simp [expansionWorkerRpcSessionClose, opened, Ledger.enter, Ledger.empty]

/-- A handler did its part: the ledger takes its effects, and the worker is served unless
the handler failed. -/
def Settles (ledger : Ledger σ) (answer : Bool × ExpansionWorker σ × List (Effect σ)) : Prop :=
  ledger.enterAll answer.2.2 = some answer.2.1.booked ∧ (answer.1 = true → answer.2.1.Served)

/-- Without a session, effects that need none are taken. -/
theorem settles_idle {worker : ExpansionWorker σ} (idle : worker.state ≠ .rpcActive) (success : Bool)
    {effects : List (Effect σ)} (taken : Ledger.empty.enterAll effects = some .empty) :
    Settles .empty (success, worker, effects) :=
  ⟨by rw [booked_idle idle]; exact taken, fun _ active => absurd active idle⟩

theorem handshake_settles {worker : ExpansionWorker σ} (state : worker.state = .handShake)
    (rxFrame : Memory) (outcome : Outcome σ) :
    Settles worker.booked (handleStateHandshake worker rxFrame outcome) := by
  have idle : worker.state ≠ .rpcActive := by simp [state]
  rw [booked_idle idle, handleStateHandshake]
  split
  · exact settles_idle idle false rfl
  · split
    · split
      · exact settles_idle (by simp) false rfl
      · exact settles_idle (by simp) true rfl
    · exact settles_idle idle outcome.sent rfl

theorem connected_settles {worker : ExpansionWorker σ} (state : worker.state = .connected)
    (rxFrame : Memory) (outcome : Outcome σ) :
    Settles worker.booked (handleStateConnected worker rxFrame outcome) := by
  have idle : worker.state ≠ .rpcActive := by simp [state]
  rw [booked_idle idle, handleStateConnected]
  split
  · split
    · exact settles_idle idle false rfl
    · have opened := open_booked { worker with state := .rpcActive } outcome
      have same : (expansionWorkerRpcSessionOpen { worker with state := .rpcActive } outcome).2.1 =
        { worker with state := .rpcActive, rpcSession := outcome.session } := rfl
      rcases ran : expansionWorkerRpcSessionOpen { worker with state := .rpcActive } outcome with
        ⟨success, next, effects⟩
      have answered : success = outcome.session.isSome := (congrArg Prod.fst ran).symm
      rw [ran] at opened same
      dsimp only at opened same ⊢
      split
      · refine ⟨?_, fun failed => nomatch failed⟩
        rw [opened, same]
        rfl
      · rename_i succeeded
        refine ⟨?_, fun _ _ => ?_⟩
        · rw [Ledger.enterAll_append, opened, same]
          rfl
        · rw [same]
          simpa [answered, Option.isSome_iff_ne_none] using succeeded
  · split
    · exact settles_idle idle outcome.sent rfl
    · exact settles_idle idle false rfl

theorem rpcActive_settles {worker : ExpansionWorker σ} (state : worker.state = .rpcActive)
    (served : worker.Served) (rxFrame : Memory) (outcome : Outcome σ) :
    Settles worker.booked (handleStateRpcActive worker rxFrame outcome) := by
  have opened := served state
  -- A handler that leaves the state and the session alone needs a ledger that stays.
  have stays (success : Bool) {effects : List (Effect σ)}
      (taken : worker.booked.enterAll effects = some worker.booked) :
      Settles worker.booked (success, worker, effects) := ⟨taken, fun _ => served⟩
  rw [handleStateRpcActive]
  split
  · split
    · exact stays false rfl
    · refine stays _ ?_
      simp [Ledger.enter, booked_active state, opened]
  · split
    · split
      · exact stays false rfl
      · have closed := close_booked { worker with state := .connected }
        refine ⟨?_, fun _ active => nomatch active⟩
        rw [Ledger.enterAll_append, booked_active state, closed]
        rfl
    · split
      · split
        · exact stays false rfl
        · refine stays true ?_
          simp [Ledger.enter, booked_active state, opened]
      · split
        · exact stays outcome.sent rfl
        · exact stays false rfl

/-- What one frame does, whatever the state. -/
theorem handlers_settle {worker : ExpansionWorker σ} (served : worker.Served) (rxFrame : Memory)
    (outcome : Outcome σ) : Settles worker.booked (expansionHandlers worker rxFrame outcome) := by
  unfold expansionHandlers
  cases state : worker.state with
  | handShake => exact handshake_settles state rxFrame outcome
  | connected => exact connected_settles state rxFrame outcome
  | rpcActive => exact rpcActive_settles state served rxFrame outcome

/-- The ledger takes all that the loop does, and shows what the worker is left with. -/
theorem stateMachine_booked {worker : ExpansionWorker σ} (served : worker.Served) (arrivals : List (Arrival σ)) :
    let (last, trace) := expansionWorkerStateMachine worker arrivals
    worker.booked.enterAll (trace.map Prod.snd) = some last.booked := by
  induction arrivals generalizing worker with
  | nil => rfl
  | cons arrival arrivals rest =>
    have settles := @handlers_settle _ _ (worker.noteReason arrival.exitReason) served
      arrival.rxFrame arrival.outcome
    rw [expansionWorkerStateMachine]
    rcases ran : expansionHandlers (worker.noteReason arrival.exitReason) arrival.rxFrame
      arrival.outcome with ⟨success, next, effects⟩
    rw [ran] at settles
    obtain ⟨taken, keeps⟩ := settles
    have same : (worker.noteReason arrival.exitReason).booked = worker.booked := rfl
    have plain : (effects.map ((worker.noteReason arrival.exitReason).state, ·)).map Prod.snd =
      effects := List.map_map.trans (List.map_id effects)
    cases success with
    | false =>
      simp only [Bool.false_eq_true, if_false]
      rw [plain, ← same, taken]
    | true =>
      have more := rest (keeps rfl)
      simp only [if_true, List.map_append]
      rw [plain, Ledger.enterAll_append, ← same, taken]
      exact more

omit [DecidableEq σ] in
theorem setBr_handshake {worker : ExpansionWorker σ} {rxFrame : Memory} {outcome : Outcome σ}
    {baud : BitVec 32} (changed : .serialSetBr baud ∈ (expansionHandlers worker rxFrame outcome).2.2) :
    worker.state = .handShake := by
  unfold expansionHandlers at changed
  cases state : worker.state with
  | handShake => rfl
  | connected =>
    simp only [state, handleStateConnected, expansionWorkerRpcSessionOpen] at changed
    grind
  | rpcActive =>
    simp only [state, handleStateRpcActive, expansionWorkerRpcSessionClose] at changed
    grind

omit [DecidableEq σ] in
theorem stateMachine_setBr {worker : ExpansionWorker σ} {arrivals : List (Arrival σ)}
    {state : ExpansionWorkerState} {baud : BitVec 32}
    (changed : (state, .serialSetBr baud) ∈ (expansionWorkerStateMachine worker arrivals).2) :
    state = .handShake := by
  induction arrivals generalizing worker with
  | nil => cases changed
  | cons arrival arrivals rest =>
    rw [expansionWorkerStateMachine] at changed
    have here (member : (state, .serialSetBr baud) ∈
        (expansionHandlers (worker.noteReason arrival.exitReason) arrival.rxFrame
          arrival.outcome).2.2.map ((worker.noteReason arrival.exitReason).state, ·)) :
        state = .handShake := by
      obtain ⟨effect, listed, same⟩ := List.mem_map.mp member
      cases same
      exact setBr_handshake listed
    dsimp only at changed
    split at changed
    · rcases List.mem_append.mp changed with now | later
      · exact here now
      · exact rest later
    · exact here changed

omit [DecidableEq σ] in
theorem close_setBr (baud : BitVec 32) :
    .serialSetBr baud ∉ expansionWorkerRpcSessionClose worker := by
  unfold expansionWorkerRpcSessionClose
  cases worker.rpcSession <;> simp

/-- An exit leaves no entry, whatever the loop stopped at. -/
theorem exit_settles :
    worker.booked.enterAll (if worker.state = .rpcActive then expansionWorkerRpcSessionClose worker
      else []) = some .empty := by
  split
  · rename_i active
    rw [booked_active active]
    exact close_booked worker
  · rename_i idle
    rw [booked_idle idle]
    rfl

omit [DecidableEq σ] in
theorem expansionWorker_setBr {rpcSession : Option σ} {heartbeatSent : Bool}
    {arrivals : List (Arrival σ)} {lastReason : Option ExpansionWorkerExitReason}
    {state : ExpansionWorkerState} {baud : BitVec 32}
    (changed : (state, .serialSetBr baud) ∈
      expansionWorker rpcSession heartbeatSent arrivals lastReason) : state = .handShake := by
  rw [expansionWorker] at changed
  have ends (last : ExpansionWorker σ) : .serialSetBr baud ∉
      (if last.state = .rpcActive then expansionWorkerRpcSessionClose last else []) ++
        if last.exitReason ≠ .user then [.callbackExit] else [] := by
    have closing := close_setBr last baud
    split <;> split <;> simp [closing]
  simp only [List.mem_append, List.mem_map, Prod.mk.injEq] at changed
  rcases changed with (⟨effect, listed, rfl, rfl⟩ | looped) | ⟨effect, listed, rfl, rfl⟩
  · rfl
  · cases heartbeatSent with
    | false => cases looped
    | true => exact stateMachine_setBr looped
  · exact absurd (List.mem_append.mpr listed) (ends _)

theorem expansionWorker_booked (rpcSession : Option σ) (heartbeatSent : Bool)
    (arrivals : List (Arrival σ)) (lastReason : Option ExpansionWorkerExitReason) :
    Ledger.empty.enterAll ((expansionWorker rpcSession heartbeatSent arrivals lastReason).map Prod.snd) =
        some .empty := by
  have plain (state : ExpansionWorkerState) (effects : List (Effect σ)) :
      (effects.map (state, ·)).map Prod.snd = effects := List.map_map.trans (List.map_id effects)
  -- From what the loop leaves behind, the exit closes the rest.
  have leaves (last : ExpansionWorker σ) (trace : Trace σ)
      (looped : Ledger.empty.enterAll (trace.map Prod.snd) = some last.booked) :
      Ledger.empty.enterAll (trace.map Prod.snd ++
        ((if last.state = .rpcActive then expansionWorkerRpcSessionClose last else []) ++
          if last.exitReason ≠ .user then [.callbackExit] else [])) = some .empty := by
    rw [Ledger.enterAll_append, looped, Option.bind_some, Ledger.enterAll_append, exit_settles]
    split <;> rfl
  rw [expansionWorker]
  simp only [List.map_append, plain]
  cases heartbeatSent with
  | false => exact leaves ⟨.handShake, .unknown, rpcSession⟩ [] rfl
  | true =>
    have looped := @stateMachine_booked _ _ ⟨.handShake, .unknown, rpcSession⟩
      (fun active => nomatch active) arrivals
    exact leaves (ExpansionWorker.noteReason _ lastReason) _ looped

/-- **Sessions settle.** In every run of the worker, each session that was opened is closed
once and before another is opened, the record is closed as often as it was opened, nothing is
fed and no acknowledgement released without an open session, and the baud rate changes only in
the handshake. -/
theorem sessions_settle (rpcSession : Option σ) (heartbeatSent : Bool)
    (arrivals : List (Arrival σ)) (lastReason : Option ExpansionWorkerExitReason) :
    let trace := expansionWorker rpcSession heartbeatSent arrivals lastReason
    let effects := trace.map Prod.snd
    Ledger.empty.enterAll effects = some .empty ∧ effects.count .recordOpen = effects.count .recordClose ∧
      (∀ session, effects.count (.sessionOpen (some session)) = effects.count (.sessionClose session)) ∧
      (∀ before effect after, effects = before ++ effect :: after → effect.needsSession →
        ∃ ledger, Ledger.empty.enterAll before = some ledger ∧ ledger.session.isSome) ∧
      ∀ state baud, (state, .serialSetBr baud) ∈ trace → state = .handShake := by
  intro trace effects
  have booked : Ledger.empty.enterAll effects = some .empty :=
    expansionWorker_booked rpcSession heartbeatSent arrivals lastReason
  obtain ⟨records, sessions⟩ := Ledger.enterAll_counts booked
  refine ⟨booked, by simpa [Ledger.empty] using records, fun session => ?_, ?_, ?_⟩
  · simpa [Ledger.empty] using sessions session
  · intro before effect after split needed
    rw [split, Ledger.enterAll_append] at booked
    obtain ⟨ledger, entered, rest⟩ := Option.bind_eq_some_iff.mp booked
    obtain ⟨next, taken, -⟩ := Option.bind_eq_some_iff.mp rest
    exact ⟨ledger, entered, session_needed needed taken⟩
  · intro state baud changed
    exact expansionWorker_setBr changed

end Xtreme.Expansion
