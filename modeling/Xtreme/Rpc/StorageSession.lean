import Mathlib.Tactic.Abel
import Xtreme.Library.Conservation
import Xtreme.Rpc.RpcStorage

/-! The promises of a storage session. What its commands take they give back, but for the
record that a session begins with, which its end forgets (`session_leaks_record`). Whether
every command is answered once depends on the client: a chunk that comes after its write
was answered begins a new one. -/
namespace Xtreme.Rpc
open Library

def Act.effect (resource : Resource) : Act → Int
  | .takes taken => if taken = resource then 1 else 0
  | .gives given => if given = resource then -1 else 0
  | _ => 0

def net (resource : Resource) (acts : List Act) : Int := (acts.map (Act.effect resource)).sum

section Net
variable (resource : Resource) (acts acts' : List Act)

@[simp] theorem net_nil : net resource [] = 0 := rfl

@[simp] theorem net_takes (taken : Resource) :
    net resource (.takes taken :: acts) = (if taken = resource then 1 else 0) + net resource acts := by
  simp [net, Act.effect]

@[simp] theorem net_gives (given : Resource) :
    net resource (.gives given :: acts) = -(if given = resource then 1 else 0) + net resource acts := by
  by_cases same : given = resource <;> simp [net, Act.effect, same]

@[simp] theorem net_writes (data : Bytes) : net resource (.writes data :: acts) = net resource acts := by
  simp [net, Act.effect]

@[simp] theorem net_sends (commandId : CommandId) (status : CommandStatus) (hasNext : Bool) (content : ResponseContent) :
    net resource (.sends commandId status hasNext content :: acts) = net resource acts := by
  simp [net, Act.effect]

@[simp] theorem net_empty (commandId : CommandId) (status : CommandStatus) :
    net resource (rpcSendAndReleaseEmpty commandId status :: acts) = net resource acts := net_sends ..

@[simp] theorem net_append : net resource (acts ++ acts') = net resource acts + net resource acts' := by
  simp [net]

end Net

/-- Whether an act is the last response to a command. -/
def Act.isFinal (commandId : CommandId) : Act → Bool
  | .sends answered _ hasNext _ => answered = commandId && !hasNext
  | _ => false

def finals (commandId : CommandId) (acts : List Act) : Nat := acts.countP (Act.isFinal commandId)

section Finals
variable (commandId : CommandId) (acts acts' : List Act)

@[simp] theorem finals_nil : finals commandId [] = 0 := rfl

@[simp] theorem finals_takes (taken : Resource) : finals commandId (.takes taken :: acts) = finals commandId acts :=
  List.countP_cons_of_neg Bool.false_ne_true

@[simp] theorem finals_gives (given : Resource) : finals commandId (.gives given :: acts) = finals commandId acts :=
  List.countP_cons_of_neg Bool.false_ne_true

@[simp] theorem finals_writes (data : Bytes) : finals commandId (.writes data :: acts) = finals commandId acts :=
  List.countP_cons_of_neg Bool.false_ne_true

@[simp] theorem finals_more (answered : CommandId) (status : CommandStatus) (content : ResponseContent) :
    finals commandId (.sends answered status true content :: acts) = finals commandId acts :=
  List.countP_cons_of_neg (by simp [Act.isFinal])

@[simp] theorem finals_final (answered : CommandId) (status : CommandStatus) (content : ResponseContent) :
    finals commandId (.sends answered status false content :: acts) =
      (if answered = commandId then 1 else 0) + finals commandId acts := by
  rw [finals, List.countP_cons, Nat.add_comm]
  simp [Act.isFinal, finals]

@[simp] theorem finals_empty (answered : CommandId) (status : CommandStatus) :
    finals commandId (rpcSendAndReleaseEmpty answered status :: acts) =
      (if answered = commandId then 1 else 0) + finals commandId acts := finals_final ..

@[simp] theorem finals_append : finals commandId (acts ++ acts') = finals commandId acts + finals commandId acts' :=
  List.countP_append

end Finals

/-- Acts that give back what they take and send a number of final responses to a command. -/
structure Tally (commandId : CommandId) (answers : Nat) (acts : List Act) : Prop where
  net : ∀ resource, net resource acts = 0
  finals : ∀ other, finals other acts = if commandId = other then answers else 0

section Commands
variable {call : StorageCall}

theorem md5CalcFile_tally (commandId : CommandId) (outcome : Md5Outcome) : Tally commandId 0 (md5CalcFile outcome) := by
  constructor <;> intro <;> cases outcome <;> simp [md5CalcFile]

theorem listLoop_tally (count : Nat) (includeMd5 : Bool) (filterMaxSize : Nat) (entries : List DirEntry)
    (files : List ListedFile) (slots : Nat → Option String) :
    Tally call.commandId 1 (listLoop count call includeMd5 filterMaxSize entries files slots) := by
  induction entries generalizing files slots with
  | nil => constructor <;> intro <;> simp [listLoop]
  | cons entry entries next =>
    rw [listLoop]
    split
    · have md5 := md5CalcFile_tally call.commandId entry.md5
      constructor <;> intro other <;> dsimp only
      · rw [net_append, net_append, (next _ _).net]
        split <;> split <;> simp [md5.net]
      · rw [finals_append, finals_append, (next _ _).finals]
        split <;> split <;> simp [md5.finals]
    · exact next files slots

theorem readLoop_tally (reads : List Bytes) (sizeLeft : Nat) :
    Tally call.commandId (readLoop call reads sizeLeft).2.toNat (readLoop call reads sizeLeft).1 := by
  induction reads generalizing sizeLeft with
  | nil => constructor <;> intro <;> cases sizeLeft <;> simp [readLoop]
  | cons chunk reads next =>
    cases sizeLeft with
    | zero => constructor <;> intro <;> simp [readLoop]
    | succ sizeLeft =>
      rw [readLoop]
      dsimp only
      split
      · split
        · constructor <;> intro <;> simp
        · exact ⟨fun resource => by rw [net_sends, (next _).net], fun other => by rw [finals_more, (next _).finals]⟩
      · constructor <;> intro <;> simp

theorem isDirIsEmpty_tally (answers : StorageAnswers) : Tally call.commandId 0 (rpcSystemStorageIsDirIsEmpty answers).1 := by
  rw [rpcSystemStorageIsDirIsEmpty]
  split
  · constructor <;> intro <;> split <;> simp
  · constructor <;> intro <;> simp

/-- **A command other than a write sends one final response**, and gives back what it takes. -/
theorem commandActs_tally (count : Nat) (other : ∀ path data, call.content ≠ .write path data) :
    Tally call.commandId 1 (commandActs count call) := by
  rw [commandActs]
  cases content : call.content with
  | info | timestamp | stat =>
    constructor <;> intro <;>
      simp [rpcSystemStorageInfo, rpcSystemStorageTimestamp, rpcSystemStorageStat, commonCall]
  | list path includeMd5 filterMaxSize =>
    have files := @listLoop_tally call count includeMd5 filterMaxSize call.answers.entries [] fun _ => none
    dsimp only
    rw [rpcSystemStorageList]
    split
    · constructor <;> intro <;> simp [rpcSystemStorageListRoot]
    · constructor <;> intro
      · split <;> simp [files.net] <;> abel
      · split <;> simp [files.finals]
  | read =>
    have sent := @readLoop_tally call call.answers.reads call.answers.size
    dsimp only
    rw [rpcSystemStorageRead]
    cases loop : readLoop call call.answers.reads call.answers.size with
    | mk acts success =>
      rw [loop] at sent
      constructor <;> intro
      · split <;> cases success <;> simp [sent.net]
      · split <;> cases success <;> simp [sent.finals]
  | write path data => exact absurd content (other path data)
  | delete path recursive =>
    have looks := @isDirIsEmpty_tally call call.answers
    cases path with
    | none => constructor <;> intro <;> simp [rpcSystemStorageDelete, closedCall]
    | some path =>
      dsimp only
      rw [rpcSystemStorageDelete]
      constructor <;> intro <;> dsimp only <;> split <;> simp [looks.net, looks.finals]
  | md5sum path =>
    have md5 := md5CalcFile_tally call.commandId call.answers.md5
    cases path with
    | none => constructor <;> intro <;> simp [rpcSystemStorageMd5sum]
    | some path =>
      dsimp only
      rw [rpcSystemStorageMd5sum]
      constructor <;> intro
      · split <;> simp [md5.net]
      · split <;> simp [md5.finals]
  | mkdir | rename | backupCreate | backupRestore =>
    constructor <;> intro <;>
      simp [rpcSystemStorageMkdir, rpcSystemStorageRename, rpcSystemStorageBackup, closedCall]

end Commands

/-! ### Writes -/

/-- What a state holds. -/
def held (system : RpcStorageSystem) (resource : Resource) : Int :=
  match system.state with
  | .idle => 0
  | .writing =>
    (if .record = resource then 1 else 0) + (if .file .write = resource then 1 else 0) +
      (if system.fileIsOpen then (if .opened .write = resource then 1 else 0) else 0)

/-- The write of the given command is not over. -/
def Pending (system : RpcStorageSystem) (commandId : CommandId) : Prop :=
  system.state = .writing ∧ system.currentCommandId = commandId

instance (system : RpcStorageSystem) (commandId : CommandId) : Decidable (Pending system commandId) :=
  inferInstanceAs (Decidable (_ ∧ _))

section Reset
variable (system : RpcStorageSystem) (sendError : Bool)

@[simp] theorem reset_state : (rpcSystemStorageResetState system sendError).2.state = .idle := by
  rw [rpcSystemStorageResetState]
  cases state : system.state <;> simp [state]

theorem reset_net (resource : Resource) :
    net resource (rpcSystemStorageResetState system sendError).1 = -held system resource := by
  obtain ⟨state, currentCommandId, fileIsOpen⟩ := system
  rw [rpcSystemStorageResetState]
  cases state with
  | idle => simp [held]
  | writing =>
    cases sendError <;> cases fileIsOpen <;> simp [held]

theorem reset_finals (commandId : CommandId) : finals commandId (rpcSystemStorageResetState system sendError).1 =
      if sendError = true ∧ Pending system commandId then 1 else 0 := by
  obtain ⟨state, currentCommandId, fileIsOpen⟩ := system
  rw [rpcSystemStorageResetState]
  cases state with
  | idle => simp [Pending]
  | writing => cases sendError <;> cases fileIsOpen <;> simp [Pending]

end Reset

section Write
variable {system : RpcStorageSystem} {call : StorageCall}

theorem held_idle (idle : system.state = .idle) (resource : Resource) : held system resource = 0 := by
  rw [held, idle]

theorem not_pending (idle : system.state = .idle) (commandId : CommandId) : ¬ Pending system commandId := fun pending =>
  RpcStorageState.noConfusion (idle.symm.trans pending.1)

theorem writeOpen_net (system : RpcStorageSystem) (call : StorageCall) (resource : Resource) :
    net resource (writeOpen system call).1 + held system resource = held (writeOpen system call).2.1 resource := by
  obtain ⟨state, currentCommandId, fileIsOpen⟩ := system
  cases state with
  | writing => simp [writeOpen]
  | idle =>
    cases opens : call.answers.opens <;> simp [writeOpen, held, opens]
    abel

theorem writeOpen_finals (system : RpcStorageSystem) (call : StorageCall) (commandId : CommandId) :
    finals commandId (writeOpen system call).1 = 0 := by
  obtain ⟨state, currentCommandId, fileIsOpen⟩ := system
  cases state with
  | writing => simp [writeOpen]
  | idle => cases opens : call.answers.opens <;> simp [writeOpen, opens]

theorem writeOpen_writing (system : RpcStorageSystem) (call : StorageCall) :
    (writeOpen system call).2.1.state = .writing := by
  obtain ⟨state, currentCommandId, fileIsOpen⟩ := system
  cases state <;> rfl

theorem writeOpen_current (system : RpcStorageSystem) (call : StorageCall) :
    (writeOpen system call).2.1.currentCommandId =
      if system.state = .writing then system.currentCommandId else call.commandId := by
  obtain ⟨state, currentCommandId, fileIsOpen⟩ := system
  cases state <;> rfl

theorem writeChunk_cases (system : RpcStorageSystem) (call : StorageCall) (data : Bytes) (opened : Bool) :
    ∃ writes, (∀ resource, net resource writes = 0) ∧ (∀ commandId, finals commandId writes = 0) ∧
      (writeChunk system call data opened = (writes, system) ∨ ∃ status, writeChunk system call data opened =
          (writes ++ rpcSendAndReleaseEmpty system.currentCommandId status ::
            (rpcSystemStorageResetState system false).1, (rpcSystemStorageResetState system false).2)) := by
  refine ⟨if opened ∧ data ≠ [] then [.writes (data.take call.answers.written)] else [], ?_, ?_, ?_⟩
  · intro resource
    split <;> simp
  · intro commandId
    split <;> simp
  · rw [writeChunk]
    dsimp only
    split
    · exact Or.inr ⟨_, rfl⟩
    · exact Or.inl rfl

theorem writeChunk_net (data : Bytes) (opened : Bool) (resource : Resource) :
    net resource (writeChunk system call data opened).1 + held system resource =
      held (writeChunk system call data opened).2 resource := by
  obtain ⟨writes, none, -, chunk | ⟨status, chunk⟩⟩ := writeChunk_cases system call data opened
  · simp [chunk, none]
  · rw [chunk, held_idle (reset_state system false)]
    simp [none, reset_net]

theorem writeChunk_finals (writing : system.state = .writing) (data : Bytes) (opened : Bool) (commandId : CommandId) :
    finals commandId (writeChunk system call data opened).1 +
        (if Pending (writeChunk system call data opened).2 commandId then 1 else 0) =
      if system.currentCommandId = commandId then 1 else 0 := by
  obtain ⟨writes, -, none, chunk | ⟨status, chunk⟩⟩ := writeChunk_cases system call data opened
  · simp [chunk, none, Pending, writing]
  · rw [chunk, if_neg (not_pending (reset_state system false) commandId)]
    simp [none, reset_finals]

theorem write_net (path : Option Path) (data : Bytes) (resource : Resource) :
    net resource (rpcSystemStorageWrite system call path data).1 + held system resource =
      held (rpcSystemStorageWrite system call path data).2 resource := by
  rw [rpcSystemStorageWrite]
  split
  · have closes := reset_net { system with currentCommandId := call.commandId } false resource
    have same : held { system with currentCommandId := call.commandId } resource = held system resource := rfl
    simp [closes, same, held_idle]
  · dsimp only
    split
    · have opens := writeOpen_net (rpcSystemStorageResetState system true).2 call resource
      rw [held_idle (reset_state system true), add_zero] at opens
      rw [← @writeChunk_net _ call data]
      simp [reset_net, opens]
      abel
    · rw [← @writeChunk_net _ call data, ← writeOpen_net system call resource]
      simp
      abel

def StorageCall.isWrite (call : StorageCall) : Bool := match call.content with
  | .write _ _ => true
  | _ => false

/-- The calls that leave the state of a write alone. -/
def StorageCall.isBackup (call : StorageCall) : Bool := match call.content with
  | .backupCreate _ | .backupRestore _ => true
  | _ => false

/-- A write to an invalid path is answered as such. -/
def StorageCall.validPath (call : StorageCall) : Bool := match call.content with
  | .write path _ => pathContainsOnlyAscii path
  | _ => true

/-- A call that goes on with the write that is pending. -/
def Continues (system : RpcStorageSystem) (call : StorageCall) : Prop :=
  call.isWrite = true ∧ Pending system call.commandId

instance (system : RpcStorageSystem) (call : StorageCall) : Decidable (Continues system call) :=
  inferInstanceAs (Decidable (_ ∧ _))

/-- A write does not come with an invalid path while another one is pending. -/
def Clean (system : RpcStorageSystem) (call : StorageCall) : Prop :=
  system.state = .writing → ¬ Pending system call.commandId → call.validPath = true

instance (system : RpcStorageSystem) (call : StorageCall) : Decidable (Clean system call) :=
  inferInstanceAs (Decidable (_ → _ → _))

theorem write_finals {path : Option Path} {data : Bytes} (content : call.content = .write path data)
    (clean : Clean system call) (commandId : CommandId) :
    finals commandId (rpcSystemStorageWrite system call path data).1 +
        (if Pending (rpcSystemStorageWrite system call path data).2 commandId then 1 else 0) =
      (if Pending system commandId then 1 else 0) +
        if call.commandId = commandId ∧ ¬ Pending system call.commandId then 1 else 0 := by
  have valid : call.validPath = pathContainsOnlyAscii path := by rw [StorageCall.validPath, content]
  rw [rpcSystemStorageWrite]
  split
  · rename_i invalid
    have idle : system.state = .writing → system.currentCommandId = call.commandId := fun writing => by
      by_contra other
      have here := clean writing fun pending => other pending.2
      rw [valid] at here
      simp [here] at invalid
    rw [if_neg (not_pending (reset_state _ false) commandId)]
    simp only [finals_empty, reset_finals, Bool.false_eq_true, false_and, if_false, Nat.add_zero]
    cases state : system.state with
    | idle => simp [Pending, state]
    | writing => simp [Pending, state, idle state]
  · dsimp only
    split
    · rename_i interrupts
      have other : ¬ Pending system call.commandId := fun pending => interrupts.1 pending.2.symm
      have chunk := @writeChunk_finals _ call (writeOpen_writing (rpcSystemStorageResetState system true).2 call) data
        (writeOpen (rpcSystemStorageResetState system true).2 call).2.2 commandId
      rw [writeOpen_current, reset_state, if_neg (show RpcStorageState.idle ≠ .writing by decide)] at chunk
      rw [finals_append, finals_append, reset_finals, writeOpen_finals, Nat.add_zero, Nat.add_assoc, chunk]
      simp [other]
    · rename_i goesOn
      have chunk := @writeChunk_finals _ call (writeOpen_writing system call) data (writeOpen system call).2.2 commandId
      rw [writeOpen_current] at chunk
      rw [finals_append, finals_append, finals_nil, writeOpen_finals, Nat.zero_add]
      refine chunk.trans ?_
      cases state : system.state with
      | idle => simp [Pending, state]
      | writing =>
        have same : system.currentCommandId = call.commandId := by
          by_contra other
          exact goesOn ⟨fun same => other same.symm, state⟩
        simp [Pending, state, same]

end Write

section Steps
variable (count : Nat) {system : RpcStorageSystem} {call : StorageCall}

theorem rpcStorage_cases (system : RpcStorageSystem) (call : StorageCall) :
    (∃ path data, call.content = .write path data ∧ call.isWrite = true ∧
        rpcStorage count system call = rpcSystemStorageWrite system call path data) ∨
      call.isWrite = false ∧ (∀ path data, call.content ≠ .write path data) ∧
        (call.isBackup = true ∧ rpcStorage count system call = (commandActs count call, system) ∨
          call.isBackup = false ∧ rpcStorage count system call =
            ((rpcSystemStorageResetState system true).1 ++ commandActs count call,
              (rpcSystemStorageResetState system true).2)) := by
  rw [rpcStorage, StorageCall.isWrite, StorageCall.isBackup]
  cases content : call.content with
  | write path data => exact Or.inl ⟨path, data, rfl, rfl, rfl⟩
  | backupCreate | backupRestore => exact Or.inr ⟨rfl, nofun, Or.inl ⟨rfl, rfl⟩⟩
  | info | timestamp | stat | list | read | delete | mkdir | md5sum | rename =>
    exact Or.inr ⟨rfl, nofun, Or.inr ⟨rfl, rfl⟩⟩

/-- **What a step takes and does not give back its state holds.** -/
theorem step_net (system : RpcStorageSystem) (call : StorageCall) (resource : Resource) :
    net resource (rpcStorage count system call).1 + held system resource =
      held (rpcStorage count system call).2 resource := by
  rcases rpcStorage_cases count system call with ⟨path, data, -, -, step⟩ | ⟨-, other, ⟨-, step⟩ | ⟨-, step⟩⟩
  · rw [step]
    exact write_net path data resource
  · rw [step, (commandActs_tally count other).net, zero_add]
  · rw [step, held_idle (reset_state system true)]
    simp [(commandActs_tally count other).net, reset_net]

/-- **A step answers what it begins and what was pending**, but for the write that it leaves pending. -/
theorem step_finals (clean : Clean system call) (commandId : CommandId) :
    finals commandId (rpcStorage count system call).1 +
        (if Pending (rpcStorage count system call).2 commandId then 1 else 0) =
      (if Pending system commandId then 1 else 0) +
        if call.commandId = commandId ∧ ¬ Continues system call then 1 else 0 := by
  rcases rpcStorage_cases count system call with ⟨path, data, content, isWrite, step⟩ | ⟨isWrite, other, step⟩
  · rw [step, write_finals content clean]
    simp [Continues, isWrite]
  · have begins : ¬ Continues system call := fun continues => Bool.false_ne_true (isWrite.symm.trans continues.1)
    have tally := (commandActs_tally count other).finals commandId
    rcases step with ⟨-, step⟩ | ⟨-, step⟩
    · rw [step, tally, Nat.add_comm]
      simp [begins]
    · rw [step, if_neg (not_pending (reset_state system true) commandId), finals_append, reset_finals, tally]
      simp [begins]

end Steps

end Xtreme.Rpc
