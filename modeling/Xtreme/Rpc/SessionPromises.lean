import Xtreme.Rpc.StorageSession

/-! What a client can rely on. In every session one record stays open; all else is given
back, and in a session whose client stops a write once it is answered, and does not mix it
with backups or invalid paths, every command is answered once, and a write is answered as
good only if all of it is in the file. -/
namespace Xtreme.Rpc
open Library

/-! ### The file of a write -/

def Act.onFile (file : Bytes) : Act → Bytes
  | .takes (.opened .write) => []
  | .writes data => file ++ data
  | _ => file

/-- What is in the file that was written last. -/
def fileAfter (file : Bytes) (acts : List Act) : Bytes := acts.foldl Act.onFile file

theorem fileAfter_append (file : Bytes) (acts acts' : List Act) :
    fileAfter file (acts ++ acts') = fileAfter (fileAfter file acts) acts' := List.foldl_append

theorem reset_fileAfter (file : Bytes) (system : RpcStorageSystem) (sendError : Bool) :
    fileAfter file (rpcSystemStorageResetState system sendError).1 = file := by
  obtain ⟨state, currentCommandId, fileIsOpen⟩ := system
  cases state <;> cases sendError <;> cases fileIsOpen <;> rfl

def FileOpen (system : RpcStorageSystem) : Prop := system.state = .writing → system.fileIsOpen = true

/-- A response that all is well. -/
def Accepts (commandId : CommandId) (acts : List Act) : Prop := rpcSendAndReleaseEmpty commandId .ok ∈ acts

instance (commandId : CommandId) (acts : List Act) : Decidable (Accepts commandId acts) :=
  inferInstanceAs (Decidable (_ ∈ _))

theorem not_accepts_reset (commandId : CommandId) (system : RpcStorageSystem) (sendError : Bool) :
    ¬ Accepts commandId (rpcSystemStorageResetState system sendError).1 := by
  obtain ⟨state, currentCommandId, fileIsOpen⟩ := system
  cases state <;> cases sendError <;> cases fileIsOpen <;>
    simp [Accepts, rpcSystemStorageResetState, rpcSendAndReleaseEmpty]

section Write
variable {system : RpcStorageSystem} {call : StorageCall} {data : Bytes}

theorem writeChunk_whole (opened : Bool) (good : Accepts call.commandId (writeChunk system call data opened).1 ∨
      (writeChunk system call data opened).2.state = .writing) (file : Bytes) :
    opened = true ∧ fileAfter file (writeChunk system call data opened).1 = file ++ data := by
  rw [writeChunk] at good ⊢
  have answered : ∀ writes status, (∀ act ∈ writes, ∃ data, act = Act.writes data) → status ≠ CommandStatus.ok →
      ¬ Accepts call.commandId (writes ++ rpcSendAndReleaseEmpty system.currentCommandId status ::
        (rpcSystemStorageResetState system false).1) := by
    intro writes status only bad accepts
    rcases List.mem_append.mp accepts with write | send
    · obtain ⟨data, write⟩ := only _ write
      cases write
    · rcases List.mem_cons.mp send with send | close
      · exact bad (Act.sends.inj send).2.1.symm
      · exact not_accepts_reset _ _ _ close
  cases success : opened && (data.take call.answers.written).length == data.length with
  | true =>
    obtain ⟨rfl, whole⟩ := (Bool.and_eq_true _ _).mp success
    have whole : data.take call.answers.written = data := (List.take_prefix _ _).eq_of_length (eq_of_beq whole)
    have written : fileAfter file (if true = true ∧ data ≠ [] then [.writes (data.take call.answers.written)] else []) =
        file ++ data := by
      cases data with
      | nil => exact (List.append_nil file).symm
      | cons byte data =>
        rw [whole]
        rfl
    refine ⟨rfl, ?_⟩
    split
    · rw [fileAfter_append, written]
      exact reset_fileAfter _ system false
    · exact written
  | false =>
    rw [success] at good
    rw [if_pos (by rfl)] at good
    rcases good with accepts | pending
    · refine absurd accepts (answered _ _ (fun act member => ?_) ?_)
      · split at member
        · exact ⟨_, List.mem_singleton.mp member⟩
        · exact absurd member List.not_mem_nil
      · rw [if_neg Bool.false_ne_true]
        split
        · decide
        · assumption
    · rw [reset_state] at pending
      cases pending

theorem writeChunk_pending {opened : Bool} (pending : (writeChunk system call data opened).2.state = .writing) :
    (writeChunk system call data opened).2 = system := by
  obtain ⟨writes, -, -, chunk | ⟨status, chunk⟩⟩ := writeChunk_cases system call data opened
  · rw [chunk]
  · rw [chunk, reset_state] at pending
    cases pending

theorem writeOpen_whole (opened : (writeOpen system call).2.2 = true) (file : Bytes) :
    fileAfter file (writeOpen system call).1 = if system.state = .writing then file else [] := by
  obtain ⟨state, currentCommandId, fileIsOpen⟩ := system
  cases state with
  | writing => rfl
  | idle =>
    have opens : call.answers.opens = true := opened
    simp [writeOpen, opens, fileAfter, Act.onFile]

theorem writeOpen_fileOpen (fileOpen : FileOpen system) (opened : (writeOpen system call).2.2 = true) :
    (writeOpen system call).2.1.fileIsOpen = true := by
  obtain ⟨state, currentCommandId, fileIsOpen⟩ := system
  cases state with
  | writing => exact fileOpen rfl
  | idle => exact opened

theorem not_accepts_open (commandId : CommandId) (system : RpcStorageSystem) (call : StorageCall) :
    ¬ Accepts commandId (writeOpen system call).1 := by
  obtain ⟨state, currentCommandId, fileIsOpen⟩ := system
  cases state <;> cases opens : call.answers.opens <;> simp [Accepts, writeOpen, rpcSendAndReleaseEmpty]

theorem accepts_chunk {commandId : CommandId} {before chunk : List Act} (none : ¬ Accepts commandId before)
    (accepts : Accepts commandId (before ++ (writeOpen system call).1 ++ chunk)) : Accepts commandId chunk := by
  rcases List.mem_append.mp accepts with earlier | here
  · rcases List.mem_append.mp earlier with reset | opens
    · exact absurd reset none
    · exact absurd opens (not_accepts_open _ _ _)
  · exact here

/-- **A write that is not answered with an error has its chunk in the file**, behind those
before it if it was pending. -/
theorem write_whole {path : Option Path} (fileOpen : FileOpen system)
    (good : Accepts call.commandId (rpcSystemStorageWrite system call path data).1 ∨
      (rpcSystemStorageWrite system call path data).2.state = .writing) (file : Bytes) :
    fileAfter file (rpcSystemStorageWrite system call path data).1 =
        (if Pending system call.commandId then file else []) ++ data ∧
      ((rpcSystemStorageWrite system call path data).2.state = .writing →
        (rpcSystemStorageWrite system call path data).2.currentCommandId = call.commandId ∧
          (rpcSystemStorageWrite system call path data).2.fileIsOpen = true) := by
  rw [rpcSystemStorageWrite] at good ⊢
  split at good
  · rcases good with accepts | pending
    · rcases List.mem_cons.mp accepts with send | close
      · exact absurd (Act.sends.inj send).2.1 (by decide)
      · exact absurd close (not_accepts_reset _ _ _)
    · rw [reset_state] at pending
      cases pending
  · rename_i valid
    rw [if_neg valid]
    dsimp only at good ⊢
    by_cases interrupts : call.commandId ≠ system.currentCommandId ∧ system.state = .writing
    · rw [if_pos interrupts] at good ⊢
      have idle : FileOpen (rpcSystemStorageResetState system true).2 := fun writing => by
        rw [reset_state] at writing
        cases writing
      obtain ⟨opened, whole⟩ := writeChunk_whole _ (good.imp_left (accepts_chunk (not_accepts_reset _ _ _)))
        (fileAfter file ((rpcSystemStorageResetState system true).1 ++
          (writeOpen (rpcSystemStorageResetState system true).2 call).1))
      have other : ¬ Pending system call.commandId := fun pending => interrupts.1 pending.2.symm
      constructor
      · rw [fileAfter_append, whole, fileAfter_append, writeOpen_whole opened, reset_state,
          if_neg (show RpcStorageState.idle ≠ .writing by decide), if_neg other]
      · intro pending
        rw [writeChunk_pending pending]
        refine ⟨?_, writeOpen_fileOpen idle opened⟩
        rw [writeOpen_current, reset_state, if_neg (show RpcStorageState.idle ≠ .writing by decide)]
    · rw [if_neg interrupts] at good ⊢
      obtain ⟨opened, whole⟩ := writeChunk_whole _ (good.imp_left (accepts_chunk List.not_mem_nil))
        (fileAfter file (writeOpen system call).1)
      have same : system.state = .writing → system.currentCommandId = call.commandId := fun writing => by
        by_contra other
        exact interrupts ⟨fun same => other same.symm, writing⟩
      constructor
      · rw [List.nil_append, fileAfter_append, whole, writeOpen_whole opened]
        by_cases writing : system.state = .writing
        · rw [if_pos writing, if_pos ⟨writing, same writing⟩]
        · rw [if_neg writing, if_neg fun pending => writing pending.1]
      · intro pending
        rw [writeChunk_pending pending]
        refine ⟨?_, writeOpen_fileOpen fileOpen opened⟩
        rw [writeOpen_current]
        split
        · exact same ‹_›
        · rfl

end Write

/-- The bytes of a write. -/
def StorageCall.data (call : StorageCall) : Bytes := match call.content with
  | .write _ data => data
  | _ => []

def chunks (commandId : CommandId) (calls : List StorageCall) : Bytes :=
  (calls.filter (·.commandId = commandId)).flatMap StorageCall.data

section Runs
variable (count : Nat)

def stateAfter (calls : List StorageCall) : RpcStorageSystem :=
  ((rpcStorage count).run rpcSystemStorageAlloc.2 calls).2

theorem stateAfter_snoc (calls : List StorageCall) (call : StorageCall) :
    stateAfter count (calls ++ [call]) = (rpcStorage count (stateAfter count calls) call).2 := by
  rw [stateAfter, Machine.run_append]
  rfl

theorem sessionActs_snoc (calls : List StorageCall) (call : StorageCall) : sessionActs count (calls ++ [call]) =
      sessionActs count calls ++ (rpcStorage count (stateAfter count calls) call).1 := by
  rw [sessionActs, Machine.run_append, List.flatten_append, ← List.append_assoc]
  exact congrArg _ (List.append_nil _)

/-- **In every session one record is not given back**, and nothing else. -/
theorem session_net (calls : List StorageCall) (resource : Resource) :
    net resource (session count calls) = if .record = resource then 1 else 0 := by
  have step : ∀ system call, True → net resource (rpcStorage count system call).1 +
      -held (rpcStorage count system call).2 resource = -held system resource + 0 := fun system call _ => by
    rw [← step_net count system call resource]
    abel
  have conserved := Machine.run_conserves (fun system call => net resource (rpcStorage count system call).1)
    (fun _ _ => 0) (fun system => -held system resource) step
    (Machine.runMeets_of_forall (fun _ _ => trivial) rpcSystemStorageAlloc.2 calls)
  rw [Machine.runSum_zero, ← Machine.measure_run _ (net resource) rfl (net_append resource)] at conserved
  have start : held rpcSystemStorageAlloc.2 resource = 0 := rfl
  rw [start] at conserved
  rw [session, sessionActs, net_append, net_append, rpcSystemStorageFree, reset_net, add_assoc, conserved]
  simp [rpcSystemStorageAlloc]

theorem step_fileOpen {system : RpcStorageSystem} (fileOpen : FileOpen system) (call : StorageCall) :
    FileOpen (rpcStorage count system call).2 := by
  rcases rpcStorage_cases count system call with ⟨path, data, -, -, step⟩ | ⟨-, -, ⟨-, step⟩ | ⟨-, step⟩⟩
  · rw [step]
    exact fun pending => ((write_whole fileOpen (Or.inr pending) []).2 pending).2
  · rwa [step]
  · rw [step]
    exact fun pending => absurd ((reset_state system true).symm.trans pending) (by decide)

/-- What a client may send behind some calls: a chunk of the write that is pending, or a
command of its own that can end it. -/
structure Allowed (earlier : List StorageCall) (call : StorageCall) : Prop where
  fresh : ¬ Continues (stateAfter count earlier) call → call.commandId ∉ earlier.map StorageCall.commandId
  ends : ¬ Continues (stateAfter count earlier) call → (stateAfter count earlier).state = .writing →
    call.validPath = true ∧ call.isBackup = false

/-- A client that keeps to this, and does not leave before its last write is over. -/
def Orderly : (earlier calls : List StorageCall) → Prop
  | earlier, [] => (stateAfter count earlier).state = .idle
  | earlier, call :: calls => Allowed count earlier call ∧ Orderly (earlier ++ [call]) calls

/-- Where a session of such a client stands. -/
structure Steady (earlier : List StorageCall) : Prop where
  fileOpen : FileOpen (stateAfter count earlier)
  known : ∀ {commandId}, Pending (stateAfter count earlier) commandId → commandId ∈ earlier.map StorageCall.commandId
  whole : ∀ {commandId}, Pending (stateAfter count earlier) commandId →
    fileAfter [] (sessionActs count earlier) = chunks commandId earlier
  once : ∀ commandId, finals commandId (sessionActs count earlier) +
    (if Pending (stateAfter count earlier) commandId then 1 else 0) =
      if commandId ∈ earlier.map StorageCall.commandId then 1 else 0

variable {count} {earlier : List StorageCall} {call : StorageCall}

theorem steady_nil : Steady count [] where
  fileOpen := nofun
  known pending := absurd pending (not_pending rfl _)
  whole pending := absurd pending (not_pending rfl _)
  once _ := rfl

theorem chunks_snoc (call : StorageCall) :
    chunks call.commandId (earlier ++ [call]) = chunks call.commandId earlier ++ call.data := by
  simp [chunks]

theorem chunks_fresh {commandId : CommandId} (fresh : commandId ∉ earlier.map StorageCall.commandId) :
    chunks commandId earlier = [] := by
  have none : earlier.filter (·.commandId = commandId) = [] := by
    refine List.filter_eq_nil_iff.mpr fun call member same => fresh ?_
    rw [← of_decide_eq_true same]
    exact List.mem_map_of_mem member
  rw [chunks, none]
  rfl

/-- **A write that is not answered with an error is in the file** with all its chunks. -/
theorem Steady.wholeFile (steady : Steady count earlier) (allowed : Allowed count earlier call)
    (isWrite : call.isWrite = true) (good : Accepts call.commandId (rpcStorage count (stateAfter count earlier) call).1 ∨
      (stateAfter count (earlier ++ [call])).state = .writing) :
    fileAfter [] (sessionActs count (earlier ++ [call])) = chunks call.commandId (earlier ++ [call]) := by
  rcases rpcStorage_cases count (stateAfter count earlier) call with ⟨path, data, content, -, step⟩ | ⟨other, -⟩
  · have same : call.data = data := by rw [StorageCall.data, content]
    rw [stateAfter_snoc, step] at good
    rw [sessionActs_snoc, fileAfter_append, step, (write_whole steady.fileOpen good _).1, chunks_snoc, same]
    by_cases pending : Pending (stateAfter count earlier) call.commandId
    · rw [if_pos pending, steady.whole pending]
    · rw [if_neg pending, chunks_fresh (allowed.fresh fun continues => pending continues.2)]
  · exact absurd (isWrite.symm.trans other) (by decide)

theorem Steady.pending_next (steady : Steady count earlier) (allowed : Allowed count earlier call)
    {commandId : CommandId} (pending : Pending (stateAfter count (earlier ++ [call])) commandId) :
    call.isWrite = true ∧ call.commandId = commandId := by
  rw [stateAfter_snoc] at pending
  rcases rpcStorage_cases count (stateAfter count earlier) call with
    ⟨path, data, -, isWrite, step⟩ | ⟨other, -, ⟨backup, step⟩ | ⟨-, step⟩⟩
  · rw [step] at pending
    have kept := (write_whole steady.fileOpen (Or.inr pending.1) []).2 pending.1
    exact ⟨isWrite, kept.1.symm.trans pending.2⟩
  · rw [step] at pending
    have begins : ¬ Continues (stateAfter count earlier) call := fun continues =>
      Bool.false_ne_true (other.symm.trans continues.1)
    exact absurd (backup.symm.trans (allowed.ends begins pending.1).2) (by decide)
  · rw [step] at pending
    exact absurd pending (not_pending (reset_state _ true) _)

theorem Steady.step (steady : Steady count earlier) (allowed : Allowed count earlier call) :
    Steady count (earlier ++ [call]) where
  fileOpen := by
    rw [stateAfter_snoc]
    exact step_fileOpen count steady.fileOpen call
  known pending := by
    rw [← (steady.pending_next allowed pending).2]
    exact List.mem_map_of_mem (List.mem_append_right _ (List.mem_singleton_self call))
  whole pending := by
    obtain ⟨isWrite, same⟩ := steady.pending_next allowed pending
    rw [← same]
    exact steady.wholeFile allowed isWrite (Or.inr pending.1)
  once commandId := by
    have clean : Clean (stateAfter count earlier) call := fun writing other =>
      (allowed.ends (fun continues => other continues.2) writing).1
    have before := steady.once commandId
    have step := step_finals count clean commandId
    rw [sessionActs_snoc, finals_append, stateAfter_snoc, Nat.add_assoc, step, ← Nat.add_assoc, before]
    by_cases here : commandId ∈ earlier.map StorageCall.commandId
    · have goesOn : ¬ (call.commandId = commandId ∧ ¬ Continues (stateAfter count earlier) call) := by
        rintro ⟨rfl, begins⟩
        exact allowed.fresh begins here
      rw [if_pos here, if_neg goesOn, if_pos (by rw [List.map_append]; exact List.mem_append_left _ here)]
    · have begins : call.commandId = commandId → ¬ Continues (stateAfter count earlier) call := by
        rintro rfl continues
        exact here (steady.known continues.2)
      have member : commandId ∈ (earlier ++ [call]).map StorageCall.commandId ↔ call.commandId = commandId := by
        simp only [List.map_append, List.mem_append, here, false_or, List.map_cons, List.map_nil, List.mem_singleton]
        exact eq_comm
      simp only [if_neg here, member]
      by_cases same : call.commandId = commandId
      · rw [if_pos same, if_pos ⟨same, begins same⟩]
      · rw [if_neg same, if_neg fun both => same both.1]

/-- A command that ends a pending write first answers it as interrupted and closes it, and
then does what it does when none is pending. -/
theorem step_interrupts {system : RpcStorageSystem} {commandId : CommandId} (fileOpen : FileOpen system)
    (pending : Pending system commandId) (begins : ¬ Continues system call) (valid : call.validPath = true)
    (ends : call.isBackup = false) :
    (rpcStorage count system call).1 =
      [rpcSendAndReleaseEmpty commandId .continuousCommandInterrupted, .gives (.opened .write), .gives (.file .write),
        .gives .record] ++ (rpcStorage count (rpcSystemStorageResetState system true).2 call).1 := by
  have interrupts : (rpcSystemStorageResetState system true).1 =
      [rpcSendAndReleaseEmpty commandId .continuousCommandInterrupted, .gives (.opened .write), .gives (.file .write),
        .gives .record] := by
    obtain ⟨state, currentCommandId, fileIsOpen⟩ := system
    obtain ⟨rfl, rfl⟩ := pending
    have isOpen : fileIsOpen = true := fileOpen rfl
    rw [isOpen]
    rfl
  rcases rpcStorage_cases count system call with ⟨path, data, content, isWrite, step⟩ | ⟨other, -, ⟨backup, -⟩ | ⟨-, step⟩⟩
  · have again : rpcStorage count (rpcSystemStorageResetState system true).2 call =
        rpcSystemStorageWrite (rpcSystemStorageResetState system true).2 call path data := by
      rw [rpcStorage, content]
    have ended : call.commandId ≠ system.currentCommandId ∧ system.state = .writing :=
      ⟨fun same => begins ⟨isWrite, pending.1, same.symm⟩, pending.1⟩
    have idle : ¬ (call.commandId ≠ (rpcSystemStorageResetState system true).2.currentCommandId ∧
        (rpcSystemStorageResetState system true).2.state = .writing) := by
      rw [reset_state]
      exact fun both => absurd both.2 (by decide)
    rw [StorageCall.validPath, content] at valid
    rw [step, again, ← interrupts, rpcSystemStorageWrite, rpcSystemStorageWrite]
    simp only [valid, Bool.not_true, Bool.false_eq_true, if_false, if_pos ended, if_neg idle, List.nil_append,
      List.append_assoc]
  · exact absurd (backup.symm.trans ends) (by decide)
  · have idle : (rpcSystemStorageResetState (rpcSystemStorageResetState system true).2 true).1 = [] := by
      rw [rpcSystemStorageResetState, reset_state]
    rcases rpcStorage_cases count (rpcSystemStorageResetState system true).2 call with
      ⟨_, _, _, isWrite, -⟩ | ⟨-, -, ⟨backup, -⟩ | ⟨-, again⟩⟩
    · exact absurd (isWrite.symm.trans other) (by decide)
    · exact absurd (backup.symm.trans ends) (by decide)
    · rw [step, again, idle, ← interrupts, List.nil_append]

/-- What a session promises: every command is answered once; a write is answered as good
only with all its chunks in the file; a write that another command interrupts is answered
and closed before; and all but some records are given back. -/
structure Promises (count : Nat) (leak : Int) (calls : List StorageCall) : Prop where
  once : ∀ call ∈ calls, finals call.commandId (session count calls) = 1
  whole : ∀ earlier call later, calls = earlier ++ call :: later → call.isWrite = true →
    Accepts call.commandId (rpcStorage count (stateAfter count earlier) call).1 →
    fileAfter [] (sessionActs count (earlier ++ [call])) = chunks call.commandId (earlier ++ [call])
  interrupted : ∀ earlier call later commandId, calls = earlier ++ call :: later →
    Pending (stateAfter count earlier) commandId → ¬ Continues (stateAfter count earlier) call →
    (rpcStorage count (stateAfter count earlier) call).1 =
      [rpcSendAndReleaseEmpty commandId .continuousCommandInterrupted, .gives (.opened .write), .gives (.file .write),
        .gives .record] ++ (rpcStorage count (rpcSystemStorageResetState (stateAfter count earlier) true).2 call).1
  files : ∀ handle, net (.file handle) (session count calls) = 0 ∧ net (.opened handle) (session count calls) = 0
  records : net .record (session count calls) = leak

theorem Orderly.split {before later : List StorageCall} (steady : Steady count earlier)
    (orderly : Orderly count earlier (before ++ later)) :
    Steady count (earlier ++ before) ∧ Orderly count (earlier ++ before) later := by
  induction before generalizing earlier with
  | nil =>
    rw [List.append_nil]
    exact ⟨steady, orderly⟩
  | cons call before next =>
    have onward := next (steady.step orderly.1) orderly.2
    rwa [List.append_assoc] at onward

/-- **A session never gives all its records back.** To a client that keeps to the protocol
it keeps every other promise. -/
theorem session_leaks_record (count : Nat) (calls : List StorageCall) :
    ¬ Promises count 0 calls ∧ (Orderly count [] calls → Promises count 1 calls) := by
  have leaks : net .record (session count calls) = 1 := by simp [session_net]
  refine ⟨fun promises => absurd (promises.records.symm.trans leaks) (by decide), fun orderly => ?_⟩
  have final : Steady count ([] ++ calls) ∧ Orderly count ([] ++ calls) [] :=
    Orderly.split steady_nil (by rwa [List.append_nil])
  rw [List.nil_append] at final
  refine ⟨fun call member => ?_, fun earlier call later split isWrite accepts => ?_,
    fun earlier call later commandId split pending begins => ?_, fun handle => ?_, leaks⟩
  · have once := final.1.once call.commandId
    rw [if_neg (not_pending final.2 _), if_pos (List.mem_map_of_mem member), Nat.add_zero] at once
    rw [session, finals_append, once, rpcSystemStorageFree, reset_finals, if_neg (by simp)]
  · rw [split] at orderly
    obtain ⟨steady, allowed, -⟩ := orderly.split steady_nil
    exact steady.wholeFile allowed isWrite (Or.inl accepts)
  · rw [split] at orderly
    obtain ⟨steady, allowed, -⟩ := orderly.split steady_nil
    obtain ⟨valid, ends⟩ := allowed.ends begins pending.1
    exact step_interrupts steady.fileOpen pending begins valid ends
  · simp [session_net]

end Runs

/-! A storage where all goes well. -/

def goodAnswers : StorageAnswers :=
  { error := .ok, statError := .ok, totalSpace := 0, freeSpace := 0, timestamp := 0, isDir := false, size := 0,
    opens := true, fileError := .ok, reads := [], written := 512, entries := [], md5 := .computed "", removed := true,
    backupOk := true }

def writeCall (commandId : CommandId) (hasNext : Bool) (byte : BitVec 8) (answers : StorageAnswers) : StorageCall :=
  ⟨commandId, hasNext, .write (some "/ext/a".toList) [byte], answers⟩

/-- A write that another command interrupts, and one that ends. -/
def orderlyCalls : List StorageCall :=
  [writeCall 1#32 true 1#8 goodAnswers, ⟨2#32, false, .mkdir (some "/ext/b".toList), goodAnswers⟩,
    writeCall 3#32 true 1#8 goodAnswers, writeCall 3#32 false 2#8 goodAnswers]

theorem orderly_calls_keep_promises : Promises 8 1 orderlyCalls :=
  (session_leaks_record 8 orderlyCalls).2
    ⟨⟨by decide +kernel, by decide +kernel⟩, ⟨by decide +kernel, by decide +kernel⟩,
      ⟨by decide +kernel, by decide +kernel⟩, ⟨by decide +kernel, by decide +kernel⟩,
      show (stateAfter 8 orderlyCalls).state = .idle by decide +kernel⟩

/-- A write of three chunks whose first one does not fit. -/
def fullCardCalls : List StorageCall :=
  [writeCall 1#32 true 1#8 { goodAnswers with written := 0 }, writeCall 1#32 true 2#8 goodAnswers,
    writeCall 1#32 false 3#8 goodAnswers]

/-- The chunks behind one that failed begin the write anew, which is then answered as good. -/
theorem failed_write_begins_anew :
    finals 1#32 (session 8 fullCardCalls) = 2 ∧ Accepts 1#32 (session 8 fullCardCalls) ∧
      fileAfter [] (session 8 fullCardCalls) = [2#8, 3#8] ∧ net .record (session 8 fullCardCalls) = 1 ∧
      ¬ Promises 8 0 fullCardCalls := by
  have twice : finals 1#32 (session 8 fullCardCalls) = 2 := by decide +kernel
  refine ⟨twice, by decide +kernel, by decide +kernel, by decide +kernel, fun promises => ?_⟩
  exact absurd (twice.symm.trans (promises.once _ List.mem_cons_self)) (by decide)

end Xtreme.Rpc
