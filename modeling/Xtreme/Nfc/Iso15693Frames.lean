import Xtreme.Nfc.Iso15693Requests

/-! What the programs of the ISO15693-3 listener leave as it is. A property that
has nothing to do with the response, the session and what is noted of a request is
kept by every program that only looks at the card. -/
namespace Xtreme.Nfc
open Xtreme.Library BitLib Toolbox
open Effect (fault observe update Preserves)

/-- A property that a look at a request and work on the response do not disturb. -/
structure Looking (holds : Iso15693_3Listener → Prop) : Prop where
  read : ∀ instanc place, holds instanc → holds (instanc.traced (.requestByte place))
  response : ∀ instanc bytes, holds instanc → holds { instanc with txBuffer := bytes }

/-- A property that work on a request does not disturb, apart from what a handler
writes. -/
structure Undisturbed (holds : Iso15693_3Listener → Prop) : Prop where
  noted : ∀ instanc step, (∀ handler, step ≠ .called handler) → holds instanc → holds (instanc.traced step)
  response : ∀ instanc bytes, holds instanc → holds { instanc with txBuffer := bytes }
  session : ∀ instanc session, holds instanc → holds { instanc with sessionState := session }

/-- The handlers that write what they are told to, now or after an EOF. -/
def Iso15693_3RequestHandler.isWriteType : Iso15693_3RequestHandler → Bool
  | writeBlock | lockBlock | writeMultiBlocks | writeAfi | lockAfi | writeDsfid | lockDsfid => true
  | _ => false

def Keeping {α : Type} (holds : Iso15693_3Listener → Prop) (program : Iso15693_3M α) : Prop :=
  Preserves holds (fun _ => True) program

namespace Looking
variable {holds : Iso15693_3Listener → Prop} (free : Looking holds)
include free

variable (request : Iso15693_3RequestData)

theorem keeps_readRequest (index : Nat) :
    Keeping holds (readRequest request index) :=
  .bind (.update fun instanc kept => free.read instanc _ kept) fun _ => .pure _

theorem keeps_readRequestBytes (first count : Nat) :
    Keeping holds (readRequestBytes request first count) := by
  unfold readRequestBytes
  have := @Effect.lawful Iso15693_3Fault Iso15693_3Listener
  induction List.range' first count with
  | nil => exact .pure _
  | cons index rest ih =>
    rw [List.mapM_cons]
    exact .bind (free.keeps_readRequest request index) fun _ => .bind ih fun _ => .pure _

omit free in
theorem keeps_furiAssert {condition : Prop} [Decidable condition] (failure : Iso15693_3Fault) :
    Keeping holds (furiAssert condition failure) :=
  .bind (.observe _) fun _ => .ite (fun _ => .fault trivial) fun _ => .pure _

theorem keeps_appendBytes (bytes : List (BitVec 8)) : Keeping holds (appendBytes bytes) :=
  .bind (.observe _) fun _ => .bind (keeps_furiAssert _) fun _ => .update fun instanc kept => free.response instanc _ kept

theorem keeps_resetTxBuffer : Keeping holds resetTxBuffer := .update fun instanc kept => free.response instanc _ kept

omit free in
theorem keeps_checkBlockNumber (blockNum : Nat) : Keeping holds (checkBlockNumber blockNum) :=
  .bind (.observe _) fun _ => keeps_furiAssert _

theorem keeps_appendUid : Keeping holds iso15693_3AppendUid :=
  .bind (.observe _) fun _ => free.keeps_appendBytes _

theorem keeps_appendBlock (index : Nat) : Keeping holds (iso15693_3AppendBlock index) :=
  .bind (keeps_checkBlockNumber _) fun _ => .bind (.observe _) fun _ => .bind (keeps_furiAssert _) fun _ =>
    .ite (fun _ => free.keeps_appendBytes _) fun _ => free.keeps_appendBytes _

omit free in
theorem keeps_blockSecurityAt (blockNum : Nat) : Keeping holds (blockSecurityAt blockNum) :=
  .bind (.observe _) fun _ => .bind (keeps_furiAssert _) fun _ => .pure _

theorem keeps_appendBlockSecurity (index : Nat) : Keeping holds (iso15693_3AppendBlockSecurity index) :=
  .bind (keeps_blockSecurityAt _) fun _ => free.keeps_appendBytes _

omit free in
theorem keeps_isBlockLocked (index : Nat) : Keeping holds (iso15693_3IsBlockLocked index) :=
  .bind (keeps_checkBlockNumber _) fun _ => .bind (.observe _) fun _ => .ite (fun _ => .pure _) fun _ =>
    .bind (keeps_blockSecurityAt _) fun _ => .pure _

omit free in
theorem keeps_isAnyBlockLocked (indices : List Nat) : Keeping holds (isAnyBlockLocked indices) := by
  induction indices with
  | nil => exact .pure _
  | cons index rest ih => exact .bind (keeps_isBlockLocked _) fun _ => .ite (fun _ => .pure _) fun _ => ih

omit free in
theorem keeps_tableEntry {α : Type} (table : List α) (command first : BitVec 8) :
    Keeping holds (tableEntry table command first) := by
  unfold tableEntry
  cases table[tablePlace command first]? with
  | some entry => exact .pure _
  | none => exact .fault trivial

omit free in
theorem keeps_extension (command : BitVec 8) (arguments : List Iso15693_3ExtensionArgument) :
    Keeping holds (iso15693_3ListenerExtensionHandler command arguments) := by
  refine .bind (.observe _) fun table => ?_
  cases table with
  | none => exact .pure _
  | some table =>
    refine .ite (fun _ => .bind (keeps_tableEntry _ _ _) fun handler => ?_) fun _ =>
      .ite (fun _ => .bind (keeps_tableEntry _ _ _) fun handler => ?_) fun _ => .bind (.pure none) fun handler => ?_
    all_goals cases handler <;> exact .pure _

omit free in
theorem keeps_unless {command : BitVec 8} {arguments : List Iso15693_3ExtensionArgument}
    {next : Iso15693_3M Iso15693_3Error} (goesOn : Keeping holds next) :
    Keeping holds (iso15693_3ListenerExtensionHandler command arguments >>= fun error =>
      if error ≠ .none then pure error else next) :=
  .bind (keeps_extension _ _) fun _ => .ite (fun _ => .pure _) fun _ => goesOn

theorem keeps_appendBlockWithSecurity (flags : BitVec 8) (index : Nat) :
    Keeping holds (appendBlockWithSecurity flags index) :=
  .ite (fun _ => .bind (free.keeps_appendBlockSecurity _) fun _ => free.keeps_appendBlock _)
    fun _ => free.keeps_appendBlock _

theorem keeps_inventory (flags : BitVec 8) :
    Keeping holds (iso15693_3ListenerInventoryHandler request flags) := by
  unfold iso15693_3ListenerInventoryHandler
  have answer (dsfid : BitVec 8) : Keeping holds
      (appendBytes [dsfid] >>= fun _ => iso15693_3AppendUid >>= fun _ => pure Iso15693_3Error.none) :=
    .bind (free.keeps_appendBytes _) fun _ => .bind free.keeps_appendUid fun _ => .pure _
  have read := free.keeps_readRequest request
  cases flags.getLsbD 4 with
  | true =>
    exact .ite (fun _ => .pure _) fun _ => .bind (.observe _) fun _ => .bind (read _) fun _ =>
      .ite (fun _ => .pure _) fun _ => .bind (read _) fun _ => .ite (fun _ => .pure _) fun _ => keeps_unless (answer _)
  | false =>
    exact .ite (fun _ => .pure _) fun _ => .bind (.observe _) fun _ => .bind (.pure _) fun _ =>
      .ite (fun _ => .pure _) fun _ => .bind (read _) fun _ => .ite (fun _ => .pure _) fun _ => keeps_unless (answer _)

theorem keeps_getSystemInfo : Keeping holds iso15693_3ListenerGetSystemInfoHandler :=
  .bind (.observe _) fun _ => .bind (free.keeps_appendBytes _) fun _ => .bind free.keeps_appendUid fun _ =>
    .bind (free.keeps_appendBytes _) fun _ => .pure _

theorem keeps_getMultiBlocksSecurity :
    Keeping holds (iso15693_3ListenerGetMultiBlocksSecurityHandler request) := by
  have read := free.keeps_readRequest request
  refine .ite (fun _ => .pure _) fun _ => .bind (read _) fun _ => .bind (read _) fun _ => .bind (.observe _) fun _ =>
    .ite (fun _ => .pure _) fun _ => .bind (.forM fun _ _ => ?_) fun _ => .pure _
  exact .bind (keeps_isBlockLocked _) fun _ => free.keeps_appendBytes _

theorem keeps_readBlock (flags : BitVec 8) :
    Keeping holds (iso15693_3ListenerReadBlockHandler request flags) :=
  .ite (fun _ => .pure _) fun _ => .bind (free.keeps_readRequest _ _) fun _ => .bind (.observe _) fun _ =>
    .ite (fun _ => .pure _) fun _ => keeps_unless (.bind (free.keeps_appendBlockWithSecurity _ _) fun _ => .pure _)

theorem keeps_readMultiBlocks (flags : BitVec 8) :
    Keeping holds (iso15693_3ListenerReadMultiBlocksHandler request flags) := by
  have read := free.keeps_readRequest request
  refine .ite (fun _ => .pure _) fun _ => .bind (read _) fun _ => .bind (read _) fun _ => .bind (.observe _) fun _ =>
    .ite (fun _ => .pure _) fun _ => keeps_unless (.bind (.forM fun _ _ => ?_) fun _ => .pure _)
  exact free.keeps_appendBlockWithSecurity _ _

section
variable {flags : BitVec 8} (waits : Keeping holds (setWaitForEof flags))
  (writes : ∀ instanc data, holds instanc → holds { instanc with data := data })
include waits writes

variable (request : Iso15693_3RequestData)

theorem keeps_writeInfo {command : BitVec 8} {locked : Iso15693_3LockBits → Bool}
    {write : Iso15693_3SystemInfo → BitVec 8 → Iso15693_3SystemInfo} :
    Keeping holds (writeInfoHandler command locked write request flags) := by
  refine .bind waits fun _ => .bind (.observe _) fun _ =>
    .ite (fun _ => .pure _) fun _ => .ite (fun _ => .pure _) fun _ => keeps_unless ?_
  exact .bind (free.keeps_readRequest _ _) fun _ => .bind (.update fun instanc kept => writes instanc _ kept)
    fun _ => .pure _

omit free in
theorem keeps_lockInfo {command : BitVec 8} {locked : Iso15693_3LockBits → Bool}
    {lock : Iso15693_3LockBits → Iso15693_3LockBits} :
    Keeping holds (lockInfoHandler command locked lock flags) :=
  .bind waits fun _ => .bind (.observe _) fun _ => .ite (fun _ => .pure _) fun _ =>
    keeps_unless (.bind (.update fun instanc kept => writes instanc _ kept) fun _ => .pure _)

omit free waits in
theorem keeps_setBlockData (index : Nat) (bytes : List (BitVec 8)) : Keeping holds (iso15693_3SetBlockData index bytes) :=
  .bind (keeps_checkBlockNumber _) fun _ => .bind (.observe _) fun _ => .bind (keeps_furiAssert _) fun _ =>
    .ite (fun _ => .update fun instanc kept => writes instanc _ kept) fun _ => .pure _

theorem keeps_writeBlock :
    Keeping holds (iso15693_3ListenerWriteBlockHandler request flags) := by
  refine .bind waits fun _ => .ite (fun _ => .pure _) fun _ =>
    .bind (free.keeps_readRequest _ _) fun _ => .bind (.observe _) fun _ => .ite (fun _ => .pure _) fun _ =>
    .ite (fun _ => .pure _) fun _ => .bind (keeps_isBlockLocked _) fun _ => .ite (fun _ => .pure _) fun _ =>
    keeps_unless ?_
  exact .bind (free.keeps_readRequestBytes _ _ _) fun _ => .bind (keeps_setBlockData writes _ _) fun _ => .pure _

theorem keeps_lockBlock :
    Keeping holds (iso15693_3ListenerLockBlockHandler request flags) := by
  refine .bind waits fun _ => .ite (fun _ => .pure _) fun _ =>
    .bind (free.keeps_readRequest _ _) fun _ => .bind (.observe _) fun _ => .ite (fun _ => .pure _) fun _ =>
    .bind (keeps_isBlockLocked _) fun _ => .ite (fun _ => .pure _) fun _ => keeps_unless (.bind ?_ fun _ => .pure _)
  exact .bind (keeps_checkBlockNumber _) fun _ => .bind (.observe _) fun _ => .bind (keeps_furiAssert _) fun _ =>
    .update fun instanc kept => writes instanc _ kept

theorem keeps_writeMultiBlocks :
    Keeping holds (iso15693_3ListenerWriteMultiBlocksHandler request flags) := by
  have read := free.keeps_readRequest request
  refine .bind waits fun _ => .ite (fun _ => .pure _) fun _ => .bind (read _) fun _ =>
    .bind (read _) fun _ => .bind (.observe _) fun _ => .ite (fun _ => .pure _) fun _ => .ite (fun _ => .pure _) fun _ =>
    keeps_unless (.bind (keeps_isAnyBlockLocked _) fun _ => .ite (fun _ => .pure _) fun _ => .bind ?_ fun _ => .pure _)
  exact .forM fun _ _ => .bind (free.keeps_readRequestBytes _ _ _) fun _ => keeps_setBlockData writes _ _

omit waits in
/-- What neither the card nor the state of the listener matters to, every handler
keeps, where it keeps what is noted to wait for an EOF. -/
theorem keeps_handler (moves : ∀ instanc state, holds instanc → holds { instanc with state := state })
    (handler : Iso15693_3RequestHandler) (waits : handler.isWriteType = true → Keeping holds (setWaitForEof flags))
    (request : Iso15693_3RequestData) : Keeping holds (handler.run request flags) := by
  have moved (state : Iso15693_3ListenerState) : Keeping holds (setState state) :=
    .update fun instanc kept => moves instanc _ kept
  cases handler with
  | inventory => exact free.keeps_inventory request flags
  | stayQuiet => exact .bind (moved _) fun _ => .pure _
  | readBlock => exact free.keeps_readBlock request flags
  | writeBlock => exact free.keeps_writeBlock (waits rfl) writes request
  | lockBlock => exact free.keeps_lockBlock (waits rfl) writes request
  | readMultiBlocks => exact free.keeps_readMultiBlocks request flags
  | writeMultiBlocks => exact free.keeps_writeMultiBlocks (waits rfl) writes request
  | select => exact .ite (fun _ => .pure _) fun _ => .bind (moved _) fun _ => .pure _
  | resetToReady => exact .bind (moved _) fun _ => .pure _
  | writeAfi => exact free.keeps_writeInfo (waits rfl) writes request
  | lockAfi => exact keeps_lockInfo (waits rfl) writes
  | writeDsfid => exact free.keeps_writeInfo (waits rfl) writes request
  | lockDsfid => exact keeps_lockInfo (waits rfl) writes
  | getSystemInfo => exact free.keeps_getSystemInfo
  | getMultiBlocksSecurity => exact free.keeps_getMultiBlocksSecurity request

end

end Looking

theorem keeps_uidMismatch {holds : Iso15693_3Listener → Prop}
    (read : ∀ instanc place, holds instanc → holds (instanc.traced (.requestByte place)))
    (released : ∀ instanc, instanc.state = .selected → holds instanc → holds { instanc with state := .ready })
    (request : BitBuffer) : Keeping holds (iso15693_3ListenerProcessUidMismatch request) := by
  have reads : Keeping holds (readRequest ⟨request, 0, request.sizeBytes⟩ 1) :=
    .bind (.update fun instanc kept => read instanc _ kept) fun _ => .pure _
  refine .bind reads fun command => .ite (fun _ instanc kept => ?_) fun _ => .pure _
  rw [Effect.observe_bind]
  by_cases selected : instanc.state = .selected
  · rw [if_pos selected]
    exact ⟨released instanc selected kept, fun _ failed => nomatch failed⟩
  · rw [if_neg selected]
    exact ⟨kept, fun _ failed => nomatch failed⟩

namespace Undisturbed
variable {holds : Iso15693_3Listener → Prop} (free : Undisturbed holds)
include free

theorem looking : Looking holds :=
  ⟨fun instanc _ kept => free.noted instanc _ (fun _ same => by cases same) kept, free.response⟩

theorem keeps_note {step : Iso15693_3Trace} (quietly : ∀ handler, step ≠ .called handler) : Keeping holds (note step) :=
  .update fun instanc kept => free.noted instanc step quietly kept

theorem keeps_setWaitForEof (flags : BitVec 8) : Keeping holds (setWaitForEof flags) :=
  .update fun instanc kept => free.session instanc _ kept

theorem keeps_handler (writes : ∀ instanc data, holds instanc → holds { instanc with data := data })
    (moves : ∀ instanc state, holds instanc → holds { instanc with state := state })
    (handler : Iso15693_3RequestHandler) (request : Iso15693_3RequestData) (flags : BitVec 8) :
    Keeping holds (handler.run request flags) :=
  free.looking.keeps_handler writes moves handler (fun _ => free.keeps_setWaitForEof _) request

theorem keeps_sendFrame : Keeping holds iso15693_3ListenerSendFrame :=
  .bind (.observe _) fun _ => .bind (free.looking.keeps_appendBytes _) fun _ => .bind (.observe _) fun _ =>
    free.keeps_note fun _ same => nomatch same

theorem keeps_respond (error : Iso15693_3Error) : Keeping holds (respond error) := by
  have finishes (error : Iso15693_3Error) : Keeping holds (finishResponse error) :=
    .bind (.observe _) fun _ => .bind (free.keeps_note fun _ same => nomatch same) fun _ => .bind (.observe _) fun _ =>
      .ite (fun _ => .pure _) fun _ => .bind free.keeps_sendFrame fun _ => .pure _
  exact .ite (fun _ => .pure _) fun _ => .ite (fun _ => .bind free.looking.keeps_resetTxBuffer fun _ =>
    .bind (free.looking.keeps_appendBytes _) fun _ => finishes _) fun _ => finishes _

theorem keeps_singleEof : Keeping holds iso15693_3ListenerProcessSingleEof :=
  .bind (.observe _) fun _ => .ite (fun _ => .pure _) fun _ =>
    .bind (.update fun instanc kept => free.session instanc _ kept) fun _ => .bind free.keeps_sendFrame fun _ => .pure _

theorem keeps_standardRequest (request : Iso15693_3RequestData) (command flags : BitVec 8)
    (calls : ∀ handler, handlerOf command = some handler →
      Keeping holds (note (.called handler)) ∧ Keeping holds (handler.run request flags)) :
    Keeping holds (iso15693_3ListenerHandleStandardRequest request command flags) := by
  unfold iso15693_3ListenerHandleStandardRequest
  by_cases known : command = 0#8
  · subst known
    exact .fault trivial
  · rw [requestHandler_eq known]
    refine .bind_of_run fun instanc kept => ⟨_, _, rfl, kept, ?_⟩
    cases found : handlerOf command with
    | none => exact .pure _
    | some handler =>
      obtain ⟨noted, serves⟩ := calls handler found
      exact .bind free.looking.keeps_resetTxBuffer fun _ => .bind (free.looking.keeps_appendBytes _) fun _ => .bind noted fun _ =>
        .bind serves fun _ => free.keeps_respond _

/-- A property that holds after the request of an event was processed holds after
the event. -/
theorem run_keeps
    (released : ∀ instanc, instanc.state = .selected → holds instanc → holds { instanc with state := .ready })
    {instanc : Iso15693_3Listener} {event : Iso15693_3NfcEvent} (starts : holds { instanc with trace := [] })
    (serves : ∀ rxBuffer, event = .rxEnd rxBuffer → iso13239CrcCheck rxBuffer = true →
      holds (iso15693_3ListenerProcessRequest (iso13239CrcTrim rxBuffer) { instanc with trace := [] }).2) :
    holds (iso15693_3ListenerRun event instanc).2 := by
  have reports : Keeping holds (note .reported) := free.keeps_note fun _ same => nomatch same
  unfold iso15693_3ListenerRun
  rw [Effect.update_bind]
  cases event with
  | other => exact starts
  | rxEnd rxBuffer =>
    by_cases right : iso13239CrcCheck rxBuffer = true
    · simp only [right, if_true]
      have served := serves rxBuffer rfl right
      rw [Effect.bind_run]
      rcases ran : iso15693_3ListenerProcessRequest (iso13239CrcTrim rxBuffer) { instanc with trace := [] }
        with ⟨outcome, after⟩
      rw [ran] at served
      cases outcome with
      | error error => exact served
      | ok error =>
        have follows : Keeping holds (if error = .notSupported then note .reported
            else if error = .uidMismatch then
              iso15693_3ListenerProcessUidMismatch (iso13239CrcTrim rxBuffer) >>= fun _ => pure ()
            else pure ()) :=
          .ite (fun _ => reports) fun _ => .ite (fun _ =>
            .bind (keeps_uidMismatch free.looking.read released _) fun _ => .pure _) fun _ => .pure _
        exact (follows after served).1
    · simp only [right]
      by_cases empty : rxBuffer.sizeBits = 0
      · simp only [empty]
        have eof : Keeping holds (iso15693_3ListenerProcessSingleEof >>= fun error =>
            if error = .unexpectedResponse then note .reported else pure ()) :=
          .bind free.keeps_singleEof fun _ => .ite (fun _ => reports) fun _ => .pure _
        exact (eof _ starts).1
      · simp only [empty]
        exact starts

end Undisturbed

namespace Iso15693_3Listener

/-- The card after an event. An assertion that fails ends what is done with the
event. -/
def next (instanc : Iso15693_3Listener) (event : Iso15693_3NfcEvent) : Iso15693_3Listener :=
  (iso15693_3ListenerRun event instanc).2

def after (instanc : Iso15693_3Listener) (events : List Iso15693_3NfcEvent) : Iso15693_3Listener :=
  events.foldl next instanc

/-- Every event is met in a state in which `guard` admits it. -/
def Throughout (guard : Iso15693_3Listener → Iso15693_3NfcEvent → Prop) (instanc : Iso15693_3Listener) :
    List Iso15693_3NfcEvent → Prop
  | [] => True
  | event :: rest => guard instanc event ∧ (instanc.next event).Throughout guard rest

end Iso15693_3Listener

theorem throughout_append {guard : Iso15693_3Listener → Iso15693_3NfcEvent → Prop} {instanc : Iso15693_3Listener}
    {earlier later : List Iso15693_3NfcEvent} :
    instanc.Throughout guard (earlier ++ later) ↔
      instanc.Throughout guard earlier ∧ (instanc.after earlier).Throughout guard later := by
  induction earlier generalizing instanc with
  | nil => exact (and_iff_right trivial).symm
  | cons event rest ih => exact (and_congr_right fun _ => ih).trans and_assoc.symm

end Xtreme.Nfc
