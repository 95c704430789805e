import Xtreme.Nfc.Iso15693MultiWrite

/-! When the ISO15693-3 listener answers. A request is answered at once; one that writes
and has the option flag set is answered after the next EOF. The listener remembers by a flag
that a response waits, and the response is what lies in the transmit buffer by then. -/
namespace Xtreme.Nfc
open Xtreme.Library BitLib Toolbox
open Effect (Yields fault observe update)
open Iso15693_3Listener (requestData Throughout)

def Iso15693_3Trace.response : Iso15693_3Trace → Option (List (BitVec 8))
  | built response => some response
  | _ => none

def Iso15693_3Trace.frame : Iso15693_3Trace → Option (List (BitVec 8))
  | sent frame => some frame
  | _ => none

/-- A response with its checksum. -/
def answerFrame (response : List (BitVec 8)) : List (BitVec 8) := response ++ iso13239CrcBytes response

namespace Iso15693_3NfcEvent

def request : Iso15693_3NfcEvent → BitBuffer
  | rxEnd rxBuffer => iso13239CrcTrim rxBuffer
  | other => .ofBytes []

def isSingleEof : Iso15693_3NfcEvent → Bool
  | rxEnd rxBuffer => rxBuffer.sizeBits = 0
  | other => false

/-- The response to a request is to wait for the next EOF. -/
def asksToWait (event : Iso15693_3NfcEvent) : Bool :=
  optionFlag (event.request.byte 0) && (handlerOf (event.request.byte 1)).any (·.isWriteType)

end Iso15693_3NfcEvent

namespace Iso15693_3Listener
variable (instanc : Iso15693_3Listener)

/-- The responses that were built in an event. -/
def responses : List (List (BitVec 8)) := instanc.trace.filterMap (·.response)

/-- The frames that went out in an event. -/
def frames : List (List (BitVec 8)) := instanc.trace.filterMap (·.frame)

/-- The frames that are to go out in an event, where some responses wait for an EOF. -/
def framesDue (waiting : List (List (BitVec 8))) (event : Iso15693_3NfcEvent) : List (List (BitVec 8)) :=
  if event.isSingleEof then waiting.map answerFrame
  else if event.asksToWait then []
  else (instanc.next event).responses.map answerFrame

def waitingAfter (waiting : List (List (BitVec 8))) (event : Iso15693_3NfcEvent) : List (List (BitVec 8)) :=
  if event.isSingleEof then []
  else if event.asksToWait then waiting ++ (instanc.next event).responses
  else waiting

/-- Event after event makes go out just what is due, up to an assertion that fails. -/
def AnswersInTime (waiting : List (List (BitVec 8))) (instanc : Iso15693_3Listener) : List Iso15693_3NfcEvent → Prop
  | [] => True
  | event :: rest => (iso15693_3ListenerRun event instanc).1 = .ok () →
      (instanc.next event).frames = instanc.framesDue waiting event ∧
        (instanc.next event).AnswersInTime (instanc.waitingAfter waiting event) rest

def handlerFor : Iso15693_3NfcEvent → Option Iso15693_3RequestHandler
  | .rxEnd rxBuffer =>
    if iso13239CrcCheck rxBuffer ∧ instanc.refusal (iso13239CrcTrim rxBuffer) = none then
      handlerOf ((iso13239CrcTrim rxBuffer).byte 1)
    else none
  | .other => none

/-- The lock of a block, in memory behind the locks where it is not among them. -/
def lockSeen (index : Nat) : Bool :=
  !instanc.data.blockSecurity.isEmpty &&
    instanc.data.blockSecurity.getD (blockNumber index) (instanc.surroundings.outsideSecurity (blockNumber index)) ≠ 0

end Iso15693_3Listener

/-- Requests with such an error are not answered. -/
def Iso15693_3Error.Silent (error : Iso15693_3Error) : Prop := error = .format ∨ error = .ignore

instance : DecidablePred Iso15693_3Error.Silent := fun error => inferInstanceAs (Decidable (error = _ ∨ error = _))

namespace Iso15693_3RequestHandler

/-- A request to write gets no answer: it is too short, or the protocol over this one
wants none. -/
def Drops (instanc : Iso15693_3Listener) (request : Iso15693_3RequestData) : Iso15693_3RequestHandler → Prop
  | writeBlock => request.size ≤ 1 ∨
      (request.first < instanc.data.blockCount ∧ request.size - 1 = instanc.data.blockSize ∧
        instanc.lockSeen request.first = false ∧
        (instanc.extensionAnswer 0x21#8
          [.number request.first, .memory fun i => request.frame.byte (request.start + 1 + i)]).Silent)
  | lockBlock => request.size ≠ 1 ∨
      (request.first < instanc.data.blockCount ∧ instanc.lockSeen request.first = false ∧
        (instanc.extensionAnswer 0x22#8 [.number request.first]).Silent)
  | writeMultiBlocks => request.size ≤ 2 ∨
      (request.count ≤ blockCountAvailable instanc.data.blockCount request.first ∧
        (request.size - 2) / request.count = instanc.data.blockSize ∧
        (instanc.extensionAnswer 0x24#8
          [.number request.first, .number (request.first + request.count - 1)]).Silent)
  | writeAfi => request.size ≤ 1 ∨ (instanc.data.lockBits.afi = false ∧ (instanc.extensionAnswer 0x27#8 []).Silent)
  | lockAfi => instanc.data.lockBits.afi = false ∧ (instanc.extensionAnswer 0x28#8 []).Silent
  | writeDsfid => request.size ≤ 1 ∨ (instanc.data.lockBits.dsfid = false ∧ (instanc.extensionAnswer 0x29#8 []).Silent)
  | lockDsfid => instanc.data.lockBits.dsfid = false ∧ (instanc.extensionAnswer 0x2A#8 []).Silent
  | _ => False

instance (instanc : Iso15693_3Listener) (request : Iso15693_3RequestData) :
    (handler : Iso15693_3RequestHandler) → Decidable (handler.Drops instanc request)
  | writeBlock => inferInstanceAs (Decidable (_ ∨ _ ∧ _ ∧ _ ∧ _))
  | lockBlock => inferInstanceAs (Decidable (_ ∨ _ ∧ _ ∧ _))
  | writeMultiBlocks => inferInstanceAs (Decidable (_ ∨ _ ∧ _ ∧ _))
  | writeAfi | writeDsfid => inferInstanceAs (Decidable (_ ∨ _ ∧ _))
  | lockAfi | lockDsfid => inferInstanceAs (Decidable (_ ∧ _))
  | inventory | stayQuiet | readBlock | readMultiBlocks | select | resetToReady | getSystemInfo
  | getMultiBlocksSecurity => isFalse id

end Iso15693_3RequestHandler

/-- A request gets to a handler only while no response waits, and one with the option flag
that writes gets an answer. -/
def Iso15693_3Listener.InTurn (instanc : Iso15693_3Listener) (event : Iso15693_3NfcEvent) : Prop :=
  ∀ handler ∈ instanc.handlerFor event, instanc.sessionState.waitForEof = false ∧
    (optionFlag (event.request.byte 0) = true → ¬ handler.Drops instanc (requestData event.request))

instance (instanc : Iso15693_3Listener) (event : Iso15693_3NfcEvent) : Decidable (instanc.InTurn event) :=
  inferInstanceAs (Decidable (∀ handler ∈ _, _))

section
variable {instanc : Iso15693_3Listener} {request : Iso15693_3RequestData} {flags : BitVec 8}

/-- A response was built; it went out, or waits. -/
structure Answers (before after : Iso15693_3Listener) (response : List (BitVec 8)) : Prop where
  waits : after.sessionState.waitForEof = before.sessionState.waitForEof
  kept : before.sessionState.waitForEof = true → after.txBuffer = response
  responses : after.responses = before.responses ++ [response]
  frames : after.frames = before.frames ++ if before.sessionState.waitForEof then [] else [answerFrame response]

theorem sendFrame_ok (ran : (iso15693_3ListenerSendFrame instanc).1 = .ok ()) :
    iso15693_3ListenerSendFrame instanc =
      (.ok (), ({ instanc with txBuffer := answerFrame instanc.txBuffer } : Iso15693_3Listener).traced
        (.sent (answerFrame instanc.txBuffer))) := by
  unfold iso15693_3ListenerSendFrame appendBytes furiAssert at ran ⊢
  simp only [Effect.observe_bind, Effect.bind_assoc] at ran ⊢
  split at ran
  · cases ran
  · rename_i room
    rw [if_neg room]
    rfl

theorem finishResponse_ok {error given : Iso15693_3Error} (ran : (finishResponse error instanc).1 = .ok given) :
    Answers instanc (finishResponse error instanc).2 instanc.txBuffer := by
  have run : finishResponse error instanc = (if instanc.sessionState.waitForEof then pure error
      else iso15693_3ListenerSendFrame >>= fun _ => pure .none : Iso15693_3M Iso15693_3Error)
      (instanc.traced (.built instanc.txBuffer)) := rfl
  rw [run] at ran ⊢
  cases waits : instanc.sessionState.waitForEof with
  | true =>
    refine ⟨rfl, fun _ => rfl, List.filterMap_append, ?_⟩
    rw [waits]
    exact List.filterMap_append
  | false =>
    rw [waits] at ran
    obtain ⟨answer, after, sends, -⟩ := Effect.bind_ok ran
    rw [if_neg Bool.false_ne_true, Effect.bind_of_ok (sendFrame_ok (congrArg Prod.fst sends))]
    refine ⟨rfl, fun same => absurd (waits.symm.trans same) Bool.false_ne_true, ?_, ?_⟩
    · simp [Iso15693_3Listener.responses, Iso15693_3Trace.response]
    · simp [Iso15693_3Listener.frames, Iso15693_3Trace.frame, waits]

theorem respond_ok {error given : Iso15693_3Error} (ran : (respond error instanc).1 = .ok given) :
    (error.Silent ∧ (respond error instanc).2 = instanc) ∨ ∃ response, Answers instanc (respond error instanc).2 response := by
  have error_run (error : Iso15693_3Error) :
      (resetTxBuffer >>= fun _ => appendBytes [0x01#8, 0x0F#8] >>= fun _ => finishResponse error) instanc =
        finishResponse error { instanc with txBuffer := [0x01#8, 0x0F#8] } := by
    unfold resetTxBuffer
    rw [Effect.update_bind]
    exact Effect.bind_of_ok (appendBytes_run (show 0 + 2 ≤ 64 by decide))
  unfold respond at ran ⊢
  by_cases handled : error = .fullyHandled
  · subst handled
    exact .inr ⟨_, finishResponse_ok ran⟩
  · simp only [if_neg handled] at ran ⊢
    by_cases silent : error = .format ∨ error = .ignore
    · rw [if_pos silent]
      exact .inl ⟨silent, rfl⟩
    · rw [if_neg silent] at ran ⊢
      by_cases none : error = .none
      · rw [if_neg (not_not.mpr none)] at ran ⊢
        exact .inr ⟨_, finishResponse_ok ran⟩
      · rw [if_pos none, error_run] at ran ⊢
        obtain ⟨waits, kept, responses, frames⟩ := finishResponse_ok ran
        exact .inr ⟨_, waits, kept, responses, frames⟩

/-- No answer was built yet, and the flag is `wait`. -/
def Unanswered (wait : Bool) (instanc : Iso15693_3Listener) : Prop :=
  instanc.sessionState.waitForEof = wait ∧ instanc.responses = [] ∧ instanc.frames = []

theorem responses_traced {step : Iso15693_3Trace} (response : step.response = none) :
    (instanc.traced step).responses = instanc.responses := by
  refine List.filterMap_append.trans ?_
  rw [List.filterMap_cons_none response, List.filterMap_nil, List.append_nil]
  rfl

theorem frames_traced {step : Iso15693_3Trace} (frame : step.frame = none) :
    (instanc.traced step).frames = instanc.frames := by
  refine List.filterMap_append.trans ?_
  rw [List.filterMap_cons_none frame, List.filterMap_nil, List.append_nil]
  rfl

theorem unanswered_looking (wait : Bool) : Looking (Unanswered wait) :=
  ⟨fun _ _ open' => ⟨open'.1, (responses_traced rfl).trans open'.2.1, (frames_traced rfl).trans open'.2.2⟩,
    fun _ _ open' => open'⟩

variable {handler : Iso15693_3RequestHandler}

theorem writeType_run (write : handler.isWriteType = true) : handler.run request flags instanc =
      handler.run request flags { instanc with
        sessionState := { instanc.sessionState with waitForEof := optionFlag flags } } := by
  cases handler with
  | writeBlock | lockBlock | writeMultiBlocks | writeAfi | lockAfi | writeDsfid | lockDsfid => rfl
  | _ => cases write

def waitsAfter (handler : Iso15693_3RequestHandler) (flags : BitVec 8) : Bool :=
  optionFlag flags && handler.isWriteType

theorem handler_unanswered (handler : Iso15693_3RequestHandler) (open' : Unanswered false instanc) :
    Unanswered (waitsAfter handler flags) (handler.run request flags instanc).2 := by
  have keeps : Keeping (Unanswered (waitsAfter handler flags)) (handler.run request flags) := by
    refine (unanswered_looking _).keeps_handler (fun _ _ same => same) (fun _ _ same => same) handler
      (fun write => .update fun later same => ⟨?_, same.2⟩) request
    rw [waitsAfter, write, Bool.and_true]
  cases write : handler.isWriteType with
  | true =>
    rw [writeType_run write]
    refine (keeps _ ?_).1
    refine ⟨?_, open'.2⟩
    rw [waitsAfter, write, Bool.and_true]
  | false =>
    refine (keeps _ ⟨?_, open'.2⟩).1
    rw [waitsAfter, write, Bool.and_false]
    exact open'.1

/-! ### Requests without an answer -/

/-- The listener a handler works with, but for the response and what was noted. -/
def SameCard (before later : Iso15693_3Listener) : Prop :=
  later.surroundings = before.surroundings ∧ later.data = before.data ∧ later.extensionTable = before.extensionTable

theorem sameCard_looking (before : Iso15693_3Listener) : Looking (SameCard before) :=
  ⟨fun _ _ same => same, fun _ _ same => same⟩

/-- A program answers with an error that is silent only if the request is one without an answer. -/
def SilentOnlyIf (before : Iso15693_3Listener) (drops : Prop) (program : Iso15693_3M Iso15693_3Error) : Prop :=
  ∀ instanc error, SameCard before instanc → (program instanc).1 = .ok error → error.Silent → drops

variable {command : BitVec 8}

theorem extension_run (known : command ≠ 0#8) (arguments : List Iso15693_3ExtensionArgument) :
    iso15693_3ListenerExtensionHandler command arguments instanc =
      (.ok (instanc.extensionAnswer command arguments), instanc) :=
  Yields.run ((yields_extension known).mpr ⟨rfl, rfl⟩)

theorem furiAssert_ok {condition : Prop} [Decidable condition] {failure : Iso15693_3Fault}
    (ran : (furiAssert condition failure instanc).1 = .ok ()) :
    furiAssert condition failure instanc = (.ok (), instanc) := by
  unfold furiAssert at ran ⊢
  rw [Effect.observe_bind] at ran ⊢
  split at ran
  · cases ran
  · rename_i passes
    rw [if_neg passes]
    rfl

/-- What a look at a lock says, where no assertion fails. -/
theorem isBlockLocked_seen {index : Nat} {locked : Bool} (ran : (iso15693_3IsBlockLocked index instanc).1 = .ok locked) :
    locked = instanc.lockSeen index := by
  unfold iso15693_3IsBlockLocked checkBlockNumber at ran
  obtain ⟨_, checked, inside, ran⟩ := Effect.bind_ok ran
  cases inside.symm.trans (furiAssert_ok (congrArg Prod.fst inside))
  rw [Effect.observe_bind] at ran
  unfold Iso15693_3Listener.lockSeen
  by_cases unknown : instanc.data.blockSecurity = []
  · rw [if_pos unknown] at ran
    cases ran
    rw [unknown]
    rfl
  · rw [if_neg unknown] at ran
    unfold blockSecurityAt at ran
    rw [Effect.bind_assoc, Effect.observe_bind, Effect.bind_assoc] at ran
    obtain ⟨_, asserted, within, ran⟩ := Effect.bind_ok ran
    cases ran
    have known : instanc.data.blockSecurity.isEmpty = false := by simpa using unknown
    rw [known, Bool.not_false]
    rfl

namespace SilentOnlyIf
variable {before : Iso15693_3Listener} {drops : Prop}

theorem pure {error : Iso15693_3Error} (loud : error.Silent → drops) : SilentOnlyIf before drops (Pure.pure error) := by
  rintro instanc _ same ⟨⟩
  exact loud

theorem bind_answers {α : Type} {program : Iso15693_3M α} {next : α → Iso15693_3M Iso15693_3Error}
    (answers : α → Prop) (first : Keeping (SameCard before) program)
    (known : ∀ instanc answer, SameCard before instanc → (program instanc).1 = .ok answer → answers answer)
    (second : ∀ answer, answers answer → SilentOnlyIf before drops (next answer)) :
    SilentOnlyIf before drops (program >>= next) := by
  intro instanc error same ran silent
  obtain ⟨answer, after, done, left⟩ := Effect.bind_ok ran
  have kept := (first instanc same).1
  rw [done] at kept
  exact second answer (known instanc answer same (congrArg Prod.fst done)) after error kept left silent

theorem bind {α : Type} {program : Iso15693_3M α} {next : α → Iso15693_3M Iso15693_3Error}
    (first : Keeping (SameCard before) program) (second : ∀ answer, SilentOnlyIf before drops (next answer)) :
    SilentOnlyIf before drops (program >>= next) :=
  bind_answers (fun _ => True) first (fun _ _ _ _ => trivial) fun answer _ => second answer

theorem ite {condition : Prop} [Decidable condition] {yes no : Iso15693_3M Iso15693_3Error}
    (whenTrue : condition → SilentOnlyIf before drops yes) (whenFalse : ¬ condition → SilentOnlyIf before drops no) :
    SilentOnlyIf before drops (if condition then yes else no) := by
  by_cases decided : condition
  · rw [if_pos decided]
    exact whenTrue decided
  · rw [if_neg decided]
    exact whenFalse decided

/-- What is done at last is answered. -/
theorem done {α : Type} (program : Iso15693_3M α) : SilentOnlyIf before drops (program >>= fun _ => Pure.pure .none) := by
  intro instanc error same ran silent
  obtain ⟨answer, after, done, left⟩ := Effect.bind_ok ran
  cases left
  exact absurd silent (by decide)

theorem unlessRefused {command : BitVec 8} (known : command ≠ 0#8) {arguments : List Iso15693_3ExtensionArgument}
    {next : Iso15693_3M Iso15693_3Error}
    (refused : (before.extensionAnswer command arguments).Silent → drops) (goesOn : SilentOnlyIf before drops next) :
    SilentOnlyIf before drops (iso15693_3ListenerExtensionHandler command arguments >>= fun error =>
      if error ≠ .none then Pure.pure error else next) := by
  refine bind_answers (· = before.extensionAnswer command arguments) (Looking.keeps_extension _ _)
    (fun instanc answer same ran => ?_) fun answer is => ite (fun _ => pure (is ▸ refused)) fun _ => goesOn
  have table : instanc.extensionAnswer command arguments = before.extensionAnswer command arguments := by
    unfold Iso15693_3Listener.extensionAnswer Iso15693_3Listener.extensionOf
    rw [same.2.2]
  rw [extension_run known] at ran
  cases ran
  exact table

theorem read {request : Iso15693_3RequestData} {index : Nat} {next : BitVec 8 → Iso15693_3M Iso15693_3Error}
    (second : SilentOnlyIf before drops (next (request.frame.byte (request.start + index)))) :
    SilentOnlyIf before drops (readRequest request index >>= next) :=
  fun instanc error same ran => second (instanc.traced (.requestByte (request.start + index))) error same ran

theorem observe {α : Type} {view : Iso15693_3Listener → α} {next : α → Iso15693_3M Iso15693_3Error}
    (known : ∀ later, SameCard before later → view later = view before)
    (second : SilentOnlyIf before drops (next (view before))) :
    SilentOnlyIf before drops (Effect.observe view >>= next) := by
  intro instanc error same ran
  rw [Effect.observe_bind, known instanc same] at ran
  exact second instanc error same ran

theorem isBlockLocked {index : Nat} {next : Bool → Iso15693_3M Iso15693_3Error}
    (second : SilentOnlyIf before drops (next (before.lockSeen index))) :
    SilentOnlyIf before drops (iso15693_3IsBlockLocked index >>= next) := by
  refine bind_answers (· = before.lockSeen index) (Looking.keeps_isBlockLocked _) (fun instanc locked same ran => ?_)
    fun locked is => is ▸ second
  rw [isBlockLocked_seen ran]
  unfold Iso15693_3Listener.lockSeen
  rw [same.1, same.2.1]

end SilentOnlyIf

theorem writeBlock_silentOnlyIf : SilentOnlyIf instanc (Iso15693_3RequestHandler.writeBlock.Drops instanc request)
      (iso15693_3ListenerWriteBlockHandler request flags) := by
  refine .bind (.update fun _ same => same) fun _ => .ite (fun short => .pure fun _ => .inl short) fun long => ?_
  refine .read (.observe (fun _ same => same.2.1) ?_)
  refine .ite (fun _ => .pure fun silent => absurd silent (by decide)) fun inside => ?_
  refine .ite (fun _ => .pure fun silent => absurd silent (by decide)) fun size => .isBlockLocked ?_
  refine .ite (fun _ => .pure fun silent => absurd silent (by decide)) fun unlocked => ?_
  refine .unlessRefused (by decide) (fun silent => ?_) ?_
  · exact .inr ⟨Nat.not_le.mp inside, not_not.mp size, Bool.not_eq_true _ ▸ unlocked, silent⟩
  · exact .bind ((sameCard_looking _).keeps_readRequestBytes _ _ _) fun _ => .done _

theorem lockBlock_silentOnlyIf : SilentOnlyIf instanc (Iso15693_3RequestHandler.lockBlock.Drops instanc request)
      (iso15693_3ListenerLockBlockHandler request flags) := by
  refine .bind (.update fun _ same => same) fun _ => .ite (fun size => .pure fun _ => .inl size) fun size => ?_
  refine .read (.observe (fun _ same => congrArg _ same.2.1) ?_)
  refine .ite (fun _ => .pure fun silent => absurd silent (by decide)) fun inside => .isBlockLocked ?_
  refine .ite (fun _ => .pure fun silent => absurd silent (by decide)) fun unlocked => ?_
  refine .unlessRefused (by decide) (fun silent => ?_) (.done _)
  exact .inr ⟨Nat.not_le.mp inside, Bool.not_eq_true _ ▸ unlocked, silent⟩

theorem writeMultiBlocks_silentOnlyIf :
    SilentOnlyIf instanc (Iso15693_3RequestHandler.writeMultiBlocks.Drops instanc request)
      (iso15693_3ListenerWriteMultiBlocksHandler request flags) := by
  refine .bind (.update fun _ same => same) fun _ => .ite (fun short => .pure fun _ => .inl short) fun long => ?_
  refine .read (.read (.observe (fun _ same => same.2.1) ?_))
  refine .ite (fun _ => .pure fun silent => absurd silent (by decide)) fun available => ?_
  refine .ite (fun _ => .pure fun silent => absurd silent (by decide)) fun size => ?_
  refine .unlessRefused (by decide) (fun silent => ?_) (.bind (Looking.keeps_isAnyBlockLocked _) fun locked => ?_)
  · exact .inr ⟨Nat.not_lt.mp available, not_not.mp size, silent⟩
  · exact .ite (fun _ => .pure fun silent => absurd silent (by decide)) fun _ => .done _

theorem writeInfo_silentOnlyIf (known : command ≠ 0#8) {locked : Iso15693_3LockBits → Bool}
    {write : Iso15693_3SystemInfo → BitVec 8 → Iso15693_3SystemInfo} :
    SilentOnlyIf instanc (request.size ≤ 1 ∨
        (locked instanc.data.lockBits = false ∧ (instanc.extensionAnswer command []).Silent))
      (writeInfoHandler command locked write request flags) := by
  refine .bind (.update fun _ same => same) fun _ => .observe (fun _ same => congrArg _ same.2.1) ?_
  refine .ite (fun short => .pure fun _ => .inl short) fun long => ?_
  refine .ite (fun _ => .pure fun silent => absurd silent (by decide)) fun unlocked => ?_
  refine .unlessRefused known (fun silent => .inr ⟨Bool.not_eq_true _ ▸ unlocked, silent⟩) ?_
  exact .read (.done _)

theorem lockInfo_silentOnlyIf (known : command ≠ 0#8) {locked : Iso15693_3LockBits → Bool}
    {lock : Iso15693_3LockBits → Iso15693_3LockBits} :
    SilentOnlyIf instanc (locked instanc.data.lockBits = false ∧ (instanc.extensionAnswer command []).Silent)
      (lockInfoHandler command locked lock flags) := by
  refine .bind (.update fun _ same => same) fun _ => .observe (fun _ same => congrArg _ same.2.1) ?_
  refine .ite (fun _ => .pure fun silent => absurd silent (by decide)) fun unlocked => ?_
  exact .unlessRefused known (fun silent => ⟨Bool.not_eq_true _ ▸ unlocked, silent⟩) (.done _)

theorem handler_silentOnlyIf (write : handler.isWriteType = true) :
    SilentOnlyIf instanc (handler.Drops instanc request) (handler.run request flags) := by
  cases handler with
  | writeBlock => exact writeBlock_silentOnlyIf
  | lockBlock => exact lockBlock_silentOnlyIf
  | writeMultiBlocks => exact writeMultiBlocks_silentOnlyIf
  | writeAfi => exact writeInfo_silentOnlyIf (by decide)
  | lockAfi => exact lockInfo_silentOnlyIf (by decide)
  | writeDsfid => exact writeInfo_silentOnlyIf (by decide)
  | lockDsfid => exact lockInfo_silentOnlyIf (by decide)
  | _ => cases write

/-- A handler was asked: what it answered went out, or waits. -/
structure Served (wait : Bool) (after : Iso15693_3Listener) : Prop where
  waits : after.sessionState.waitForEof = wait
  frames : after.frames = if wait then [] else after.responses.map answerFrame
  response : wait = true → after.responses = [after.txBuffer]

theorem standardRequest_run (found : handlerOf command = some handler) :
    iso15693_3ListenerHandleStandardRequest request command flags instanc = (handler.run request flags >>= respond)
        (({ instanc with txBuffer := [0x00#8] } : Iso15693_3Listener).traced (.called handler)) := by
  have known : command ≠ 0#8 := by
    have none : handlerOf 0#8 = none := by decide
    rintro rfl
    cases found
  unfold iso15693_3ListenerHandleStandardRequest resetTxBuffer
  rw [requestHandler_eq known, found, Effect.pure_bind_run]
  refine (Effect.update_bind _ _ _).trans ?_
  exact Effect.bind_of_ok (appendBytes_run (show 0 + 1 ≤ 64 by decide))

theorem standardRequest_served
    (found : handlerOf command = some handler) (open' : Unanswered false instanc) {card : Iso15693_3Listener}
    (same : SameCard card instanc) (answered : optionFlag flags = true → ¬ handler.Drops card request) {error : Iso15693_3Error}
    (ran : (iso15693_3ListenerHandleStandardRequest request command flags instanc).1 = .ok error) :
    Served (waitsAfter handler flags) (iso15693_3ListenerHandleStandardRequest request command flags instanc).2 := by
  rw [standardRequest_run found] at ran ⊢
  obtain ⟨result, served, done, responds⟩ := Effect.bind_ok ran
  have unanswered : Unanswered (waitsAfter handler flags) served := by
    have starts : Unanswered false
        (({ instanc with txBuffer := [0x00#8] } : Iso15693_3Listener).traced (.called handler)) :=
      ⟨open'.1, (responses_traced rfl).trans open'.2.1, (frames_traced rfl).trans open'.2.2⟩
    have ends := @handler_unanswered _ request flags handler starts
    rw [done] at ends
    exact ends
  obtain ⟨waits, responses, frames⟩ := unanswered
  rw [Effect.bind_of_ok done]
  rcases respond_ok responds with ⟨silent, ends⟩ | ⟨response, answers⟩
  · have now : waitsAfter handler flags = false := by
      by_contra later
      obtain ⟨option, write⟩ := (Bool.and_eq_true _ _).mp (Bool.not_eq_false _ ▸ later)
      have drops := @handler_silentOnlyIf card request flags handler write
      exact answered option (drops _ result (by exact same) (congrArg Prod.fst done) silent)
    rw [ends, now]
    refine ⟨waits.trans now, ?_, fun later => absurd later Bool.false_ne_true⟩
    rw [frames, responses]
    rfl
  · have built : (respond result served).2.responses = [response] := by
      rw [answers.responses, responses]
      rfl
    refine ⟨answers.waits.trans waits, ?_, fun later => ?_⟩
    · rw [built, answers.frames, frames, waits]
      rfl
    · rw [built, answers.kept (waits.trans later)]

/-- Nothing that has to do with answers changed. -/
structure SameAnswers (before later : Iso15693_3Listener) : Prop where
  waits : later.sessionState.waitForEof = before.sessionState.waitForEof
  txBuffer : later.txBuffer = before.txBuffer
  responses : later.responses = before.responses
  frames : later.frames = before.frames

theorem sameAnswers_traced {before : Iso15693_3Listener} {step : Iso15693_3Trace} (response : step.response = none)
    (frame : step.frame = none) (same : SameAnswers before instanc) : SameAnswers before (instanc.traced step) :=
  ⟨same.waits, same.txBuffer, (responses_traced response).trans same.responses, (frames_traced frame).trans same.frames⟩

theorem sameAnswers_looks {frame : BitBuffer} {before : Iso15693_3Listener} (looked : instanc.Looks frame before) :
    SameAnswers instanc before := by
  obtain ⟨reads, grown, bytes⟩ := looked.trace
  refine ⟨looked.waits, looked.txBuffer, ?_, ?_⟩
  · unfold Iso15693_3Listener.responses
    have none : reads.filterMap (·.response) = [] := by
      refine List.filterMap_eq_nil_iff.mpr fun step member => ?_
      obtain ⟨place, -, rfl⟩ := bytes step member
      rfl
    rw [grown, List.filterMap_append, none, List.append_nil]
  · unfold Iso15693_3Listener.frames
    have none : reads.filterMap (·.frame) = [] := by
      refine List.filterMap_eq_nil_iff.mpr fun step member => ?_
      obtain ⟨place, -, rfl⟩ := bytes step member
      rfl
    rw [grown, List.filterMap_append, none, List.append_nil]

/-- What follows the work on a request has nothing to do with its answer. -/
theorem keeps_sameAnswers (before : Iso15693_3Listener) (frame : BitBuffer) (error : Iso15693_3Error) :
    Keeping (SameAnswers before) (if error = .notSupported then note .reported
      else if error = .uidMismatch then iso15693_3ListenerProcessUidMismatch frame >>= fun _ => pure () else pure ()) := by
  have mismatch : Keeping (SameAnswers before) (iso15693_3ListenerProcessUidMismatch frame) :=
    keeps_uidMismatch (fun _ _ same => sameAnswers_traced rfl rfl same)
      (fun _ _ same => ⟨same.waits, same.txBuffer, same.responses, same.frames⟩) frame
  exact .ite (fun _ => .update fun _ same => sameAnswers_traced rfl rfl same) fun _ =>
    .ite (fun _ => .bind mismatch fun _ => .pure _) fun _ => .pure _

/-- The listener before an event. -/
def begun (instanc : Iso15693_3Listener) : Iso15693_3Listener := { instanc with trace := [] }

variable {rxBuffer : BitBuffer}

variable (right : iso13239CrcCheck rxBuffer = true)
include right

theorem run_request : iso15693_3ListenerRun (.rxEnd rxBuffer) instanc =
      (iso15693_3ListenerProcessRequest (iso13239CrcTrim rxBuffer) >>= fun error =>
        if error = .notSupported then note .reported
        else if error = .uidMismatch then
          iso15693_3ListenerProcessUidMismatch (iso13239CrcTrim rxBuffer) >>= fun _ => pure ()
        else pure ()) (begun instanc) := by
  unfold iso15693_3ListenerRun
  simp only [right]
  rfl

theorem run_unserved (unserved : instanc.handlerFor (.rxEnd rxBuffer) = none)
    (ran : (iso15693_3ListenerRun (.rxEnd rxBuffer) instanc).1 = .ok ()) :
    SameAnswers (begun instanc) (instanc.next (.rxEnd rxBuffer)) := by
  unfold Iso15693_3Listener.next
  rw [run_request right] at ran ⊢
  obtain ⟨error, served, done, tail⟩ := Effect.bind_ok ran
  rw [Effect.bind_of_ok done]
  refine (keeps_sameAnswers _ _ _ served ?_).1
  obtain ⟨before, looked, run⟩ := processRequest_run (iso13239CrcTrim rxBuffer) (begun instanc)
  rw [run] at done
  have same := sameAnswers_looks looked
  cases delivered : instanc.refusal (iso13239CrcTrim rxBuffer) with
  | some refused =>
    have refuses : (begun instanc).refusal (iso13239CrcTrim rxBuffer) = some refused := delivered
    rw [refuses] at done
    cases done
    exact same
  | none =>
    have passes : (begun instanc).refusal (iso13239CrcTrim rxBuffer) = none := delivered
    have unknown : handlerOf ((iso13239CrcTrim rxBuffer).byte 1) = none :=
      (if_pos ⟨right, delivered⟩).symm.trans unserved
    rw [passes] at done
    unfold iso15693_3ListenerHandleStandardRequest at done
    by_cases zero : (iso13239CrcTrim rxBuffer).byte 1 = 0#8
    · simp only [zero] at done
      cases done
    · simp only [requestHandler_eq zero, unknown] at done
      cases done
      exact same

theorem run_served (served : instanc.handlerFor (.rxEnd rxBuffer) = some handler)
    (inTurn : instanc.InTurn (.rxEnd rxBuffer)) (ran : (iso15693_3ListenerRun (.rxEnd rxBuffer) instanc).1 = .ok ()) :
    Served (Iso15693_3NfcEvent.asksToWait (.rxEnd rxBuffer)) (instanc.next (.rxEnd rxBuffer)) := by
  obtain ⟨still, answered⟩ := inTurn handler served
  change optionFlag ((iso13239CrcTrim rxBuffer).byte 0) = true →
    ¬ handler.Drops instanc (requestData (iso13239CrcTrim rxBuffer)) at answered
  have passes : instanc.refusal (iso13239CrcTrim rxBuffer) = none := by
    by_contra refused
    exact absurd ((if_neg fun both => refused both.2).symm.trans served) (by simp)
  have found : handlerOf ((iso13239CrcTrim rxBuffer).byte 1) = some handler :=
    (if_pos ⟨right, passes⟩).symm.trans served
  have waits : Iso15693_3NfcEvent.asksToWait (.rxEnd rxBuffer) =
      waitsAfter handler ((iso13239CrcTrim rxBuffer).byte 0) := by
    show (_ && (handlerOf ((iso13239CrcTrim rxBuffer).byte 1)).any _) = _
    rw [found]
    rfl
  unfold Iso15693_3Listener.next
  rw [run_request right] at ran ⊢
  obtain ⟨error, after, done, tail⟩ := Effect.bind_ok ran
  rw [Effect.bind_of_ok done, waits]
  have same := (keeps_sameAnswers after (iso13239CrcTrim rxBuffer) error after ⟨rfl, rfl, rfl, rfl⟩).1
  suffices answers : Served (waitsAfter handler ((iso13239CrcTrim rxBuffer).byte 0)) after from
    ⟨same.waits.trans answers.waits, by rw [same.frames, same.responses]; exact answers.frames,
      fun later => by rw [same.responses, same.txBuffer]; exact answers.response later⟩
  obtain ⟨before, looked, run⟩ := processRequest_run (iso13239CrcTrim rxBuffer) (begun instanc)
  have delivered : (begun instanc).refusal (iso13239CrcTrim rxBuffer) = none := passes
  rw [delivered] at run
  change iso15693_3ListenerProcessRequest _ _ = iso15693_3ListenerHandleStandardRequest _ _ _ before at run
  have open' : Unanswered false before :=
    ⟨looked.waits.trans still, (sameAnswers_looks looked).responses, (sameAnswers_looks looked).frames⟩
  have card : SameCard instanc before := ⟨looked.surroundings, looked.data, looked.extensionTable⟩
  rw [run] at done
  have ends := standardRequest_served found open' card answered (congrArg Prod.fst done)
  rw [done] at ends
  exact ends

omit right

/-! ## Runs -/

/-- What waits is in the transmit buffer. -/
def Owes (waiting : List (List (BitVec 8))) (instanc : Iso15693_3Listener) : Prop :=
  waiting = if instanc.sessionState.waitForEof then [instanc.txBuffer] else []

variable {waiting : List (List (BitVec 8))} {event : Iso15693_3NfcEvent}

variable (owes : Owes waiting instanc)
include owes

theorem idle_in_time (idle : SameAnswers (begun instanc) (instanc.next event))
    (none : event.isSingleEof = true → waiting = []) :
    (instanc.next event).frames = instanc.framesDue waiting event ∧
      Owes (instanc.waitingAfter waiting event) (instanc.next event) := by
  have responses : (instanc.next event).responses = [] := idle.responses
  have frames : (instanc.next event).frames = [] := idle.frames
  have still : Owes waiting (instanc.next event) := by
    rw [Owes, idle.waits, idle.txBuffer]
    exact owes
  unfold Iso15693_3Listener.framesDue Iso15693_3Listener.waitingAfter
  rw [responses, frames, List.map_nil, List.append_nil, ite_self, ite_self]
  cases eof : event.isSingleEof with
  | true =>
    rw [none eof] at still ⊢
    exact ⟨rfl, still⟩
  | false => exact ⟨rfl, still⟩

theorem served_in_time (open' : instanc.sessionState.waitForEof = false)
    (eof : event.isSingleEof = false) (served : Served event.asksToWait (instanc.next event)) :
    (instanc.next event).frames = instanc.framesDue waiting event ∧
      Owes (instanc.waitingAfter waiting event) (instanc.next event) := by
  have nothing : waiting = [] := by
    rw [Owes, open'] at owes
    exact owes
  unfold Iso15693_3Listener.framesDue Iso15693_3Listener.waitingAfter Owes
  rw [served.frames, served.waits, eof, nothing]
  refine ⟨rfl, ?_⟩
  cases waits : event.asksToWait with
  | true => exact served.response waits
  | false => rfl

omit owes

theorem not_singleEof (right : iso13239CrcCheck rxBuffer = true) :
    Iso15693_3NfcEvent.isSingleEof (.rxEnd rxBuffer) = false := by
  by_contra empty
  have none : rxBuffer.sizeBits = 0 := of_decide_eq_true (Bool.not_eq_false _ ▸ empty)
  unfold iso13239CrcCheck BitBuffer.sizeBytes at right
  rw [none] at right
  exact absurd ((Bool.and_eq_true _ _).mp right).1 (by decide)

include owes

theorem eof_in_time (wrong : ¬ iso13239CrcCheck rxBuffer = true)
    (empty : rxBuffer.sizeBits = 0) (ran : (iso15693_3ListenerRun (.rxEnd rxBuffer) instanc).1 = .ok ()) :
    (instanc.next (.rxEnd rxBuffer)).frames = instanc.framesDue waiting (.rxEnd rxBuffer) ∧
      Owes (instanc.waitingAfter waiting (.rxEnd rxBuffer)) (instanc.next (.rxEnd rxBuffer)) := by
  have eof : Iso15693_3NfcEvent.isSingleEof (.rxEnd rxBuffer) = true := decide_eq_true empty
  have run : iso15693_3ListenerRun (.rxEnd rxBuffer) instanc = (iso15693_3ListenerProcessSingleEof >>= fun error =>
        if error = .unexpectedResponse then note .reported else pure ()) (begun instanc) := by
    unfold iso15693_3ListenerRun
    simp only [wrong, empty]
    rfl
  cases waits : instanc.sessionState.waitForEof with
  | false =>
    have single : iso15693_3ListenerProcessSingleEof (begun instanc) = (.ok .unexpectedResponse, begun instanc) := by
      unfold iso15693_3ListenerProcessSingleEof
      change (if (!instanc.sessionState.waitForEof) = true then _ else _ : Iso15693_3M Iso15693_3Error) _ = _
      rw [waits]
      rfl
    have ends : instanc.next (.rxEnd rxBuffer) = (begun instanc).traced .reported := by
      unfold Iso15693_3Listener.next
      rw [run, Effect.bind_of_ok single]
      rfl
    refine idle_in_time owes ?_ fun _ => ?_
    · rw [ends]
      exact sameAnswers_traced rfl rfl ⟨rfl, rfl, rfl, rfl⟩
    · rw [Owes, waits] at owes
      exact owes
  | true =>
    have pending : waiting = [instanc.txBuffer] := by
      rw [Owes, waits] at owes
      exact owes
    have single : iso15693_3ListenerProcessSingleEof (begun instanc) =
        (iso15693_3ListenerSendFrame >>= fun _ => pure .none) { begun instanc with
          sessionState := { instanc.sessionState with waitForEof := false } } := by
      unfold iso15693_3ListenerProcessSingleEof
      change (if (!instanc.sessionState.waitForEof) = true then _ else _ : Iso15693_3M Iso15693_3Error) _ = _
      rw [waits]
      rfl
    rw [run] at ran
    obtain ⟨error, after, done, -⟩ := Effect.bind_ok ran
    rw [single] at done
    obtain ⟨_, _, sends, -⟩ := Effect.bind_ok (congrArg Prod.fst done)
    have sent := sendFrame_ok (congrArg Prod.fst sends)
    rw [Effect.bind_of_ok sent] at single
    have ends : instanc.next (.rxEnd rxBuffer) = (({ begun instanc with
          sessionState := { instanc.sessionState with waitForEof := false }
          txBuffer := answerFrame instanc.txBuffer } : Iso15693_3Listener).traced (.sent (answerFrame instanc.txBuffer))) := by
      unfold Iso15693_3Listener.next
      rw [run, Effect.bind_of_ok single]
      rfl
    unfold Iso15693_3Listener.framesDue Iso15693_3Listener.waitingAfter
    rw [if_pos eof, if_pos eof, ends, pending]
    exact ⟨rfl, rfl⟩

theorem event_in_time (inTurn : instanc.InTurn event) (ran : (iso15693_3ListenerRun event instanc).1 = .ok ()) :
    (instanc.next event).frames = instanc.framesDue waiting event ∧
      Owes (instanc.waitingAfter waiting event) (instanc.next event) := by
  cases event with
  | other => exact idle_in_time owes ⟨rfl, rfl, rfl, rfl⟩ fun same => absurd same Bool.false_ne_true
  | rxEnd rxBuffer =>
    by_cases right : iso13239CrcCheck rxBuffer = true
    · have eof := not_singleEof right
      cases served : instanc.handlerFor (.rxEnd rxBuffer) with
      | none => exact idle_in_time owes (run_unserved right served ran) fun same => absurd (eof.symm.trans same) Bool.false_ne_true
      | some handler => exact served_in_time owes (inTurn handler served).1 eof (run_served right served inTurn ran)
    · by_cases empty : rxBuffer.sizeBits = 0
      · exact eof_in_time owes right empty ran
      · have ends : instanc.next (.rxEnd rxBuffer) = begun instanc := by
          unfold Iso15693_3Listener.next iso15693_3ListenerRun
          simp only [right, empty]
          rfl
        refine idle_in_time owes ?_ fun same => absurd (of_decide_eq_true same) empty
        rw [ends]
        exact ⟨rfl, rfl, rfl, rfl⟩

theorem run_in_time {events : List Iso15693_3NfcEvent} (inTurn : instanc.Throughout Iso15693_3Listener.InTurn events) :
    instanc.AnswersInTime waiting events := by
  induction events generalizing instanc waiting with
  | nil => trivial
  | cons event rest ih =>
    intro ran
    obtain ⟨frames, still⟩ := event_in_time owes inTurn.1 ran
    exact ⟨frames, ih still inTurn.2⟩

omit owes

/-- **Where requests get to a handler only while no response waits, and those to write with
the option flag are ones that are answered, every response goes out in time**: at once, or at
the next EOF if its own request asked for that. An EOF that no response waits for sends nothing. -/
theorem answers_in_time (surroundings : Iso15693_3Surroundings) (data : Iso15693_3Data)
    (table : Option Iso15693_3ExtensionHandlerTable) (events : List Iso15693_3NfcEvent)
    (inTurn : ({ iso15693_3ListenerAlloc surroundings data with extensionTable := table } :
      Iso15693_3Listener).Throughout Iso15693_3Listener.InTurn events) :
    ({ iso15693_3ListenerAlloc surroundings data with extensionTable := table } :
      Iso15693_3Listener).AnswersInTime [] events :=
  run_in_time rfl inTurn

end

/-- A block is written with the option flag set, and read after the EOF. -/
theorem answers_in_time_write : (iso15693_3ListenerAlloc releaseBuild fourBlockCard).AnswersInTime []
      [requestEvent [0x42, 0x21, 0x00, 1, 2, 3, 4], .rxEnd (.ofBytes []), requestEvent [0x02, 0x20, 0x00]] := by
  refine answers_in_time releaseBuild fourBlockCard none _ ⟨?_, ?_, ?_, trivial⟩
  · decide +kernel
  · decide +kernel
  · decide +kernel

/-- A request to write that is too short makes the next EOF send a frame that answers nothing.
A request to read that comes before the EOF is not answered at once. -/
theorem answers_out_of_turn : ¬(iso15693_3ListenerAlloc releaseBuild fourBlockCard).AnswersInTime []
        [requestEvent [0x42, 0x21, 0x00], .rxEnd (.ofBytes [])] ∧
      ¬(iso15693_3ListenerAlloc releaseBuild fourBlockCard).AnswersInTime []
        [requestEvent [0x42, 0x21, 0x00, 1, 2, 3, 4], requestEvent [0x02, 0x20, 0x00]] := by
  constructor
  · intro timely
    have eof := ((timely (by decide +kernel)).2 (by decide +kernel)).1
    exact absurd eof (by decide +kernel)
  · intro timely
    have read := ((timely (by decide +kernel)).2 (by decide +kernel)).1
    exact absurd read (by decide +kernel)

end Xtreme.Nfc
