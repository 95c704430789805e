import Xtreme.Nfc.UltralightCommands

/-! What an event does to the listener, and what holds in every state that a
run from the start reaches: a second part of COMP_WRITE is awaited only for a
page that the checks let through, and they still would. -/
namespace Xtreme.Nfc
open Xtreme.Library BitLib
open Effect (fault observe update Reaches reaches_preserves)

/-- The answers after which the password need not be given again. -/
def keepsAuth : MfUltralightCommand → Bool
  | .processedACK | .processedSilent | .processed => true
  | _ => false

/-- What an answer sends on its own. -/
def ownReply : MfUltralightCommand → List Reply
  | .processedACK => [.shortFrame 0x0A#8]
  | .notProcessedNAK => [.shortFrame 0x00#8]
  | .notProcessedAuthNAK => [.shortFrame 0x04#8]
  | _ => []

namespace MfUltralightListener
variable (instanc : MfUltralightListener)

/-- The state with which an event begins. -/
def cleared : MfUltralightListener := { instanc with sent := [], accesses := [] }

@[simp] theorem cleared_data : instanc.cleared.data = instanc.data := rfl
@[simp] theorem cleared_sector : instanc.cleared.sector = instanc.sector := rfl
@[simp] theorem cleared_authState : instanc.cleared.authState = instanc.authState := rfl
@[simp] theorem cleared_compositeCmd : instanc.cleared.compositeCmd = instanc.compositeCmd := rfl

/-- The state after the answer of a frame was worked up. -/
def answered (answer : MfUltralightCommand) : MfUltralightListener :=
  { instanc with
    authState := if keepsAuth answer then instanc.authState else .idle
    sent := instanc.sent ++ ownReply answer }

/-- The state after an event that is no frame of the protocol. -/
def resetBy (event : Iso14443_3aListenerEvent) : MfUltralightListener :=
  { instanc.cleared with
    compositeCmd := ⟨0#8, none⟩
    singleCounterIncreased := if mfUltralightSupportFeature instanc.features [.singleCounter] = true ∧
      event = .fieldOff then false else instanc.singleCounterIncreased
    sector := 0#8
    authState := .idle }

end MfUltralightListener

/-- What the listener tells the worker after an answer. -/
def nfcCommandOf : MfUltralightCommand → NfcCommand
  | .processedACK | .processed => .continue
  | .processedSilent => .reset
  | _ => .sleep

theorem mfUltralightCommandPostprocess_run (answer : MfUltralightCommand) (instanc : MfUltralightListener) :
    mfUltralightCommandPostprocess answer instanc = (.ok (nfcCommandOf answer), instanc.answered answer) := by
  cases answer <;> simp [mfUltralightCommandPostprocess, mfUltralightListenerSendShortResp, iso14443_3aListenerTx,
    MfUltralightListener.answered, nfcCommandOf, keepsAuth, ownReply]

theorem mfUltralightListenerRun_frame (buffer : Frame) (instanc : MfUltralightListener) :
    mfUltralightListenerRun (.receivedStandardFrame buffer) instanc =
      match mfUltralightListenerHandleFrame buffer instanc.cleared with
      | (.ok answer, after) => (.ok (nfcCommandOf answer), after.answered answer)
      | (.error error, after) => (.error error, after) := by
  have same : mfUltralightListenerRun (.receivedStandardFrame buffer) instanc =
      (mfUltralightListenerHandleFrame buffer >>= mfUltralightCommandPostprocess) instanc.cleared := rfl
  rw [same, Effect.bind_run]
  split <;> simp_all [mfUltralightCommandPostprocess_run]

/-- An event that is no frame of the protocol. -/
def IsReset (event : Iso14443_3aListenerEvent) : Prop := ∀ buffer, event ≠ .receivedStandardFrame buffer

theorem mfUltralightSingleCounterTryToUnlock_run (event : Iso14443_3aListenerEvent)
    (instanc : MfUltralightListener) :
    mfUltralightSingleCounterTryToUnlock event instanc = (.ok (), { instanc with
        singleCounterIncreased := if mfUltralightSupportFeature instanc.features [.singleCounter] = true ∧
          event = .fieldOff then false else instanc.singleCounterIncreased }) := by
  unfold mfUltralightSingleCounterTryToUnlock supports
  rw [Effect.observe_bind]
  by_cases unlocks : mfUltralightSupportFeature instanc.features [.singleCounter] = true ∧ event = .fieldOff
  · rw [if_pos unlocks, if_pos unlocks]
    rfl
  · rw [if_neg unlocks, if_neg unlocks]
    rfl

theorem mfUltralightListenerRun_reset {event : Iso14443_3aListenerEvent} (reset : IsReset event)
    (instanc : MfUltralightListener) :
    mfUltralightListenerRun event instanc = (.ok .sleep, instanc.resetBy event) := by
  have same : mfUltralightListenerRun event instanc = mfUltralightResetListenerState event instanc.cleared := by
    cases event with
    | receivedStandardFrame buffer => exact absurd rfl (reset buffer)
    | _ => rfl
  rw [same]
  unfold mfUltralightResetListenerState mfUltralightCompositeCommandReset
  rw [Effect.update_bind, Effect.bind_of_ok (mfUltralightSingleCounterTryToUnlock_run event _)]
  rfl

/-- What holds of the listener between events. -/
structure ListenerSound (instanc : MfUltralightListener) : Prop where
  mirror : MirrorHasConfig instanc
  pending : instanc.compositeCmd.callback = some .compWriteP2 →
    2 ≤ instanc.compositeCmd.data.toNat ∧ instanc.writeAllowed instanc.compositeCmd.data.toNat = true ∧
      mfUltralightSupportFeature instanc.features [.compatibleWrite] = true

theorem listenerSound_alloc (data : MfUltralightData) : ListenerSound (mfUltralightListenerAlloc data) :=
  ⟨fun enabled => (nomatch enabled), fun waiting => (nomatch waiting)⟩

variable (instanc : MfUltralightListener) (rxData : MfUltralightPage)

theorem storing_mirror (page : Nat) (doI2cCheck : Bool) :
    (instanc.storing rxData page doI2cCheck).mirror = instanc.mirror := by
  unfold MfUltralightListener.storing
  split <;> rfl

theorem storing_compositeCmd (page : Nat) (doI2cCheck : Bool) :
    (instanc.storing rxData page doI2cCheck).compositeCmd = instanc.compositeCmd := by
  unfold MfUltralightListener.storing
  split <;> rfl

theorem storing_type (page : Nat) (doI2cCheck : Bool) :
    (instanc.storing rxData page doI2cCheck).data.type = instanc.data.type := by
  unfold MfUltralightListener.storing
  split <;> rfl

theorem storing_pagesTotal (page : Nat) (doI2cCheck : Bool) :
    (instanc.storing rxData page doI2cCheck).data.pagesTotal = instanc.data.pagesTotal := by
  unfold MfUltralightListener.storing
  split <;> rfl

theorem frameChange_sound {start after : MfUltralightListener} {buffer : Frame}
    {outcome : Except MfUltralightFault MfUltralightCommand} (change : FrameChange start buffer outcome after)
    (sound : ListenerSound start) :
    MirrorHasConfig after ∧ (after.compositeCmd.callback = some .compWriteP2 →
      outcome = .ok .processedACK ∧ 2 ≤ after.compositeCmd.data.toNat ∧
        after.writeAllowed after.compositeCmd.data.toNat = true ∧
        mfUltralightSupportFeature after.features [.compatibleWrite] = true) := by
  cases change with
  | quiet first watched =>
    refine ⟨watched.mirror, fun waiting => ?_⟩
    rw [watched.compositeCmd, first] at waiting
    cases waiting
  | write command inRange allows =>
    refine ⟨?_, fun waiting => ?_⟩
    · unfold MirrorHasConfig MfUltralightListener.config
      rw [storing_mirror, storing_type]
      exact sound.mirror
    · rw [storing_compositeCmd] at waiting
      rw [MfUltralightListener.logging_compositeCmd, command.first] at waiting
      cases waiting
  | compWrite command supported inRange allows =>
    refine ⟨sound.mirror, fun _ => ⟨rfl, ?_, allows, supported⟩⟩
    simp only [compWriteInRange, Bool.and_eq_true, decide_eq_true_eq] at inRange
    exact inRange.1
  | sectorSelect command =>
    refine ⟨sound.mirror, fun waiting => ?_⟩
    cases waiting
  | password command there supported unlocked matching =>
    refine ⟨sound.mirror, fun waiting => ?_⟩
    have first : start.compositeCmd.callback = some .compWriteP2 := waiting
    rw [command.first] at first
    cases first
  | attempt command there supported refused =>
    refine ⟨sound.mirror, fun waiting => ?_⟩
    have first : start.compositeCmd.callback = some .compWriteP2 := waiting
    rw [command.first] at first
    cases first
  | secondWrite pending long =>
    refine ⟨?_, fun waiting => ?_⟩
    · unfold MirrorHasConfig MfUltralightListener.config
      rw [storing_mirror, storing_type]
      exact sound.mirror
    · cases waiting
  | secondSector pending long valid =>
    refine ⟨sound.mirror, fun waiting => ?_⟩
    cases waiting
  | second pending =>
    refine ⟨sound.mirror, fun waiting => ?_⟩
    cases waiting

variable {instanc : MfUltralightListener}

theorem listenerSound_run (event : Iso14443_3aListenerEvent) (sound : ListenerSound instanc) :
    ListenerSound (mfUltralightListenerRun event instanc).2 := by
  by_cases reset : IsReset event
  · rw [mfUltralightListenerRun_reset reset]
    exact ⟨sound.mirror, fun waiting => nomatch waiting⟩
  obtain ⟨buffer, rfl⟩ : ∃ buffer, event = .receivedStandardFrame buffer := by
    unfold IsReset at reset
    simpa using reset
  have start : ListenerSound instanc.cleared := ⟨sound.mirror, sound.pending⟩
  have change := mfUltralightListenerHandleFrame_change start.mirror buffer
  obtain ⟨mirror, pending⟩ := frameChange_sound change start
  rw [mfUltralightListenerRun_frame]
  rcases ran : mfUltralightListenerHandleFrame buffer instanc.cleared with ⟨outcome, after⟩
  rw [ran] at mirror pending
  cases outcome with
  | error error =>
    refine ⟨mirror, fun waiting => ?_⟩
    cases (pending waiting).1
  | ok answer =>
    refine ⟨mirror, fun waiting => ?_⟩
    obtain ⟨acknowledged, least, allows, supported⟩ := pending waiting
    cases acknowledged
    exact ⟨least, allows, supported⟩

theorem frameChange_tag {start after : MfUltralightListener} {buffer : Frame}
    {outcome : Except MfUltralightFault MfUltralightCommand} (change : FrameChange start buffer outcome after) :
    after.data.type = start.data.type ∧ after.data.pagesTotal = start.data.pagesTotal := by
  cases change with
  | quiet first watched => exact ⟨watched.type, watched.pagesTotal⟩
  | write command inRange allows => exact ⟨storing_type _ _ _ _, storing_pagesTotal _ _ _ _⟩
  | secondWrite pending long => exact ⟨storing_type _ _ _ _, storing_pagesTotal _ _ _ _⟩
  | _ => exact ⟨rfl, rfl⟩

theorem mfUltralightListenerRun_tag (event : Iso14443_3aListenerEvent) (sound : MirrorHasConfig instanc) :
    (mfUltralightListenerRun event instanc).2.data.type = instanc.data.type ∧
      (mfUltralightListenerRun event instanc).2.data.pagesTotal = instanc.data.pagesTotal := by
  by_cases reset : IsReset event
  · rw [mfUltralightListenerRun_reset reset]
    exact ⟨rfl, rfl⟩
  obtain ⟨buffer, rfl⟩ : ∃ buffer, event = .receivedStandardFrame buffer := by
    unfold IsReset at reset
    simpa using reset
  have start : MirrorHasConfig instanc.cleared := sound
  have same := frameChange_tag (mfUltralightListenerHandleFrame_change start buffer)
  rw [mfUltralightListenerRun_frame]
  rcases ran : mfUltralightListenerHandleFrame buffer instanc.cleared with ⟨outcome, after⟩
  rw [ran] at same
  cases outcome with
  | error error => exact same
  | ok answer => exact same

theorem reaches_sound {data : MfUltralightData} {guard : Iso14443_3aListenerEvent → MfUltralightListener → Prop}
    {events : List Iso14443_3aListenerEvent}
    (run : Reaches mfUltralightListenerRun guard (mfUltralightListenerAlloc data) events instanc) :
    ListenerSound instanc :=
  reaches_preserves run (listenerSound_alloc data) fun event _ _ sound => listenerSound_run event sound

theorem reaches_tag {data : MfUltralightData} {guard : Iso14443_3aListenerEvent → MfUltralightListener → Prop}
    {events : List Iso14443_3aListenerEvent}
    (run : Reaches mfUltralightListenerRun guard (mfUltralightListenerAlloc data) events instanc) :
    instanc.data.type = data.type ∧ instanc.data.pagesTotal = data.pagesTotal := by
  let holds (state : MfUltralightListener) : Prop :=
    ListenerSound state ∧ state.data.type = data.type ∧ state.data.pagesTotal = data.pagesTotal
  have start : holds (mfUltralightListenerAlloc data) := ⟨listenerSound_alloc data, rfl, rfl⟩
  have kept : holds instanc := reaches_preserves run start fun event state _ held =>
    have same := mfUltralightListenerRun_tag event held.1.mirror
    ⟨listenerSound_run event held.1, same.1.trans held.2.1, same.2.trans held.2.2⟩
  exact kept.2

/-- A tag of that type and size, all bytes of which are zero. -/
def blankTag (type : MfUltralightType) (pagesTotal : Nat) : MfUltralightData where
  iso14443_3aData := ⟨Vector.replicate 10 0#8, 7, Vector.replicate 2 0#8, 0#8⟩
  type := type
  version := Vector.replicate 8 0#8
  signature := Vector.replicate 32 0#8
  counter := Vector.replicate 3 0#32
  tearingFlag := Vector.replicate 3 0#8
  page := Vector.replicate 510 zeroPage
  pagesTotal := pagesTotal
  pagesRead := pagesTotal
  authAttempts := 0#32

def markedTag (type : MfUltralightType) (pagesTotal index : Nat) : MfUltralightData :=
  { blankTag type pagesTotal with
    page := (blankTag type pagesTotal).page.setIfInBounds index (Vector.replicate 4 0xFF#8) }

end Xtreme.Nfc
