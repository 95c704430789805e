import Mathlib.Logic.Relation
import Xtreme.Nfc.UltralightEvents

/-! The single changes that the listener is made of. Whatever an event does is a sequence of them, so
what every one of them keeps, a run keeps. -/
namespace Xtreme.Nfc
open Xtreme.Library BitLib
open Effect (fault observe update Preserves Reaches reaches_preserves)
open Relation (ReflTransGen)

inductive ListenerStep (instanc : MfUltralightListener) : MfUltralightListener → Prop
  | accessed (access : PageAccess) : ListenerStep instanc (instanc.accessed access)
  | setPage (index : Nat) (page : MfUltralightPage) : ListenerStep instanc (instanc.setPage index page)
  | replies (sent : List Reply) : ListenerStep instanc { instanc with sent := sent }
  /-- The mirror moves over its text, which stays. -/
  | mirror (mirror : MfUltralightMirrorMode) (text : mirror.asciiMirrorData = instanc.mirror.asciiMirrorData) :
      ListenerStep instanc { instanc with mirror := mirror }
  /-- The single counter is increased, and written into the text. -/
  | counted (counter : Vector (BitVec 32) 3) :
      ListenerStep instanc (mfUltraligtMirrorFormatCounter { instanc with data := { instanc.data with counter := counter } })
  | singleCounterIncreased (increased : Bool) : ListenerStep instanc { instanc with singleCounterIncreased := increased }
  /-- A counter is increased by the command for it. -/
  | counter (supported : mfUltralightSupportFeature instanc.features [.incCounter] = true)
      (counter : Vector (BitVec 32) 3) :
      ListenerStep instanc { instanc with data := { instanc.data with counter := counter } }
  | authAttempts (attempts : BitVec 32) : ListenerStep instanc (instanc.setAuthAttempts attempts)
  | authState (authState : MfUltralightListenerAuthState) : ListenerStep instanc { instanc with authState := authState }
  | compositeCmd (compositeCmd : MfUltralightListenerCompositeCommandContext) :
      ListenerStep instanc { instanc with compositeCmd := compositeCmd }
  | sector (sector : BitVec 8) : ListenerStep instanc { instanc with sector := sector }

def Stepwise {α : Type} (program : ListenerM α) : Prop :=
  ∀ start, Preserves (ReflTransGen ListenerStep start) anyFault program

theorem ListenerStep.type {start after : MfUltralightListener} (step : ListenerStep start after) :
    after.data.type = start.data.type := by
  cases step <;> rfl

theorem reached_type {start after : MfUltralightListener} (reached : ReflTransGen ListenerStep start after) :
    after.data.type = start.data.type := by
  induction reached with
  | refl => rfl
  | tail _ step same => exact step.type.trans same

namespace Stepwise
variable {α β : Type}

theorem pure (answer : α) : Stepwise (Pure.pure answer : ListenerM α) := fun _ => .pure _

theorem fault (error : MfUltralightFault) : Stepwise (Effect.fault error : ListenerM α) := fun _ => .fault trivial

theorem observe (view : MfUltralightListener → α) : Stepwise (Effect.observe view : ListenerM α) := fun _ => .observe _

theorem update {change : MfUltralightListener → MfUltralightListener}
    (steps : ∀ instanc, ListenerStep instanc (change instanc)) : Stepwise (Effect.update change) :=
  fun _ => .update fun instanc reached => reached.tail (steps instanc)

theorem bind {program : ListenerM α} {next : α → ListenerM β} (first : Stepwise program)
    (second : ∀ answer, Stepwise (next answer)) : Stepwise (program >>= next) :=
  fun start => Preserves.bind (first start) fun answer => second answer start

theorem ite {condition : Prop} [Decidable condition] {yes no : ListenerM α} (whenTrue : Stepwise yes)
    (whenFalse : Stepwise no) : Stepwise (if condition then yes else no) :=
  fun start => Preserves.ite (fun _ => whenTrue start) fun _ => whenFalse start

end Stepwise

theorem stepwise_supports (features : List MfUltralightFeatureSupport) : Stepwise (supports features) := .observe _

theorem stepwise_readPage (access : Nat → PageAccess) (index : Nat) : Stepwise (readPage access index) := by
  refine .bind (.update fun _ => .accessed _) fun _ => .bind (.observe _) fun found => ?_
  cases found with
  | none => exact .fault _
  | some page => exact .pure _

theorem stepwise_writePage (index : Nat) (page : MfUltralightPage) : Stepwise (writePage index page) :=
  .bind (.update fun _ => .accessed _) fun _ => .ite (.update fun _ => .setPage _ _) (.fault _)

theorem stepwise_configByte (access : Nat → PageAccess) (offset : Nat) : Stepwise (configByte access offset) := by
  refine .bind (.observe _) fun config => ?_
  cases config with
  | none => exact .fault _
  | some config => exact .bind (stepwise_readPage _ _) fun _ => .pure _

theorem stepwise_configMirrorPage : Stepwise configMirrorPage :=
  .bind (stepwise_configByte _ _) fun _ => .pure _

theorem stepwise_mirrorBoundariesLoop (lastUserPage rounds : Nat) (mode : MfUltralightMirrorConf)
    (maxByteOffset : Nat) (again : Bool) :
    Stepwise (mirrorBoundariesLoop lastUserPage rounds mode maxByteOffset again) := by
  induction rounds generalizing mode maxByteOffset again with
  | zero => exact .fault _
  | succ rounds next =>
    refine .ite (.pure _) (.bind (.update fun _ => .mirror _ rfl) fun _ => .bind stepwise_configMirrorPage fun _ => ?_)
    refine .ite (.pure _) (.ite (.pure _) (.ite (.bind (stepwise_configByte _ _) fun _ => .pure _) ?_))
    exact .ite (next _ _ _) (.ite (next _ _ _) (.pure _))

theorem stepwise_mirrorCheckBoundaries : Stepwise mfUltralightMirrorCheckBoundaries := by
  refine .bind (.observe _) fun lastUserPage => .bind ?_ fun _ => stepwise_mirrorBoundariesLoop _ _ _ _ _
  refine .bind (stepwise_configByte _ _) fun mirror => .ite (.pure _) (.bind (stepwise_configByte _ _) fun access => ?_)
  exact .bind (.observe _) fun _ => .ite (.pure _) (.pure _)

theorem stepwise_mirrorReadPrepare (startPage : Nat) : Stepwise (mfUltralightMirrorReadPrepare startPage) := by
  refine .bind ?_ fun enabled => .ite (.bind ?_ fun asciiOffset => .bind (.observe _) fun mode => .bind ?_ fun last => ?_)
    (.pure _)
  · refine .bind (stepwise_supports _) fun _ => .bind (.observe _) fun _ => .bind ?_ fun _ =>
      .bind (.update fun _ => .mirror _ rfl) fun _ => .pure _
    exact .ite stepwise_mirrorCheckBoundaries (.pure _)
  · exact .bind (stepwise_configByte _ _) fun _ => .bind stepwise_configMirrorPage fun _ => .ite (.pure _) (.pure _)
  · exact .bind (.observe _) fun _ => .bind stepwise_configMirrorPage fun _ => .pure _
  · exact .update fun _ => .mirror _ rfl

theorem stepwise_mirrorReadHandler (mirrorPageNum : Nat) (dest : MfUltralightPage) :
    Stepwise (mfUltralightMirrorReadHandler mirrorPageNum dest) := by
  refine .bind (.observe _) fun mirror => .ite (.bind stepwise_configMirrorPage fun _ => .ite ?_ (.pure _)) (.pure _)
  refine .bind (.bind stepwise_configMirrorPage fun _ => .ite (.pure _) ?_) fun _ =>
    .bind (.update fun _ => .mirror _ rfl) fun _ => .pure _
  exact .bind (stepwise_configByte _ _) fun _ => .pure _

theorem stepwise_singleCounterTryIncrease : Stepwise mfUltralightSingleCounterTryIncrease := by
  refine .bind (stepwise_supports _) fun _ => .ite ?_ (.pure _)
  refine .bind (stepwise_configByte _ _) fun _ => .bind (.observe _) fun _ => .ite ?_ (.pure _)
  refine .bind ?_ fun _ => .update fun _ => .singleCounterIncreased _
  -- At the largest value the counter stays.
  refine fun start => .update fun instanc reached => ?_
  split
  · exact reached.tail (.counted _)
  · exact reached

theorem stepwise_checkAccess (startPage : Nat) (accessType : MfUltralightListenerAccessType) :
    Stepwise (mfUltralightListenerCheckAccess startPage accessType) := by
  refine .bind (stepwise_supports _) fun _ => .ite (.pure _) (.bind ?_ fun _ => .ite (.pure _) (.bind ?_ fun _ => .pure _))
  · refine .bind (.observe _) fun _ => .ite (.pure _) (.bind (.bind (stepwise_configByte _ _) fun _ => .pure _) fun _ => ?_)
    exact .ite (.bind (stepwise_configByte _ _) fun _ => .pure _) (.pure _)
  · exact .bind (stepwise_configByte _ _) fun _ => .bind (.observe _) fun _ => .pure _

theorem stepwise_dynamicLock : Stepwise mfUltralightDynamicLock :=
  .bind (stepwise_supports _) fun _ => .bind (.observe _) fun _ => .pure _

theorem stepwise_writeRefused (startPage : Nat) : Stepwise (writeRefused startPage) := by
  refine .bind (stepwise_checkAccess _ _) fun _ => .ite (.pure _) (.bind ?_ fun _ => .ite (.pure _) ?_)
  · exact .ite (.bind (.bind (stepwise_readPage _ _) fun _ => .pure _) fun _ => .pure _) (.pure _)
  · refine .bind (.observe _) fun _ => .bind (.observe _) fun _ => .bind (stepwise_supports _) fun _ => .ite ?_ (.pure _)
    refine .bind stepwise_dynamicLock fun lockPage => ?_
    cases lockPage with
    | none => exact .fault _
    | some lockPage => exact .bind (stepwise_readPage _ _) fun _ => .pure _

theorem stepwise_sendStandardFrame (bytes : List (BitVec 8)) : Stepwise (sendStandardFrame bytes) :=
  .ite (.fault _) (.update fun _ => .replies _)

theorem stepwise_respond (bytes : List (BitVec 8)) (answer : MfUltralightCommand) : Stepwise (do
      sendStandardFrame bytes
      pure answer) :=
  .bind (stepwise_sendStandardFrame bytes) fun _ => .pure _

theorem stepwise_readOnePage (page rollover : Nat) (doI2cPageCheck : Bool) :
    Stepwise (mfUltralightReadOnePage page rollover doI2cPageCheck) := by
  refine .bind (stepwise_checkAccess _ _) fun _ => .bind (.observe _) fun _ => .bind (.observe _) fun _ => ?_
  refine .ite (.pure _) (.ite (.pure _) (.bind (.observe _) fun _ => .ite (.fault _) ?_))
  exact .bind (stepwise_readPage _ _) fun _ => .bind (stepwise_mirrorReadHandler _ _) fun _ => .pure _

theorem stepwise_readLoop (capacity startPage : Nat) (doI2cPageCheck : Bool) (rounds i rollover : Nat) :
    Stepwise (mfUltralightReadLoop capacity startPage doI2cPageCheck rounds i rollover) := by
  induction rounds generalizing i rollover with
  | zero => exact .pure _
  | succ rounds next =>
    exact .ite (.fault _) (.bind (stepwise_readOnePage _ _ _) fun _ => .bind (next _ _) fun _ => .pure _)

theorem stepwise_performRead (capacity startPage pageCnt : Nat) (doI2cPageCheck : Bool) : Stepwise (do
      let pages ← mfUltralightListenerPerformRead capacity startPage pageCnt doI2cPageCheck
      sendStandardFrame pages
      pure MfUltralightCommand.processed) := by
  refine .bind (.bind (stepwise_mirrorReadPrepare _) fun _ => ?_) fun _ => stepwise_respond _ _
  exact .bind (stepwise_readLoop _ _ _ _ _ _) fun _ => .bind stepwise_singleCounterTryIncrease fun _ => .pure _

theorem stepwise_performWrite (rxData : MfUltralightPage) (startPage : Nat) (doI2cCheck : Bool) :
    Stepwise (mfUltralightListenerPerformWrite rxData startPage doI2cCheck) := by
  have rewritten (index : Nat) (content : MfUltralightPage → MfUltralightPage) :
      Stepwise (readPage .consulted index >>= fun page => writePage index (content page)) :=
    .bind (stepwise_readPage _ _) fun _ => stepwise_writePage _ _
  refine .bind (.observe _) fun _ => .ite (.pure _) (.ite (.bind (rewritten _ _) fun _ => .pure _) ?_)
  refine .ite (.bind (rewritten _ _) fun _ => .pure _) (.bind ?_ fun _ => .ite (.bind ?_ fun _ => .pure _) ?_)
  · exact .bind (stepwise_supports _) fun _ => .ite (.bind (.observe _) fun _ => .bind (.observe _) fun _ => .pure _)
      (.pure _)
  · refine .bind stepwise_dynamicLock fun lockPage => ?_
    cases lockPage with
    | none => exact .fault _
    | some lockPage => exact rewritten _ _
  · exact .bind (.observe _) fun _ => .bind (stepwise_writePage _ _) fun _ => .pure _

variable (buffer : Frame)

theorem stepwise_readPageHandler : Stepwise (mfUltralightListenerReadPageHandler buffer) := by
  refine .bind (.observe _) fun _ => .bind (.observe _) fun _ => .bind (.observe _) fun _ => ?_
  refine .ite (.pure _) (.ite (.pure _) (.bind (stepwise_checkAccess _ _) fun _ => .ite (.pure _) ?_))
  exact stepwise_performRead _ _ _ _

theorem stepwise_fastReadHandler : Stepwise (mfUltralightListenerFastReadHandler buffer) := by
  refine .bind (stepwise_supports _) fun _ => .ite (.pure _) (.bind (.observe _) fun _ => .bind (.observe _) fun _ => ?_)
  refine .bind (.observe _) fun _ => .ite (.pure _) (.ite (.pure _) (.ite (.pure _) ?_))
  refine .bind (stepwise_checkAccess _ _) fun _ => .ite (.pure _) (.bind (stepwise_checkAccess _ _) fun _ => ?_)
  exact .ite (.pure _) (stepwise_performRead _ _ _ _)

theorem stepwise_writePageHandler : Stepwise (mfUltralightListenerWritePageHandler buffer) := by
  refine .bind (.observe _) fun _ => .bind (.observe _) fun _ => .bind (.observe _) fun _ => ?_
  refine .ite (.pure _) (.ite (.pure _) (.bind (stepwise_writeRefused _) fun _ => .ite (.pure _) ?_))
  exact stepwise_performWrite _ _ _

theorem stepwise_compWriteHandlerP1 : Stepwise (mfUltralightCompWriteHandlerP1 buffer) := by
  refine .bind (stepwise_supports _) fun _ => .ite (.pure _) (.bind (.observe _) fun _ => .ite (.pure _) ?_)
  refine .bind (stepwise_writeRefused _) fun _ => .ite (.pure _) (.bind (.update fun _ => .compositeCmd _) fun _ => ?_)
  exact .bind (.update fun _ => .compositeCmd _) fun _ => .pure _

theorem stepwise_readCounterHandler : Stepwise (mfUltralightListenerReadCounterHandler buffer) := by
  refine .bind (stepwise_supports _) fun _ => .ite (.pure _) (.bind ?_ fun _ => .ite (.pure _) ?_)
  · refine .bind (stepwise_supports _) fun _ => .ite (.pure _) (.bind (.observe _) fun _ => .ite (.pure _) ?_)
    exact .bind (stepwise_configByte _ _) fun _ => .bind (.observe _) fun _ => .pure _
  · refine .bind (.observe _) fun counter => ?_
    cases counter with
    | none => exact .pure _
    | some counter => exact stepwise_respond _ _

theorem stepwise_increaseCounterHandler : Stepwise (mfUltralightListenerIncreaseCounterHandler buffer) := by
  intro start
  refine Preserves.observe_bind fun state reached => Preserves.ite (fun _ => .pure _) fun supported => ?_
  refine Preserves.bind (.observe _) fun counter => ?_
  cases counter with
  | none => exact .pure _
  | some counter =>
    refine Preserves.ite (fun _ => .pure _) fun _ => Preserves.ite (fun _ => .pure _) fun _ => ?_
    refine Preserves.bind (.update fun instanc later => later.tail (.counter ?_ _)) fun _ => .pure _
    have same : instanc.data.type = state.data.type := (reached_type later).trans (reached_type reached).symm
    have supported : mfUltralightSupportFeature state.features [.incCounter] = true := by simpa using supported
    unfold MfUltralightListener.features at supported ⊢
    rw [same]
    exact supported

theorem stepwise_checkTearingHandler : Stepwise (mfUltralightListenerCheckTearingHandler buffer) := by
  refine .bind (stepwise_supports _) fun _ => .ite (.pure _) (.bind (stepwise_supports _) fun _ => .ite (.pure _) ?_)
  refine .bind (.observe _) fun flag => ?_
  cases flag with
  | none => exact .pure _
  | some flag => exact stepwise_respond _ _

theorem stepwise_vcslHandler : Stepwise (mfUltralightListenerVcslHandler buffer) :=
  .bind (stepwise_supports _) fun _ => .bind (.observe _) fun _ =>
    .ite (.pure _) (.bind (stepwise_configByte _ _) fun _ => stepwise_respond _ _)

theorem stepwise_authHandler : Stepwise (mfUltralightListenerAuthHandler buffer) := by
  have checked : Stepwise mfUltralightAuthCheckAttempts :=
    .bind (.observe _) fun _ => .bind (stepwise_configByte _ _) fun _ => .bind (.observe _) fun _ => .pure _
  refine .bind (stepwise_supports _) fun _ => .ite (.pure _) (.bind ?_ fun _ => .bind ?_ fun _ => ?_)
  · exact .bind (stepwise_configByte _ _) fun _ => .bind (stepwise_configByte _ _) fun _ =>
      .bind (stepwise_configByte _ _) fun _ => .bind (stepwise_configByte _ _) fun _ => .pure _
  · refine .bind (stepwise_configByte _ _) fun _ => .ite (.pure _) (.bind checked fun _ => .ite (.pure _) ?_)
    exact .bind (.update fun _ => .authAttempts _) fun _ => checked
  · refine .ite (.pure _) (.ite (.pure _) (.bind (stepwise_configByte _ _) fun _ => ?_))
    exact .bind (stepwise_configByte _ _) fun _ => .bind (.update fun _ => .authState _) fun _ => stepwise_respond _ _

theorem stepwise_runCommands : Stepwise (runCommands buffer mfUltralightCommand) := by
  rcases runCommands_cases buffer with none | ⟨handler, member, -, same⟩
  · exact none ▸ .pure _
  · rw [same]
    simp only [mfUltralightCommand, List.mem_cons, List.not_mem_nil, or_false] at member
    rcases member with rfl | rfl | rfl | rfl | rfl | rfl | rfl | rfl | rfl | rfl | rfl | rfl | rfl
    · exact stepwise_readPageHandler buffer
    · exact stepwise_fastReadHandler buffer
    · exact stepwise_writePageHandler buffer
    · exact .bind (stepwise_supports _) fun _ => .ite (.pure _) (.ite (.pure _) (.pure _))
    · exact .bind (stepwise_supports _) fun _ => .ite (.bind (.observe _) fun _ => stepwise_respond _ _) (.pure _)
    · exact .bind (stepwise_supports _) fun _ => .ite (.bind (.observe _) fun _ => stepwise_respond _ _) (.pure _)
    · exact stepwise_readCounterHandler buffer
    · exact stepwise_checkTearingHandler buffer
    · exact stepwise_authHandler buffer
    · exact stepwise_increaseCounterHandler buffer
    · exact .bind (stepwise_supports _) fun _ => .ite (.pure _) (.bind (.update fun _ => .compositeCmd _) fun _ => .pure _)
    · exact stepwise_compWriteHandlerP1 buffer
    · exact stepwise_vcslHandler buffer

theorem stepwise_handleFrame : Stepwise (mfUltralightListenerHandleFrame buffer) := by
  refine .bind (.observe _) fun callback => ?_
  cases callback with
  | none => exact stepwise_runCommands buffer
  | some handler =>
    refine .bind ?_ fun _ => .bind (.update fun _ => .compositeCmd _) fun _ => .pure _
    cases handler with
    | compWriteP2 => exact .ite (.pure _) (.bind (.observe _) fun _ => stepwise_performWrite _ _ _)
    | sectorSelectP2 => exact .ite (.pure _) (.ite (.pure _) (.bind (.update fun _ => .sector _) fun _ => .pure _))

/-- **What every step keeps holds in every state that a run reaches.** -/
theorem reaches_stepwise {holds : MfUltralightListener → Prop}
    (steps : ∀ instanc after, holds instanc → ListenerStep instanc after → holds after)
    (cleared : ∀ instanc, holds instanc → holds instanc.cleared) {data : MfUltralightData}
    {guard : Iso14443_3aListenerEvent → MfUltralightListener → Prop} {events : List Iso14443_3aListenerEvent}
    {instanc : MfUltralightListener} (start : holds (mfUltralightListenerAlloc data))
    (run : Reaches mfUltralightListenerRun guard (mfUltralightListenerAlloc data) events instanc) : holds instanc := by
  have reached {first after : MfUltralightListener} (chain : ReflTransGen ListenerStep first after)
      (begins : holds first) : holds after := by
    induction chain with
    | refl => exact begins
    | tail _ step kept => exact steps _ _ kept step
  refine reaches_preserves run start fun event instanc _ held => ?_
  by_cases reset : IsReset event
  · rw [mfUltralightListenerRun_reset reset]
    have quiet := steps _ _ (cleared instanc held) (.compositeCmd ⟨0#8, none⟩)
    have unlocked := steps _ _ quiet (.singleCounterIncreased (instanc.resetBy event).singleCounterIncreased)
    exact steps _ _ (steps _ _ unlocked (.sector 0#8)) (.authState .idle)
  obtain ⟨buffer, rfl⟩ : ∃ buffer, event = .receivedStandardFrame buffer := by
    unfold IsReset at reset
    simpa using reset
  have handled := (stepwise_handleFrame buffer instanc.cleared instanc.cleared .refl).1
  have kept := reached handled (cleared instanc held)
  rw [mfUltralightListenerRun_frame]
  rcases ran : mfUltralightListenerHandleFrame buffer instanc.cleared with ⟨outcome, after⟩
  rw [ran] at kept
  cases outcome with
  | error error => exact kept
  | ok answer => exact steps _ _ (steps _ _ kept (.authState _)) (.replies _)

end Xtreme.Nfc
