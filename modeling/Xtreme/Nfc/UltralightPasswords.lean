import Xtreme.Nfc.UltralightFootprint

/-! The password protection of a tag without sectors over whole runs: while the
password was not given, protected pages are neither written nor, if they are
protected against reading too, copied into a response; and a card that has used
up its attempts stays locked.

The test is on the numbers of pages, the configuration it depends on lies in
pages that a reader may be able to write, and the authentication ends with
every refused command, halt and loss of the field. -/
namespace Xtreme.Nfc
open Xtreme.Library BitLib
open Effect (Reaches reaches_preserves)

structure HasPassword (type : MfUltralightType) (config : Nat) : Prop where
  linear : mfUltralightIsI2cTag type = false
  supported : mfUltralightSupportFeature (mfUltralightGetFeatureSupportSet type) [.passwordAuth] = true
  there : mfUltralightGetConfigPage type = some config

namespace MfUltralightListener
variable (instanc : MfUltralightListener) (config : Nat)

/-- The first page that is protected. -/
def auth0 : Nat := (instanc.configValue config 3).toNat

/-- Whether pages are protected against reading too. -/
def prot : Bool := accessProt (instanc.configValue config 4)

end MfUltralightListener

def PwdAuthSucceeds (event : Iso14443_3aListenerEvent) (instanc : MfUltralightListener) : Prop :=
  ∃ buffer, event = .receivedStandardFrame buffer ∧ IsCommand instanc buffer 0x1B#8 5 ∧
    (mfUltralightListenerAuthHandler buffer instanc).1 = .ok .processed

/-- The states of a run in which no password was accepted since the listener was
allocated or last reset. -/
inductive Unauthenticated (data : MfUltralightData) : MfUltralightListener → Prop
  | start : Unauthenticated data (mfUltralightListenerAlloc data)
  | reset {events : List Iso14443_3aListenerEvent} {instanc : MfUltralightListener}
      {event : Iso14443_3aListenerEvent}
      (reached : Reaches mfUltralightListenerRun (fun _ _ => True) (mfUltralightListenerAlloc data) events instanc)
      (resets : IsReset event) : Unauthenticated data (mfUltralightListenerRun event instanc).2
  | step {instanc : MfUltralightListener} {event : Iso14443_3aListenerEvent} {command : NfcCommand}
      (before : Unauthenticated data instanc) (refused : ¬ PwdAuthSucceeds event instanc)
      (answered : (mfUltralightListenerRun event instanc).1 = .ok command) :
      Unauthenticated data (mfUltralightListenerRun event instanc).2

section
variable {instanc : MfUltralightListener} {config : Nat}

/-- Exactly when the password is accepted. -/
theorem authHandler_processed (has : HasPassword instanc.data.type config) (buffer : Frame) :
    (mfUltralightListenerAuthHandler buffer instanc).1 = .ok .processed ↔
      instanc.cardLocked config (instanc.passwordMatches config buffer) = false ∧
        instanc.passwordMatches config buffer = true := by
  have there : instanc.config = some config := has.there
  rw [mfUltralightListenerAuthHandler_run there has.supported]
  cases instanc.cardLocked config (instanc.passwordMatches config buffer) <;>
    cases instanc.passwordMatches config buffer <;> simp

theorem protected_of_allowed (has : HasPassword instanc.data.type config) (idle : instanc.authState = .idle)
    {page : Nat} {accessType : MfUltralightListenerAccessType}
    (allowed : instanc.accessAllowed page accessType = true)
    (covers : instanc.prot config = true ∨ accessType = .write) : page < instanc.auth0 config := by
  have there : instanc.config = some config := has.there
  have supported : mfUltralightSupportFeature instanc.features [.passwordAuth] = true := has.supported
  unfold MfUltralightListener.accessAllowed at allowed
  rw [if_pos supported, there] at allowed
  simp only [Option.all_some, Bool.and_eq_true] at allowed
  have needed := allowed.1
  unfold MfUltralightListener.needsPassword at needed
  have either : (accessProt (instanc.configValue config 4) || accessType == .write) = true := by
    rcases covers with prot | rfl
    · rw [Bool.or_eq_true]
      exact .inl prot
    · simp
  rw [idle, either] at needed
  simpa [MfUltralightListener.auth0] using needed

variable {outcome : Except MfUltralightFault MfUltralightCommand} {start after : MfUltralightListener}

theorem frameChange_idle {buffer : Frame} (change : FrameChange start buffer outcome after)
    (has : HasPassword start.data.type config) (idle : start.authState = .idle)
    (refused : ¬ PwdAuthSucceeds (.receivedStandardFrame buffer) start) : after.authState = .idle := by
  have storing (rxData : MfUltralightPage) (page : Nat) (doI2cCheck : Bool) (state : MfUltralightListener) :
      (state.storing rxData page doI2cCheck).authState = state.authState := by
    unfold MfUltralightListener.storing
    split <;> rfl
  cases change with
  | quiet first watched => exact watched.authState.trans idle
  | write command inRange allows => exact (storing _ _ _ _).trans idle
  | secondWrite pending long => exact (storing _ _ _ _).trans idle
  | password command there supported unlocked matching =>
    have same := Option.some.inj (there.symm.trans has.there)
    subst same
    exact absurd ⟨buffer, rfl, command, (authHandler_processed has buffer).mpr ⟨unlocked, matching⟩⟩ refused
  | _ => exact idle

variable {event : Iso14443_3aListenerEvent}

theorem PwdAuthSucceeds.of_cleared (has : HasPassword instanc.data.type config)
    (succeeds : PwdAuthSucceeds event instanc.cleared) : PwdAuthSucceeds event instanc := by
  obtain ⟨buffer, same, command, processed⟩ := succeeds
  have has' : HasPassword instanc.cleared.data.type config := has
  exact ⟨buffer, same, ⟨command.first, command.length, command.code⟩,
    (authHandler_processed has buffer).mpr ((authHandler_processed has' buffer).mp processed)⟩

theorem mfUltralightListenerRun_idle (sound : ListenerSound instanc) (has : HasPassword instanc.data.type config)
    (idle : instanc.authState = .idle) (refused : ¬ PwdAuthSucceeds event instanc) :
    (mfUltralightListenerRun event instanc).2.authState = .idle := by
  by_cases reset : IsReset event
  · rw [mfUltralightListenerRun_reset reset]
    rfl
  obtain ⟨buffer, rfl⟩ : ∃ buffer, event = .receivedStandardFrame buffer := by
    unfold IsReset at reset
    simpa using reset
  have start : MirrorHasConfig instanc.cleared := sound.mirror
  have has' : HasPassword instanc.cleared.data.type config := has
  have after := frameChange_idle (mfUltralightListenerHandleFrame_change start buffer) has' idle
    fun succeeds => refused (succeeds.of_cleared has)
  rw [mfUltralightListenerRun_frame]
  rcases ran : mfUltralightListenerHandleFrame buffer instanc.cleared with ⟨outcome, state⟩
  rw [ran] at after
  cases outcome with
  | error error => exact after
  | ok answer =>
    show (if keepsAuth answer then state.authState else .idle) = _
    split
    · exact after
    · rfl

theorem unauthenticated_idle {data : MfUltralightData} (has : HasPassword data.type config)
    (run : Unauthenticated data instanc) :
    ListenerSound instanc ∧ instanc.data.type = data.type ∧ instanc.authState = .idle := by
  induction run with
  | start => exact ⟨listenerSound_alloc data, rfl, rfl⟩
  | reset reached resets =>
    have sound := reaches_sound reached
    refine ⟨listenerSound_run _ sound, (mfUltralightListenerRun_tag _ sound.mirror).1.trans (reaches_tag reached).1, ?_⟩
    rw [mfUltralightListenerRun_reset resets]
    rfl
  | step before refused answered held =>
    obtain ⟨sound, type, idle⟩ := held
    exact ⟨listenerSound_run _ sound, (mfUltralightListenerRun_tag _ sound.mirror).1.trans type,
      mfUltralightListenerRun_idle sound (type ▸ has) idle refused⟩

/-! ## Protected pages -/

/-- A write that the checks let through changes one page, which is not protected. -/
theorem storing_below (has : HasPassword instanc.data.type config) (idle : instanc.authState = .idle) {page : Nat}
    (byte : page < 256) (allows : instanc.writeAllowed page = true) (rxData : MfUltralightPage) {index : Nat}
    (covered : instanc.auth0 config ≤ index) :
    (instanc.storing rxData page false).pageAt index = instanc.pageAt index := by
  have access : instanc.accessAllowed page .write = true := by
    simp only [MfUltralightListener.writeAllowed, Bool.and_eq_true] at allows
    exact allows.1
  have below := protected_of_allowed has idle access (.inr rfl)
  unfold MfUltralightListener.storing
  split
  · rfl
  · rename_i place content log stored
    have same := (stored_page stored).2.1
    rw [storePage_linear byte has.linear] at same
    have other : place ≠ index := by omega
    simp [MfUltralightListener.pageAt, MfUltralightListener.setPage, other]

theorem frameChange_below {buffer : Frame} (change : FrameChange start buffer outcome after)
    (sound : ListenerSound start) (has : HasPassword start.data.type config) (idle : start.authState = .idle)
    {index : Nat} (covered : start.auth0 config ≤ index) : after.pageAt index = start.pageAt index := by
  cases change with
  | quiet first watched => exact watched.pageAt index
  | write command inRange allows =>
    rw [has.linear]
    have logged : HasPassword (start.logging (start.writeLog (buffer.byte 1).toNat)).data.type config := has
    exact storing_below logged idle (buffer.byte 1).isLt allows _ covered
  | secondWrite pending long =>
    exact storing_below has idle start.compositeCmd.data.isLt (sound.pending pending).2.1 _ covered
  | _ => rfl

theorem mfUltralightListenerRun_below (sound : ListenerSound instanc) (has : HasPassword instanc.data.type config)
    (idle : instanc.authState = .idle) (event : Iso14443_3aListenerEvent) {index : Nat}
    (covered : instanc.auth0 config ≤ index) :
    (mfUltralightListenerRun event instanc).2.pageAt index = instanc.pageAt index := by
  by_cases reset : IsReset event
  · rw [mfUltralightListenerRun_reset reset]
    rfl
  obtain ⟨buffer, rfl⟩ : ∃ buffer, event = .receivedStandardFrame buffer := by
    unfold IsReset at reset
    simpa using reset
  have start : ListenerSound instanc.cleared := ⟨sound.mirror, sound.pending⟩
  have has' : HasPassword instanc.cleared.data.type config := has
  have same := frameChange_below (mfUltralightListenerHandleFrame_change start.mirror buffer) start has' idle covered
  rw [mfUltralightListenerRun_frame]
  rcases ran : mfUltralightListenerHandleFrame buffer instanc.cleared with ⟨outcome, after⟩
  rw [ran] at same
  cases outcome with
  | error error => exact same
  | ok answer => exact same

/-- What may be copied into a response: pages that are not protected, and for
VCSL the page of the virtual card type identifier. -/
def shielded (instanc : MfUltralightListener) (config : Nat) (event : Iso14443_3aListenerEvent) : PageAccess → Prop
  | .copied page => page < instanc.auth0 config ∨
      page = config + 1 ∧ ∃ buffer, event = .receivedStandardFrame buffer ∧ IsCommand instanc buffer 0x4B#8 21
  | _ => True

/-- Checks and writes copy nothing. -/
theorem shielded_of_notCopied {access : PageAccess} (other : ∀ page, access ≠ .copied page) :
    shielded instanc config event access := by
  cases access with
  | copied page => exact absurd rfl (other page)
  | _ => trivial

theorem writeLog_notCopied {page : Nat} : ∀ access ∈ instanc.writeLog page, ∀ index, access ≠ .copied index := by
  intro access member
  rcases List.mem_append.mp member with checked | locks
  · let admits (access : PageAccess) : Prop := ∀ index, access ≠ .copied index
    have consults : AdmitsConfig admits instanc := fun _ _ => ⟨nofun, nofun⟩
    exact accessLog_admitted consults page .write access checked
  · unfold staticLockLog MfUltralightListener.dynamicLockLog at locks
    split_ifs at locks <;> simp at locks <;> grind

theorem stored_notCopied {rxData : MfUltralightPage} {page : Nat} {doI2cCheck : Bool} {index : Nat}
    {content : MfUltralightPage} {log : List PageAccess}
    (stored : instanc.stored rxData page doI2cCheck = some (index, content, log)) :
    ∀ access ∈ log, ∀ index, access ≠ .copied index := by
  unfold MfUltralightListener.stored at stored
  split_ifs at stored <;> cases stored <;> simp

theorem storeAdmits_shielded (rxData : MfUltralightPage) (page : Nat) (doI2cCheck : Bool) :
    StoreAdmits (shielded instanc config event) instanc rxData page doI2cCheck :=
  fun _ _ _ stored => ⟨trivial, fun access member => shielded_of_notCopied (stored_notCopied stored access member)⟩

theorem frameAdmits_shielded (has : HasPassword instanc.data.type config) (idle : instanc.authState = .idle)
    (prot : instanc.prot config = true) (late : 2 < instanc.auth0 config) {buffer : Frame}
    (refused : ¬ PwdAuthSucceeds (.receivedStandardFrame buffer) instanc) :
    FrameAdmits (shielded instanc config (.receivedStandardFrame buffer)) anyFault instanc buffer where
  read command inRange := by
    refine ⟨fun _ _ => ⟨trivial, trivial⟩, fun _ _ => trivial, fun _ i _ _ allowed _ => .inl ?_, ?_⟩
    · rw [MfUltralightListener.writeTarget, has.linear]
      exact Nat.lt_of_le_of_lt (Nat.mod_le _ _) (protected_of_allowed has idle allowed (.inl prot))
    · exact fun _ i inside _ index below => .inl (by omega)
  fastRead command supported inRange := by
    refine ⟨fun _ _ => ⟨trivial, trivial⟩, fun _ _ => trivial, fun _ _ _ => trivial,
      fun _ i _ _ allowed _ => .inl ?_⟩
    rw [MfUltralightListener.writeTarget, has.linear]
    exact Nat.lt_of_le_of_lt (Nat.mod_le _ _) (protected_of_allowed has idle allowed (.inl prot))
  write _ _ := ⟨fun access member => shielded_of_notCopied (writeLog_notCopied access member),
    fun _ => storeAdmits_shielded _ _ _⟩
  compWrite _ _ _ := fun access member => shielded_of_notCopied (writeLog_notCopied access member)
  secondWrite _ _ := storeAdmits_shielded _ _ _
  readCounter _ _ _ := fun _ _ => ⟨trivial, trivial⟩
  vcsl command _ same there := by
    have found := Option.some.inj (there.symm.trans has.there)
    exact .inr ⟨by rw [found], buffer, rfl, command⟩
  password command _ same there := by
    refine ⟨trivial, trivial, fun unlocked matching => absurd ⟨buffer, rfl, command, ?_⟩ refused⟩
    have found := Option.some.inj (there.symm.trans has.there)
    subst found
    exact (authHandler_processed has buffer).mpr ⟨unlocked, matching⟩

/-- VCSL copies nothing, or answers with the one byte that it is about. -/
theorem mfUltralightListenerRun_vcsl (there : instanc.config = some config) {buffer : Frame}
    (command : IsCommand instanc buffer 0x4B#8 21) :
    (mfUltralightListenerRun (.receivedStandardFrame buffer) instanc).2.accesses = [] ∨
      (mfUltralightListenerRun (.receivedStandardFrame buffer) instanc).2.sent =
        [.standardFrame [instanc.configValue config 5]] := by
  have fits : MfUltralightListenerCmdHandler.Fits ⟨0x4B#8, 21 * 8, mfUltralightListenerVcslHandler⟩ buffer :=
    ⟨by rw [command.length], command.code⟩
  have handler := runCommands_of_mem mfUltralightCommand_distinct (by simp [mfUltralightCommand]) fits
  have frame : mfUltralightListenerHandleFrame buffer instanc.cleared =
      mfUltralightListenerVcslHandler buffer instanc.cleared := by
    unfold mfUltralightListenerHandleFrame
    rw [Effect.observe_bind, MfUltralightListener.cleared_compositeCmd, command.first]
    exact congrFun handler instanc.cleared
  have cleared : instanc.cleared.config = some config := there
  have inside := config_inside cleared
  rw [mfUltralightListenerRun_frame, frame]
  unfold mfUltralightListenerVcslHandler supports
  rw [Effect.observe_bind, Effect.observe_bind, cleared]
  cases mfUltralightSupportFeature instanc.cleared.features [.vcsl] with
  | false => exact .inl rfl
  | true =>
    rw [if_neg (by simp), Effect.bind_of_ok (configByte_run .copied 5 cleared (by omega))]
    exact .inr rfl

theorem copied_shielded (sound : ListenerSound instanc) (has : HasPassword instanc.data.type config)
    (idle : instanc.authState = .idle) (prot : instanc.prot config = true) (late : 2 < instanc.auth0 config) (refused : ¬ PwdAuthSucceeds event instanc) {page : Nat}
    (copied : .copied page ∈ (mfUltralightListenerRun event instanc).2.accesses) :
    page < instanc.auth0 config ∨ page = config + 1 ∧
      (mfUltralightListenerRun event instanc).2.sent = [.standardFrame [instanc.configValue config 5]] := by
  have admitted : ∀ buffer, event = .receivedStandardFrame buffer →
      FrameAdmits (shielded instanc config event) anyFault instanc buffer := by
    rintro buffer rfl
    exact frameAdmits_shielded has idle prot late refused
  have touched := mfUltralightListenerRun_touched sound.mirror trivial (.inr trivial) admitted
  rcases touched.1 _ copied with below | ⟨same, buffer, rfl, command⟩
  · exact .inl below
  · rcases mfUltralightListenerRun_vcsl has.there command with none | answer
    · rw [none] at copied
      cases copied
    · exact .inr ⟨same, answer⟩

/-- The page with the limit is not written. -/
def KeepsLimit (config : Nat) (event : Iso14443_3aListenerEvent) (instanc : MfUltralightListener) : Prop :=
  (mfUltralightListenerRun event instanc).2.pageAt (config + 1) = instanc.pageAt (config + 1)

/-- As many attempts have failed as the limit allows. -/
structure LimitReached (instanc : MfUltralightListener) (config : Nat) : Prop where
  limited : instanc.authlim config ≠ 0
  reached : instanc.authlim config ≤ instanc.data.authAttempts.toNat

theorem LimitReached.cardLocked (has : HasPassword instanc.data.type config) (limit : LimitReached instanc config)
    (authSuccess : Bool) :
    instanc.attemptsAfter config authSuccess = instanc.data.authAttempts ∧
      instanc.cardLocked config authSuccess = true := by
  have plain : authLimit instanc.data.type (instanc.authlim config) = instanc.authlim config := by
    unfold authLimit
    rw [if_neg]
    rintro (type | type) <;> exact absurd has.linear (by rw [type]; decide)
  have used : instanc.attemptsUsedUp config instanc.data.authAttempts = true := by
    rw [MfUltralightListener.attemptsUsedUp, plain]
    exact decide_eq_true limit.reached
  have same : instanc.attemptsAfter config authSuccess = instanc.data.authAttempts := by
    rw [MfUltralightListener.attemptsAfter, if_pos (.inr used)]
  rw [MfUltralightListener.cardLocked, same, used]
  simpa using limit.limited

theorem LimitReached.refuses (has : HasPassword instanc.data.type config) (limit : LimitReached instanc config)
    (event : Iso14443_3aListenerEvent) : ¬ PwdAuthSucceeds event instanc := by
  rintro ⟨buffer, -, -, processed⟩
  have unlocked := ((authHandler_processed has buffer).mp processed).1
  rw [(limit.cardLocked has _).2] at unlocked
  cases unlocked

theorem frameChange_attempts {buffer : Frame} (change : FrameChange start buffer outcome after)
    (has : HasPassword start.data.type config) (limit : LimitReached start config) :
    after.data.authAttempts = start.data.authAttempts := by
  have storing (rxData : MfUltralightPage) (page : Nat) (doI2cCheck : Bool) (state : MfUltralightListener) :
      (state.storing rxData page doI2cCheck).data.authAttempts = state.data.authAttempts := by
    unfold MfUltralightListener.storing
    split <;> rfl
  cases change with
  | quiet first watched => exact watched.authAttempts
  | write command inRange allows => exact storing _ _ _ _
  | secondWrite pending long => exact storing _ _ _ _
  | password command there supported unlocked matching =>
    have same := Option.some.inj (there.symm.trans has.there)
    subst same
    exact (limit.cardLocked has _).1
  | attempt command there supported refused =>
    have same := Option.some.inj (there.symm.trans has.there)
    subst same
    exact (limit.cardLocked has _).1
  | _ => rfl

theorem limitReached_run (sound : ListenerSound instanc) (has : HasPassword instanc.data.type config)
    (limit : LimitReached instanc config) (kept : KeepsLimit config event instanc) :
    LimitReached (mfUltralightListenerRun event instanc).2 config := by
  have attempts : (mfUltralightListenerRun event instanc).2.data.authAttempts = instanc.data.authAttempts := by
    by_cases reset : IsReset event
    · rw [mfUltralightListenerRun_reset reset]
      rfl
    obtain ⟨buffer, rfl⟩ : ∃ buffer, event = .receivedStandardFrame buffer := by
      unfold IsReset at reset
      simpa using reset
    have start : MirrorHasConfig instanc.cleared := sound.mirror
    have has' : HasPassword instanc.cleared.data.type config := has
    have limit' : LimitReached instanc.cleared config := ⟨limit.limited, limit.reached⟩
    have same := frameChange_attempts (mfUltralightListenerHandleFrame_change start buffer) has' limit'
    rw [mfUltralightListenerRun_frame]
    rcases ran : mfUltralightListenerHandleFrame buffer instanc.cleared with ⟨outcome, after⟩
    rw [ran] at same
    cases outcome with
    | error error => exact same
    | ok answer => exact same
  have authlim : (mfUltralightListenerRun event instanc).2.authlim config = instanc.authlim config := by
    unfold MfUltralightListener.authlim MfUltralightListener.configValue
    rw [kept]
  exact ⟨authlim ▸ limit.limited, by rw [authlim, attempts]; exact limit.reached⟩

end

end Xtreme.Nfc
