import Xtreme.Nfc.UltralightReads

/-! What each command of the listener does besides reading pages, and which
command a frame is. -/
namespace Xtreme.Nfc
open Xtreme.Library BitLib
open Effect (fault observe update Preserves)

/-- The length and the code of the frame are those of the command. -/
def MfUltralightListenerCmdHandler.Fits (handler : MfUltralightListenerCmdHandler) (buffer : Frame) : Prop :=
  buffer.length * 8 = handler.cmdLenBits ∧ buffer.byte 0 = handler.cmd

variable {buffer : Frame}

theorem runCommands_of_none {handlers : List MfUltralightListenerCmdHandler}
    (none : ∀ handler ∈ handlers, ¬ handler.Fits buffer) : runCommands buffer handlers = pure .notFound := by
  induction handlers with
  | nil => rfl
  | cons handler rest next =>
    have others := next fun other member => none other (List.mem_cons_of_mem _ member)
    unfold runCommands
    split
    · exact others
    · split
      · exact others
      · rename_i length code
        exact absurd ⟨not_not.mp length, not_not.mp code⟩ (none handler List.mem_cons_self)

theorem runCommands_of_mem {handlers : List MfUltralightListenerCmdHandler}
    (distinct : handlers.Pairwise fun first second => first.cmd ≠ second.cmd)
    {handler : MfUltralightListenerCmdHandler} (member : handler ∈ handlers) (fits : handler.Fits buffer) :
    runCommands buffer handlers = handler.callback buffer := by
  induction handlers with
  | nil => cases member
  | cons first rest next =>
    obtain ⟨apart, distinct⟩ := List.pairwise_cons.mp distinct
    rcases List.mem_cons.mp member with rfl | later
    · have others : runCommands buffer rest = pure .notFound :=
        runCommands_of_none fun other among same => apart other among (fits.2.symm.trans same.2)
      unfold runCommands
      rw [if_neg (not_not.mpr fits.1), if_neg (not_not.mpr fits.2), others]
      funext state
      rw [Effect.bind_run]
      rcases handler.callback buffer state with ⟨outcome, after⟩
      cases outcome with
      | error error => rfl
      | ok answer =>
        by_cases found : answer ≠ .notFound
        · simp [found]
        · simp [not_not.mp found]
    · unfold runCommands
      split
      · exact next distinct later
      · split
        · exact next distinct later
        · rename_i code
          exact absurd ((not_not.mp code).symm.trans fits.2) (apart handler later)

theorem mfUltralightCommand_distinct :
    mfUltralightCommand.Pairwise fun first second => first.cmd ≠ second.cmd := by
  decide

theorem runCommands_cases (buffer : Frame) : runCommands buffer mfUltralightCommand = pure .notFound ∨
      ∃ handler ∈ mfUltralightCommand, handler.Fits buffer ∧
        runCommands buffer mfUltralightCommand = handler.callback buffer := by
  by_cases found : ∃ handler ∈ mfUltralightCommand, handler.Fits buffer
  · obtain ⟨handler, member, fits⟩ := found
    exact .inr ⟨handler, member, fits, runCommands_of_mem mfUltralightCommand_distinct member fits⟩
  · exact .inl (runCommands_of_none fun handler member fits => found ⟨handler, member, fits⟩)

variable {instanc : MfUltralightListener} {config : Nat}

namespace MfUltralightListener
variable (instanc : MfUltralightListener)

/-- Whether the frame holds the stored password. -/
def passwordMatches (config : Nat) (buffer : Frame) : Bool :=
  #v[instanc.configValue config 8, instanc.configValue config 9, instanc.configValue config 10,
    instanc.configValue config 11] = buffer.page 1

def authlim (config : Nat) : Nat := accessAuthlim (instanc.configValue config 4)

def attemptsUsedUp (config : Nat) (attempts : BitVec 32) : Bool :=
  authLimit instanc.data.type (instanc.authlim config) ≤ attempts.toNat

def setAuthAttempts (attempts : BitVec 32) : MfUltralightListener :=
  { instanc with data := { instanc.data with authAttempts := attempts } }

theorem setAuthAttempts_logging (attempts log) :
    (instanc.setAuthAttempts attempts).logging log = (instanc.logging log).setAuthAttempts attempts := rfl

/-- The attempts after a password that was right or not. -/
def attemptsAfter (config : Nat) (authSuccess : Bool) : BitVec 32 :=
  if instanc.authlim config = 0 ∨ instanc.attemptsUsedUp config instanc.data.authAttempts = true then
    instanc.data.authAttempts
  else if authSuccess then 0#32
  else instanc.data.authAttempts + 1#32

def cardLocked (config : Nat) (authSuccess : Bool) : Bool :=
  instanc.authlim config ≠ 0 && instanc.attemptsUsedUp config (instanc.attemptsAfter config authSuccess)

def limitLog (config : Nat) : List PageAccess :=
  [.consulted (config + 1)] ++
    if instanc.authlim config = 0 then []
    else [.consulted (config + 1)] ++
      if instanc.attemptsUsedUp config instanc.data.authAttempts then [] else [.consulted (config + 1)]

/-- The state after the password was checked and the attempt counted. -/
def attempted (config : Nat) (authSuccess : Bool) : MfUltralightListener :=
  (instanc.logging (List.replicate 4 (.consulted (config + 2)) ++ instanc.limitLog config)).setAuthAttempts
    (instanc.attemptsAfter config authSuccess)

/-- The state after the right password. -/
def authenticated (config : Nat) (buffer : Frame) : MfUltralightListener :=
  { (instanc.attempted config (instanc.passwordMatches config buffer)).logging
      [.copied (config + 3), .copied (config + 3)] with
    authState := .success
    sent := instanc.sent ++ [.standardFrame [instanc.configValue config 12, instanc.configValue config 13]] }

end MfUltralightListener

variable (there : instanc.config = some config)
include there

theorem mfUltralightAuthCheckPassword_run (buffer : Frame) : mfUltralightAuthCheckPassword (buffer.page 1) instanc =
      (.ok (instanc.passwordMatches config buffer),
        instanc.logging (List.replicate 4 (.consulted (config + 2)))) := by
  have inside := config_inside there
  have byte (offset : Nat) (early : offset / 4 = 2) (log : List PageAccess) :
      configByte .consulted offset (instanc.logging log) =
        (.ok (instanc.configValue config offset), instanc.logging (log ++ [.consulted (config + 2)])) := by
    have thereAfter : (instanc.logging log).config = some config := there
    rw [configByte_run .consulted offset thereAfter (by omega), early, MfUltralightListener.logging_logging,
      MfUltralightListener.logging_configValue]
  have first := byte 8 rfl []
  rw [MfUltralightListener.logging_nil] at first
  unfold mfUltralightAuthCheckPassword
  rw [Effect.bind_of_ok first, Effect.bind_of_ok (byte 9 rfl _), Effect.bind_of_ok (byte 10 rfl _),
    Effect.bind_of_ok (byte 11 rfl _)]
  rfl

theorem mfUltralightAuthCheckAttempts_run : mfUltralightAuthCheckAttempts instanc =
      (.ok (instanc.attemptsUsedUp config instanc.data.authAttempts), instanc.logging [.consulted (config + 1)]) := by
  unfold mfUltralightAuthCheckAttempts
  rw [Effect.observe_bind, Effect.bind_of_ok (configAccess_run there)]
  rfl

theorem mfUltralightAuthLimitCheckAndUpdate_run (authSuccess : Bool) :
    mfUltralightAuthLimitCheckAndUpdate authSuccess instanc = (.ok (instanc.cardLocked config authSuccess),
        (instanc.logging (instanc.limitLog config)).setAuthAttempts (instanc.attemptsAfter config authSuccess)) := by
  have thereAfter (log : List PageAccess) : (instanc.logging log).config = some config := there
  have again (log : List PageAccess) (attempts : BitVec 32) :
      ((instanc.logging log).setAuthAttempts attempts).config = some config := there
  unfold mfUltralightAuthLimitCheckAndUpdate MfUltralightListener.cardLocked MfUltralightListener.limitLog
    MfUltralightListener.attemptsAfter
  rw [Effect.bind_of_ok (configAccess_run there)]
  by_cases unlimited : accessAuthlim (instanc.configValue config 4) = 0
  · have none : instanc.authlim config = 0 := unlimited
    rw [if_pos unlimited]
    simp [none, MfUltralightListener.setAuthAttempts, MfUltralightListener.logging]
  have some : instanc.authlim config ≠ 0 := unlimited
  rw [if_neg unlimited, Effect.bind_of_ok (mfUltralightAuthCheckAttempts_run (thereAfter _))]
  cases used : instanc.attemptsUsedUp config instanc.data.authAttempts with
  | true =>
    have usedAfter : (instanc.logging [.consulted (config + 1)]).attemptsUsedUp config
        (instanc.logging [.consulted (config + 1)]).data.authAttempts = true := used
    rw [usedAfter]
    simp [some, used, MfUltralightListener.setAuthAttempts, MfUltralightListener.logging]
  | false =>
    have usedAfter : (instanc.logging [.consulted (config + 1)]).attemptsUsedUp config
        (instanc.logging [.consulted (config + 1)]).data.authAttempts = false := used
    have left : ¬ (instanc.authlim config = 0 ∨ false = true) := by simp [some]
    rw [usedAfter, if_neg Bool.false_ne_true, MfUltralightListener.logging_logging]
    rw [if_neg left, if_neg some, show (decide (instanc.authlim config ≠ 0)) = true by
      simpa using some]
    refine (mfUltralightAuthCheckAttempts_run (again [.consulted (config + 1), .consulted (config + 1)]
      (if authSuccess then 0#32 else instanc.data.authAttempts + 1#32))).trans ?_
    rw [MfUltralightListener.setAuthAttempts_logging, MfUltralightListener.logging_logging]
    rfl

theorem mfUltralightListenerAuthHandler_run
    (supported : mfUltralightSupportFeature instanc.features [.passwordAuth] = true) (buffer : Frame) :
    mfUltralightListenerAuthHandler buffer instanc =
      if instanc.cardLocked config (instanc.passwordMatches config buffer) then
        (.ok .notProcessedAuthNAK, instanc.attempted config (instanc.passwordMatches config buffer))
      else if instanc.passwordMatches config buffer then
        (.ok .processed, instanc.authenticated config buffer)
      else (.ok .notProcessedNAK, instanc.attempted config (instanc.passwordMatches config buffer)) := by
  have inside := config_inside there
  have thereAfter (log : List PageAccess) : (instanc.logging log).config = some config := there
  have attempted (authSuccess : Bool) :
      mfUltralightAuthLimitCheckAndUpdate authSuccess (instanc.logging (List.replicate 4 (.consulted (config + 2)))) =
        (.ok (instanc.cardLocked config authSuccess), instanc.attempted config authSuccess) := by
    rw [mfUltralightAuthLimitCheckAndUpdate_run (thereAfter _), MfUltralightListener.logging_logging]
    rfl
  unfold mfUltralightListenerAuthHandler supports
  rw [Effect.observe_bind, if_neg (by simp [supported]),
    Effect.bind_of_ok (mfUltralightAuthCheckPassword_run there buffer), Effect.bind_of_ok (attempted _)]
  cases instanc.cardLocked config (instanc.passwordMatches config buffer) with
  | true => rfl
  | false =>
    rw [if_neg Bool.false_ne_true]
    cases matching : instanc.passwordMatches config buffer with
    | false => rfl
    | true =>
      have there' : (instanc.attempted config true).config = some config := there
      have there'' : ((instanc.attempted config true).logging [.copied (config + 3)]).config = some config := there
      rw [if_neg (by decide), Effect.bind_of_ok (configByte_run .copied 12 there' (by omega)),
        Effect.bind_of_ok (configByte_run .copied 13 there'' (by omega)), MfUltralightListener.logging_logging]
      simp only [MfUltralightListener.authenticated, matching]
      rfl

omit there

section
variable {admits : PageAccess → Prop} {allowed : MfUltralightFault → Prop} {start : MfUltralightListener}
  (buffer : Frame)

theorem supports_watched (features : List MfUltralightFeatureSupport) {β : Type} {next : Bool → ListenerM β}
    (continues : Preserves (Watched admits start) allowed
      (next (mfUltralightSupportFeature start.features features))) :
    Preserves (Watched admits start) allowed (supports features >>= next) :=
  Preserves.observe_bind fun _ watched => watched.features ▸ continues

theorem respond_watched {bytes : List (BitVec 8)} (short : bytes.length ≤ 256) (answer : MfUltralightCommand) :
    Preserves (Watched admits start) allowed (do
      sendStandardFrame bytes
      pure answer) :=
  Preserves.bind (sendStandardFrame_watched short) fun _ => .pure _

theorem mfUltralightListenerReadVersionHandler_watched :
    Preserves (Watched admits start) allowed (mfUltralightListenerReadVersionHandler buffer) :=
  supports_watched _ (Preserves.ite (fun _ => Preserves.bind (.observe _) fun version =>
    respond_watched (by simp) _) fun _ => .pure _)

theorem mfUltralightListenerReadSignatureHandler_watched :
    Preserves (Watched admits start) allowed (mfUltralightListenerReadSignatureHandler buffer) :=
  supports_watched _ (Preserves.ite (fun _ => Preserves.bind (.observe _) fun signature =>
    respond_watched (by simp) _) fun _ => .pure _)

theorem mfUltralightListenerReadCounterHandler_watched
    (consults : mfUltralightSupportFeature start.features [.readCounter] = true →
      mfUltralightSupportFeature start.features [.singleCounter] = true → AdmitsConfig admits start) :
    Preserves (Watched admits start) allowed (mfUltralightListenerReadCounterHandler buffer) := by
  refine supports_watched _ (Preserves.ite (fun _ => .pure _) fun readable => ?_)
  refine Preserves.bind ?_ fun refused => Preserves.ite (fun _ => .pure _) fun _ => ?_
  · refine supports_watched _ (Preserves.ite (fun _ => .pure _) fun single => ?_)
    refine Preserves.observe_bind fun state watched => ?_
    rw [watched.config]
    cases there : start.config with
    | none => exact .pure _
    | some config =>
      refine configByte_watched there (consults (by simpa using readable) (by simpa using single)) (by omega) ?_
      exact Preserves.bind (.observe _) fun _ => .pure _
  · refine Preserves.observe_bind fun state watched => ?_
    split
    · exact .pure _
    · exact respond_watched (by simp) _

theorem mfUltralightListenerIncreaseCounterHandler_watched :
    Preserves (Watched admits start) allowed (mfUltralightListenerIncreaseCounterHandler buffer) := by
  refine supports_watched _ (Preserves.ite (fun _ => .pure _) fun _ => ?_)
  refine Preserves.observe_bind fun state watched => ?_
  split
  · exact .pure _
  · refine Preserves.ite (fun _ => .pure _) fun _ => Preserves.ite (fun _ => .pure _) fun _ => ?_
    refine Preserves.bind (.update fun state watched => ?_) fun _ => .pure _
    exact { watched with accesses := watched.accesses, mirror := watched.mirror }

theorem mfUltralightListenerCheckTearingHandler_watched :
    Preserves (Watched admits start) allowed (mfUltralightListenerCheckTearingHandler buffer) := by
  refine supports_watched _ (Preserves.ite (fun _ => .pure _) fun _ => ?_)
  refine supports_watched _ (Preserves.ite (fun _ => .pure _) fun _ => ?_)
  refine Preserves.observe_bind fun state watched => ?_
  split
  · exact .pure _
  · exact respond_watched (by simp) _

theorem mfUltralightListenerVcslHandler_watched
    (copies : mfUltralightSupportFeature start.features [.vcsl] = true → ∀ config,
      start.config = some config → admits (.copied (config + 1))) :
    Preserves (Watched admits start) allowed (mfUltralightListenerVcslHandler buffer) := by
  refine supports_watched _ (Preserves.observe_bind fun state watched => ?_)
  rw [watched.config]
  cases there : start.config with
  | none =>
    rw [if_pos (by simp)]
    exact .pure _
  | some config =>
    refine Preserves.ite (fun _ => .pure _) fun supported => ?_
    have supported : mfUltralightSupportFeature start.features [.vcsl] = true := by simpa using supported
    refine Preserves.bind_of_run fun state watched => ?_
    have found : state.config = some config := watched.config.trans there
    have inside := config_inside found
    refine ⟨_, _, configByte_run .copied 5 found (by omega), watched.logging ?_, respond_watched (by simp) _⟩
    intro access member
    rw [List.mem_singleton] at member
    rw [member]
    exact copies supported config there

theorem mfUltralightListenerFastWriteHandler_watched :
    Preserves (Watched admits start) allowed (mfUltralightListenerFastWriteHandler buffer) :=
  supports_watched _ (Preserves.ite (fun _ => .pure _) fun _ =>
    Preserves.ite (fun _ => .pure _) fun _ => .pure _)

end

theorem validatePages_cases {sector : BitVec 8} {type : MfUltralightType} {startPage endPage : Nat}
    (valid : mfUltralightI2cValidatePages sector type startPage endPage = true) :
    (sector.toNat = 0 ∧ mfUltralightI2cPageValidatorForSector0 startPage endPage type = true) ∨
      (sector.toNat = 1 ∧ mfUltralightI2cPageValidatorForSector1 startPage endPage type = true) ∨
      (sector.toNat = 3 ∧ mfUltralightI2cPageOnMirroredSessionReg startPage = true) := by
  unfold mfUltralightI2cValidatePages at valid
  split at valid
  · exact .inl ⟨‹_›, valid⟩
  · exact .inr (.inl ⟨‹_›, valid⟩)
  · cases valid
  · exact .inr (.inr ⟨‹_›, valid⟩)
  · cases valid

theorem mfUltralightI2cProvidePage_inside {sector : BitVec 8} {type : MfUltralightType} {page : Nat}
    (byte : page < 256) (valid : mfUltralightI2cValidatePages sector type page page = true) :
    mfUltralightI2cProvidePageByRequested sector type page < 510 := by
  rcases validatePages_cases valid with ⟨number, -⟩ | ⟨number, valid⟩ | ⟨number, valid⟩ <;>
    simp only [mfUltralightI2cProvidePageByRequested, number]
  · cases type <;> simp only [mfUltralightI2cPageProviderForSector0] <;> grind
  · cases type <;> simp [mfUltralightI2cPageValidatorForSector1] at valid <;>
      simp only [mfUltralightI2cPageProviderForSector1] <;> omega
  · cases type <;> simp only [mfUltralightI2cPageProviderForSector3] <;> grind

theorem writeTarget_inside {page : Nat} (byte : page < 256) (inRange : pageInRange instanc page = true) :
    instanc.writeTarget page (mfUltralightIsI2cTag instanc.data.type) < 510 := by
  unfold pageInRange at inRange
  unfold MfUltralightListener.writeTarget
  split
  · rename_i sectors
    rw [if_pos sectors] at inRange
    exact mfUltralightI2cProvidePage_inside byte inRange
  · omega

theorem Frame.byte_lt (buffer : Frame) (index : Nat) : (buffer.byte index).toNat < 256 := (buffer.byte index).isLt

def MfUltralightListener.writeAnswer (instanc : MfUltralightListener) (rxData : MfUltralightPage) (page : Nat)
    (doI2cCheck : Bool) : MfUltralightCommand :=
  if (instanc.stored rxData page doI2cCheck).isSome then .processedACK else .notProcessedNAK

theorem mfUltralightListenerWritePageHandler_run (buffer : Frame) :
    mfUltralightListenerWritePageHandler buffer instanc =
      if pageInRange instanc (buffer.byte 1).toNat then
        if instanc.writeAllowed (buffer.byte 1).toNat then
          (.ok (instanc.writeAnswer (buffer.page 2) (buffer.byte 1).toNat (mfUltralightIsI2cTag instanc.data.type)),
            (instanc.logging (instanc.writeLog (buffer.byte 1).toNat)).storing (buffer.page 2)
              (buffer.byte 1).toNat (mfUltralightIsI2cTag instanc.data.type))
        else (.ok .notProcessedNAK, instanc.logging (instanc.writeLog (buffer.byte 1).toNat))
      else (.ok .notProcessedNAK, instanc) := by
  have byte := buffer.byte_lt 1
  unfold mfUltralightListenerWritePageHandler
  generalize (buffer.byte 1).toNat = page at byte ⊢
  simp only [Effect.observe_bind]
  cases inRange : pageInRange instanc page with
  | false =>
    unfold pageInRange at inRange
    split at inRange
    · rename_i sectors
      simp [sectors, inRange]
    · rename_i linear
      have beyond : instanc.data.pagesTotal < page := by simpa using inRange
      simp [linear, beyond]
  | true =>
    have inside := writeTarget_inside byte inRange
    have valid : ¬ (mfUltralightIsI2cTag instanc.data.type &&
        !mfUltralightI2cValidatePages instanc.sector instanc.data.type page page) = true ∧
        ¬ (!mfUltralightIsI2cTag instanc.data.type && decide (instanc.data.pagesTotal < page)) = true := by
      unfold pageInRange at inRange
      split at inRange <;> simp_all
    rw [if_neg valid.1, if_neg valid.2, Effect.bind_of_ok (writeRefused_run page)]
    cases allows : instanc.writeAllowed page with
    | false => simp
    | true =>
      exact mfUltralightListenerPerformWrite_run inside

theorem mfUltralightCompWriteHandlerP2_run (buffer : Frame) : mfUltralightCompWriteHandlerP2 buffer instanc =
      if buffer.length ≠ 16 then (.ok .notProcessedNAK, instanc)
      else (.ok (instanc.writeAnswer (buffer.page 0) instanc.compositeCmd.data.toNat false),
        instanc.storing (buffer.page 0) instanc.compositeCmd.data.toNat false) := by
  unfold mfUltralightCompWriteHandlerP2
  split
  · rfl
  · have inside : instanc.writeTarget instanc.compositeCmd.data.toNat false < 510 := by
      simp only [MfUltralightListener.writeTarget, Bool.false_eq_true, if_false]
      omega
    exact mfUltralightListenerPerformWrite_run inside

/-- The first part of COMP_WRITE is about a page that the tag has. -/
def compWriteInRange (instanc : MfUltralightListener) (page : Nat) : Bool :=
  2 ≤ page && page ≤ (instanc.data.pagesTotal + 65535) % 65536

theorem mfUltralightCompWriteHandlerP1_run (buffer : Frame) : mfUltralightCompWriteHandlerP1 buffer instanc =
      if mfUltralightSupportFeature instanc.features [.compatibleWrite] then
        if compWriteInRange instanc (buffer.byte 1).toNat then
          if instanc.writeAllowed (buffer.byte 1).toNat then
            (.ok .processedACK, { instanc.logging (instanc.writeLog (buffer.byte 1).toNat) with
              compositeCmd := ⟨buffer.byte 1, some .compWriteP2⟩ })
          else (.ok .notProcessedNAK, instanc.logging (instanc.writeLog (buffer.byte 1).toNat))
        else (.ok .notProcessedNAK, instanc)
      else (.ok .notProcessedSilent, instanc) := by
  unfold mfUltralightCompWriteHandlerP1 supports
  rw [Effect.observe_bind]
  cases supported : mfUltralightSupportFeature instanc.features [.compatibleWrite] with
  | false => rfl
  | true =>
    rw [if_neg (by decide)]
    simp only [Effect.observe_bind]
    cases inRange : compWriteInRange instanc (buffer.byte 1).toNat with
    | false =>
      have outside : (buffer.byte 1).toNat < 2 ∨
          (buffer.byte 1).toNat > (instanc.data.pagesTotal + 65535) % 65536 := by
        simp only [compWriteInRange, Bool.and_eq_false_iff, decide_eq_false_iff_not] at inRange
        omega
      rw [if_pos outside]
      rfl
    | true =>
      have inside : ¬ ((buffer.byte 1).toNat < 2 ∨
          (buffer.byte 1).toNat > (instanc.data.pagesTotal + 65535) % 65536) := by
        simp only [compWriteInRange, Bool.and_eq_true, decide_eq_true_eq] at inRange
        omega
      rw [if_neg inside, Effect.bind_of_ok (writeRefused_run _)]
      cases instanc.writeAllowed (buffer.byte 1).toNat <;> rfl

/-! ## What a frame changes -/

structure IsCommand (instanc : MfUltralightListener) (buffer : Frame) (code : BitVec 8) (length : Nat) : Prop where
  first : instanc.compositeCmd.callback = none
  length : buffer.length = length
  code : buffer.byte 0 = code

def anyAccess (_ : PageAccess) : Prop := True

def anyFault (_ : MfUltralightFault) : Prop := True

/-- The outcome of a frame and the state after it. Only two frames write to
pages, one the password and one the sector; all others leave what the checks
depend on as it was. -/
inductive FrameChange (start : MfUltralightListener) (buffer : Frame) :
    Except MfUltralightFault MfUltralightCommand → MfUltralightListener → Prop
  | quiet {outcome : Except MfUltralightFault MfUltralightCommand} {after : MfUltralightListener}
      (first : start.compositeCmd.callback = none) (watched : Watched anyAccess start after) :
      FrameChange start buffer outcome after
  | write (command : IsCommand start buffer 0xA2#8 6) (inRange : pageInRange start (buffer.byte 1).toNat = true)
      (allows : start.writeAllowed (buffer.byte 1).toNat = true) :
      FrameChange start buffer
        (.ok (start.writeAnswer (buffer.page 2) (buffer.byte 1).toNat (mfUltralightIsI2cTag start.data.type)))
        ((start.logging (start.writeLog (buffer.byte 1).toNat)).storing (buffer.page 2)
          (buffer.byte 1).toNat (mfUltralightIsI2cTag start.data.type))
  | compWrite (command : IsCommand start buffer 0xA0#8 2)
      (supported : mfUltralightSupportFeature start.features [.compatibleWrite] = true)
      (inRange : compWriteInRange start (buffer.byte 1).toNat = true)
      (allows : start.writeAllowed (buffer.byte 1).toNat = true) :
      FrameChange start buffer (.ok .processedACK)
        { start.logging (start.writeLog (buffer.byte 1).toNat) with
          compositeCmd := ⟨buffer.byte 1, some .compWriteP2⟩ }
  | sectorSelect (command : IsCommand start buffer 0xC2#8 2) :
      FrameChange start buffer (.ok .processedACK)
        { start with compositeCmd := { start.compositeCmd with callback := some .sectorSelectP2 } }
  | password {config : Nat} (command : IsCommand start buffer 0x1B#8 5) (there : start.config = some config)
      (supported : mfUltralightSupportFeature start.features [.passwordAuth] = true)
      (unlocked : start.cardLocked config (start.passwordMatches config buffer) = false)
      (matching : start.passwordMatches config buffer = true) :
      FrameChange start buffer (.ok .processed) (start.authenticated config buffer)
  | attempt {config : Nat} {answer : MfUltralightCommand} (command : IsCommand start buffer 0x1B#8 5)
      (there : start.config = some config)
      (supported : mfUltralightSupportFeature start.features [.passwordAuth] = true)
      (refused : answer = .notProcessedAuthNAK ∨ answer = .notProcessedNAK) :
      FrameChange start buffer (.ok answer) (start.attempted config (start.passwordMatches config buffer))
  | secondWrite (pending : start.compositeCmd.callback = some .compWriteP2) (long : buffer.length = 16) :
      FrameChange start buffer (.ok (start.writeAnswer (buffer.page 0) start.compositeCmd.data.toNat false))
        { start.storing (buffer.page 0) start.compositeCmd.data.toNat false with compositeCmd := ⟨0#8, none⟩ }
  | secondSector (pending : start.compositeCmd.callback = some .sectorSelectP2) (long : buffer.length = 4)
      (valid : buffer.byte 0 ≠ 0xFF#8) :
      FrameChange start buffer (.ok .processedSilent)
        { start with sector := buffer.byte 0, compositeCmd := ⟨0#8, none⟩ }
  | second (pending : start.compositeCmd.callback.isSome = true) :
      FrameChange start buffer (.ok .notProcessedNAK) { start with compositeCmd := ⟨0#8, none⟩ }

theorem admitsConfig_any (start : MfUltralightListener) : AdmitsConfig anyAccess start :=
  fun _ _ => ⟨trivial, trivial⟩

variable {start : MfUltralightListener}

variable (sound : MirrorHasConfig start)
include sound

theorem quiet_of_watched (first : start.compositeCmd.callback = none)
    {program : ListenerM MfUltralightCommand} (watched : Preserves (Watched anyAccess start) anyFault program) :
    FrameChange start buffer (program start).1 (program start).2 :=
  .quiet first (watched start (.refl sound)).1

theorem writePage_change (command : IsCommand start buffer 0xA2#8 6) :
    FrameChange start buffer (mfUltralightListenerWritePageHandler buffer start).1
      (mfUltralightListenerWritePageHandler buffer start).2 := by
  rw [mfUltralightListenerWritePageHandler_run]
  cases inRange : pageInRange start (buffer.byte 1).toNat with
  | false => exact .quiet command.first (.refl sound)
  | true =>
    cases allows : start.writeAllowed (buffer.byte 1).toNat with
    | false => exact .quiet command.first ((Watched.refl sound).logging fun _ _ => trivial)
    | true => exact .write command inRange allows

theorem compWrite_change (command : IsCommand start buffer 0xA0#8 2) :
    FrameChange start buffer (mfUltralightCompWriteHandlerP1 buffer start).1
      (mfUltralightCompWriteHandlerP1 buffer start).2 := by
  rw [mfUltralightCompWriteHandlerP1_run]
  cases supported : mfUltralightSupportFeature start.features [.compatibleWrite] with
  | false => exact .quiet command.first (.refl sound)
  | true =>
    cases inRange : compWriteInRange start (buffer.byte 1).toNat with
    | false => exact .quiet command.first (.refl sound)
    | true =>
      cases allows : start.writeAllowed (buffer.byte 1).toNat with
      | false => exact .quiet command.first ((Watched.refl sound).logging fun _ _ => trivial)
      | true => exact .compWrite command supported inRange allows

theorem sectorSelect_change (command : IsCommand start buffer 0xC2#8 2) :
    FrameChange start buffer (mfUltralightSectorSelectHandlerP1 buffer start).1
      (mfUltralightSectorSelectHandlerP1 buffer start).2 := by
  unfold mfUltralightSectorSelectHandlerP1 supports
  rw [Effect.observe_bind]
  split
  · exact .quiet command.first (.refl sound)
  · exact .sectorSelect command

theorem auth_change (command : IsCommand start buffer 0x1B#8 5) :
    FrameChange start buffer (mfUltralightListenerAuthHandler buffer start).1
      (mfUltralightListenerAuthHandler buffer start).2 := by
  cases supported : mfUltralightSupportFeature start.features [.passwordAuth] with
  | false =>
    have unsupported : mfUltralightListenerAuthHandler buffer start = (.ok .notProcessedNAK, start) := by
      simp [mfUltralightListenerAuthHandler, supports, supported]
    rw [unsupported]
    exact .quiet command.first (.refl sound)
  | true =>
    obtain ⟨config, there⟩ := config_of_passwordAuth supported
    rw [mfUltralightListenerAuthHandler_run there supported]
    split
    · exact .attempt command there supported (.inl rfl)
    · rename_i unlocked
      split
      · rename_i matching
        exact .password command there supported (Bool.eq_false_iff.mpr unlocked) matching
      · exact .attempt command there supported (.inr rfl)

omit sound

theorem second_change {handler : MfUltralightCompositeHandler} (pending : start.compositeCmd.callback = some handler) :
    FrameChange start buffer (mfUltralightCompositeCommandRun handler buffer start).1
      (mfUltralightCompositeCommandRun handler buffer start).2 := by
  have waiting : start.compositeCmd.callback.isSome = true := by simp [pending]
  unfold mfUltralightCompositeCommandRun
  cases handler with
  | compWriteP2 =>
    simp only [mfUltralightCompositeHandler]
    have ran : mfUltralightCompWriteHandlerP2 buffer start = _ := mfUltralightCompWriteHandlerP2_run buffer
    by_cases long : buffer.length = 16
    · rw [if_neg (not_not.mpr long)] at ran
      rw [Effect.bind_of_ok ran]
      exact .secondWrite pending long
    · rw [if_pos long] at ran
      rw [Effect.bind_of_ok ran]
      exact .second waiting
  | sectorSelectP2 =>
    simp only [mfUltralightCompositeHandler, mfUltralightSectorSelectHandlerP2]
    by_cases long : buffer.length = 4
    · rw [if_neg (not_not.mpr long)]
      by_cases last : buffer.byte 0 = 0xFF#8
      · rw [if_pos last]
        exact .second waiting
      · rw [if_neg last]
        exact .secondSector pending long last
    · rw [if_pos long]
      exact .second waiting

/-- **A frame has one of the effects of `FrameChange`**. -/
theorem mfUltralightListenerHandleFrame_change (sound : MirrorHasConfig start) (buffer : Frame) :
    FrameChange start buffer (mfUltralightListenerHandleFrame buffer start).1
      (mfUltralightListenerHandleFrame buffer start).2 := by
  unfold mfUltralightListenerHandleFrame
  rw [Effect.observe_bind]
  cases first : start.compositeCmd.callback with
  | some handler => exact second_change first
  | none =>
    have any := admitsConfig_any start
    rcases runCommands_cases buffer with none | ⟨handler, member, fits, same⟩
    · exact none ▸ .quiet first (.refl sound)
    · rw [same]
      have command : IsCommand start buffer handler.cmd (handler.cmdLenBits / 8) :=
        ⟨first, by rw [← fits.1, Nat.mul_div_cancel _ (by omega)], fits.2⟩
      simp only [mfUltralightCommand, List.mem_cons, List.not_mem_nil, or_false] at member
      rcases member with rfl | rfl | rfl | rfl | rfl | rfl | rfl | rfl | rfl | rfl | rfl | rfl | rfl
      · exact quiet_of_watched sound first (mfUltralightListenerReadPageHandler_watched trivial (.inr trivial)
          buffer rfl (fun _ => any) (fun _ _ _ => trivial) (fun _ _ _ _ _ _ _ => trivial)
          fun _ _ _ _ _ _ _ => trivial)
      · exact quiet_of_watched sound first (mfUltralightListenerFastReadHandler_watched trivial (.inr trivial)
          buffer rfl rfl (fun _ _ => any) (fun _ _ _ _ => trivial) (fun _ _ _ _ _ => trivial)
          fun _ _ _ _ _ _ _ _ => trivial)
      · exact writePage_change sound command
      · exact quiet_of_watched sound first (mfUltralightListenerFastWriteHandler_watched buffer)
      · exact quiet_of_watched sound first (mfUltralightListenerReadVersionHandler_watched buffer)
      · exact quiet_of_watched sound first (mfUltralightListenerReadSignatureHandler_watched buffer)
      · exact quiet_of_watched sound first
          (mfUltralightListenerReadCounterHandler_watched buffer fun _ _ => any)
      · exact quiet_of_watched sound first (mfUltralightListenerCheckTearingHandler_watched buffer)
      · exact auth_change sound command
      · exact quiet_of_watched sound first (mfUltralightListenerIncreaseCounterHandler_watched buffer)
      · exact sectorSelect_change sound command
      · exact compWrite_change sound command
      · exact quiet_of_watched sound first
          (mfUltralightListenerVcslHandler_watched buffer fun _ _ _ => trivial)

end Xtreme.Nfc
