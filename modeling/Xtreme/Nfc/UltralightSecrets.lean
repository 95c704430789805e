import Xtreme.Nfc.UltralightFootprint

/-! What a reader can learn of the password and the PACK.

Everything that the listener learns from the image it reads through `readPage`,
which notes the page; `Discreet` says so of a program, command by command. Two
images that differ in the secret pages only are therefore told apart by a frame
only if it looks at one of them. `FrameAdmits` finds the pages that a frame
looks at: the test that hides the secret pages is on the number that the reader
gave, and `Uncovered` names the one mapping of numbers to pages of the image
that gets around it. -/
namespace Xtreme.Nfc
open Xtreme.Library BitLib
open Effect (fault observe update Preserves Local AgreeAt Reaches reaches_related)

namespace MfUltralightListener

def withPages (instanc : MfUltralightListener) (page : Vector MfUltralightPage mfUltralightMaxPageNum) :
    MfUltralightListener :=
  { instanc with data := { instanc.data with page := page } }

end MfUltralightListener

def harmless (type : MfUltralightType) : PageAccess → Prop
  | .consulted page => mfUltralightIsPagePwdOrPack type page = false
  | .copied page => mfUltralightIsPagePwdOrPack type page = false
  | .written _ => True

structure SameButSecrets (type : MfUltralightType) (left right : MfUltralightListener) : Prop where
  sameType : left.data.type = type
  rest : right = left.withPages right.data.page
  pages : ∀ index, mfUltralightIsPagePwdOrPack type index = false → left.data.page[index]? = right.data.page[index]?

/-- A program that learns of the pages only what it notes. -/
abbrev Discreet (type : MfUltralightType) {α : Type} (program : ListenerM α) : Prop :=
  Local (·.accesses) (harmless type) (SameButSecrets type) program

section
variable {type : MfUltralightType}

theorem discreet_observe {α : Type} {view : MfUltralightListener → α}
    (blind : ∀ instanc page, view (MfUltralightListener.withPages instanc page) = view instanc) :
    Discreet type (observe view) := by
  refine .observe fun left right alike => ?_
  rw [alike.rest, blind]

theorem discreet_update {change : MfUltralightListener → MfUltralightListener}
    (blind : ∀ instanc page, change (MfUltralightListener.withPages instanc page) = (change instanc).withPages page)
    (kept : ∀ instanc, (change instanc).data.page = instanc.data.page ∧
      (change instanc).data.type = instanc.data.type ∧ (change instanc).accesses = instanc.accesses) :
    Discreet type (update change) := by
  refine .update (fun instanc => ?_) fun left right alike => ?_
  · exact (kept instanc).2.2 ▸ List.prefix_refl _
  · refine ⟨(kept left).2.1.trans alike.sameType, ?_, ?_⟩
    · rw [(kept right).1, ← blind, ← alike.rest]
    · rw [(kept left).1, (kept right).1]
      exact alike.pages

theorem discreet_readPage {access : Nat → PageAccess} (index : Nat)
    (shown : harmless type (access index) → mfUltralightIsPagePwdOrPack type index = false) :
    Discreet type (readPage access index) := by
  have ran (instanc : MfUltralightListener) : readPage access index instanc =
      (instanc.data.page[index]?.elim (.error .pageArray) .ok, instanc.logging [access index]) := by
    by_cases inside : index < 510
    · rw [readPage_run access inside, MfUltralightListener.pageAt, Vector.getElem?_eq_getElem inside]
      rfl
    · rw [readPage_outside access (by omega), Vector.getElem?_eq_none_iff.mpr (Nat.not_lt.mp inside)]
      rfl
  constructor
  · intro instanc
    rw [ran]
    exact ⟨[access index], rfl⟩
  · intro left right alike clean
    have same := alike.pages index (shown (clean _ (by simp [ran])))
    unfold AgreeAt
    rw [ran, ran, same]
    refine ⟨rfl, alike.sameType, ?_, alike.pages⟩
    rw [alike.rest]
    rfl

theorem discreet_consult (index : Nat) : Discreet type (readPage .consulted index) :=
  discreet_readPage index id

theorem discreet_copy (index : Nat) : Discreet type (readPage .copied index) :=
  discreet_readPage index id

theorem discreet_writePage (index : Nat) (content : MfUltralightPage) :
    Discreet type (writePage index content) := by
  unfold writePage
  constructor
  · intro instanc
    split <;> exact ⟨[.written index], rfl⟩
  · intro left right alike _
    split
    · refine ⟨rfl, alike.sameType, ?_, fun page apart => ?_⟩
      · rw [alike.rest]
        rfl
      · have same := alike.pages page apart
        by_cases there : index = page
        · subst there
          simp [MfUltralightListener.setPage, Vector.getElem?_setIfInBounds]
        · simpa [MfUltralightListener.setPage, MfUltralightListener.accessed,
            Vector.getElem?_setIfInBounds, there] using same
    · refine ⟨rfl, alike.sameType, ?_, alike.pages⟩
      rw [alike.rest]
      rfl

theorem discreet_supports (features : List MfUltralightFeatureSupport) : Discreet type (supports features) :=
  discreet_observe fun _ _ => rfl

theorem discreet_configByte {access : Nat → PageAccess} (offset : Nat)
    (shown : ∀ index, harmless type (access index) → mfUltralightIsPagePwdOrPack type index = false) :
    Discreet type (configByte access offset) := by
  refine .bind (discreet_observe fun _ _ => rfl) fun config => ?_
  cases config with
  | none => exact .fault _
  | some config => exact .bind (discreet_readPage _ (shown _)) fun _ => .pure _

theorem discreet_configConsult (offset : Nat) : Discreet type (configByte .consulted offset) :=
  discreet_configByte offset fun _ => id

theorem discreet_configCopy (offset : Nat) : Discreet type (configByte .copied offset) :=
  discreet_configByte offset fun _ => id

theorem discreet_configMirrorPage : Discreet type configMirrorPage :=
  .bind (discreet_configConsult 2) fun _ => .pure _

theorem discreet_configAccess : Discreet type configAccess := discreet_configConsult 4

theorem discreet_mirrorCheckMode : Discreet type mfUltralightMirrorCheckMode := by
  refine .bind (discreet_configConsult 0) fun mirror => .ite (fun _ => .pure _) fun _ => ?_
  refine .bind discreet_configAccess fun access => .bind (discreet_observe fun _ _ => rfl) fun authState => ?_
  exact .ite (fun _ => .pure _) fun _ => .pure _

theorem discreet_mirrorBoundariesLoop (lastUserPage rounds : Nat) (mode : MfUltralightMirrorConf)
    (maxByteOffset : Nat) (again : Bool) :
    Discreet type (mirrorBoundariesLoop lastUserPage rounds mode maxByteOffset again) := by
  induction rounds generalizing mode maxByteOffset again with
  | zero => exact .fault _
  | succ rounds next =>
    refine .ite (fun _ => .pure _) fun _ => .bind (discreet_update (fun _ _ => rfl) fun _ => ⟨rfl, rfl, rfl⟩) fun _ => ?_
    refine .bind discreet_configMirrorPage fun mirrorPage => .ite (fun _ => .pure _) fun _ => ?_
    refine .ite (fun _ => .pure _) fun _ => .ite (fun _ => ?_) fun _ => ?_
    · exact .bind (discreet_configConsult 0) fun _ => .pure _
    · exact .ite (fun _ => next _ _ _) fun _ => .ite (fun _ => next _ _ _) fun _ => .pure _

theorem discreet_mirrorEnabled : Discreet type mfUltralightMirrorEnabled := by
  refine .bind (discreet_supports _) fun supported => .bind (discreet_observe fun _ _ => rfl) fun config => ?_
  refine .bind (.ite (fun _ => ?_) fun _ => .pure _) fun enabled =>
    .bind (discreet_update (fun _ _ => rfl) fun _ => ⟨rfl, rfl, rfl⟩) fun _ => .pure _
  exact .bind (discreet_observe fun _ _ => rfl) fun _ => .bind discreet_mirrorCheckMode fun _ =>
    discreet_mirrorBoundariesLoop _ _ _ _ _

theorem discreet_getAsciiOffset (startPage : Nat) : Discreet type (mfUltralightGetAsciiOffset startPage) := by
  refine .bind (discreet_configConsult 0) fun mirror => .bind discreet_configMirrorPage fun mirrorPage => ?_
  exact .ite (fun _ => .pure _) fun _ => .pure _

theorem discreet_getMirrorLastPage : Discreet type mfUltralightGetMirrorLastPage :=
  .bind (discreet_observe fun _ _ => rfl) fun _ => .bind discreet_configMirrorPage fun _ => .pure _

theorem discreet_getByteOffset (currentPage : Nat) : Discreet type (mfUltralightGetByteOffset currentPage) :=
  .bind discreet_configMirrorPage fun _ => .ite (fun _ => .pure _) fun _ =>
    .bind (discreet_configConsult 0) fun _ => .pure _

theorem discreet_mirrorReadPrepare (startPage : Nat) : Discreet type (mfUltralightMirrorReadPrepare startPage) := by
  refine .bind discreet_mirrorEnabled fun enabled => .ite (fun _ => ?_) fun _ => .pure _
  refine .bind (discreet_getAsciiOffset startPage) fun _ => .bind (discreet_observe fun _ _ => rfl) fun _ => ?_
  exact .bind discreet_getMirrorLastPage fun _ => discreet_update (fun _ _ => rfl) fun _ => ⟨rfl, rfl, rfl⟩

theorem discreet_mirrorReadHandler (mirrorPageNum : Nat) (dest : MfUltralightPage) :
    Discreet type (mfUltralightMirrorReadHandler mirrorPageNum dest) := by
  refine .bind (discreet_observe fun _ _ => rfl) fun mirror => .ite (fun _ => ?_) fun _ => .pure _
  refine .bind discreet_configMirrorPage fun _ => .ite (fun _ => ?_) fun _ => .pure _
  refine .bind (discreet_getByteOffset _) fun _ => .bind ?_ fun _ => .pure _
  exact discreet_update (fun _ _ => rfl) fun _ => ⟨rfl, rfl, rfl⟩

theorem discreet_singleCounterTryIncrease : Discreet type mfUltralightSingleCounterTryIncrease := by
  refine .bind (discreet_supports _) fun _ => .ite (fun _ => ?_) fun _ => .pure _
  refine .bind discreet_configAccess fun _ => .bind (discreet_observe fun _ _ => rfl) fun _ => ?_
  refine .ite (fun _ => .bind (discreet_update (fun instanc page => ?_) fun instanc => ?_) fun _ =>
    discreet_update (fun _ _ => rfl) fun _ => ⟨rfl, rfl, rfl⟩) fun _ => .pure _
  · dsimp only [MfUltralightListener.withPages]
    split <;> rfl
  · split <;> exact ⟨rfl, rfl, rfl⟩

theorem discreet_checkAccess (startPage : Nat) (accessType : MfUltralightListenerAccessType) :
    Discreet type (mfUltralightListenerCheckAccess startPage accessType) := by
  have needed (isWriteOp : Bool) : Discreet type (accessNeedsPassword startPage isWriteOp) := by
    refine .bind (discreet_observe fun _ _ => rfl) fun _ => .ite (fun _ => .pure _) fun _ => ?_
    refine .bind (.bind (discreet_configConsult 3) fun _ => .pure _) fun _ => .ite (fun _ => ?_) fun _ => .pure _
    exact .bind discreet_configAccess fun _ => .pure _
  have locked (isWriteOp : Bool) : Discreet type (accessConfigLocked startPage isWriteOp) :=
    .bind discreet_configAccess fun _ => .bind (discreet_observe fun _ _ => rfl) fun _ => .pure _
  refine .bind (discreet_supports _) fun _ => .ite (fun _ => .pure _) fun _ => ?_
  exact .bind (needed _) fun _ => .ite (fun _ => .pure _) fun _ => .bind (locked _) fun _ => .pure _

theorem discreet_dynamicLock : Discreet type mfUltralightDynamicLock :=
  .bind (discreet_supports _) fun _ => .bind (discreet_observe fun _ _ => rfl) fun _ => .pure _

theorem discreet_staticLockCheckPage (page : Nat) : Discreet type (mfUltralightStaticLockCheckPage page) :=
  .ite (fun _ => .bind (.bind (discreet_consult 2) fun _ => .pure _) fun _ => .pure _) fun _ => .pure _

theorem discreet_dynamicLockCheckPage (page : Nat) : Discreet type (mfUltralightDynamicLockCheckPage page) := by
  refine .bind (discreet_observe fun _ _ => rfl) fun _ => .bind (discreet_observe fun _ _ => rfl) fun _ => ?_
  refine .bind (discreet_supports _) fun _ => .ite (fun _ => ?_) fun _ => .pure _
  refine .bind discreet_dynamicLock fun lockPage => ?_
  cases lockPage with
  | none => exact .fault _
  | some lockPage => exact .bind (discreet_consult lockPage) fun _ => .pure _

theorem discreet_writeRefused (startPage : Nat) : Discreet type (writeRefused startPage) :=
  .bind (discreet_checkAccess _ _) fun _ => .ite (fun _ => .pure _) fun _ =>
    .bind (discreet_staticLockCheckPage _) fun _ => .ite (fun _ => .pure _) fun _ => discreet_dynamicLockCheckPage _

/-! ## Commands -/

theorem discreet_tx (reply : Reply) : Discreet type (iso14443_3aListenerTx reply) :=
  discreet_update (fun _ _ => rfl) fun _ => ⟨rfl, rfl, rfl⟩

theorem discreet_sendStandardFrame (bytes : List (BitVec 8)) : Discreet type (sendStandardFrame bytes) :=
  .ite (fun _ => .fault _) fun _ => discreet_tx _

theorem discreet_respond (bytes : List (BitVec 8)) (answer : MfUltralightCommand) : Discreet type (do
      sendStandardFrame bytes
      pure answer) :=
  .bind (discreet_sendStandardFrame bytes) fun _ => .pure _

theorem discreet_readOnePage (page rollover : Nat) (doI2cPageCheck : Bool) :
    Discreet type (mfUltralightReadOnePage page rollover doI2cPageCheck) := by
  refine .bind (discreet_checkAccess _ _) fun allowed => .bind (discreet_observe fun _ _ => rfl) fun _ => ?_
  refine .bind (discreet_observe fun _ _ => rfl) fun _ => .ite (fun _ => .pure _) fun _ => ?_
  refine .ite (fun _ => .pure _) fun _ => .bind (discreet_observe fun _ _ => rfl) fun pagesTotal => ?_
  refine .ite (fun _ => .fault _) fun _ => .bind (discreet_copy _) fun content => ?_
  exact .bind (discreet_mirrorReadHandler _ _) fun _ => .pure _

theorem discreet_readLoop (capacity startPage : Nat) (doI2cPageCheck : Bool) (rounds i rollover : Nat) :
    Discreet type (mfUltralightReadLoop capacity startPage doI2cPageCheck rounds i rollover) := by
  induction rounds generalizing i rollover with
  | zero => exact .pure _
  | succ rounds next =>
    refine .ite (fun _ => .fault _) fun _ => .bind (discreet_readOnePage _ _ _) fun read => ?_
    exact .bind (next _ _) fun _ => .pure _

theorem discreet_performRead (capacity startPage pageCnt : Nat) (doI2cPageCheck : Bool) :
    Discreet type (mfUltralightListenerPerformRead capacity startPage pageCnt doI2cPageCheck) :=
  .bind (discreet_mirrorReadPrepare _) fun _ => .bind (discreet_readLoop _ _ _ _ _ _) fun _ =>
    .bind discreet_singleCounterTryIncrease fun _ => .pure _

variable (buffer : Frame)

theorem discreet_readPageHandler : Discreet type (mfUltralightListenerReadPageHandler buffer) := by
  refine .bind (discreet_observe fun _ _ => rfl) fun _ => .bind (discreet_observe fun _ _ => rfl) fun _ => ?_
  refine .bind (discreet_observe fun _ _ => rfl) fun _ => .ite (fun _ => .pure _) fun _ => ?_
  refine .ite (fun _ => .pure _) fun _ => .bind (discreet_checkAccess _ _) fun _ => ?_
  exact .ite (fun _ => .pure _) fun _ => .bind (discreet_performRead _ _ _ _) fun _ => discreet_respond _ _

theorem discreet_fastReadHandler : Discreet type (mfUltralightListenerFastReadHandler buffer) := by
  refine .bind (discreet_supports _) fun _ => .ite (fun _ => .pure _) fun _ => ?_
  refine .bind (discreet_observe fun _ _ => rfl) fun _ => .bind (discreet_observe fun _ _ => rfl) fun _ => ?_
  refine .bind (discreet_observe fun _ _ => rfl) fun _ => .ite (fun _ => .pure _) fun _ => ?_
  refine .ite (fun _ => .pure _) fun _ => .ite (fun _ => .pure _) fun _ => .bind (discreet_checkAccess _ _) fun _ => ?_
  refine .ite (fun _ => .pure _) fun _ => .bind (discreet_checkAccess _ _) fun _ => ?_
  exact .ite (fun _ => .pure _) fun _ => .bind (discreet_performRead _ _ _ _) fun _ => discreet_respond _ _

theorem discreet_performWrite (rxData : MfUltralightPage) (startPage : Nat) (doI2cCheck : Bool) :
    Discreet type (mfUltralightListenerPerformWrite rxData startPage doI2cCheck) := by
  refine .bind (discreet_observe fun _ _ => rfl) fun _ => .ite (fun _ => .pure _) fun _ => ?_
  refine .ite (fun _ => .bind (.bind (discreet_consult 2) fun _ => discreet_writePage _ _) fun _ => .pure _) fun _ => ?_
  refine .ite (fun _ => .bind (.bind (discreet_consult _) fun _ => discreet_writePage _ _) fun _ => .pure _) fun _ => ?_
  refine .bind (.bind (discreet_supports _) fun _ => .ite (fun _ => ?_) fun _ => .pure _) fun isLock => ?_
  · exact .bind (discreet_observe fun _ _ => rfl) fun _ => .bind (discreet_observe fun _ _ => rfl) fun _ => .pure _
  refine .ite (fun _ => .bind (.bind discreet_dynamicLock fun lockPage => ?_) fun _ => .pure _) fun _ => ?_
  · cases lockPage with
    | none => exact .fault _
    | some lockPage => exact .bind (discreet_consult _) fun _ => discreet_writePage _ _
  · exact .bind (discreet_observe fun _ _ => rfl) fun _ => .bind (discreet_writePage _ _) fun _ => .pure _

theorem discreet_writePageHandler : Discreet type (mfUltralightListenerWritePageHandler buffer) := by
  refine .bind (discreet_observe fun _ _ => rfl) fun _ => .bind (discreet_observe fun _ _ => rfl) fun _ => ?_
  refine .bind (discreet_observe fun _ _ => rfl) fun _ => .ite (fun _ => .pure _) fun _ => ?_
  refine .ite (fun _ => .pure _) fun _ => .bind (discreet_writeRefused _) fun _ => ?_
  exact .ite (fun _ => .pure _) fun _ => discreet_performWrite _ _ _

theorem discreet_compWriteHandlerP1 : Discreet type (mfUltralightCompWriteHandlerP1 buffer) := by
  refine .bind (discreet_supports _) fun _ => .ite (fun _ => .pure _) fun _ => ?_
  refine .bind (discreet_observe fun _ _ => rfl) fun _ => .ite (fun _ => .pure _) fun _ => ?_
  refine .bind (discreet_writeRefused _) fun _ => .ite (fun _ => .pure _) fun _ => ?_
  refine .bind (discreet_update (fun _ _ => rfl) fun _ => ⟨rfl, rfl, rfl⟩) fun _ => .bind ?_ fun _ => .pure _
  exact discreet_update (fun _ _ => rfl) fun _ => ⟨rfl, rfl, rfl⟩

theorem discreet_readCounterHandler : Discreet type (mfUltralightListenerReadCounterHandler buffer) := by
  refine .bind (discreet_supports _) fun _ => .ite (fun _ => .pure _) fun _ => .bind ?_ fun _ => ?_
  · refine .bind (discreet_supports _) fun _ => .ite (fun _ => .pure _) fun _ => ?_
    refine .bind (discreet_observe fun _ _ => rfl) fun _ => .ite (fun _ => .pure _) fun _ => ?_
    exact .bind discreet_configAccess fun _ => .bind (discreet_observe fun _ _ => rfl) fun _ => .pure _
  · refine .ite (fun _ => .pure _) fun _ => .bind (discreet_observe fun _ _ => rfl) fun counter => ?_
    cases counter with
    | none => exact .pure _
    | some counter => exact discreet_respond _ _

theorem discreet_increaseCounterHandler : Discreet type (mfUltralightListenerIncreaseCounterHandler buffer) := by
  refine .bind (discreet_supports _) fun _ => .ite (fun _ => .pure _) fun _ => ?_
  refine .bind (discreet_observe fun _ _ => rfl) fun counter => ?_
  cases counter with
  | none => exact .pure _
  | some counter =>
    refine .ite (fun _ => .pure _) fun _ => .ite (fun _ => .pure _) fun _ => ?_
    exact .bind (discreet_update (fun _ _ => rfl) fun _ => ⟨rfl, rfl, rfl⟩) fun _ => .pure _

theorem discreet_checkTearingHandler : Discreet type (mfUltralightListenerCheckTearingHandler buffer) := by
  refine .bind (discreet_supports _) fun _ => .ite (fun _ => .pure _) fun _ => ?_
  refine .bind (discreet_supports _) fun _ => .ite (fun _ => .pure _) fun _ => ?_
  refine .bind (discreet_observe fun _ _ => rfl) fun flag => ?_
  cases flag with
  | none => exact .pure _
  | some flag => exact discreet_respond _ _

theorem discreet_vcslHandler : Discreet type (mfUltralightListenerVcslHandler buffer) :=
  .bind (discreet_supports _) fun _ => .bind (discreet_observe fun _ _ => rfl) fun _ => .ite (fun _ => .pure _) fun _ =>
    .bind (discreet_configCopy 5) fun _ => discreet_respond _ _

theorem discreet_authHandler : Discreet type (mfUltralightListenerAuthHandler buffer) := by
  have attempts : Discreet type mfUltralightAuthCheckAttempts :=
    .bind (discreet_observe fun _ _ => rfl) fun _ => .bind discreet_configAccess fun _ =>
      .bind (discreet_observe fun _ _ => rfl) fun _ => .pure _
  refine .bind (discreet_supports _) fun _ => .ite (fun _ => .pure _) fun _ => .bind ?_ fun authSuccess => ?_
  · exact .bind (discreet_configConsult 8) fun _ => .bind (discreet_configConsult 9) fun _ =>
      .bind (discreet_configConsult 10) fun _ => .bind (discreet_configConsult 11) fun _ => .pure _
  refine .bind ?_ fun cardLocked => .ite (fun _ => .pure _) fun _ => .ite (fun _ => .pure _) fun _ => ?_
  · refine .bind discreet_configAccess fun _ => .ite (fun _ => .pure _) fun _ => ?_
    refine .bind attempts fun _ => .ite (fun _ => .pure _) fun _ => ?_
    exact .bind (discreet_update (fun _ _ => rfl) fun _ => ⟨rfl, rfl, rfl⟩) fun _ => attempts
  · refine .bind (discreet_configCopy 12) fun _ => .bind (discreet_configCopy 13) fun _ => ?_
    exact .bind (discreet_update (fun _ _ => rfl) fun _ => ⟨rfl, rfl, rfl⟩) fun _ => discreet_respond _ _

theorem discreet_sectorSelectHandlerP1 : Discreet type (mfUltralightSectorSelectHandlerP1 buffer) :=
  .bind (discreet_supports _) fun _ => .ite (fun _ => .pure _) fun _ =>
    .bind (discreet_update (fun _ _ => rfl) fun _ => ⟨rfl, rfl, rfl⟩) fun _ => .pure _

theorem discreet_runCommands : Discreet type (runCommands buffer mfUltralightCommand) := by
  rcases runCommands_cases buffer with none | ⟨handler, member, -, same⟩
  · exact none ▸ .pure _
  · rw [same]
    simp only [mfUltralightCommand, List.mem_cons, List.not_mem_nil, or_false] at member
    rcases member with rfl | rfl | rfl | rfl | rfl | rfl | rfl | rfl | rfl | rfl | rfl | rfl | rfl
    · exact discreet_readPageHandler buffer
    · exact discreet_fastReadHandler buffer
    · exact discreet_writePageHandler buffer
    · exact .bind (discreet_supports _) fun _ => .ite (fun _ => .pure _) fun _ =>
        .ite (fun _ => .pure _) fun _ => .pure _
    · exact .bind (discreet_supports _) fun _ => .ite (fun _ =>
        .bind (discreet_observe fun _ _ => rfl) fun _ => discreet_respond _ _) fun _ => .pure _
    · exact .bind (discreet_supports _) fun _ => .ite (fun _ =>
        .bind (discreet_observe fun _ _ => rfl) fun _ => discreet_respond _ _) fun _ => .pure _
    · exact discreet_readCounterHandler buffer
    · exact discreet_checkTearingHandler buffer
    · exact discreet_authHandler buffer
    · exact discreet_increaseCounterHandler buffer
    · exact discreet_sectorSelectHandlerP1 buffer
    · exact discreet_compWriteHandlerP1 buffer
    · exact discreet_vcslHandler buffer

theorem discreet_handleFrame : Discreet type (mfUltralightListenerHandleFrame buffer) := by
  refine .bind (discreet_observe fun _ _ => rfl) fun callback => ?_
  cases callback with
  | none => exact discreet_runCommands buffer
  | some handler =>
    refine .bind ?_ fun _ => .bind (discreet_update (fun _ _ => rfl) fun _ => ⟨rfl, rfl, rfl⟩) fun _ => .pure _
    cases handler with
    | compWriteP2 =>
      exact .ite (fun _ => .pure _) fun _ => .bind (discreet_observe fun _ _ => rfl) fun _ =>
        discreet_performWrite _ _ _
    | sectorSelectP2 =>
      refine .ite (fun _ => .pure _) fun _ => .ite (fun _ => .pure _) fun _ => ?_
      exact .bind (discreet_update (fun _ _ => rfl) fun _ => ⟨rfl, rfl, rfl⟩) fun _ => .pure _

end

section
variable {type : MfUltralightType} {left right : MfUltralightListener}

theorem SameButSecrets.sent (alike : SameButSecrets type left right) : right.sent = left.sent := by
  rw [alike.rest]
  rfl

/-- Images that differ in the secret pages only are not told apart by an event
that looks at none of them. -/
theorem mfUltralightListenerRun_agrees (alike : SameButSecrets type left right) {event : Iso14443_3aListenerEvent}
    (clean : ∀ buffer, event = .receivedStandardFrame buffer →
      ∀ access ∈ (mfUltralightListenerHandleFrame buffer left.cleared).2.accesses, harmless type access) :
    AgreeAt (SameButSecrets type) (mfUltralightListenerRun event) (mfUltralightListenerRun event) left right := by
  unfold AgreeAt
  by_cases reset : IsReset event
  · rw [mfUltralightListenerRun_reset reset, mfUltralightListenerRun_reset reset]
    refine ⟨rfl, alike.sameType, ?_, alike.pages⟩
    rw [alike.rest]
    rfl
  obtain ⟨buffer, rfl⟩ : ∃ buffer, event = .receivedStandardFrame buffer := by
    unfold IsReset at reset
    simpa using reset
  have cleared : SameButSecrets type left.cleared right.cleared := by
    refine ⟨alike.sameType, ?_, alike.pages⟩
    rw [alike.rest]
    rfl
  have agreed := (discreet_handleFrame buffer).agrees _ _ cleared (clean buffer rfl)
  unfold AgreeAt at agreed
  rw [mfUltralightListenerRun_frame, mfUltralightListenerRun_frame]
  rcases ran : mfUltralightListenerHandleFrame buffer left.cleared with ⟨outcome, after⟩
  rcases ran' : mfUltralightListenerHandleFrame buffer right.cleared with ⟨outcome', after'⟩
  rw [ran, ran'] at agreed
  obtain ⟨same, related⟩ := agreed
  cases same
  cases outcome with
  | error error => exact ⟨rfl, related⟩
  | ok answer =>
    have rest : after' = after.withPages after'.data.page := related.rest
    exact ⟨rfl, related.sameType, congrArg (MfUltralightListener.answered · answer) rest, related.pages⟩

end

section
variable {type : MfUltralightType}

theorem secret_iff {page : Nat} : mfUltralightIsPagePwdOrPack type page = true ↔
    ∃ config, mfUltralightGetConfigPage type = some config ∧ (page = config + 2 ∨ page = config + 3) := by
  cases type <;> simp [mfUltralightIsPagePwdOrPack, mfUltralightGetPwdPageNum, mfUltralightGetConfigPage,
    mfUltralightGetConfigPageNum, mfUltralightFeatures]

theorem notSecret_low {page : Nat} (low : page < 16) : mfUltralightIsPagePwdOrPack type page = false := by
  rw [← Bool.not_eq_true, secret_iff]
  rintro ⟨config, there, place⟩
  have := config_inside there
  omega

theorem notSecret_config {config offset : Nat} (there : mfUltralightGetConfigPage type = some config)
    (early : offset < 2) : mfUltralightIsPagePwdOrPack type (config + offset) = false := by
  rw [← Bool.not_eq_true, secret_iff]
  rintro ⟨same, found, place⟩
  rw [there] at found
  cases found
  omega

theorem notSecret_lockPage : mfUltralightIsPagePwdOrPack type (mfUltralightDynamicLockPageNum type) = false := by
  cases type <;> rfl

theorem wraps_of_secret {page pagesTotal : Nat} (some : pagesTotal ≠ 0)
    (plain : mfUltralightIsPagePwdOrPack type page = false)
    (secret : mfUltralightIsPagePwdOrPack type (page % pagesTotal) = true) :
    ∃ config, mfUltralightGetConfigPage type = .some config ∧ config + 2 + pagesTotal ≤ page ∧
      config + 2 < pagesTotal := by
  obtain ⟨config, there, place⟩ := secret_iff.mp secret
  by_cases inside : page < pagesTotal
  · rw [Nat.mod_eq_of_lt inside, plain] at secret
    cases secret
  · have below := Nat.mod_lt page (Nat.pos_of_ne_zero some)
    have wrapped : page % pagesTotal ≤ page - pagesTotal := by
      rw [Nat.mod_eq_sub_mod (by omega)]
      exact Nat.mod_le _ _
    exact ⟨config, there, by omega, by omega⟩

end

/-! ## The pages that a frame looks at -/

section
variable (instanc : MfUltralightListener)

/-- The number of a page in the second sector of the NTAG I2C Plus 2K is mapped
to a secret page, and is not hidden: this takes an image with too few pages. -/
structure Uncovered (page : Nat) : Prop where
  type : instanc.data.type = .ntagI2CPlus2K
  sector : instanc.sector.toNat = 1
  shown : visible instanc page true = true
  allowed : instanc.accessAllowed page .read = true
  secret : mfUltralightIsPagePwdOrPack instanc.data.type ((page + 236) % instanc.data.pagesTotal) = true

/-- The frame is no PWD_AUTH, and reads no page that is uncovered. -/
structure FrameConceals (buffer : Frame) : Prop where
  noPassword : ¬ IsCommand instanc buffer 0x1B#8 5
  read : IsCommand instanc buffer 0x30#8 2 → instanc.accessAllowed (buffer.byte 1).toNat .read = true →
    ∀ i < 4, ¬ Uncovered instanc ((buffer.byte 1).toNat + i)
  fastRead : IsCommand instanc buffer 0x3A#8 3 →
    pagesInRange instanc (buffer.byte 1).toNat (buffer.byte 2).toNat = true →
    instanc.accessAllowed (buffer.byte 2).toNat .read = true →
    ∀ i < ((buffer.byte 2).toNat - (buffer.byte 1).toNat + 1) % 256, ¬ Uncovered instanc ((buffer.byte 1).toNat + i)

end

def Conceals (event : Iso14443_3aListenerEvent) (instanc : MfUltralightListener) : Prop :=
  ∀ buffer, event = .receivedStandardFrame buffer → FrameConceals instanc buffer

section
variable {instanc : MfUltralightListener}

theorem admitsConfig_harmless : AdmitsConfig (harmless instanc.data.type) instanc :=
  fun _ there => ⟨notSecret_config there Nat.zero_lt_two, notSecret_config there (by omega)⟩

theorem writeLog_harmless (page : Nat) : ∀ access ∈ instanc.writeLog page, harmless instanc.data.type access := by
  intro access member
  rcases List.mem_append.mp member with checked | locks
  · exact accessLog_admitted admitsConfig_harmless page .write access checked
  split at locks
  · rcases List.mem_append.mp locks with static | dynamic
    · unfold staticLockLog at static
      split at static
      · rw [List.mem_singleton.mp static]
        exact notSecret_low (by omega)
      · cases static
    · split at dynamic
      · cases dynamic
      · unfold MfUltralightListener.dynamicLockLog at dynamic
        split at dynamic
        · rw [List.mem_singleton.mp dynamic]
          exact notSecret_lockPage
        · cases dynamic
  · cases locks

/-- A write looks at lock bytes and at page 3 only. -/
theorem storeAdmits_harmless (rxData : MfUltralightPage) (page : Nat) (doI2cCheck : Bool) :
    StoreAdmits (harmless instanc.data.type) instanc rxData page doI2cCheck := by
  intro index content log stored
  refine ⟨trivial, fun access member => ?_⟩
  unfold MfUltralightListener.stored at stored
  split_ifs at stored <;> cases stored
  · rw [List.mem_singleton.mp member]
    exact notSecret_low (by omega)
  · rw [List.mem_singleton.mp member]
    exact notSecret_low (by omega)
  · rw [List.mem_singleton.mp member]
    exact notSecret_lockPage
  · cases member

theorem plusTarget {page : Nat} (plus : instanc.config = some 227)
    (sectored : mfUltralightIsI2cTag instanc.data.type = true) (shown : visible instanc page true = true)
    (other : ¬ (instanc.data.type = .ntagI2CPlus2K ∧ instanc.sector.toNat = 1)) :
    instanc.writeTarget page true ≤ 235 ∧
      mfUltralightIsPagePwdOrPack instanc.data.type (instanc.writeTarget page true) = false := by
  simp only [visible, Bool.true_and, Bool.not_not, Bool.and_eq_true] at shown
  obtain ⟨valid, plain⟩ := shown
  unfold MfUltralightListener.config at plus
  have types : instanc.data.type = .ntagI2CPlus1K ∨ instanc.data.type = .ntagI2CPlus2K := by
    cases type : instanc.data.type <;> rw [type] at plus sectored <;> first
      | exact absurd sectored (by decide)
      | exact absurd plus (by decide)
      | simp
  rcases types with type | type <;> rw [type] at valid plain other ⊢ <;>
    rcases validatePages_cases valid with ⟨number, valid⟩ | ⟨number, valid⟩ | ⟨number, valid⟩ <;>
    simp [MfUltralightListener.writeTarget, mfUltralightI2cProvidePageByRequested, type, number,
      mfUltralightI2cPageProviderForSector0, mfUltralightI2cPageProviderForSector3,
      mfUltralightI2cPageValidatorForSector0, mfUltralightI2cPageValidatorForSector1,
      mfUltralightI2cPageOnSessionReg, mfUltralightI2cPageOnMirroredSessionReg, mfUltralightIsPagePwdOrPack,
      mfUltralightGetPwdPageNum, mfUltralightFeatures] at valid plain other ⊢ <;>
    grind

theorem copied_harmless {page : Nat}
    (wraps : mfUltralightIsI2cTag instanc.data.type = false → page ≤ instanc.data.pagesTotal + 3)
    (shown : visible instanc page (mfUltralightIsI2cTag instanc.data.type) = true)
    (allowed : instanc.accessAllowed page .read = true) (some : instanc.data.pagesTotal ≠ 0)
    (covered : ¬ Uncovered instanc page) :
    mfUltralightIsPagePwdOrPack instanc.data.type
      (instanc.writeTarget page (mfUltralightIsI2cTag instanc.data.type) % instanc.data.pagesTotal) = false := by
  rw [← Bool.not_eq_true]
  intro secret
  have visible := shown
  simp only [Nfc.visible, Bool.and_eq_true, Bool.not_eq_true'] at shown
  cases sectored : mfUltralightIsI2cTag instanc.data.type with
  | false =>
    rw [sectored] at secret
    obtain ⟨config, there, far, -⟩ := wraps_of_secret some shown.2 secret
    have := wraps sectored
    have := config_inside there
    omega
  | true =>
    rw [sectored] at secret visible
    by_cases second : instanc.data.type = .ntagI2CPlus2K ∧ instanc.sector.toNat = 1
    · have target : instanc.writeTarget page true = page + 236 := by
        simp [MfUltralightListener.writeTarget, mfUltralightI2cProvidePageByRequested,
          mfUltralightI2cPageProviderForSector1, second.1, second.2]
      rw [target] at secret
      exact covered ⟨second.1, second.2, visible, allowed, secret⟩
    · obtain ⟨config, there, -⟩ := secret_iff.mp secret
      have plus : instanc.config = .some 227 := by
        unfold MfUltralightListener.config
        cases type : instanc.data.type <;> rw [type] at there sectored <;> first
          | exact absurd sectored (by decide)
          | cases there <;> rfl
      obtain ⟨low, plain⟩ := plusTarget plus sectored visible second
      obtain ⟨same, found, far, below⟩ := wraps_of_secret some plain secret
      have first : instanc.config = .some same := found
      rw [plus] at first
      cases first
      omega

theorem frameAdmits_harmless {buffer : Frame} (conceals : FrameConceals instanc buffer) :
    FrameAdmits (harmless instanc.data.type) anyFault instanc buffer where
  read command inRange := by
    refine ⟨admitsConfig_harmless, fun _ _ => trivial, fun access i inside shown allowed some => ?_, ?_⟩
    · refine copied_harmless (fun linear => ?_) shown allowed some (conceals.read command access i inside)
      have bound : (buffer.byte 1).toNat ≤ instanc.data.pagesTotal := by
        simpa [pageInRange, linear] using inRange
      omega
    · exact fun _ i inside _ index below => notSecret_low (by omega)
  fastRead command supported inRange := by
    refine ⟨admitsConfig_harmless, fun _ _ => trivial, fun _ _ _ => trivial, fun access i inside shown allowed some => ?_⟩
    refine copied_harmless (fun linear => ?_) shown allowed some (conceals.fastRead command inRange access i inside)
    have bound : (buffer.byte 2).toNat < instanc.data.pagesTotal ∧ (buffer.byte 1).toNat ≤ (buffer.byte 2).toNat := by
      simpa [pagesInRange, linear] using inRange
    omega
  write _ _ := ⟨writeLog_harmless _, fun _ => storeAdmits_harmless _ _ _⟩
  compWrite _ _ _ := writeLog_harmless _
  secondWrite _ _ := storeAdmits_harmless _ _ _
  readCounter _ _ _ := admitsConfig_harmless
  vcsl _ _ _ there := notSecret_config there (by omega)
  password command _ _ _ := absurd command conceals.noPassword

end

/-- The images are the same but for the pages that hold the password and the PACK. -/
structure SameImageButSecrets (left right : MfUltralightData) : Prop where
  rest : right = { left with page := right.page }
  pages : ∀ index, mfUltralightIsPagePwdOrPack left.type index = false → left.page[index]? = right.page[index]?

theorem sameButSecrets_alloc {left right : MfUltralightData} (images : SameImageButSecrets left right) :
    SameButSecrets left.type (mfUltralightListenerAlloc left) (mfUltralightListenerAlloc right) := by
  refine ⟨rfl, ?_, images.pages⟩
  rw [images.rest]
  rfl

theorem conceals_agrees {type : MfUltralightType} {event : Iso14443_3aListenerEvent}
    {left right : MfUltralightListener} (sound : ListenerSound left) (conceals : Conceals event left)
    (alike : SameButSecrets type left right) :
    AgreeAt (SameButSecrets type) (mfUltralightListenerRun event) (mfUltralightListenerRun event) left right := by
  refine mfUltralightListenerRun_agrees alike fun buffer same access member => ?_
  have cleared : MirrorHasConfig left.cleared := sound.mirror
  have admitted := (frameAdmits_harmless (conceals buffer same)).cleared
  obtain ⟨log, accesses, clean⟩ := (mfUltralightListenerHandleFrame_touched cleared trivial (.inr trivial) admitted).accesses
  have logged : (mfUltralightListenerHandleFrame buffer left.cleared).2.accesses = log := accesses
  rw [logged] at member
  exact alike.sameType ▸ clean access member

/-- **Without PWD_AUTH, and without a read of an uncovered page, the password and
the PACK cannot be learned**: what the listener of one image does on a run, that
of an image with other secrets does as well, and their next answers are the same. -/
theorem secrets_stay_hidden {left right : MfUltralightData} (images : SameImageButSecrets left right)
    {events : List Iso14443_3aListenerEvent} {instanc : MfUltralightListener}
    (run : Reaches mfUltralightListenerRun Conceals (mfUltralightListenerAlloc left) events instanc)
    {event : Iso14443_3aListenerEvent} (conceals : Conceals event instanc) :
    ∃ other, Reaches mfUltralightListenerRun (fun _ _ => True) (mfUltralightListenerAlloc right) events other ∧
      (mfUltralightListenerRun event other).1 = (mfUltralightListenerRun event instanc).1 ∧
      (mfUltralightListenerRun event other).2.sent = (mfUltralightListenerRun event instanc).2.sent := by
  let related (state other : MfUltralightListener) : Prop :=
    ListenerSound state ∧ SameButSecrets left.type state other
  have start : related (mfUltralightListenerAlloc left) (mfUltralightListenerAlloc right) :=
    ⟨listenerSound_alloc left, sameButSecrets_alloc images⟩
  have agrees (event state other) (conceals : Conceals event state) (alike : related state other) :
      AgreeAt related (mfUltralightListenerRun event) (mfUltralightListenerRun event) state other :=
    have agreed := conceals_agrees alike.1 conceals alike.2
    ⟨agreed.1, listenerSound_run event alike.1, agreed.2⟩
  obtain ⟨other, reached, sound, alike⟩ := reaches_related run start agrees
  obtain ⟨same, after⟩ := conceals_agrees sound conceals alike
  exact ⟨other, reached, same.symm, after.sent⟩

theorem markedTag_same {type : MfUltralightType} {pagesTotal index : Nat}
    (secret : mfUltralightIsPagePwdOrPack type index = true) :
    SameImageButSecrets (blankTag type pagesTotal) (markedTag type pagesTotal index) := by
  refine ⟨rfl, fun page plain => ?_⟩
  have other : index ≠ page := by
    rintro rfl
    have plain : mfUltralightIsPagePwdOrPack type index = false := plain
    rw [secret] at plain
    cases plain
  simp [markedTag, other]

/-- READ of page 41 of an NTAG213 goes over its password. -/
theorem secrets_stay_hidden_read : ∃ other, Reaches mfUltralightListenerRun (fun _ _ => True)
        (mfUltralightListenerAlloc (markedTag .ntag213 45 43)) [] other ∧
      (mfUltralightListenerRun (.receivedStandardFrame [0x30#8, 41#8]) other).1 =
        (mfUltralightListenerRun (.receivedStandardFrame [0x30#8, 41#8])
          (mfUltralightListenerAlloc (blankTag .ntag213 45))).1 ∧
      (mfUltralightListenerRun (.receivedStandardFrame [0x30#8, 41#8]) other).2.sent =
        (mfUltralightListenerRun (.receivedStandardFrame [0x30#8, 41#8])
          (mfUltralightListenerAlloc (blankTag .ntag213 45))).2.sent := by
  refine secrets_stay_hidden (markedTag_same (by decide)) .start ?_
  rintro buffer ⟨⟩
  refine ⟨fun command => absurd command.code (by decide), fun _ _ i _ covered => ?_, fun command => ?_⟩
  · exact nomatch covered.type
  · exact absurd command.code (by decide)

/-- An NTAG I2C Plus 2K of 262 pages gives away its password: page 255 of the
second sector is page 491 of a full image, and page 229 of this one. -/
theorem readPage_uncovers_password : ∃ left right, SameImageButSecrets left right ∧ ∃ events event,
      (∀ among ∈ events ++ [event], ∃ buffer, among = .receivedStandardFrame buffer ∧
        buffer.byte 0 ∉ [0x1B#8, 0xA2#8, 0xA0#8]) ∧
      ∃ instanc other,
        Reaches mfUltralightListenerRun (fun _ _ => True) (mfUltralightListenerAlloc left) events instanc ∧
        Reaches mfUltralightListenerRun (fun _ _ => True) (mfUltralightListenerAlloc right) events other ∧
        (mfUltralightListenerRun event other).2.sent ≠ (mfUltralightListenerRun event instanc).2.sent := by
  have images : SameImageButSecrets (blankTag .ntagI2CPlus2K 262) (markedTag .ntagI2CPlus2K 262 229) :=
    markedTag_same (by decide)
  refine ⟨_, _, images, [.receivedStandardFrame [0xC2#8, 0xFF#8], .receivedStandardFrame [1#8, 0#8, 0#8, 0#8]],
    .receivedStandardFrame [0x30#8, 255#8], by simp [Frame.byte], _, _,
    .step (.step .start trivial rfl) trivial rfl, .step (.step .start trivial rfl) trivial rfl, ?_⟩
  decide +kernel

end Xtreme.Nfc
