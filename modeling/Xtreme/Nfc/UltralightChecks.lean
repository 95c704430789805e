import Xtreme.Nfc.MfUltralightListener

/-! What the checks of the listener decide, and which pages they look at. Each
check is one equation: its answer, as a function of the state, and the state
with the pages it consulted noted. -/
namespace Xtreme.Nfc
open Xtreme.Library BitLib
open Effect (fault observe update)

namespace MfUltralightListener
variable (instanc : MfUltralightListener)

/-- The state after the pages were noted. -/
def logging (log : List PageAccess) : MfUltralightListener :=
  { instanc with accesses := instanc.accesses ++ log }

@[simp] theorem logging_data (log) : (instanc.logging log).data = instanc.data := rfl
@[simp] theorem logging_authState (log) : (instanc.logging log).authState = instanc.authState := rfl
@[simp] theorem logging_sector (log) : (instanc.logging log).sector = instanc.sector := rfl
@[simp] theorem logging_compositeCmd (log) : (instanc.logging log).compositeCmd = instanc.compositeCmd := rfl
@[simp] theorem logging_sent (log) : (instanc.logging log).sent = instanc.sent := rfl
@[simp] theorem logging_mirror (log) : (instanc.logging log).mirror = instanc.mirror := rfl
@[simp] theorem logging_features (log) : (instanc.logging log).features = instanc.features := rfl
@[simp] theorem logging_config (log) : (instanc.logging log).config = instanc.config := rfl
@[simp] theorem logging_accesses (log) : (instanc.logging log).accesses = instanc.accesses ++ log := rfl

@[simp] theorem logging_logging (first second) :
    (instanc.logging first).logging second = instanc.logging (first ++ second) := by
  simp [logging]

@[simp] theorem logging_nil : instanc.logging [] = instanc := by
  simp [logging]

theorem accessed_eq (access) : instanc.accessed access = instanc.logging [access] := rfl

def pageAt (index : Nat) : MfUltralightPage := (instanc.data.page[index]?).getD zeroPage

def configValue (config offset : Nat) : BitVec 8 := byteAt (instanc.pageAt (config + offset / 4)) (offset % 4)

@[simp] theorem logging_pageAt (log index) : (instanc.logging log).pageAt index = instanc.pageAt index := rfl

@[simp] theorem logging_configValue (log config offset) :
    (instanc.logging log).configValue config offset = instanc.configValue config offset := rfl

end MfUltralightListener

variable {instanc : MfUltralightListener}

theorem readPage_run (access : Nat → PageAccess) {index : Nat} (inside : index < 510) :
    readPage access index instanc = (.ok (instanc.pageAt index), instanc.logging [access index]) := by
  have found : instanc.data.page[index]? = some instanc.data.page[index] := Vector.getElem?_eq_getElem inside
  have there : (instanc.logging [access index]).data.page[index]? = some instanc.data.page[index] := found
  unfold readPage
  rw [Effect.update_bind, Effect.observe_bind, MfUltralightListener.accessed_eq]
  simp [MfUltralightListener.pageAt, found]

theorem readPage_outside (access : Nat → PageAccess) {index : Nat} (outside : 510 ≤ index) :
    readPage access index instanc = (.error .pageArray, instanc.logging [access index]) := by
  have absent : (instanc.logging [access index]).data.page[index]? = none :=
    Vector.getElem?_eq_none_iff.mpr outside
  unfold readPage
  rw [Effect.update_bind, Effect.observe_bind, MfUltralightListener.accessed_eq, absent]
  rfl

theorem configByte_run (access : Nat → PageAccess) (offset : Nat) {config : Nat} (there : instanc.config = some config)
    (inside : config + offset / 4 < 510) :
    configByte access offset instanc =
      (.ok (instanc.configValue config offset), instanc.logging [access (config + offset / 4)]) := by
  unfold configByte
  rw [Effect.observe_bind, there]
  exact Effect.bind_of_ok (readPage_run access inside)

theorem config_inside {type : MfUltralightType} {config : Nat}
    (there : mfUltralightGetConfigPage type = some config) : 16 ≤ config ∧ config + 3 < 231 := by
  cases type <;> simp [mfUltralightGetConfigPage, mfUltralightGetConfigPageNum, mfUltralightFeatures] at there <;>
    omega

theorem config_of_passwordAuth {type : MfUltralightType}
    (supported : mfUltralightSupportFeature (mfUltralightGetFeatureSupportSet type) [.passwordAuth] = true) :
    ∃ config, mfUltralightGetConfigPage type = some config := by
  cases type <;> first | exact ⟨_, rfl⟩ | cases supported

theorem config_of_singleCounter {type : MfUltralightType}
    (supported : mfUltralightSupportFeature (mfUltralightGetFeatureSupportSet type) [.singleCounter] = true) :
    ∃ config, mfUltralightGetConfigPage type = some config := by
  cases type <;> first | exact ⟨_, rfl⟩ | cases supported

theorem configAuth0_run {config : Nat} (there : instanc.config = some config) :
    configAuth0 instanc = (.ok (instanc.configValue config 3).toNat, instanc.logging [.consulted config]) := by
  have := config_inside there
  exact Effect.bind_of_ok (configByte_run .consulted _ there (by omega))

theorem configAccess_run {config : Nat} (there : instanc.config = some config) : configAccess instanc =
      (.ok (instanc.configValue config 4), instanc.logging [.consulted (config + 1)]) := by
  have := config_inside there
  exact configByte_run .consulted _ there (by omega)

namespace MfUltralightListener
variable (instanc : MfUltralightListener)

def needsPassword (config startPage : Nat) (isWriteOp : Bool) : Bool :=
  instanc.authState ≠ .success && ((instanc.configValue config 3).toNat ≤ startPage &&
    (accessProt (instanc.configValue config 4) || isWriteOp))

def needsPasswordLog (config startPage : Nat) : List PageAccess :=
  if instanc.authState = .success then []
  else if (instanc.configValue config 3).toNat ≤ startPage then [.consulted config, .consulted (config + 1)]
  else [.consulted config]

def configLocked (config startPage : Nat) (isWriteOp : Bool) : Bool :=
  (accessCfglck (instanc.configValue config 4) && isWriteOp) &&
    (startPage = (instanc.data.pagesTotal + 65532) % 65536 ||
      startPage = (instanc.data.pagesTotal + 65532) % 65536 + 1)

@[simp] theorem logging_configLocked (log config startPage isWriteOp) :
    (instanc.logging log).configLocked config startPage isWriteOp =
      instanc.configLocked config startPage isWriteOp := rfl

/-- What `mf_ultralight_listener_check_access` answers. -/
def accessAllowed (startPage : Nat) (accessType : MfUltralightListenerAccessType) : Bool :=
  if mfUltralightSupportFeature instanc.features [.passwordAuth] then
    instanc.config.all fun config =>
      !instanc.needsPassword config startPage (accessType == .write) &&
        !instanc.configLocked config startPage (accessType == .write)
  else true

/-- The pages it looks at. -/
def accessLog (startPage : Nat) (accessType : MfUltralightListenerAccessType) : List PageAccess :=
  if mfUltralightSupportFeature instanc.features [.passwordAuth] then
    match instanc.config with
    | none => []
    | some config => instanc.needsPasswordLog config startPage ++
      if instanc.needsPassword config startPage (accessType == .write) then [] else [.consulted (config + 1)]
  else []

@[simp] theorem logging_accessAllowed (log startPage accessType) :
    (instanc.logging log).accessAllowed startPage accessType = instanc.accessAllowed startPage accessType := rfl

@[simp] theorem logging_accessLog (log startPage accessType) :
    (instanc.logging log).accessLog startPage accessType = instanc.accessLog startPage accessType := rfl

end MfUltralightListener

theorem accessNeedsPassword_run {config : Nat} (there : instanc.config = some config) (startPage : Nat)
    (isWriteOp : Bool) :
    accessNeedsPassword startPage isWriteOp instanc = (.ok (instanc.needsPassword config startPage isWriteOp),
        instanc.logging (instanc.needsPasswordLog config startPage)) := by
  have thereAfter : (instanc.logging [.consulted config]).config = some config := there
  unfold accessNeedsPassword MfUltralightListener.needsPassword MfUltralightListener.needsPasswordLog
  rw [Effect.observe_bind]
  by_cases success : instanc.authState = .success
  · simp [success]
  · rw [if_neg success, if_neg success, Effect.bind_of_ok (configAuth0_run there)]
    by_cases covered : (instanc.configValue config 3).toNat ≤ startPage
    · rw [if_pos covered, Effect.bind_of_ok (configAccess_run thereAfter)]
      simp [success, covered]
    · simp [covered]

theorem accessConfigLocked_run {config : Nat} (there : instanc.config = some config) (startPage : Nat)
    (isWriteOp : Bool) :
    accessConfigLocked startPage isWriteOp instanc =
      (.ok (instanc.configLocked config startPage isWriteOp), instanc.logging [.consulted (config + 1)]) := by
  unfold accessConfigLocked
  rw [Effect.bind_of_ok (configAccess_run there)]
  rfl

theorem mfUltralightListenerCheckAccess_run (startPage : Nat) (accessType : MfUltralightListenerAccessType) :
    mfUltralightListenerCheckAccess startPage accessType instanc =
      (.ok (instanc.accessAllowed startPage accessType),
        instanc.logging (instanc.accessLog startPage accessType)) := by
  unfold mfUltralightListenerCheckAccess MfUltralightListener.accessAllowed MfUltralightListener.accessLog supports
  rw [Effect.observe_bind]
  by_cases supported : mfUltralightSupportFeature instanc.features [.passwordAuth] = true
  · obtain ⟨config, there⟩ := config_of_passwordAuth supported
    have found : instanc.config = some config := there
    rw [if_neg (by simp [supported]), if_pos supported, if_pos supported, found,
      Effect.bind_of_ok (accessNeedsPassword_run found startPage _)]
    cases refused : instanc.needsPassword config startPage (accessType == .write) with
    | true => simp [refused]
    | false =>
      have foundAfter : (instanc.logging (instanc.needsPasswordLog config startPage)).config = some config := there
      rw [if_neg Bool.false_ne_true, Effect.bind_of_ok (accessConfigLocked_run foundAfter startPage _)]
      simp [refused]
  · simp [supported]

def staticLockLog (page : Nat) : List PageAccess := if 3 ≤ page ∧ page ≤ 15 then [.consulted 2] else []

namespace MfUltralightListener
variable (instanc : MfUltralightListener)

def staticLocks : BitVec 16 := wordOfBytes (byteAt (instanc.pageAt 2) 2) (byteAt (instanc.pageAt 2) 3)

def dynamicLockPage : Nat := mfUltralightDynamicLockPageNum instanc.data.type

def staticLocked (page : Nat) : Bool := 3 ≤ page && (page ≤ 15 && instanc.staticLocks.getLsbD page)

/-- Whether the dynamic lock bits are asked about `page`. -/
def dynamicLockCovers (page : Nat) : Prop :=
  mfUltralightSupportFeature instanc.features [.dynamicLock] = true ∧ 16 ≤ linearPage instanc.sector page ∧
    linearPage instanc.sector page ≤ mfUltralightGetUpperPageBound instanc.data.type

instance (page : Nat) : Decidable (instanc.dynamicLockCovers page) := by
  unfold dynamicLockCovers
  infer_instance

def dynamicLockBit (page : Nat) : Nat :=
  (linearPage instanc.sector page - 16) / mfUltralightDynamicLockGranularity instanc.data.type % 256

def dynamicLocked (page : Nat) : Bool :=
  instanc.dynamicLockCovers page && (wordOfBytes ((instanc.pageAt instanc.dynamicLockPage).get 0)
      ((instanc.pageAt instanc.dynamicLockPage).get 1)).getLsbD (instanc.dynamicLockBit page)

def dynamicLockLog (page : Nat) : List PageAccess :=
  if instanc.dynamicLockCovers page then [.consulted instanc.dynamicLockPage] else []

/-- What `mf_ultralight_is_page_dynamic_lock` answers. -/
def isDynamicLock (page : Nat) : Bool :=
  mfUltralightSupportFeature instanc.features [.dynamicLock] &&
    linearPage instanc.sector page = instanc.dynamicLockPage

@[simp] theorem logging_staticLocked (log page) :
    (instanc.logging log).staticLocked page = instanc.staticLocked page := rfl

@[simp] theorem logging_dynamicLocked (log page) :
    (instanc.logging log).dynamicLocked page = instanc.dynamicLocked page := rfl

@[simp] theorem logging_dynamicLockLog (log page) :
    (instanc.logging log).dynamicLockLog page = instanc.dynamicLockLog page := rfl

@[simp] theorem logging_isDynamicLock (log page) :
    (instanc.logging log).isDynamicLock page = instanc.isDynamicLock page := rfl

end MfUltralightListener

theorem mfUltralightStaticLockCheckPage_run (page : Nat) : mfUltralightStaticLockCheckPage page instanc =
      (.ok (instanc.staticLocked page), instanc.logging (staticLockLog page)) := by
  unfold mfUltralightStaticLockCheckPage MfUltralightListener.staticLocked staticLockLog
  by_cases among : 3 ≤ page ∧ page ≤ 15
  · have consulted : mfUltralightStaticLock instanc = (.ok instanc.staticLocks, instanc.logging [.consulted 2]) :=
      Effect.bind_of_ok (readPage_run .consulted (by omega))
    rw [if_pos among, Effect.bind_of_ok consulted]
    simp [among.1, among.2]
  · by_cases low : 3 ≤ page
    · have high : ¬ page ≤ 15 := fun high => among ⟨low, high⟩
      simp [high]
    · simp [low]

theorem dynamicLockPage_inside (supported : mfUltralightSupportFeature instanc.features [.dynamicLock] = true) :
    16 ≤ instanc.dynamicLockPage ∧ instanc.dynamicLockPage < 510 := by
  unfold MfUltralightListener.dynamicLockPage
  unfold MfUltralightListener.features at supported
  cases type : instanc.data.type <;> rw [type] at supported <;> first | cases supported; done | decide

theorem dynamicLockPage_lt (linear : mfUltralightIsI2cTag instanc.data.type = false) :
    instanc.dynamicLockPage < 256 := by
  unfold MfUltralightListener.dynamicLockPage
  cases type : instanc.data.type <;> rw [type] at linear <;> first
    | exact absurd linear (by decide)
    | decide

theorem mfUltralightDynamicLock_run
    (supported : mfUltralightSupportFeature instanc.features [.dynamicLock] = true) :
    mfUltralightDynamicLock instanc = (.ok (some instanc.dynamicLockPage), instanc) := by
  simp [mfUltralightDynamicLock, supports, supported, MfUltralightListener.dynamicLockPage]

theorem mfUltralightDynamicLockCheckPage_run (page : Nat) : mfUltralightDynamicLockCheckPage page instanc =
      (.ok (instanc.dynamicLocked page), instanc.logging (instanc.dynamicLockLog page)) := by
  unfold mfUltralightDynamicLockCheckPage MfUltralightListener.dynamicLocked MfUltralightListener.dynamicLockLog
    supports
  simp only [Effect.observe_bind]
  by_cases covered : instanc.dynamicLockCovers page
  · have condition := covered
    unfold MfUltralightListener.dynamicLockCovers at condition
    rw [if_pos condition, Effect.bind_of_ok (mfUltralightDynamicLock_run covered.1)]
    have inside := (dynamicLockPage_inside covered.1).2
    have consulted : readPage .consulted instanc.dynamicLockPage instanc = _ := readPage_run .consulted inside
    simp only [Effect.bind_of_ok consulted]
    simp [covered]
    rfl
  · have condition := covered
    unfold MfUltralightListener.dynamicLockCovers at condition
    rw [if_neg condition]
    simp [covered]

theorem mfUltralightIsPageDynamicLock_run (page : Nat) :
    mfUltralightIsPageDynamicLock page instanc = (.ok (instanc.isDynamicLock page), instanc) := by
  unfold mfUltralightIsPageDynamicLock MfUltralightListener.isDynamicLock supports
  rw [Effect.observe_bind]
  cases supported : mfUltralightSupportFeature instanc.features [.dynamicLock] <;> rfl

namespace MfUltralightListener
variable (instanc : MfUltralightListener)

/-- Whether the checks let a write to `page` pass. -/
def writeAllowed (page : Nat) : Bool :=
  instanc.accessAllowed page .write && (!instanc.staticLocked page && !instanc.dynamicLocked page)

def writeLog (page : Nat) : List PageAccess :=
  instanc.accessLog page .write ++
    if instanc.accessAllowed page .write then
      staticLockLog page ++ if instanc.staticLocked page then [] else instanc.dynamicLockLog page
    else []

/-- The page of the image that a write which is not to lock bytes goes to. -/
def writeTarget (page : Nat) (doI2cCheck : Bool) : Nat :=
  if doI2cCheck then mfUltralightI2cProvidePageByRequested instanc.sector instanc.data.type page else page

/-- What a write puts where, and what it looks at first. -/
def stored (rxData : MfUltralightPage) (page : Nat) (doI2cCheck : Bool) :
    Option (Nat × MfUltralightPage × List PageAccess) :=
  if page < 2 ∧ instanc.sector = 0 then none
  else if page = 2 ∧ instanc.sector = 0 then
    some (2, storeStaticLock (instanc.pageAt 2)
      (mfUltralightStaticLockBits instanc.staticLocks (wordOfBytes (rxData.get 2) (rxData.get 3))), [.consulted 2])
  else if page = 3 ∧ instanc.sector = 0 then
    some (3, Vector.ofFn fun i => (instanc.pageAt 3).get i ||| rxData.get i, [.consulted 3])
  else if instanc.isDynamicLock page then
    some (instanc.dynamicLockPage, pageOfWord (mfUltralightDynamicLockBits
      (wordOfPage (instanc.pageAt instanc.dynamicLockPage)) (wordOfPage rxData)),
      [.consulted instanc.dynamicLockPage])
  else some (instanc.writeTarget page doI2cCheck, rxData, [])

/-- The state after a write. -/
def storing (rxData : MfUltralightPage) (page : Nat) (doI2cCheck : Bool) : MfUltralightListener :=
  match instanc.stored rxData page doI2cCheck with
  | none => instanc
  | some (index, content, log) => (instanc.logging (log ++ [.written index])).setPage index content

end MfUltralightListener

theorem writeRefused_run (page : Nat) :
    writeRefused page instanc = (.ok (!instanc.writeAllowed page), instanc.logging (instanc.writeLog page)) := by
  unfold writeRefused MfUltralightListener.writeAllowed MfUltralightListener.writeLog
  rw [Effect.bind_of_ok (mfUltralightListenerCheckAccess_run page .write)]
  cases allowed : instanc.accessAllowed page .write with
  | false => simp
  | true =>
    rw [if_neg (by decide), Effect.bind_of_ok (mfUltralightStaticLockCheckPage_run page)]
    cases locked : instanc.staticLocked page with
    | true => simp [locked]
    | false => simp [locked, mfUltralightDynamicLockCheckPage_run]

theorem writePage_run {index : Nat} (inside : index < 510) (content : MfUltralightPage) :
    writePage index content instanc = (.ok (), (instanc.logging [.written index]).setPage index content) := by
  unfold writePage
  rw [if_pos inside]
  rfl

theorem mfUltralightStaticLockBytesWrite_run (newBits : BitVec 16) :
    mfUltralightStaticLockBytesWrite newBits instanc =
      (.ok (), (instanc.logging [.consulted 2, .written 2]).setPage 2 (storeStaticLock (instanc.pageAt 2)
        (mfUltralightStaticLockBits instanc.staticLocks newBits))) := by
  unfold mfUltralightStaticLockBytesWrite
  rw [Effect.bind_of_ok (readPage_run .consulted (by omega)), writePage_run (by omega)]
  simp [MfUltralightListener.staticLocks]

theorem mfUltralightCapabilityContainerWrite_run {page : Nat} (inside : page < 510) (newData : MfUltralightPage) :
    mfUltralightCapabilityContainerWrite page newData instanc =
      (.ok (), (instanc.logging [.consulted page, .written page]).setPage page
        (Vector.ofFn fun i => (instanc.pageAt page)[i] ||| newData[i])) := by
  unfold mfUltralightCapabilityContainerWrite
  rw [Effect.bind_of_ok (readPage_run .consulted inside), writePage_run inside]
  simp

theorem mfUltralightDynamicLockBytesWrite_run
    (supported : mfUltralightSupportFeature instanc.features [.dynamicLock] = true) (newBits : BitVec 32) :
    mfUltralightDynamicLockBytesWrite newBits instanc =
      (.ok (), (instanc.logging [.consulted instanc.dynamicLockPage, .written instanc.dynamicLockPage]).setPage
        instanc.dynamicLockPage (pageOfWord (mfUltralightDynamicLockBits
          (wordOfPage (instanc.pageAt instanc.dynamicLockPage)) newBits))) := by
  have inside := (dynamicLockPage_inside supported).2
  unfold mfUltralightDynamicLockBytesWrite
  rw [Effect.bind_of_ok (mfUltralightDynamicLock_run supported)]
  have consulted : readPage .consulted instanc.dynamicLockPage instanc = _ := readPage_run .consulted inside
  simp only [Effect.bind_of_ok consulted, writePage_run inside]
  simp

theorem mfUltralightListenerPerformWrite_run {rxData : MfUltralightPage} {page : Nat} {doI2cCheck : Bool}
    (inside : instanc.writeTarget page doI2cCheck < 510) :
    mfUltralightListenerPerformWrite rxData page doI2cCheck instanc =
      (.ok (if (instanc.stored rxData page doI2cCheck).isSome then .processedACK else .notProcessedNAK),
        instanc.storing rxData page doI2cCheck) := by
  unfold mfUltralightListenerPerformWrite MfUltralightListener.storing MfUltralightListener.stored
  rw [Effect.observe_bind]
  by_cases serial : page < 2 ∧ instanc.sector = 0
  · simp [serial]
  rw [if_neg serial, if_neg serial]
  by_cases locks : page = 2 ∧ instanc.sector = 0
  · rw [if_pos locks, if_pos locks, Effect.bind_of_ok (mfUltralightStaticLockBytesWrite_run _)]
    rfl
  rw [if_neg locks, if_neg locks]
  by_cases container : page = 3 ∧ instanc.sector = 0
  · rw [if_pos container, if_pos container, container.1,
      Effect.bind_of_ok (mfUltralightCapabilityContainerWrite_run (by omega) rxData)]
    rfl
  rw [if_neg container, if_neg container, Effect.bind_of_ok (mfUltralightIsPageDynamicLock_run page)]
  cases dynamic : instanc.isDynamicLock page with
  | true =>
    have supported : mfUltralightSupportFeature instanc.features [.dynamicLock] = true := by
      simp only [MfUltralightListener.isDynamicLock, Bool.and_eq_true] at dynamic
      exact dynamic.1
    rw [if_pos rfl, Effect.bind_of_ok (mfUltralightDynamicLockBytesWrite_run supported _)]
    simp
  | false =>
    exact Effect.bind_of_ok (writePage_run inside rxData)

end Xtreme.Nfc
