import Xtreme.Nfc.UltralightEvents

/-! Which pages a frame touches. `FrameAdmits` lists, command by command, the
pages it looks at, copies and writes, with what is known when it does so; a set
of accesses that contains them contains all accesses of the frame. -/
namespace Xtreme.Nfc
open Xtreme.Library BitLib
open Effect (fault observe update Preserves)

/-- The page of the image that a write is about. -/
def storePage (instanc : MfUltralightListener) (page : Nat) (doI2cCheck : Bool) : Nat :=
  if page ≤ 3 ∧ instanc.sector = 0 then page
  else if instanc.isDynamicLock page then instanc.dynamicLockPage
  else instanc.writeTarget page doI2cCheck

theorem stored_page {instanc : MfUltralightListener} {rxData : MfUltralightPage} {page : Nat} {doI2cCheck : Bool} {index : Nat}
    {content : MfUltralightPage} {log : List PageAccess}
    (stored : instanc.stored rxData page doI2cCheck = some (index, content, log)) :
    ¬ (page < 2 ∧ instanc.sector = 0) ∧ index = storePage instanc page doI2cCheck ∧
      ∀ access ∈ log, access.page = index := by
  unfold MfUltralightListener.stored at stored
  unfold storePage
  by_cases serial : page < 2 ∧ instanc.sector = 0
  · rw [if_pos serial] at stored
    cases stored
  rw [if_neg serial] at stored
  refine ⟨serial, ?_⟩
  by_cases locks : page = 2 ∧ instanc.sector = 0
  · rw [if_pos locks] at stored
    cases stored
    rw [if_pos ⟨by omega, locks.2⟩]
    exact ⟨locks.1.symm, by simp [PageAccess.page]⟩
  rw [if_neg locks] at stored
  by_cases container : page = 3 ∧ instanc.sector = 0
  · rw [if_pos container] at stored
    cases stored
    rw [if_pos ⟨by omega, container.2⟩]
    exact ⟨container.1.symm, by simp [PageAccess.page]⟩
  rw [if_neg container] at stored
  have later : ¬ (page ≤ 3 ∧ instanc.sector = 0) := by
    rintro ⟨low, zero⟩
    simp only [zero, and_true] at serial locks container
    omega
  rw [if_neg later]
  cases lock : instanc.isDynamicLock page with
  | true =>
    rw [lock] at stored
    cases stored
    exact ⟨rfl, by simp [PageAccess.page]⟩
  | false =>
    rw [lock] at stored
    cases stored
    exact ⟨rfl, fun access member => nomatch member⟩

theorem storePage_linear {instanc : MfUltralightListener} {page : Nat} (byte : page < 256)
    (linear : mfUltralightIsI2cTag instanc.data.type = false) : storePage instanc page false = page := by
  unfold storePage
  split
  · rfl
  · split
    · rename_i lock
      have small := dynamicLockPage_lt linear
      simp only [MfUltralightListener.isDynamicLock, Bool.and_eq_true, decide_eq_true_eq] at lock
      have there := lock.2
      rw [linearPage] at there
      omega
    · rfl

structure Touched (admits : PageAccess → Prop) (allowed : MfUltralightFault → Prop) (start : MfUltralightListener)
    (ran : Except MfUltralightFault MfUltralightCommand × MfUltralightListener) : Prop where
  accesses : ∃ log, ran.2.accesses = start.accesses ++ log ∧ ∀ access ∈ log, admits access
  faults : ∀ error, ran.1 = .error error → allowed error

structure ReadAdmits (admits : PageAccess → Prop) (allowed : MfUltralightFault → Prop)
    (start : MfUltralightListener) (page : Nat) : Prop where
  consults : AdmitsConfig admits start
  divides : start.accessAllowed page .read = true → start.data.pagesTotal = 0 → allowed .moduloByZero
  shown : start.accessAllowed page .read = true → ∀ i < 4,
    visible start (page + i) (mfUltralightIsI2cTag start.data.type) = true →
    start.accessAllowed (page + i) .read = true → start.data.pagesTotal ≠ 0 →
    admits (.copied (start.writeTarget (page + i) (mfUltralightIsI2cTag start.data.type) % start.data.pagesTotal))
  rolled : start.accessAllowed page .read = true → ∀ i < 4, start.accessAllowed (page + i) .read = false →
    ∀ index < i, admits (.copied index)

structure FastReadAdmits (admits : PageAccess → Prop) (allowed : MfUltralightFault → Prop)
    (start : MfUltralightListener) (startPage endPage : Nat) : Prop where
  consults : AdmitsConfig admits start
  fits : start.accessAllowed endPage .read = true → 64 < (endPage - startPage + 1) % 256 → allowed .readBuffer
  divides : start.accessAllowed endPage .read = true → (endPage - startPage + 1) % 256 ≠ 0 →
    start.data.pagesTotal = 0 → allowed .moduloByZero
  shown : start.accessAllowed endPage .read = true → ∀ i < (endPage - startPage + 1) % 256,
    visible start (startPage + i) (mfUltralightIsI2cTag start.data.type) = true →
    start.accessAllowed (startPage + i) .read = true → start.data.pagesTotal ≠ 0 →
    admits (.copied (start.writeTarget (startPage + i) (mfUltralightIsI2cTag start.data.type) %
      start.data.pagesTotal))

/-- A write that the checks let through. -/
def StoreAdmits (admits : PageAccess → Prop) (start : MfUltralightListener) (rxData : MfUltralightPage)
    (page : Nat) (doI2cCheck : Bool) : Prop :=
  ∀ index content log, start.stored rxData page doI2cCheck = some (index, content, log) →
    admits (.written index) ∧ ∀ access ∈ log, admits access

structure AuthAdmits (admits : PageAccess → Prop) (start : MfUltralightListener) (buffer : Frame)
    (config : Nat) : Prop where
  limit : admits (.consulted (config + 1))
  password : admits (.consulted (config + 2))
  pack : start.cardLocked config (start.passwordMatches config buffer) = false →
    start.passwordMatches config buffer = true → admits (.copied (config + 3))

structure FrameAdmits (admits : PageAccess → Prop) (allowed : MfUltralightFault → Prop)
    (start : MfUltralightListener) (buffer : Frame) : Prop where
  read : IsCommand start buffer 0x30#8 2 → pageInRange start (buffer.byte 1).toNat = true →
    ReadAdmits admits allowed start (buffer.byte 1).toNat
  fastRead : IsCommand start buffer 0x3A#8 3 → mfUltralightSupportFeature start.features [.fastRead] = true →
    pagesInRange start (buffer.byte 1).toNat (buffer.byte 2).toNat = true →
    FastReadAdmits admits allowed start (buffer.byte 1).toNat (buffer.byte 2).toNat
  write : IsCommand start buffer 0xA2#8 6 → pageInRange start (buffer.byte 1).toNat = true →
    (∀ access ∈ start.writeLog (buffer.byte 1).toNat, admits access) ∧
      (start.writeAllowed (buffer.byte 1).toNat = true → StoreAdmits admits start (buffer.page 2)
        (buffer.byte 1).toNat (mfUltralightIsI2cTag start.data.type))
  compWrite : IsCommand start buffer 0xA0#8 2 →
    mfUltralightSupportFeature start.features [.compatibleWrite] = true →
    compWriteInRange start (buffer.byte 1).toNat = true →
    ∀ access ∈ start.writeLog (buffer.byte 1).toNat, admits access
  secondWrite : start.compositeCmd.callback = some .compWriteP2 → buffer.length = 16 →
    StoreAdmits admits start (buffer.page 0) start.compositeCmd.data.toNat false
  readCounter : IsCommand start buffer 0x39#8 2 → mfUltralightSupportFeature start.features [.readCounter] = true →
    mfUltralightSupportFeature start.features [.singleCounter] = true → AdmitsConfig admits start
  vcsl : IsCommand start buffer 0x4B#8 21 → mfUltralightSupportFeature start.features [.vcsl] = true →
    ∀ config, start.config = some config → admits (.copied (config + 1))
  password : IsCommand start buffer 0x1B#8 5 → mfUltralightSupportFeature start.features [.passwordAuth] = true →
    ∀ config, start.config = some config → AuthAdmits admits start buffer config

section
variable {admits : PageAccess → Prop} {allowed : MfUltralightFault → Prop} {start : MfUltralightListener}
  {buffer : Frame}

theorem touched_of_watched (sound : MirrorHasConfig start) {program : ListenerM MfUltralightCommand}
    (watched : Preserves (Watched admits start) allowed program) : Touched admits allowed start (program start) :=
  have ends := watched start (.refl sound)
  ⟨ends.1.accesses, ends.2⟩

/-- A program that ended with an answer. -/
theorem touched_ok {answer : MfUltralightCommand} {after : MfUltralightListener} (log : List PageAccess)
    (same : after.accesses = start.accesses ++ log) (admitted : ∀ access ∈ log, admits access) :
    Touched admits allowed start (.ok answer, after) :=
  ⟨⟨log, same, admitted⟩, fun _ failed => nomatch failed⟩

theorem touched_none {answer : MfUltralightCommand} : Touched admits allowed start (.ok answer, start) :=
  touched_ok [] (by simp) (by simp)

theorem storing_accesses {rxData : MfUltralightPage} {page : Nat} {doI2cCheck : Bool}
    (stores : StoreAdmits admits start rxData page doI2cCheck) :
    ∃ log, (start.storing rxData page doI2cCheck).accesses = start.accesses ++ log ∧
      ∀ access ∈ log, admits access := by
  unfold MfUltralightListener.storing
  split
  · exact ⟨[], by simp, by simp⟩
  · rename_i index content log stored
    obtain ⟨written, earlier⟩ := stores _ _ _ stored
    refine ⟨log ++ [.written index], rfl, fun access member => ?_⟩
    rcases List.mem_append.mp member with old | new
    · exact earlier access old
    · rw [List.mem_singleton.mp new]
      exact written

theorem limitLog_admitted {config : Nat} (limit : admits (.consulted (config + 1))) :
    ∀ access ∈ start.limitLog config, admits access := by
  intro access member
  have same : access = .consulted (config + 1) := by
    unfold MfUltralightListener.limitLog at member
    split_ifs at member <;> simp_all
  exact same ▸ limit

theorem attempted_admitted {config : Nat} (auth : AuthAdmits admits start buffer config) :
    ∀ access ∈ List.replicate 4 (PageAccess.consulted (config + 2)) ++ start.limitLog config,
      admits access := by
  intro access member
  rcases List.mem_append.mp member with password | limit
  · rw [List.eq_of_mem_replicate password]
    exact auth.password
  · exact limitLog_admitted auth.limit access limit

theorem writePage_touched (admitted : pageInRange start (buffer.byte 1).toNat = true →
      (∀ access ∈ start.writeLog (buffer.byte 1).toNat, admits access) ∧
        (start.writeAllowed (buffer.byte 1).toNat = true → StoreAdmits admits start (buffer.page 2)
          (buffer.byte 1).toNat (mfUltralightIsI2cTag start.data.type))) :
    Touched admits allowed start (mfUltralightListenerWritePageHandler buffer start) := by
  rw [mfUltralightListenerWritePageHandler_run]
  cases inRange : pageInRange start (buffer.byte 1).toNat with
  | false => exact touched_none
  | true =>
    obtain ⟨checks, stores⟩ := admitted inRange
    cases allows : start.writeAllowed (buffer.byte 1).toNat with
    | false => exact touched_ok _ rfl checks
    | true =>
      have storesAfter : StoreAdmits admits (start.logging (start.writeLog (buffer.byte 1).toNat))
          (buffer.page 2) (buffer.byte 1).toNat (mfUltralightIsI2cTag start.data.type) := stores allows
      obtain ⟨log, same, earlier⟩ := storing_accesses storesAfter
      refine touched_ok (start.writeLog (buffer.byte 1).toNat ++ log) ?_ fun access member => ?_
      · rw [same, MfUltralightListener.logging_accesses, List.append_assoc]
      · rcases List.mem_append.mp member with check | store
        · exact checks access check
        · exact earlier access store

theorem compWrite_touched (admitted : mfUltralightSupportFeature start.features [.compatibleWrite] = true →
      compWriteInRange start (buffer.byte 1).toNat = true →
      ∀ access ∈ start.writeLog (buffer.byte 1).toNat, admits access) :
    Touched admits allowed start (mfUltralightCompWriteHandlerP1 buffer start) := by
  rw [mfUltralightCompWriteHandlerP1_run]
  cases supported : mfUltralightSupportFeature start.features [.compatibleWrite] with
  | false => exact touched_none
  | true =>
    cases inRange : compWriteInRange start (buffer.byte 1).toNat with
    | false => exact touched_none
    | true =>
      have checks := admitted supported inRange
      cases start.writeAllowed (buffer.byte 1).toNat with
      | false => exact touched_ok _ rfl checks
      | true => exact touched_ok _ rfl checks

theorem auth_touched (admitted : mfUltralightSupportFeature start.features [.passwordAuth] = true →
      ∀ config, start.config = some config → AuthAdmits admits start buffer config) :
    Touched admits allowed start (mfUltralightListenerAuthHandler buffer start) := by
  cases supported : mfUltralightSupportFeature start.features [.passwordAuth] with
  | false =>
    have unsupported : mfUltralightListenerAuthHandler buffer start = (.ok .notProcessedNAK, start) := by
      simp [mfUltralightListenerAuthHandler, supports, supported]
    rw [unsupported]
    exact touched_none
  | true =>
    obtain ⟨config, there⟩ := config_of_passwordAuth supported
    have auth := admitted supported config there
    have checks := attempted_admitted auth
    rw [mfUltralightListenerAuthHandler_run there supported]
    cases unlocked : start.cardLocked config (start.passwordMatches config buffer) with
    | true => exact touched_ok _ rfl checks
    | false =>
      cases matching : start.passwordMatches config buffer with
      | false => exact touched_ok _ rfl checks
      | true =>
        have pack := auth.pack unlocked matching
        refine touched_ok (List.replicate 4 (.consulted (config + 2)) ++ start.limitLog config ++
          [.copied (config + 3), .copied (config + 3)]) ?_ fun access member => ?_
        · simp [MfUltralightListener.authenticated, MfUltralightListener.attempted,
            MfUltralightListener.setAuthAttempts]
        · rcases List.mem_append.mp member with check | copy
          · exact checks access check
          · have same : access = .copied (config + 3) := by simpa using copy
            exact same ▸ pack

theorem second_touched {handler : MfUltralightCompositeHandler}
    (pending : start.compositeCmd.callback = some handler)
    (admitted : start.compositeCmd.callback = some .compWriteP2 → buffer.length = 16 →
      StoreAdmits admits start (buffer.page 0) start.compositeCmd.data.toNat false) :
    Touched admits allowed start (mfUltralightCompositeCommandRun handler buffer start) := by
  unfold mfUltralightCompositeCommandRun
  cases handler with
  | compWriteP2 =>
    simp only [mfUltralightCompositeHandler]
    have ran : mfUltralightCompWriteHandlerP2 buffer start = _ := mfUltralightCompWriteHandlerP2_run buffer
    by_cases long : buffer.length = 16
    · rw [if_neg (not_not.mpr long)] at ran
      rw [Effect.bind_of_ok ran]
      obtain ⟨log, same, earlier⟩ := storing_accesses (admitted pending long)
      exact touched_ok log same earlier
    · rw [if_pos long] at ran
      rw [Effect.bind_of_ok ran]
      exact touched_ok [] (by simp) (by simp)
  | sectorSelectP2 =>
    simp only [mfUltralightCompositeHandler, mfUltralightSectorSelectHandlerP2]
    split_ifs <;> exact touched_ok [] (by simp) (by simp)

theorem sectorSelect_touched :
    Touched admits allowed start (mfUltralightSectorSelectHandlerP1 buffer start) := by
  unfold mfUltralightSectorSelectHandlerP1 supports
  rw [Effect.observe_bind]
  split
  · exact touched_none
  · exact touched_ok [] (by simp) (by simp)

/-- **A frame touches the pages that `FrameAdmits` lists**, and faults only as it allows. -/
theorem mfUltralightListenerHandleFrame_touched (sound : MirrorHasConfig start) (hangs : allowed .endlessLoop)
    (few : start.data.pagesTotal ≤ 510 ∨ allowed .pageArray) (admitted : FrameAdmits admits allowed start buffer) :
    Touched admits allowed start (mfUltralightListenerHandleFrame buffer start) := by
  unfold mfUltralightListenerHandleFrame
  rw [Effect.observe_bind]
  cases first : start.compositeCmd.callback with
  | some handler => exact second_touched first admitted.secondWrite
  | none =>
    rcases runCommands_cases buffer with none | ⟨handler, member, fits, same⟩
    · exact none ▸ touched_none
    · rw [same]
      have command : IsCommand start buffer handler.cmd (handler.cmdLenBits / 8) :=
        ⟨first, by rw [← fits.1, Nat.mul_div_cancel _ (by omega)], fits.2⟩
      simp only [mfUltralightCommand, List.mem_cons, List.not_mem_nil, or_false] at member
      rcases member with rfl | rfl | rfl | rfl | rfl | rfl | rfl | rfl | rfl | rfl | rfl | rfl | rfl
      · have read := admitted.read command
        exact touched_of_watched sound (mfUltralightListenerReadPageHandler_watched hangs few buffer rfl
          (fun inRange => (read inRange).consults) (fun inRange => (read inRange).divides)
          (fun inRange => (read inRange).shown) fun inRange => (read inRange).rolled)
      · have read := admitted.fastRead command
        exact touched_of_watched sound (mfUltralightListenerFastReadHandler_watched hangs few buffer rfl rfl
          (fun supported inRange => (read supported inRange).consults)
          (fun supported inRange => (read supported inRange).fits)
          (fun supported inRange => (read supported inRange).divides)
          fun supported inRange => (read supported inRange).shown)
      · exact writePage_touched (admitted.write command)
      · exact touched_of_watched sound (mfUltralightListenerFastWriteHandler_watched buffer)
      · exact touched_of_watched sound (mfUltralightListenerReadVersionHandler_watched buffer)
      · exact touched_of_watched sound (mfUltralightListenerReadSignatureHandler_watched buffer)
      · exact touched_of_watched sound (mfUltralightListenerReadCounterHandler_watched buffer
          (admitted.readCounter command))
      · exact touched_of_watched sound (mfUltralightListenerCheckTearingHandler_watched buffer)
      · exact auth_touched (admitted.password command)
      · exact touched_of_watched sound (mfUltralightListenerIncreaseCounterHandler_watched buffer)
      · exact sectorSelect_touched
      · exact compWrite_touched (admitted.compWrite command)
      · exact touched_of_watched sound (mfUltralightListenerVcslHandler_watched buffer (admitted.vcsl command))

theorem IsCommand.of_cleared {code : BitVec 8} {length : Nat}
    (command : IsCommand start.cleared buffer code length) : IsCommand start buffer code length :=
  ⟨command.first, command.length, command.code⟩

theorem FrameAdmits.cleared (admitted : FrameAdmits admits allowed start buffer) :
    FrameAdmits admits allowed start.cleared buffer where
  read command inRange :=
    have read := admitted.read command.of_cleared inRange
    ⟨read.consults, read.divides, read.shown, read.rolled⟩
  fastRead command supported inRange :=
    have read := admitted.fastRead command.of_cleared supported inRange
    ⟨read.consults, read.fits, read.divides, read.shown⟩
  write command inRange := admitted.write command.of_cleared inRange
  compWrite command supported inRange := admitted.compWrite command.of_cleared supported inRange
  secondWrite := admitted.secondWrite
  readCounter command readable single := admitted.readCounter command.of_cleared readable single
  vcsl command := admitted.vcsl command.of_cleared
  password command supported config there :=
    have auth := admitted.password command.of_cleared supported config there
    ⟨auth.limit, auth.password, auth.pack⟩

theorem mfUltralightListenerRun_touched (sound : MirrorHasConfig start) (hangs : allowed .endlessLoop)
    (few : start.data.pagesTotal ≤ 510 ∨ allowed .pageArray) {event : Iso14443_3aListenerEvent}
    (admitted : ∀ buffer, event = .receivedStandardFrame buffer → FrameAdmits admits allowed start buffer) :
    (∀ access ∈ (mfUltralightListenerRun event start).2.accesses, admits access) ∧
      ∀ error, (mfUltralightListenerRun event start).1 = .error error → allowed error := by
  by_cases reset : IsReset event
  · rw [mfUltralightListenerRun_reset reset]
    exact ⟨fun access member => (nomatch member), fun _ failed => (nomatch failed)⟩
  obtain ⟨buffer, rfl⟩ : ∃ buffer, event = .receivedStandardFrame buffer := by
    unfold IsReset at reset
    simpa using reset
  have cleared : MirrorHasConfig start.cleared := sound
  have touched := mfUltralightListenerHandleFrame_touched cleared hangs few (admitted buffer rfl).cleared
  rw [mfUltralightListenerRun_frame]
  rcases ran : mfUltralightListenerHandleFrame buffer start.cleared with ⟨outcome, after⟩
  rw [ran] at touched
  obtain ⟨log, same, among⟩ := touched.accesses
  have accesses : after.accesses = log := same
  cases outcome with
  | error error =>
    refine ⟨fun access member => among access (accesses ▸ member), fun other failed => ?_⟩
    cases failed
    exact touched.faults error rfl
  | ok answer =>
    refine ⟨fun access member => among access ?_, fun _ failed => nomatch failed⟩
    have there : access ∈ after.accesses := member
    rwa [accesses] at there

end

end Xtreme.Nfc
