import Xtreme.Nfc.UltralightChecks

/-! What reading pages does to the listener: it changes no page and nothing a
check depends on, and looks only at pages that the caller vouches for.

`Watched` is the relation between the states before and after, with the
accesses in between among those that `admits` allows. -/
namespace Xtreme.Nfc
open Xtreme.Library BitLib
open Effect (fault observe update Preserves)

def MirrorHasConfig (instanc : MfUltralightListener) : Prop :=
  instanc.mirror.enabled = true → instanc.config.isSome = true

structure Watched (admits : PageAccess → Prop) (before after : MfUltralightListener) : Prop where
  type : after.data.type = before.data.type
  page : after.data.page = before.data.page
  pagesTotal : after.data.pagesTotal = before.data.pagesTotal
  authAttempts : after.data.authAttempts = before.data.authAttempts
  authState : after.authState = before.authState
  sector : after.sector = before.sector
  compositeCmd : after.compositeCmd = before.compositeCmd
  mirror : MirrorHasConfig after
  accesses : ∃ log, after.accesses = before.accesses ++ log ∧ ∀ access ∈ log, admits access

namespace Watched
variable {admits : PageAccess → Prop} {before middle after : MfUltralightListener}

theorem refl (sound : MirrorHasConfig before) : Watched admits before before :=
  ⟨rfl, rfl, rfl, rfl, rfl, rfl, rfl, sound, [], by simp, by simp⟩

theorem logging (watched : Watched admits before middle) {log : List PageAccess}
    (admitted : ∀ access ∈ log, admits access) : Watched admits before (middle.logging log) := by
  obtain ⟨earlier, same, allowed⟩ := watched.accesses
  refine { watched with accesses := ⟨earlier ++ log, by simp [same], ?_⟩, mirror := watched.mirror }
  intro access member
  rcases List.mem_append.mp member with old | new
  · exact allowed access old
  · exact admitted access new

variable (watched : Watched admits before after)
include watched

theorem config : after.config = before.config := by
  rw [MfUltralightListener.config, MfUltralightListener.config, watched.type]

theorem features : after.features = before.features := by
  rw [MfUltralightListener.features, MfUltralightListener.features, watched.type]

theorem pageAt (index : Nat) :
    after.pageAt index = before.pageAt index := by
  rw [MfUltralightListener.pageAt, MfUltralightListener.pageAt, watched.page]

theorem configValue (config offset : Nat) :
    after.configValue config offset = before.configValue config offset := by
  rw [MfUltralightListener.configValue, MfUltralightListener.configValue, watched.pageAt]

theorem accessAllowed (page : Nat) (accessType : MfUltralightListenerAccessType) :
    after.accessAllowed page accessType = before.accessAllowed page accessType := by
  simp only [MfUltralightListener.accessAllowed, MfUltralightListener.needsPassword,
    MfUltralightListener.configLocked, watched.features, watched.config, watched.configValue,
    watched.authState, watched.pagesTotal]

theorem accessLog (page : Nat) (accessType : MfUltralightListenerAccessType) :
    after.accessLog page accessType = before.accessLog page accessType := by
  simp only [MfUltralightListener.accessLog, MfUltralightListener.needsPassword,
    MfUltralightListener.needsPasswordLog, watched.features, watched.config, watched.configValue,
    watched.authState]
  rfl

theorem setMirror {mirror : MfUltralightMirrorMode} (sound : mirror.enabled = true → before.config.isSome = true) :
    Watched admits before { after with mirror := mirror } := by
  refine { watched with mirror := fun enabled => ?_, accesses := watched.accesses }
  exact watched.config ▸ sound enabled

end Watched

/-- The configuration pages that the checks and the mirror look at may be looked at. -/
def AdmitsConfig (admits : PageAccess → Prop) (instanc : MfUltralightListener) : Prop :=
  ∀ config, instanc.config = some config → admits (.consulted config) ∧ admits (.consulted (config + 1))

theorem accessLog_admitted {admits : PageAccess → Prop} {instanc : MfUltralightListener}
    (consults : AdmitsConfig admits instanc) (page : Nat) (accessType : MfUltralightListenerAccessType) :
    ∀ access ∈ instanc.accessLog page accessType, admits access := by
  intro access member
  unfold MfUltralightListener.accessLog at member
  split at member
  · split at member
    · cases member
    · rename_i config there
      obtain ⟨first, second⟩ := consults config there
      have among : access = .consulted config ∨ access = .consulted (config + 1) := by
        rcases List.mem_append.mp member with needed | rest
        · unfold MfUltralightListener.needsPasswordLog at needed
          split at needed
          · cases needed
          · split at needed <;> simp_all
        · split at rest <;> simp_all
      rcases among with rfl | rfl
      · exact first
      · exact second
  · cases member

section
variable {admits : PageAccess → Prop} {allowed : MfUltralightFault → Prop} {start : MfUltralightListener}
  {config : Nat}

variable (there : start.config = some config)
include there

variable (consults : AdmitsConfig admits start)
include consults

theorem configByte_watched {offset : Nat} (early : offset < 8) {β : Type} {next : BitVec 8 → ListenerM β}
    (continues : Preserves (Watched admits start) allowed (next (start.configValue config offset))) :
    Preserves (Watched admits start) allowed (configByte .consulted offset >>= next) := by
  refine Preserves.bind_of_run fun state watched => ?_
  have found : state.config = some config := watched.config.trans there
  have inside := config_inside found
  obtain ⟨first, second⟩ := consults config there
  refine ⟨_, _, configByte_run .consulted _ found (by omega), watched.logging ?_, ?_⟩
  · intro access member
    rw [List.mem_singleton] at member
    have place : offset / 4 = 0 ∨ offset / 4 = 1 := by omega
    rcases place with here | here <;> rw [member, here]
    · exact first
    · exact second
  · rw [watched.configValue]
    exact continues

theorem configMirrorPage_watched {β : Type} {next : Nat → ListenerM β}
    (continues : Preserves (Watched admits start) allowed (next (start.configValue config 2).toNat)) :
    Preserves (Watched admits start) allowed (configMirrorPage >>= next) := by
  rw [configMirrorPage, Effect.bind_assoc]
  exact configByte_watched there consults (by omega) continues

omit consults

omit there

theorem update_mirror_watched {mirror : MfUltralightListener → MfUltralightMirrorMode}
    (sound : ∀ state, (mirror state).enabled = true → start.config.isSome = true) :
    Preserves (Watched admits start) allowed
      (update fun instanc => { instanc with mirror := mirror instanc }) :=
  Preserves.update fun state watched => watched.setMirror (sound state)

include there

include consults

theorem mfUltralightMirrorCheckMode_watched :
    Preserves (Watched admits start) allowed mfUltralightMirrorCheckMode := by
  refine configByte_watched there consults (by omega) ?_
  refine Preserves.ite (fun _ => .pure _) fun _ => ?_
  refine configByte_watched there consults (by omega) (Preserves.bind (.observe _) fun _ => ?_)
  exact Preserves.ite (fun _ => .pure _) fun _ => .pure _

theorem mirrorBoundariesLoop_watched
    (hangs : allowed .endlessLoop) (lastUserPage rounds : Nat) (mode : MfUltralightMirrorConf)
    (maxByteOffset : Nat) (again : Bool) :
    Preserves (Watched admits start) allowed
      (mirrorBoundariesLoop lastUserPage rounds mode maxByteOffset again) := by
  induction rounds generalizing mode maxByteOffset again with
  | zero => exact .fault hangs
  | succ rounds next =>
    refine Preserves.ite (fun _ => .pure _) fun _ => ?_
    refine Preserves.bind (update_mirror_watched fun _ _ => by simp [there]) fun _ => ?_
    refine configMirrorPage_watched there consults ?_
    refine Preserves.ite (fun _ => .pure _) fun _ => Preserves.ite (fun _ => .pure _) fun _ => ?_
    refine Preserves.ite (fun _ => configByte_watched there consults (by omega) (.pure _)) fun _ => ?_
    exact Preserves.ite (fun _ => next _ _ _) fun _ => Preserves.ite (fun _ => next _ _ _) fun _ => .pure _

omit consults

omit there

theorem mfUltralightMirrorEnabled_without {instanc : MfUltralightListener} (absent : instanc.config = none) :
    mfUltralightMirrorEnabled instanc =
      (.ok false, { instanc with mirror := { instanc.mirror with enabled := false } }) := by
  simp [mfUltralightMirrorEnabled, supports, absent]

theorem mfUltralightMirrorEnabled_watched (there : start.config = some config)
    (consults : AdmitsConfig admits start) (hangs : allowed .endlessLoop) :
    Preserves (Watched admits start) allowed mfUltralightMirrorEnabled := by
  refine Preserves.bind (.observe _) fun supported => Preserves.bind (.observe _) fun _ => ?_
  refine Preserves.bind ?_ fun enabled =>
    Preserves.bind (update_mirror_watched fun _ _ => by simp [there]) fun _ => .pure _
  refine Preserves.ite (fun _ => ?_) fun _ => .pure _
  refine Preserves.bind (.observe _) fun _ =>
    Preserves.bind (mfUltralightMirrorCheckMode_watched there consults) fun _ => ?_
  exact mirrorBoundariesLoop_watched there consults hangs _ _ _ _ _

include consults

theorem mfUltralightMirrorReadPrepare_watched (hangs : allowed .endlessLoop) (startPage : Nat) :
    Preserves (Watched admits start) allowed (mfUltralightMirrorReadPrepare startPage) := by
  cases there : start.config with
  | none =>
    refine Preserves.bind_of_run fun state watched => ?_
    refine ⟨_, _, mfUltralightMirrorEnabled_without (watched.config.trans there), ?_, ?_⟩
    · exact watched.setMirror fun enabled => nomatch enabled
    · exact .pure _
  | some config =>
    refine Preserves.bind (mfUltralightMirrorEnabled_watched there consults hangs) fun enabled => ?_
    refine Preserves.ite (fun _ => ?_) fun _ => .pure _
    refine Preserves.bind ?_ fun _ => Preserves.bind (.observe _) fun _ => Preserves.bind ?_ fun _ => ?_
    · refine configByte_watched there consults (by omega) (configMirrorPage_watched there consults ?_)
      exact Preserves.ite (fun _ => .pure _) fun _ => .pure _
    · exact Preserves.bind (.observe _) fun _ => configMirrorPage_watched there consults (.pure _)
    · exact update_mirror_watched fun _ _ => by simp [there]

theorem mfUltralightMirrorReadHandler_watched (mirrorPageNum : Nat) (dest : MfUltralightPage) :
    Preserves (Watched admits start) allowed (mfUltralightMirrorReadHandler mirrorPageNum dest) := by
  refine Preserves.observe_bind fun state watched => ?_
  refine Preserves.ite (fun enabled => ?_) fun _ => .pure _
  have exists_config := watched.mirror enabled
  rw [watched.config] at exists_config
  obtain ⟨config, there⟩ := Option.isSome_iff_exists.mp exists_config
  refine configMirrorPage_watched there consults (Preserves.ite (fun _ => ?_) fun _ => .pure _)
  refine Preserves.bind ?_ fun _ =>
    Preserves.bind (update_mirror_watched fun _ _ => by simp [there]) fun _ => .pure _
  refine configMirrorPage_watched there consults (Preserves.ite (fun _ => .pure _) fun _ => ?_)
  exact configByte_watched there consults (by omega) (.pure _)

omit consults

/-! ## Pages -/

/-- Whether the page is shown at all: it exists for a tag with sectors, and it
is not the password or its answer. -/
def visible (instanc : MfUltralightListener) (page : Nat) (doI2cPageCheck : Bool) : Bool :=
  !(doI2cPageCheck && !mfUltralightI2cValidatePages instanc.sector instanc.data.type page page) &&
    !mfUltralightIsPagePwdOrPack instanc.data.type page

theorem Watched.visible {after : MfUltralightListener} (watched : Watched admits start after) (page : Nat)
    (doI2cPageCheck : Bool) : Nfc.visible after page doI2cPageCheck = Nfc.visible start page doI2cPageCheck := by
  rw [Nfc.visible, Nfc.visible, watched.sector, watched.type]

theorem readPage_watched {access : Nat → PageAccess} {index : Nat} (admitted : admits (access index))
    (inside : index < 510 ∨ allowed .pageArray) :
    Preserves (Watched admits start) allowed (readPage access index) := by
  intro state watched
  have logged := watched.logging (show ∀ among ∈ [access index], admits among by simpa using admitted)
  by_cases among : index < 510
  · rw [readPage_run access among]
    exact ⟨logged, fun _ failed => nomatch failed⟩
  · rw [readPage_outside access (by omega)]
    refine ⟨logged, fun _ failed => ?_⟩
    cases failed
    exact inside.resolve_left among

include consults

theorem copyPage_watched {index : Nat} (admitted : admits (.copied index))
    (inside : index < 510 ∨ allowed .pageArray) {β : Type} {next : MfUltralightPage → ListenerM β}
    (continues : ∀ content, Preserves (Watched admits start) allowed (next content)) :
    Preserves (Watched admits start) allowed
      (readPage .copied index >>= fun content => mfUltralightMirrorReadHandler (index % 256) content >>= next) :=
  Preserves.bind (readPage_watched admitted inside) fun _ =>
    Preserves.bind (mfUltralightMirrorReadHandler_watched consults _ _) continues

/-- One round of the read loop, by what becomes of the page: it is hidden, it
is shown, or another one is shown in its place. -/
theorem mfUltralightReadOnePage_watched (few : start.data.pagesTotal ≤ 510 ∨ allowed .pageArray)
    {page rollover : Nat} {doI2cPageCheck : Bool} {β : Type} {next : MfUltralightPage × Nat → ListenerM β}
    (hidden : visible start page doI2cPageCheck = false →
      Preserves (Watched admits start) allowed (next (zeroPage, rollover)))
    (divides : visible start page doI2cPageCheck = true → start.accessAllowed page .read = true →
      start.data.pagesTotal = 0 → allowed .moduloByZero)
    (shown : visible start page doI2cPageCheck = true → start.accessAllowed page .read = true →
      start.data.pagesTotal ≠ 0 → admits (.copied (start.writeTarget page doI2cPageCheck % start.data.pagesTotal)) ∧
        ∀ content, Preserves (Watched admits start) allowed (next (content, rollover)))
    (rolled : visible start page doI2cPageCheck = true → start.accessAllowed page .read = false →
      admits (.copied rollover) ∧ rollover < 510 ∧
        ∀ content, Preserves (Watched admits start) allowed (next (content, rollover + 1))) :
    Preserves (Watched admits start) allowed (mfUltralightReadOnePage page rollover doI2cPageCheck >>= next) := by
  unfold mfUltralightReadOnePage
  rw [Effect.bind_assoc]
  refine Preserves.bind_of_run fun state watched => ⟨_, _, mfUltralightListenerCheckAccess_run page .read, ?_, ?_⟩
  · rw [watched.accessLog]
    exact watched.logging (accessLog_admitted consults page .read)
  rw [watched.accessAllowed, Effect.bind_assoc]
  refine Preserves.observe_bind fun state watched => ?_
  rw [Effect.bind_assoc, watched.type]
  refine Preserves.observe_bind fun state watched => ?_
  rw [watched.sector]
  cases seen : visible start page doI2cPageCheck with
  | false =>
    have unseen := seen
    simp only [visible, Bool.and_eq_false_iff, Bool.not_eq_false'] at unseen
    by_cases invalid : (doI2cPageCheck &&
        !mfUltralightI2cValidatePages start.sector start.data.type page page) = true
    · rw [if_pos invalid]
      exact hidden seen
    · rw [if_neg invalid, if_pos (unseen.resolve_left invalid)]
      exact hidden seen
  | true =>
    have valid := seen
    simp only [visible, Bool.and_eq_true, Bool.not_eq_true'] at valid
    rw [if_neg (by simp [valid.1]), if_neg (by simp [valid.2]), Effect.bind_assoc]
    refine Preserves.observe_bind fun state watched => ?_
    rw [watched.pagesTotal]
    cases access : start.accessAllowed page .read with
    | true =>
      by_cases none : start.data.pagesTotal = 0
      · rw [if_pos (by simp [none])]
        exact Preserves.fault (divides seen access none)
      · rw [if_neg (by simp [none])]
        obtain ⟨admitted, continues⟩ := shown seen access none
        have inside := Nat.mod_lt (start.writeTarget page doI2cPageCheck) (Nat.pos_of_ne_zero none)
        simp only [Effect.bind_assoc]
        exact copyPage_watched consults admitted (few.imp (by omega) id) continues
    | false =>
      obtain ⟨admitted, inside, continues⟩ := rolled seen access
      rw [if_neg (by simp)]
      simp only [Effect.bind_assoc]
      exact copyPage_watched consults admitted (.inl inside) continues

omit consults

/-- What has to be known of `count` pages from `startPage` on to read them:
`Rolled i rollover` bounds the page that takes the place of a restricted one in
round `i`. -/
structure ReadPlan (admits : PageAccess → Prop) (allowed : MfUltralightFault → Prop)
    (start : MfUltralightListener) (capacity startPage count : Nat) (doI2cPageCheck : Bool)
    (Rolled : Nat → Nat → Prop) : Prop where
  fits : ∀ i < count, capacity ≤ i → allowed .readBuffer
  divides : ∀ i < count, visible start (startPage + i) doI2cPageCheck = true →
    start.accessAllowed (startPage + i) .read = true → start.data.pagesTotal = 0 → allowed .moduloByZero
  shown : ∀ i < count, visible start (startPage + i) doI2cPageCheck = true →
    start.accessAllowed (startPage + i) .read = true → start.data.pagesTotal ≠ 0 →
    admits (.copied (start.writeTarget (startPage + i) doI2cPageCheck % start.data.pagesTotal))
  begins : Rolled 0 0
  stays : ∀ i rollover, Rolled i rollover → Rolled (i + 1) rollover
  rolled : ∀ i rollover, i < count → Rolled i rollover → visible start (startPage + i) doI2cPageCheck = true →
    start.accessAllowed (startPage + i) .read = false →
    admits (.copied rollover) ∧ rollover < 510 ∧ Rolled (i + 1) (rollover + 1)

theorem mfUltralightReadLoop_watched (consults : AdmitsConfig admits start) (few : start.data.pagesTotal ≤ 510 ∨ allowed .pageArray)
    {capacity startPage count : Nat} {doI2cPageCheck : Bool} {Rolled : Nat → Nat → Prop}
    (plan : ReadPlan admits allowed start capacity startPage count doI2cPageCheck Rolled)
    {rounds i rollover : Nat} (left : i + rounds = count) (bound : Rolled i rollover) :
    Preserves (Watched admits start) allowed
      (mfUltralightReadLoop capacity startPage doI2cPageCheck rounds i rollover) := by
  induction rounds generalizing i rollover with
  | zero => exact .pure _
  | succ rounds next =>
    have inside : i < count := by omega
    have rest {rollover : Nat} (bound : Rolled (i + 1) rollover) (content : MfUltralightPage) :
        Preserves (Watched admits start) allowed (do
          let rest ← mfUltralightReadLoop capacity startPage doI2cPageCheck rounds (i + 1) rollover
          pure (content.toList ++ rest)) :=
      Preserves.bind (next (by omega) bound) fun _ => .pure _
    refine Preserves.ite (fun full => .fault (plan.fits i inside full)) fun _ => ?_
    apply mfUltralightReadOnePage_watched consults few
    · exact fun _ => rest (plan.stays i rollover bound) zeroPage
    · exact plan.divides i inside
    · exact fun seen access some => ⟨plan.shown i inside seen access some, rest (plan.stays i rollover bound)⟩
    · intro seen access
      obtain ⟨admitted, among, after⟩ := plan.rolled i rollover inside bound seen access
      exact ⟨admitted, among, rest after⟩

theorem mfUltralightReadLoop_length {capacity startPage rounds i rollover : Nat} {doI2cPageCheck : Bool}
    {state : MfUltralightListener} {bytes : List (BitVec 8)}
    (ended : (mfUltralightReadLoop capacity startPage doI2cPageCheck rounds i rollover state).1 = .ok bytes) :
    bytes.length = 4 * rounds ∧ (rounds = 0 ∨ i + rounds ≤ capacity) := by
  induction rounds generalizing i rollover state bytes with
  | zero =>
    cases ended
    exact ⟨rfl, .inl rfl⟩
  | succ rounds next =>
    unfold mfUltralightReadLoop at ended
    by_cases full : capacity ≤ i
    · rw [if_pos full] at ended
      cases ended
    · rw [if_neg full, Effect.bind_run] at ended
      split at ended
      · rw [Effect.bind_run] at ended
        split at ended
        · rename_i rest last ran
          cases ended
          obtain ⟨length, within⟩ := next (congrArg Prod.fst ran)
          exact ⟨by simp [length]; omega, .inr (by omega)⟩
        · cases ended
      · cases ended

theorem mfUltralightSingleCounterTryIncrease_watched (consults : AdmitsConfig admits start) :
    Preserves (Watched admits start) allowed mfUltralightSingleCounterTryIncrease := by
  refine Preserves.observe_bind fun state watched => Preserves.ite (fun supported => ?_) fun _ => .pure _
  rw [watched.features] at supported
  obtain ⟨config, there⟩ := config_of_singleCounter supported
  refine configByte_watched there consults (by omega) (Preserves.bind (.observe _) fun _ => ?_)
  refine Preserves.ite (fun _ => Preserves.bind (.update fun state watched => ?_) fun _ => ?_) fun _ => .pure _
  · split
    · exact { watched with accesses := watched.accesses, mirror := watched.mirror }
    · exact watched
  · exact .update fun state watched => { watched with accesses := watched.accesses, mirror := watched.mirror }

theorem iso14443_3aListenerTx_watched (reply : Reply) :
    Preserves (Watched admits start) allowed (iso14443_3aListenerTx reply) :=
  .update fun _ watched => { watched with accesses := watched.accesses, mirror := watched.mirror }

theorem sendStandardFrame_watched {bytes : List (BitVec 8)} (short : bytes.length ≤ 256) :
    Preserves (Watched admits start) allowed (sendStandardFrame bytes) := by
  unfold sendStandardFrame
  rw [if_neg (by omega)]
  exact iso14443_3aListenerTx_watched _

theorem performRead_watched (consults : AdmitsConfig admits start) (hangs : allowed .endlessLoop)
    (few : start.data.pagesTotal ≤ 510 ∨ allowed .pageArray) {capacity startPage count : Nat} {doI2cPageCheck : Bool}
    (Rolled : Nat → Nat → Prop) (small : capacity ≤ 64)
    (plan : ReadPlan admits allowed start capacity startPage count doI2cPageCheck Rolled)
    {answer : MfUltralightCommand} :
    Preserves (Watched admits start) allowed (do
      let pages ← mfUltralightListenerPerformRead capacity startPage count doI2cPageCheck
      sendStandardFrame pages
      pure answer) := by
  refine Preserves.bind_answers (fun bytes => bytes.length ≤ 256) ?_ ?_ fun bytes short =>
    Preserves.bind (sendStandardFrame_watched short) fun _ => .pure _
  · refine Preserves.bind (mfUltralightMirrorReadPrepare_watched consults hangs _) fun _ => ?_
    refine Preserves.bind (mfUltralightReadLoop_watched consults few plan (Nat.zero_add _) plan.begins) fun _ => ?_
    exact Preserves.bind (mfUltralightSingleCounterTryIncrease_watched consults) fun _ => .pure _
  · intro state bytes _ ended
    unfold mfUltralightListenerPerformRead at ended
    rw [Effect.bind_run] at ended
    split at ended
    · rw [Effect.bind_run] at ended
      split at ended
      · rename_i pages after ran
        rw [Effect.bind_run] at ended
        obtain ⟨length, within⟩ := mfUltralightReadLoop_length (congrArg Prod.fst ran)
        split at ended
        · cases ended
          omega
        · cases ended
      · cases ended
    · cases ended

/-- The first check of READ and WRITE. -/
def pageInRange (instanc : MfUltralightListener) (page : Nat) : Bool :=
  if mfUltralightIsI2cTag instanc.data.type then
    mfUltralightI2cValidatePages instanc.sector instanc.data.type page page
  else page ≤ instanc.data.pagesTotal

/-- The first checks of FAST_READ. -/
def pagesInRange (instanc : MfUltralightListener) (startPage endPage : Nat) : Bool :=
  (if mfUltralightIsI2cTag instanc.data.type then
    mfUltralightI2cValidatePages instanc.sector instanc.data.type startPage endPage
  else endPage < instanc.data.pagesTotal) && startPage ≤ endPage

theorem checkAccess_watched (page : Nat) (accessType : MfUltralightListenerAccessType)
    (consults : AdmitsConfig admits start) {β : Type} {next : Bool → ListenerM β}
    (continues : Preserves (Watched admits start) allowed (next (start.accessAllowed page accessType))) :
    Preserves (Watched admits start) allowed (mfUltralightListenerCheckAccess page accessType >>= next) := by
  refine Preserves.bind_of_run fun state watched =>
    ⟨_, _, mfUltralightListenerCheckAccess_run page accessType, ?_, ?_⟩
  · rw [watched.accessLog]
    exact watched.logging (accessLog_admitted consults page accessType)
  · rw [watched.accessAllowed]
    exact continues

/-- In READ the page that takes a restricted one's place is one of the first
three: the page asked for is not restricted itself. -/
theorem mfUltralightListenerReadPageHandler_watched (hangs : allowed .endlessLoop)
    (few : start.data.pagesTotal ≤ 510 ∨ allowed .pageArray) (buffer : Frame) {page : Nat} (named : (buffer.byte 1).toNat = page)
    (consults : pageInRange start page = true → AdmitsConfig admits start)
    (divides : pageInRange start page = true → start.accessAllowed page .read = true →
      start.data.pagesTotal = 0 → allowed .moduloByZero)
    (shown : pageInRange start page = true → start.accessAllowed page .read = true → ∀ i < 4,
      visible start (page + i) (mfUltralightIsI2cTag start.data.type) = true →
      start.accessAllowed (page + i) .read = true → start.data.pagesTotal ≠ 0 →
      admits (.copied (start.writeTarget (page + i) (mfUltralightIsI2cTag start.data.type) %
        start.data.pagesTotal)))
    (rolled : pageInRange start page = true → start.accessAllowed page .read = true → ∀ i < 4,
      start.accessAllowed (page + i) .read = false → ∀ index < i, admits (.copied index)) :
    Preserves (Watched admits start) allowed (mfUltralightListenerReadPageHandler buffer) := by
  unfold mfUltralightListenerReadPageHandler
  simp only [named]
  refine Preserves.observe_bind fun state watched => ?_
  rw [watched.pagesTotal]
  refine Preserves.observe_bind fun state watched => ?_
  rw [watched.type]
  refine Preserves.observe_bind fun state watched => ?_
  rw [watched.sector]
  refine Preserves.ite (fun _ => .pure _) fun valid => Preserves.ite (fun _ => .pure _) fun within => ?_
  have inRange : pageInRange start page = true := by
    unfold pageInRange
    split <;> simp_all
  refine checkAccess_watched page .read (consults inRange) (Preserves.ite (fun _ => .pure _) fun access => ?_)
  have access : start.accessAllowed page .read = true := by simpa using access
  refine performRead_watched (consults inRange) hangs few (fun i rollover => rollover ≤ i - 1) (by omega) ?_
  refine ⟨fun i inside full => by omega, fun i inside _ _ => divides inRange access,
    fun i inside => shown inRange access i inside, Nat.le_refl _, fun i rollover bound => by omega, ?_⟩
  intro i rollover inside bound _ restricted
  have later : i ≠ 0 := by
    rintro rfl
    rw [Nat.add_zero, access] at restricted
    cases restricted
  exact ⟨rolled inRange access i inside restricted rollover (by omega), by omega, by omega⟩

theorem accessAllowed_read_below {instanc : MfUltralightListener} {page last : Nat} (below : page ≤ last)
    (access : instanc.accessAllowed last .read = true) : instanc.accessAllowed page .read = true := by
  unfold MfUltralightListener.accessAllowed MfUltralightListener.needsPassword
    MfUltralightListener.configLocked at access ⊢
  split
  · rename_i supported
    rw [if_pos supported] at access
    cases there : instanc.config with
    | none => rfl
    | some config =>
      rw [there] at access
      simp only [Option.all_some, Bool.and_eq_true, Bool.not_eq_true', Bool.and_eq_false_iff] at access ⊢
      refine ⟨?_, .inl (.inr rfl)⟩
      rcases access.1 with success | unprotected | prot
      · exact .inl success
      · simp only [decide_eq_false_iff_not] at unprotected ⊢
        omega
      · exact .inr (.inr prot)
  · rfl

theorem mfUltralightListenerFastReadHandler_watched (hangs : allowed .endlessLoop)
    (few : start.data.pagesTotal ≤ 510 ∨ allowed .pageArray) (buffer : Frame) {startPage endPage : Nat}
    (first : (buffer.byte 1).toNat = startPage) (last : (buffer.byte 2).toNat = endPage)
    (consults : mfUltralightSupportFeature start.features [.fastRead] = true →
      pagesInRange start startPage endPage = true → AdmitsConfig admits start)
    (fits : mfUltralightSupportFeature start.features [.fastRead] = true →
      pagesInRange start startPage endPage = true → start.accessAllowed endPage .read = true →
      64 < (endPage - startPage + 1) % 256 → allowed .readBuffer)
    (divides : mfUltralightSupportFeature start.features [.fastRead] = true →
      pagesInRange start startPage endPage = true → start.accessAllowed endPage .read = true →
      (endPage - startPage + 1) % 256 ≠ 0 → start.data.pagesTotal = 0 → allowed .moduloByZero)
    (shown : mfUltralightSupportFeature start.features [.fastRead] = true →
      pagesInRange start startPage endPage = true → start.accessAllowed endPage .read = true →
      ∀ i < (endPage - startPage + 1) % 256,
      visible start (startPage + i) (mfUltralightIsI2cTag start.data.type) = true →
      start.accessAllowed (startPage + i) .read = true → start.data.pagesTotal ≠ 0 →
      admits (.copied (start.writeTarget (startPage + i) (mfUltralightIsI2cTag start.data.type) %
        start.data.pagesTotal))) :
    Preserves (Watched admits start) allowed (mfUltralightListenerFastReadHandler buffer) := by
  unfold mfUltralightListenerFastReadHandler supports
  simp only [first, last]
  refine Preserves.observe_bind fun state watched => ?_
  rw [watched.features]
  refine Preserves.ite (fun _ => .pure _) fun supported => ?_
  have supported : mfUltralightSupportFeature start.features [.fastRead] = true := by simpa using supported
  refine Preserves.observe_bind fun state watched => ?_
  rw [watched.pagesTotal]
  refine Preserves.observe_bind fun state watched => ?_
  rw [watched.type]
  refine Preserves.observe_bind fun state watched => ?_
  rw [watched.sector]
  refine Preserves.ite (fun _ => .pure _) fun valid => Preserves.ite (fun _ => .pure _) fun within => ?_
  refine Preserves.ite (fun _ => .pure _) fun ordered => ?_
  have inRange : pagesInRange start startPage endPage = true := by
    unfold pagesInRange
    have ordered : startPage ≤ endPage := by omega
    split
    · simp_all
    · rename_i linear
      have below : ¬ (endPage : Int) > (start.data.pagesTotal : Int) - 1 := by simpa [linear] using within
      have bound : endPage < start.data.pagesTotal := by omega
      simp [ordered, bound]
  refine checkAccess_watched startPage .read (consults supported inRange)
    (Preserves.ite (fun _ => .pure _) fun _ => ?_)
  refine checkAccess_watched endPage .read (consults supported inRange)
    (Preserves.ite (fun _ => .pure _) fun access => ?_)
  have access : start.accessAllowed endPage .read = true := by simpa using access
  refine performRead_watched (consults supported inRange) hangs few (fun _ _ => True) (Nat.le_refl _) ?_
  have among {i : Nat} (inside : i < (endPage - startPage + 1) % 256) : startPage + i ≤ endPage := by
    omega
  refine ⟨?_, ?_, ?_, trivial, fun _ _ _ => trivial, ?_⟩
  · exact fun i inside full => fits supported inRange access (by omega)
  · exact fun i inside _ _ => divides supported inRange access (by omega)
  · exact fun i inside => shown supported inRange access i inside
  · intro i rollover inside _ _ restricted
    rw [accessAllowed_read_below (among inside) access] at restricted
    cases restricted

end

end Xtreme.Nfc
