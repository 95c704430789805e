import Xtreme.Nfc.UltralightChecks

/-! Where the ASCII mirror may stand (`mf_ultralight_mirror_check_boundaries`).

A text that does not fit with the counter is tried again without it. The flag `again` is not
taken back then, and neither is the bound of the first round for the byte. -/
namespace Xtreme.Nfc
open Xtreme.Library BitLib
open Effect (fault observe update)

namespace MfUltralightListener
variable (instanc : MfUltralightListener)

/-- `mirror_page`. -/
def mirrorPage (config : Nat) : Nat := (instanc.configValue config 2).toNat

def mirrorPlace (config : Nat) : Nat := mirrorByte (instanc.configValue config 0)

/-- The mode that the configuration asks for and the counter allows. -/
def mirrorMode (config : Nat) : MfUltralightMirrorConf :=
  let mode := mirrorConf (instanc.configValue config 0)
  let access := instanc.configValue config 4
  if mode = .none ∨ mode = .uid then mode
  else if !accessNfcCntEn access || (accessNfcCntPwdProt access && instanc.authState ≠ .success) then
    if mode = .counter then .none else .uid
  else mode

/-- The state in which `mode` is the actual mode. -/
def mirroring (mode : MfUltralightMirrorConf) : MfUltralightListener :=
  { instanc with mirror := { instanc.mirror with actualMode := mode } }

@[simp] theorem mirroring_mirroring (first second) :
    (instanc.mirroring first).mirroring second = instanc.mirroring second := rfl

@[simp] theorem logging_mirroring (log mode) :
    (instanc.logging log).mirroring mode = (instanc.mirroring mode).logging log := rfl

/-- The text of a mode, written from its place on, ends in the last user page. -/
def MirrorFits (config : Nat) (mode : MfUltralightMirrorConf) : Prop :=
  instanc.mirrorPage config * 4 + instanc.mirrorPlace config + mfUltralightGetMirrorDataSize mode ≤
    (mfUltralightGetConfigPageNum instanc.data.type - 2 + 1) * 4

end MfUltralightListener

/-- `mf_ultralight_mirror_check_boundaries`, stopped after so many rounds of its loop. -/
def boundariesWithin (rounds : Nat) : ListenerM Bool := do
  let lastUserPage ← observe fun instanc => mfUltralightGetConfigPageNum instanc.data.type - 2
  let mode ← mfUltralightMirrorCheckMode
  mirrorBoundariesLoop lastUserPage rounds mode 2 false

theorem mfUltralightMirrorCheckBoundaries_rounds : mfUltralightMirrorCheckBoundaries = boundariesWithin 3 := rfl

variable {instanc after : MfUltralightListener} {config lastUserPage maxByteOffset rounds : Nat}
  {mode : MfUltralightMirrorConf} {again result : Bool}

variable (there : instanc.config = some config)
include there

theorem configMirror_run :
    configMirror instanc = (.ok (instanc.configValue config 0), instanc.logging [.consulted config]) := by
  have inside := config_inside there
  exact configByte_run .consulted _ there (by omega)

theorem configMirrorPage_run :
    configMirrorPage instanc = (.ok (instanc.mirrorPage config), instanc.logging [.consulted config]) := by
  have inside := config_inside there
  exact Effect.bind_of_ok (configByte_run .consulted _ there (by omega))

theorem mfUltralightMirrorCheckMode_run :
    ∃ log, mfUltralightMirrorCheckMode instanc = (.ok (instanc.mirrorMode config), instanc.logging log) := by
  unfold mfUltralightMirrorCheckMode
  rw [Effect.bind_of_ok (configMirror_run there)]
  unfold MfUltralightListener.mirrorMode
  dsimp only
  split
  · exact ⟨_, rfl⟩
  · have counts : (instanc.logging [.consulted config]).config = some config := there
    rw [Effect.bind_of_ok (configAccess_run counts), Effect.observe_bind]
    simp only [MfUltralightListener.logging_logging, MfUltralightListener.logging_authState,
      MfUltralightListener.logging_configValue]
    split <;> exact ⟨_, rfl⟩

theorem mirrorBoundariesLoop_round (active : mode ≠ .none) :
    mirrorBoundariesLoop lastUserPage (rounds + 1) mode maxByteOffset again instanc =
      (let seen := (instanc.mirroring mode).logging [.consulted config]
      let bound := if mode = .uidCounter then 3 else maxByteOffset
      if instanc.mirrorPage config ≤ 3 then (.ok false, seen)
      else if instanc.mirrorPage config < lastUserPage - mirrorMaxPageOffset mode then (.ok true, seen)
      else if instanc.mirrorPage config = lastUserPage - mirrorMaxPageOffset mode then
        (.ok (decide (instanc.mirrorPlace config ≤ bound)), seen.logging [.consulted config])
      else if mode = .uidCounter then mirrorBoundariesLoop lastUserPage rounds .uid bound true seen
      else if again then mirrorBoundariesLoop lastUserPage rounds mode bound again seen
      else (.ok false, seen)) := by
  have kept : (instanc.mirroring mode).config = some config := there
  have looked : ((instanc.mirroring mode).logging [.consulted config]).config = some config := there
  have page : (instanc.mirroring mode).mirrorPage config = instanc.mirrorPage config := rfl
  rw [mirrorBoundariesLoop, if_neg active]
  show (configMirrorPage >>= _) (instanc.mirroring mode) = _
  rw [Effect.bind_of_ok (configMirrorPage_run kept), page]
  by_cases low : instanc.mirrorPage config ≤ 3
  · rw [if_pos low, if_pos low]
    rfl
  rw [if_neg low, if_neg low]
  by_cases before : instanc.mirrorPage config < lastUserPage - mirrorMaxPageOffset mode
  · rw [if_pos before, if_pos before]
    rfl
  rw [if_neg before, if_neg before]
  by_cases here : instanc.mirrorPage config = lastUserPage - mirrorMaxPageOffset mode
  · rw [if_pos here, if_pos here, Effect.bind_of_ok (configMirror_run looked)]
    rfl
  rw [if_neg here, if_neg here]
  by_cases counts : mode = .uidCounter
  · subst counts
    rfl
  · simp only [counts]
    cases again <;> rfl

/-- A text without the counter that is too far back after a round with it never comes to an end. -/
theorem mirrorBoundariesLoop_endless (user : 3 < instanc.mirrorPage config)
    (far : lastUserPage - 3 < instanc.mirrorPage config) :
    (mirrorBoundariesLoop lastUserPage rounds .uid maxByteOffset true instanc).1 = .error .endlessLoop := by
  induction rounds generalizing instanc with
  | zero => rfl
  | succ rounds next =>
    have low : ¬ instanc.mirrorPage config ≤ 3 := by omega
    have before : ¬ instanc.mirrorPage config < lastUserPage - mirrorMaxPageOffset .uid := Nat.lt_asymm far
    have here : ¬ instanc.mirrorPage config = lastUserPage - mirrorMaxPageOffset .uid := Nat.ne_of_gt far
    rw [mirrorBoundariesLoop_round there (by decide)]
    simp only [low, before, here]
    exact next there user far

/-- What is known of a run of the loop that comes to an end. -/
theorem mirrorBoundariesLoop_ends (active : mode ≠ .none)
    (ran : mirrorBoundariesLoop lastUserPage rounds mode maxByteOffset again instanc = (.ok result, after)) :
    ∃ log actual, after = (instanc.mirroring actual).logging log ∧
      (actual = mode ∨ mode = .uidCounter ∧ actual = .uid ∧ lastUserPage - 5 < instanc.mirrorPage config) ∧
      (result = true → 3 < instanc.mirrorPage config ∧
        (instanc.mirrorPage config < lastUserPage - mirrorMaxPageOffset actual ∨
          instanc.mirrorPage config = lastUserPage - mirrorMaxPageOffset actual ∧
            instanc.mirrorPlace config ≤ if mode = .uidCounter then 3 else maxByteOffset)) := by
  induction rounds generalizing instanc mode maxByteOffset again with
  | zero => cases ran
  | succ rounds next =>
    rw [mirrorBoundariesLoop_round there active] at ran
    dsimp only at ran
    split at ran
    · cases ran
      exact ⟨_, mode, rfl, Or.inl rfl, fun absent => absurd absent Bool.false_ne_true⟩
    rename_i user
    split at ran
    · rename_i before
      cases ran
      exact ⟨_, mode, rfl, Or.inl rfl, fun _ => ⟨Nat.lt_of_not_le user, Or.inl before⟩⟩
    split at ran
    · rename_i here
      cases ran
      refine ⟨_, mode, MfUltralightListener.logging_logging _ _ _, Or.inl rfl, fun low => ?_⟩
      exact ⟨Nat.lt_of_not_le user, Or.inr ⟨here, of_decide_eq_true low⟩⟩
    have far : lastUserPage - mirrorMaxPageOffset mode < instanc.mirrorPage config := by omega
    split at ran
    · rename_i counts
      subst counts
      have looked : ((instanc.mirroring .uidCounter).logging [.consulted config]).config = some config := there
      have uid : MfUltralightMirrorConf.uid ≠ .none := by decide
      obtain ⟨log, actual, left, chosen, stands⟩ := next looked uid ran
      have chosen : actual = .uid := by
        rcases chosen with same | ⟨same, -⟩
        · exact same
        · cases same
      subst chosen
      refine ⟨[.consulted config] ++ log, .uid, ?_, Or.inr ⟨rfl, rfl, far⟩, stands⟩
      rw [left, MfUltralightListener.logging_mirroring, MfUltralightListener.mirroring_mirroring,
        MfUltralightListener.logging_logging]
    split at ran
    · have looked : ((instanc.mirroring mode).logging [.consulted config]).config = some config := there
      obtain ⟨log, actual, left, chosen, stands⟩ := next looked active ran
      refine ⟨[.consulted config] ++ log, actual, ?_, chosen, ?_⟩
      · rw [left, MfUltralightListener.logging_mirroring, MfUltralightListener.mirroring_mirroring,
          MfUltralightListener.logging_logging]
      · exact stands
    · cases ran
      exact ⟨_, mode, rfl, Or.inl rfl, fun absent => absurd absent Bool.false_ne_true⟩

omit there

/-! ## The modes -/

theorem config_of_asciiMirror {type : MfUltralightType}
    (supported : mfUltralightSupportFeature (mfUltralightGetFeatureSupportSet type) [.asciiMirror] = true) :
    mfUltralightGetConfigPage type = some (mfUltralightGetConfigPageNum type) ∧
      41 ≤ mfUltralightGetConfigPageNum type ∧ mfUltralightGetConfigPageNum type ≤ 227 := by
  cases type <;> first | exact ⟨rfl, by decide, by decide⟩ | cases supported

theorem mirrorPlace_lt (instanc : MfUltralightListener) (config : Nat) : instanc.mirrorPlace config < 4 :=
  Nat.mod_lt _ (by decide)

/-- The function ends, and what it accepts is a text that fits. -/
def BoundariesChecked (instanc : MfUltralightListener) (config : Nat) : Prop :=
  ∃ rounds result after, boundariesWithin rounds instanc = (.ok result, after) ∧
    (result = true → instanc.MirrorFits config after.mirror.actualMode)

/-- The mirror shows UID and counter, and the UID alone does not fit where it stands. -/
def MirrorOverruns (instanc : MfUltralightListener) (config : Nat) : Prop :=
  instanc.mirrorMode config = .uidCounter ∧ (config - 5 < instanc.mirrorPage config ∨
      instanc.mirrorPage config = config - 5 ∧ instanc.mirrorPlace config = 3)

include there

theorem boundariesWithin_run (rounds : Nat) : ∃ log, boundariesWithin rounds instanc =
      mirrorBoundariesLoop (mfUltralightGetConfigPageNum instanc.data.type - 2) rounds (instanc.mirrorMode config) 2
        false (instanc.logging log) := by
  obtain ⟨log, ran⟩ := mfUltralightMirrorCheckMode_run there
  refine ⟨log, ?_⟩
  unfold boundariesWithin
  rw [Effect.observe_bind, Effect.bind_of_ok ran]

/-- Two rounds are enough unless the text is too far back for the UID alone. -/
theorem mirrorBoundariesLoop_two (room : ¬ (mode = .uidCounter ∧ lastUserPage - 3 < instanc.mirrorPage config)) :
    ∃ result after, mirrorBoundariesLoop lastUserPage 2 mode 2 false instanc = (.ok result, after) := by
  by_cases active : mode = .none
  · exact ⟨false, instanc, by rw [mirrorBoundariesLoop, if_pos active]; rfl⟩
  rw [mirrorBoundariesLoop_round there active]
  dsimp only
  split
  · exact ⟨_, _, rfl⟩
  split
  · exact ⟨_, _, rfl⟩
  split
  · exact ⟨_, _, rfl⟩
  split
  · rename_i counts
    subst counts
    have looked : ((instanc.mirroring .uidCounter).logging [.consulted config]).config = some config := there
    have uid : MfUltralightMirrorConf.uid ≠ .none := by decide
    have near : instanc.mirrorPage config ≤ lastUserPage - 3 := by
      have near := not_and.mp room rfl
      omega
    rw [mirrorBoundariesLoop_round looked uid]
    show ∃ result after, (if instanc.mirrorPage config ≤ 3 then _
      else if instanc.mirrorPage config < lastUserPage - 3 then _
      else if instanc.mirrorPage config = lastUserPage - 3 then _ else _) = _
    split
    · exact ⟨_, _, rfl⟩
    split
    · exact ⟨_, _, rfl⟩
    split
    · exact ⟨_, _, rfl⟩
    · omega
  · exact ⟨_, _, rfl⟩

theorem mirrorFits_of_true
    (mirrors : mfUltralightSupportFeature (mfUltralightGetFeatureSupportSet instanc.data.type) [.asciiMirror] = true)
    (room : ¬ MirrorOverruns instanc config) (ran : boundariesWithin rounds instanc = (.ok true, after)) :
    instanc.MirrorFits config after.mirror.actualMode := by
  obtain ⟨found, low, high⟩ := config_of_asciiMirror mirrors
  have last : mfUltralightGetConfigPageNum instanc.data.type = config := Option.some.inj (found.symm.trans there)
  obtain ⟨log, run⟩ := boundariesWithin_run there rounds
  rw [run] at ran
  have active : instanc.mirrorMode config ≠ .none := by
    intro none
    cases rounds with
    | zero => cases ran
    | succ rounds =>
      rw [mirrorBoundariesLoop, if_pos none] at ran
      cases ran
  have looked : (instanc.logging log).config = some config := there
  obtain ⟨log', actual, rfl, chosen, stands⟩ := mirrorBoundariesLoop_ends looked active ran
  obtain ⟨user, stands⟩ := stands rfl
  have place := mirrorPlace_lt instanc config
  have room := not_and.mp room
  show instanc.mirrorPage config * 4 + instanc.mirrorPlace config + mfUltralightGetMirrorDataSize actual ≤
    (mfUltralightGetConfigPageNum instanc.data.type - 2 + 1) * 4
  change instanc.mirrorPage config < _ ∨ instanc.mirrorPage config = _ ∧ instanc.mirrorPlace config ≤ _ at stands
  generalize instanc.mirrorMode config = mode at *
  rcases chosen with rfl | ⟨rfl, rfl, far⟩
  · cases actual with
    | none => exact absurd rfl active
    | uid => simp [mfUltralightGetMirrorDataSize, mirrorMaxPageOffset] at stands ⊢; omega
    | counter => simp [mfUltralightGetMirrorDataSize, mirrorMaxPageOffset] at stands ⊢; omega
    | uidCounter => simp [mfUltralightGetMirrorDataSize, mirrorMaxPageOffset] at stands ⊢; omega
  · have room := room rfl
    simp [mfUltralightGetMirrorDataSize] at stands ⊢
    omega

/-- A round with the counter that finds the text too far back is followed by one without it. -/
theorem mirrorBoundariesLoop_again (user : 3 < instanc.mirrorPage config)
    (far : lastUserPage - 5 < instanc.mirrorPage config)
    (ran : mirrorBoundariesLoop lastUserPage rounds .uidCounter maxByteOffset again instanc = (.ok result, after)) :
    ∃ left, mirrorBoundariesLoop lastUserPage left .uid 3 true
      ((instanc.mirroring .uidCounter).logging [.consulted config]) = (.ok result, after) := by
  cases rounds with
  | zero => cases ran
  | succ left =>
    have low : ¬ instanc.mirrorPage config ≤ 3 := Nat.not_le_of_lt user
    have before : ¬ instanc.mirrorPage config < lastUserPage - mirrorMaxPageOffset .uidCounter := Nat.lt_asymm far
    have here : ¬ instanc.mirrorPage config = lastUserPage - mirrorMaxPageOffset .uidCounter := Nat.ne_of_gt far
    rw [mirrorBoundariesLoop_round there (by decide)] at ran
    simp only [low, before, here] at ran
    exact ⟨left, ran⟩

theorem mirrorBoundariesLoop_late (user : 3 < instanc.mirrorPage config)
    (here : instanc.mirrorPage config = lastUserPage - 3)
    (ran : mirrorBoundariesLoop lastUserPage rounds .uid 3 true instanc = (.ok result, after)) :
    result = true ∧ after.mirror.actualMode = .uid := by
  cases rounds with
  | zero => cases ran
  | succ left =>
    have low : ¬ instanc.mirrorPage config ≤ 3 := Nat.not_le_of_lt user
    have before : ¬ instanc.mirrorPage config < lastUserPage - mirrorMaxPageOffset .uid := by
      rw [here]
      exact Nat.lt_irrefl _
    have here : instanc.mirrorPage config = lastUserPage - mirrorMaxPageOffset .uid := here
    have place : instanc.mirrorPlace config ≤ 3 := Nat.le_of_lt_succ (mirrorPlace_lt instanc config)
    rw [mirrorBoundariesLoop_round there (by decide)] at ran
    simp only [low, before, if_false, if_pos here, reduceCtorEq, place] at ran
    cases ran
    exact ⟨rfl, rfl⟩

theorem boundaries_of_overrun (overrun : MirrorOverruns instanc config)
    (mirrors : mfUltralightSupportFeature (mfUltralightGetFeatureSupportSet instanc.data.type) [.asciiMirror] = true) :
    ¬ BoundariesChecked instanc config := by
  rintro ⟨rounds, result, after, ran, sound⟩
  obtain ⟨found, low, high⟩ := config_of_asciiMirror mirrors
  have last : mfUltralightGetConfigPageNum instanc.data.type = config := Option.some.inj (found.symm.trans there)
  obtain ⟨mode, overrun⟩ := overrun
  obtain ⟨log, run⟩ := boundariesWithin_run there rounds
  rw [run, last, mode] at ran
  have user : 3 < instanc.mirrorPage config := by omega
  have far : config - 2 - 5 < instanc.mirrorPage config := by omega
  have looked : (instanc.logging log).config = some config := there
  obtain ⟨left, second⟩ := mirrorBoundariesLoop_again looked user far ran
  have looked : (((instanc.logging log).mirroring .uidCounter).logging [.consulted config]).config = some config := there
  rcases overrun with beyond | ⟨here, place⟩
  · have hangs : (mirrorBoundariesLoop (config - 2) left .uid 3 true _).1 = .error .endlessLoop :=
      mirrorBoundariesLoop_endless looked user beyond
    rw [second] at hangs
    cases hangs
  · obtain ⟨rfl, uid⟩ := mirrorBoundariesLoop_late looked user here second
    have fits := sound rfl
    rw [uid, MfUltralightListener.MirrorFits, last, here, place] at fits
    change (config - 5) * 4 + 3 + 14 ≤ (config - 2 + 1) * 4 at fits
    omega

theorem boundaries_of_room (room : ¬ MirrorOverruns instanc config)
    (mirrors : mfUltralightSupportFeature (mfUltralightGetFeatureSupportSet instanc.data.type) [.asciiMirror] = true) :
    BoundariesChecked instanc config := by
  obtain ⟨found, -⟩ := config_of_asciiMirror mirrors
  have last : mfUltralightGetConfigPageNum instanc.data.type = config := Option.some.inj (found.symm.trans there)
  obtain ⟨log, run⟩ := boundariesWithin_run there 2
  rw [last] at run
  have looked : (instanc.logging log).config = some config := there
  have near : ¬ (instanc.mirrorMode config = .uidCounter ∧ config - 2 - 3 < (instanc.logging log).mirrorPage config) :=
    fun far => room ⟨far.1, Or.inl far.2⟩
  obtain ⟨result, after, ends⟩ := mirrorBoundariesLoop_two looked near
  rw [← run] at ends
  refine ⟨2, result, after, ends, fun accepted => ?_⟩
  subst accepted
  exact mirrorFits_of_true there mirrors room ends

omit there

/-- The function ends and accepts only what fits unless the mirror shows UID and counter and the
UID alone does not fit. -/
theorem boundaries_checked_iff (instanc : MfUltralightListener)
    (mirrors : mfUltralightSupportFeature (mfUltralightGetFeatureSupportSet instanc.data.type) [.asciiMirror] = true) :
    BoundariesChecked instanc (mfUltralightGetConfigPageNum instanc.data.type) ↔
      ¬ MirrorOverruns instanc (mfUltralightGetConfigPageNum instanc.data.type) := by
  obtain ⟨there, -⟩ := config_of_asciiMirror mirrors
  exact ⟨fun checked overrun => boundaries_of_overrun there overrun mirrors checked,
    fun room => boundaries_of_room there room mirrors⟩

/-- An NTAG213 whose counter is enabled, with this mirror. -/
def mirrorTag (mirror mirrorPage : BitVec 8) : MfUltralightListener :=
  mfUltralightListenerAlloc {
    iso14443_3aData :=
      ⟨#v[0x04#8, 0x11#8, 0x22#8, 0x33#8, 0x44#8, 0x55#8, 0x66#8, 0#8, 0#8, 0#8], 7, #v[0x44#8, 0#8], 0#8⟩
    type := .ntag213
    version := Vector.replicate 8 0#8
    signature := Vector.replicate 32 0#8
    counter := Vector.replicate 3 0#32
    tearingFlag := Vector.replicate 3 0#8
    page := Vector.ofFn fun i =>
      if i.val = 41 then #v[mirror, 0#8, mirrorPage, 0xFF#8]
      else if i.val = 42 then #v[0x10#8, 0#8, 0#8, 0#8]
      else zeroPage
    pagesRead := 45
    pagesTotal := 45
    authAttempts := 0#32 }

theorem boundaries_checked_uid :
    BoundariesChecked (mirrorTag 0x50#8 0x04#8) 41 ↔ ¬ MirrorOverruns (mirrorTag 0x50#8 0x04#8) 41 :=
  boundaries_checked_iff (mirrorTag 0x50#8 0x04#8) (by decide)

theorem mirrorTag_pageAt (mirror mirrorPage : BitVec 8) {index : Nat} (inside : index < mfUltralightMaxPageNum) :
    (mirrorTag mirror mirrorPage).pageAt index =
      if index = 41 then #v[mirror, 0#8, mirrorPage, 0xFF#8]
      else if index = 42 then #v[0x10#8, 0#8, 0#8, 0#8]
      else zeroPage := by
  show ((Vector.ofFn _)[index]?).getD zeroPage = _
  rw [Vector.getElem?_eq_getElem inside, Vector.getElem_ofFn]
  rfl

theorem mirrorTag_mirror (mirror mirrorPage : BitVec 8) :
    (mirrorTag mirror mirrorPage).mirrorMode 41 = mirrorConf mirror ∧
      (mirrorTag mirror mirrorPage).mirrorPage 41 = mirrorPage.toNat ∧
      (mirrorTag mirror mirrorPage).mirrorPlace 41 = mirrorByte mirror := by
  have first : (mirrorTag mirror mirrorPage).pageAt 41 = _ := mirrorTag_pageAt mirror mirrorPage (by decide)
  have second : (mirrorTag mirror mirrorPage).pageAt 42 = _ := mirrorTag_pageAt mirror mirrorPage (by decide)
  have conf : (mirrorTag mirror mirrorPage).configValue 41 0 = mirror := congrArg (byteAt · 0) first
  have page : (mirrorTag mirror mirrorPage).configValue 41 2 = mirrorPage := congrArg (byteAt · 2) first
  have access : (mirrorTag mirror mirrorPage).configValue 41 4 = 0x10#8 := congrArg (byteAt · 0) second
  have counts : (!accessNfcCntEn 0x10#8 ||
      (accessNfcCntPwdProt 0x10#8 && (mirrorTag mirror mirrorPage).authState ≠ .success)) = false := rfl
  refine ⟨?_, congrArg BitVec.toNat page, congrArg mirrorByte conf⟩
  rw [MfUltralightListener.mirrorMode, conf, access, counts, if_neg Bool.false_ne_true, ite_self]

/-- UID and counter from page 37 on are tried for ever, and from the last byte of page 36 on the
UID alone is accepted although it takes a byte more than there is. -/
theorem boundaries_unchecked :
    ¬ BoundariesChecked (mirrorTag 0xC0#8 0x25#8) 41 ∧ ¬ BoundariesChecked (mirrorTag 0xF0#8 0x24#8) 41 := by
  obtain ⟨endlessMode, endlessPage, -⟩ := mirrorTag_mirror 0xC0#8 0x25#8
  obtain ⟨lateMode, latePage, latePlace⟩ := mirrorTag_mirror 0xF0#8 0x24#8
  constructor
  · refine boundaries_of_overrun rfl ⟨endlessMode, Or.inl ?_⟩ (by decide)
    rw [endlessPage]
    decide
  · exact boundaries_of_overrun rfl ⟨lateMode, Or.inr ⟨latePage, latePlace⟩⟩ (by decide)

end Xtreme.Nfc
