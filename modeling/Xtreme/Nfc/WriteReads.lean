import Xtreme.Library.Records
import Xtreme.Nfc.MirrorImage
import Xtreme.Nfc.UltralightLocks

/-! What reads return after a write: the page that was written, its four bytes, and every other page
what it returned before. -/
namespace Xtreme.Nfc
open Xtreme.Library BitLib
open Effect (fault observe update Relates AgreeAt)

structure MirrorAlike (left right : MfUltralightListener) : Prop where
  type : right.data.type = left.data.type
  authState : right.authState = left.authState
  mirror : right.mirror = left.mirror
  configPages : ∀ config, left.config = some config →
    right.pageAt config = left.pageAt config ∧ right.pageAt (config + 1) = left.pageAt (config + 1)

namespace MirrorAlike
variable {left right : MfUltralightListener}

variable (alike : MirrorAlike left right)
include alike

theorem config : right.config = left.config := by
  rw [MfUltralightListener.config, MfUltralightListener.config, alike.type]

theorem features : right.features = left.features := by
  rw [MfUltralightListener.features, MfUltralightListener.features, alike.type]

theorem configValue {config offset : Nat} (there : left.config = some config) (early : offset < 8) :
    right.configValue config offset = left.configValue config offset := by
  obtain ⟨first, second⟩ := alike.configPages config there
  have place : offset / 4 = 0 ∨ offset / 4 = 1 := by omega
  unfold MfUltralightListener.configValue
  rcases place with here | here
  · rw [here, Nat.add_zero, first]
  · rw [here, second]

theorem setMirror (mirror : MfUltralightMirrorMode) :
    MirrorAlike { left with mirror := mirror } { right with mirror := mirror } :=
  ⟨alike.type, alike.authState, rfl, alike.configPages⟩

end MirrorAlike

theorem alike_configByte {offset : Nat} (early : offset < 8) :
    Relates MirrorAlike (configByte .consulted offset) (configByte .consulted offset) := by
  intro left right alike
  cases there : left.config with
  | none =>
    have there' : right.config = none := alike.config.trans there
    have fails (instanc : MfUltralightListener) (absent : instanc.config = none) :
        configByte .consulted offset instanc = (.error .nullPointer, instanc) := by
      unfold configByte
      rw [Effect.observe_bind, absent]
      rfl
    unfold AgreeAt
    rw [fails left there, fails right there']
    exact ⟨rfl, alike⟩
  | some config =>
    have there' : right.config = some config := alike.config.trans there
    have inside := config_inside there
    unfold AgreeAt
    rw [configByte_run .consulted _ there (by omega), configByte_run .consulted _ there' (by omega),
      alike.configValue there early]
    exact ⟨rfl, alike.type, alike.authState, alike.mirror, alike.configPages⟩

theorem alike_configMirrorPage : Relates MirrorAlike configMirrorPage configMirrorPage :=
  .bind (alike_configByte (by omega)) fun _ => .pure _

theorem alike_observe {α β : Type} {view : MfUltralightListener → α} {next : α → ListenerM β}
    (same : ∀ left right, MirrorAlike left right → view right = view left)
    (continues : ∀ answer, Relates MirrorAlike (next answer) (next answer)) :
    Relates MirrorAlike (observe view >>= next) (observe view >>= next) :=
  .observe_bind fun left right alike => by
    rw [same left right alike]
    exact continues _

theorem alike_setMirror (change : MfUltralightMirrorMode → MfUltralightMirrorMode) :
    Relates MirrorAlike (update (fun instanc => { instanc with mirror := change instanc.mirror }) : ListenerM Unit)
      (update fun instanc => { instanc with mirror := change instanc.mirror }) :=
  .update fun _ _ alike => by
    rw [alike.mirror]
    exact alike.setMirror _

theorem alike_mirrorBoundariesLoop (lastUserPage rounds : Nat) (mode : MfUltralightMirrorConf)
    (maxByteOffset : Nat) (again : Bool) :
    Relates MirrorAlike (mirrorBoundariesLoop lastUserPage rounds mode maxByteOffset again)
      (mirrorBoundariesLoop lastUserPage rounds mode maxByteOffset again) := by
  induction rounds generalizing mode maxByteOffset again with
  | zero => exact .fault _
  | succ rounds next =>
    refine .ite (fun _ => .pure _) fun _ => .bind (alike_setMirror fun mirror => { mirror with actualMode := mode }) fun _ => ?_
    refine .bind alike_configMirrorPage fun _ => .ite (fun _ => .pure _) fun _ => .ite (fun _ => .pure _) fun _ => ?_
    refine .ite (fun _ => .bind (alike_configByte (by omega)) fun _ => .pure _) fun _ => ?_
    exact .ite (fun _ => next _ _ _) fun _ => .ite (fun _ => next _ _ _) fun _ => .pure _

theorem alike_mirrorEnabled : Relates MirrorAlike mfUltralightMirrorEnabled mfUltralightMirrorEnabled := by
  have checked : Relates MirrorAlike mfUltralightMirrorCheckBoundaries mfUltralightMirrorCheckBoundaries := by
    refine alike_observe (fun _ _ alike => by rw [alike.type]) fun lastUserPage => .bind ?_ fun _ =>
      alike_mirrorBoundariesLoop _ _ _ _ _
    refine .bind (alike_configByte (by omega)) fun mirror => .ite (fun _ => .pure _) fun _ => ?_
    refine .bind (alike_configByte (by omega)) fun access => ?_
    exact alike_observe (fun _ _ alike => alike.authState) fun _ => .ite (fun _ => .pure _) fun _ => .pure _
  refine alike_observe (fun _ _ alike => by rw [alike.features]) fun supported => ?_
  refine alike_observe (fun _ _ alike => alike.config) fun config => ?_
  refine .bind (.ite (fun _ => checked) fun _ => .pure _) fun enabled => ?_
  exact .bind (alike_setMirror fun mirror => { mirror with enabled := enabled }) fun _ => .pure _

theorem alike_mirrorReadPrepare (startPage : Nat) :
    Relates MirrorAlike (mfUltralightMirrorReadPrepare startPage) (mfUltralightMirrorReadPrepare startPage) := by
  refine .bind alike_mirrorEnabled fun enabled => .ite (fun _ => ?_) fun _ => .pure _
  refine .bind ?_ fun asciiOffset => alike_observe (fun _ _ alike => by rw [alike.mirror]) fun mode => ?_
  · refine .bind (alike_configByte (by omega)) fun _ => .bind alike_configMirrorPage fun _ => ?_
    exact .ite (fun _ => .pure _) fun _ => .pure _
  refine .bind (alike_observe (fun _ _ alike => by rw [alike.mirror]) fun _ => .bind alike_configMirrorPage fun _ =>
    .pure _) fun last => ?_
  exact alike_setMirror fun mirror =>
    { mirror with asciiOffset := asciiOffset, asciiEnd := mfUltralightGetAsciiEnd mode, mirrorLastPage := last }

theorem prepared_alike {left right : MfUltralightListener} (alike : MirrorAlike left right) {startPage : Nat}
    {prepared prepared' : MfUltralightMirrorMode}
    (prepares : Shows left (mfUltralightMirrorReadPrepare startPage) left.mirror () prepared)
    (prepares' : Shows right (mfUltralightMirrorReadPrepare startPage) right.mirror () prepared') :
    prepared' = prepared := by
  obtain ⟨log, ran⟩ := prepares left.sent left.accesses
  obtain ⟨log', ran'⟩ := prepares' right.sent right.accesses
  obtain ⟨-, after⟩ := alike_mirrorReadPrepare startPage left right alike
  rw [show mfUltralightMirrorReadPrepare startPage left = _ from ran,
    show mfUltralightMirrorReadPrepare startPage right = _ from ran'] at after
  exact after.mirror

/-! ## Another page rewritten -/

structure UserPage (start : MfUltralightListener) (target : Nat) : Prop where
  user : 4 ≤ target
  inside : target < 510
  apart : ∀ config, start.config = some config → target < config ∨ config + 3 < target

section
variable {start : MfUltralightListener} {target : Nat} (content : MfUltralightPage)

variable (ordinary : UserPage start target)
include ordinary

theorem configValue_setPage {offset : Nat} (early : offset < 8) :
    (start.setPage target content).configValue (start.config.getD 0) offset =
      start.configValue (start.config.getD 0) offset := by
  have user := ordinary.user
  have other : start.config.getD 0 + offset / 4 ≠ target := by
    cases there : start.config with
    | none =>
      show 0 + offset / 4 ≠ target
      omega
    | some config =>
      have apart := ordinary.apart config there
      show config + offset / 4 ≠ target
      omega
  unfold MfUltralightListener.configValue
  rw [pageAt_setPage start ordinary.inside, if_neg other]

theorem accessAllowed_setPage (page : Nat) (accessType : MfUltralightListenerAccessType) :
    (start.setPage target content).accessAllowed page accessType = start.accessAllowed page accessType := by
  have value (offset : Nat) (early : offset < 8) := configValue_setPage content ordinary early
  have features : (start.setPage target content).features = start.features := rfl
  have same : (start.setPage target content).config = start.config := rfl
  unfold MfUltralightListener.accessAllowed
  rw [features, same]
  by_cases supported : mfUltralightSupportFeature start.features [.passwordAuth] = true
  · cases there : start.config with
    | none => rw [Option.all_none, Option.all_none]
    | some config =>
      rw [there] at value
      have auth0 : (start.setPage target content).configValue config 3 = start.configValue config 3 := value 3 (by omega)
      have access : (start.setPage target content).configValue config 4 = start.configValue config 4 := value 4 (by omega)
      have authState : (start.setPage target content).authState = start.authState := rfl
      have pagesTotal : (start.setPage target content).data.pagesTotal = start.data.pagesTotal := rfl
      simp only [Option.all_some, MfUltralightListener.needsPassword, MfUltralightListener.configLocked, auth0, access,
        authState, pagesTotal]
  · rw [if_neg supported, if_neg supported]

theorem mirrorAlike_setPage : MirrorAlike start (start.setPage target content) := by
  refine ⟨rfl, rfl, rfl, fun config there => ?_⟩
  have apart := ordinary.apart config there
  rw [pageAt_setPage start ordinary.inside, pageAt_setPage start ordinary.inside, if_neg (by omega), if_neg (by omega)]
  exact ⟨rfl, rfl⟩

theorem byteOffset_setPage (page : Nat) :
    (start.setPage target content).byteOffset page = start.byteOffset page := by
  have first := configValue_setPage content ordinary (show 0 < 8 by omega)
  have second := configValue_setPage content ordinary (show 2 < 8 by omega)
  show (if ((start.setPage target content).configValue (start.config.getD 0) 2).toNat < page then 0
    else mirrorByte ((start.setPage target content).configValue (start.config.getD 0) 0)) = _
  rw [first, second]
  rfl

theorem covers_setPage (mirror : MfUltralightMirrorMode) (page : Nat) :
    (start.setPage target content).covers mirror page ↔ start.covers mirror page := by
  have second := configValue_setPage content ordinary (show 2 < 8 by omega)
  show mirror.enabled = true ∧ ((start.setPage target content).configValue (start.config.getD 0) 2).toNat ≤ page ∧ _ ↔ _
  rw [second]
  rfl

theorem mirrored_setPage (mirror : MfUltralightMirrorMode) (page : Nat) (dest : MfUltralightPage) :
    (start.setPage target content).mirrored mirror page dest = start.mirrored mirror page dest := by
  have covers := covers_setPage content ordinary mirror page
  unfold MfUltralightListener.mirrored MfUltralightListener.filled
  rw [byteOffset_setPage content ordinary]
  by_cases covered : start.covers mirror page
  · rw [if_pos covered, if_pos (covers.mpr covered)]
  · rw [if_neg covered, if_neg fun other => covered (covers.mp other)]

theorem mirrorAfter_setPage (mirror : MfUltralightMirrorMode) (page : Nat) (dest dest' : MfUltralightPage) :
    (start.setPage target content).mirrorAfter mirror page dest = start.mirrorAfter mirror page dest' := by
  have covers := covers_setPage content ordinary mirror page
  have fits := start.byteOffset_le page
  have within : start.byteOffset page + (4 - start.byteOffset page) ≤ 4 := by omega
  unfold MfUltralightListener.mirrorAfter MfUltralightListener.filled
  rw [byteOffset_setPage content ordinary]
  by_cases covered : start.covers mirror page
  · rw [if_pos covered, if_pos (covers.mpr covered), (fillByte_range _ _ _ _ dest _ within).2,
      (fillByte_range _ _ _ _ dest' _ within).2]
  · rw [if_neg covered, if_neg fun other => covered (covers.mp other)]

omit ordinary

variable {doI2cPageCheck : Bool} {mirror : MfUltralightMirrorMode}

include ordinary

theorem readIndex_setPage (page rollover : Nat) :
    (start.setPage target content).readIndex doI2cPageCheck page rollover =
      start.readIndex doI2cPageCheck page rollover := by
  unfold MfUltralightListener.readIndex
  rw [accessAllowed_setPage content ordinary]
  rfl

theorem shownPage_setPage_goesOn (doI2cPageCheck : Bool) (mirror : MfUltralightMirrorMode) (page rollover : Nat) :
    ((start.setPage target content).shownPage doI2cPageCheck mirror page rollover).mirror =
        (start.shownPage doI2cPageCheck mirror page rollover).mirror ∧
      ((start.setPage target content).shownPage doI2cPageCheck mirror page rollover).rollover =
        (start.shownPage doI2cPageCheck mirror page rollover).rollover := by
  have same : visible (start.setPage target content) page doI2cPageCheck = visible start page doI2cPageCheck := rfl
  unfold MfUltralightListener.shownPage
  rw [same, readIndex_setPage content ordinary, accessAllowed_setPage content ordinary]
  split
  · exact ⟨mirrorAfter_setPage content ordinary _ _ _ _, rfl⟩
  · exact ⟨rfl, rfl⟩

theorem shownPage_setPage {page rollover : Nat}
    (elsewhere : visible start page doI2cPageCheck = true → start.readIndex doI2cPageCheck page rollover ≠ target) :
    ((start.setPage target content).shownPage doI2cPageCheck mirror page rollover).content =
      (start.shownPage doI2cPageCheck mirror page rollover).content := by
  have same : visible (start.setPage target content) page doI2cPageCheck = visible start page doI2cPageCheck := rfl
  unfold MfUltralightListener.shownPage
  rw [same, readIndex_setPage content ordinary]
  split
  · rename_i shown
    dsimp only
    rw [mirrored_setPage content ordinary, pageAt_setPage start ordinary.inside, if_neg (elsewhere shown)]
  · rfl

theorem shownPages_setPage (mirror : MfUltralightMirrorMode) (startPage : Nat)
    {rounds i rollover : Nat} (low : rollover + rounds ≤ target) {k : Nat}
    (elsewhere : visible start (startPage + (i + k)) doI2cPageCheck = true →
      start.writeTarget (startPage + (i + k)) doI2cPageCheck % start.data.pagesTotal ≠ target) :
    ((start.setPage target content).shownPages doI2cPageCheck startPage rounds i mirror rollover).1[k]? =
      (start.shownPages doI2cPageCheck startPage rounds i mirror rollover).1[k]? := by
  induction rounds generalizing i mirror rollover k with
  | zero => rfl
  | succ rounds next =>
    obtain ⟨mirrors, rolls⟩ := shownPage_setPage_goesOn content ordinary doI2cPageCheck mirror (startPage + i) rollover
    have later := shownPage_rollover start mirror doI2cPageCheck (startPage + i) rollover
    unfold MfUltralightListener.shownPages
    dsimp only
    rw [mirrors, rolls]
    cases k with
    | zero =>
      have here (shown : visible start (startPage + i) doI2cPageCheck = true) :
          start.readIndex doI2cPageCheck (startPage + i) rollover ≠ target := by
        unfold MfUltralightListener.readIndex
        split
        · exact elsewhere shown
        · omega
      rw [List.getElem?_cons_zero, List.getElem?_cons_zero, shownPage_setPage content ordinary here]
    | succ k =>
      have behind : i + (k + 1) = i + 1 + k := by omega
      rw [behind] at elsewhere
      exact next _ (by omega) elsewhere

end

namespace MfUltralightListener
variable (instanc : MfUltralightListener)

def readReply (page : BitVec 8) : List Reply :=
  (mfUltralightListenerRun (.receivedStandardFrame [0x30#8, page]) instanc).2.sent

/-- The state with another sector selected. -/
def inSector (sector : BitVec 8) : MfUltralightListener := { instanc with sector := sector }

/-- The page of the image that a page of the selected sector is. -/
def addressed (page : Nat) : Nat := instanc.writeTarget page (mfUltralightIsI2cTag instanc.data.type)

end MfUltralightListener

def RepliesAgree (kept : Nat → Prop) (before after : List Reply) : Prop :=
  after = before ∨ ∃ bytes bytes', before = [.standardFrame bytes] ∧ after = [.standardFrame bytes'] ∧
    bytes'.length = bytes.length ∧
    ∀ i, kept i → (bytes'.drop (i * 4)).take 4 = (bytes.drop (i * 4)).take 4

theorem pageBytes (pages : List MfUltralightPage) (k : Nat) :
    ((pages.flatMap (·.toList)).drop (k * 4)).take 4 = (pages[k]?.map (·.toList)).getD [] := by
  rw [Nat.mul_comm]
  exact record_at (fun page : MfUltralightPage => Vector.length_toList) pages k

section
variable {instanc : MfUltralightListener} {prepared : MfUltralightMirrorMode}

theorem readReply_known (sized : Sized instanc) (ready : instanc.compositeCmd.callback = none) {page : BitVec 8}
    (prepares : Shows instanc.cleared (mfUltralightMirrorReadPrepare page.toNat) instanc.cleared.mirror () prepared)
    (sound : prepared.enabled = true → ∃ config, instanc.config = some config) :
    instanc.readReply page =
      if (pageInRange instanc page.toNat && instanc.accessAllowed page.toNat .read) = true then
        [.standardFrame (instanc.cleared.shownBytes (mfUltralightIsI2cTag instanc.data.type) page.toNat 4 prepared)]
      else [.shortFrame 0x00#8] := by
  have named : (Frame.byte [0x30#8, page] 1).toNat = page.toNat := rfl
  have member : (⟨0x30#8, 2 * 8, mfUltralightListenerReadPageHandler⟩ : MfUltralightListenerCmdHandler) ∈
      mfUltralightCommand := List.mem_cons_self
  have sized : Sized instanc.cleared := ⟨sized.some, sized.few⟩
  by_cases readable : (pageInRange instanc page.toNat && instanc.accessAllowed page.toNat .read) = true
  · rw [if_pos readable]
    obtain ⟨inRange, access⟩ := Bool.and_eq_true_iff.mp readable
    have handled := readPageHandler_sends sized named inRange access prepares sound
    exact (mfUltralightListenerRun_sends member ⟨rfl, rfl⟩ ready handled).2
  · rw [if_neg readable]
    have refused : (pageInRange instanc.cleared page.toNat && instanc.cleared.accessAllowed page.toNat .read) = false :=
      Bool.eq_false_iff.mpr readable
    exact (mfUltralightListenerRun_sends member ⟨rfl, rfl⟩ ready (readPageHandler_refuses named refused)).2

theorem prepares_of_ends {result : Bool} (ends : (mfUltralightMirrorEnabled instanc).1 = .ok result)
    {other : MfUltralightListener} (alike : MirrorAlike instanc other) (startPage : Nat) :
    ∃ prepared, Shows other (mfUltralightMirrorReadPrepare startPage) other.mirror () prepared ∧
      (prepared.enabled = true → ∃ config, other.config = some config) := by
  have same := (alike_mirrorEnabled instanc other alike).1
  rcases ran : mfUltralightMirrorEnabled other with ⟨outcome, last⟩
  rw [ends, ran] at same
  cases same
  exact readPrepare_known ran startPage

theorem repliesAgree_setPage {target : Nat} (content : MfUltralightPage) (sized : Sized instanc)
    (ready : instanc.compositeCmd.callback = none) (ordinary : UserPage instanc target) {result : Bool}
    (ends : (mfUltralightMirrorEnabled instanc).1 = .ok result) (page : BitVec 8) :
    RepliesAgree (fun i => visible instanc (page.toNat + i) (mfUltralightIsI2cTag instanc.data.type) = true →
        instanc.addressed (page.toNat + i) % instanc.data.pagesTotal ≠ target)
      (instanc.readReply page) ((instanc.setPage target content).readReply page) := by
  have plain : UserPage instanc.cleared target := ⟨ordinary.user, ordinary.inside, ordinary.apart⟩
  have alike : MirrorAlike instanc instanc.cleared := ⟨rfl, rfl, rfl, fun _ _ => ⟨rfl, rfl⟩⟩
  have rewritten : MirrorAlike instanc.cleared (instanc.cleared.setPage target content) :=
    mirrorAlike_setPage content plain
  have alike' : MirrorAlike instanc (instanc.cleared.setPage target content) :=
    ⟨rewritten.type, rewritten.authState, rewritten.mirror, rewritten.configPages⟩
  obtain ⟨prepared, prepares, sound⟩ := prepares_of_ends ends alike page.toNat
  obtain ⟨prepared', prepares', sound'⟩ := prepares_of_ends ends alike' page.toNat
  have same : prepared' = prepared := prepared_alike rewritten prepares prepares'
  subst same
  have sized' : Sized (instanc.setPage target content) := ⟨sized.some, sized.few⟩
  have inRange : pageInRange (instanc.setPage target content) page.toNat = pageInRange instanc page.toNat := rfl
  rw [readReply_known sized ready prepares sound, readReply_known sized' ready prepares' sound', inRange,
    accessAllowed_setPage content ordinary]
  by_cases readable : (pageInRange instanc page.toNat && instanc.accessAllowed page.toNat .read) = true
  · rw [if_pos readable, if_pos readable]
    refine Or.inr ⟨_, _, rfl, rfl, ?_, fun i elsewhere => ?_⟩
    · rw [shownBytes_length, shownBytes_length]
    · have low : 0 + 4 ≤ target := by
        have user := ordinary.user
        omega
      have pages := shownPages_setPage content plain prepared' page.toNat low (k := i) (i := 0)
        (by rw [Nat.zero_add]; exact elsewhere)
      unfold MfUltralightListener.shownBytes
      rw [pageBytes, pageBytes]
      exact congrArg (fun page => (page.map (·.toList)).getD []) pages
  · rw [if_neg readable, if_neg readable]
    exact Or.inl rfl

end

/-- The session registers of the NTAG I2C Plus, which have an address in two sectors. -/
def sessionRegister (type : MfUltralightType) (sector : BitVec 8) (page : Nat) : Option Nat :=
  if type = .ntagI2CPlus1K ∨ type = .ntagI2CPlus2K then
    if sector = 0 ∧ mfUltralightI2cPageOnSessionReg page then some (page - 0xEC)
    else if sector = 3 ∧ mfUltralightI2cPageOnMirroredSessionReg page then some (page - 0xF8)
    else none
  else none

/-- Different addresses that are not the two of one session register. -/
structure AddressesApart (type : MfUltralightType) (sector : BitVec 8) (page : Nat) (sector' : BitVec 8) (page' : Nat) :
    Prop where
  differ : if mfUltralightIsI2cTag type then ¬ (sector' = sector ∧ page' = page) else page' ≠ page
  register : sessionRegister type sector page = none ∨
    sessionRegister type sector' page' ≠ sessionRegister type sector page

theorem provided_apart {type : MfUltralightType} {sector sector' : BitVec 8} {page page' : Nat}
    (sectored : mfUltralightIsI2cTag type = true) (apart : AddressesApart type sector page sector' page')
    (valid : mfUltralightI2cValidatePages sector type page page = true)
    (valid' : mfUltralightI2cValidatePages sector' type page' page' = true) :
    mfUltralightI2cProvidePageByRequested sector' type page' ≠
      mfUltralightI2cProvidePageByRequested sector type page := by
  obtain ⟨differ, register⟩ := apart
  have named {sector : BitVec 8} {number : Nat} (small : number < 256) (same : sector.toNat = number) :
      sector = BitVec.ofNat 8 number := by
    apply BitVec.eq_of_toNat_eq
    rw [BitVec.toNat_ofNat]
    omega
  have types : type = .ntagI2C1K ∨ type = .ntagI2C2K ∨ type = .ntagI2CPlus1K ∨ type = .ntagI2CPlus2K := by
    simpa [mfUltralightIsI2cTag, or_assoc] using sectored
  have place := validatePages_cases valid
  have place' := validatePages_cases valid'
  clear valid valid'
  rcases place with ⟨number, valid⟩ | ⟨number, valid⟩ | ⟨number, valid⟩ <;>
    rcases place' with ⟨number', valid'⟩ | ⟨number', valid'⟩ | ⟨number', valid'⟩ <;>
    have here := named (by decide) number <;> have there := named (by decide) number' <;>
    clear named number number' sectored <;> subst here <;> subst there <;> rcases types with rfl | rfl | rfl | rfl <;>
    simp [sessionRegister, mfUltralightI2cProvidePageByRequested, mfUltralightI2cPageProviderForSector0,
      mfUltralightI2cPageProviderForSector1, mfUltralightI2cPageProviderForSector3,
      mfUltralightI2cPageValidatorForSector0, mfUltralightI2cPageValidatorForSector1,
      mfUltralightI2cPageOnSessionReg, mfUltralightI2cPageOnMirroredSessionReg] at valid valid' differ register ⊢ <;>
    grind

/-! ## A write and the reads after it -/

def MirrorApart (instanc : MfUltralightListener) (page : Nat) : Prop :=
  ∃ shown after, mfUltralightMirrorEnabled instanc = (.ok shown, after) ∧
    (shown = true → ∀ config, instanc.config = some config →
      page * 4 + 4 ≤ instanc.mirrorPage config * 4 + instanc.mirrorPlace config ∨
        instanc.mirrorPage config * 4 + instanc.mirrorPlace config +
          mfUltralightGetMirrorDataSize after.mirror.actualMode ≤ page * 4)

/-- A page of the selected sector for the user's data: behind the header, no lock page, away from
the configuration, not among those that reads blank, in the image, and not under the mirror. -/
structure OrdinaryPage (instanc : MfUltralightListener) (page : Nat) : Prop where
  user : 4 ≤ instanc.addressed page
  unlocked : instanc.isDynamicLock page = false
  apart : ∀ config, instanc.config = some config →
    instanc.addressed page < config ∨ config + 3 < instanc.addressed page
  shown : mfUltralightIsPagePwdOrPack instanc.data.type page = false
  inside : instanc.addressed page < instanc.data.pagesTotal
  unmirrored : MirrorApart instanc (instanc.addressed page)

def writeFrame (page : BitVec 8) (bytes : MfUltralightPage) : Frame := 0xA2#8 :: page :: bytes.toList

namespace MfUltralightListener

def afterWrite (instanc : MfUltralightListener) (page : BitVec 8) (bytes : MfUltralightPage) : MfUltralightListener :=
  (mfUltralightListenerRun (.receivedStandardFrame (writeFrame page bytes)) instanc).2

end MfUltralightListener

section
variable {instanc : MfUltralightListener} {page : BitVec 8} {bytes : MfUltralightPage}

theorem writeFrame_page (page : BitVec 8) (bytes : MfUltralightPage) : (writeFrame page bytes).page 2 = bytes := by
  refine page_ext fun j inside => ?_
  have places : j = 0 ∨ j = 1 ∨ j = 2 ∨ j = 3 := by omega
  rcases places with rfl | rfl | rfl | rfl <;>
    simp [byteAt, Frame.page, Frame.byte, writeFrame]

theorem not_acked {sent : List Reply} {data : BitVec 8} (other : data ≠ 0x0A#8) :
    sent ++ [.shortFrame data] ≠ [.shortFrame 0x0A#8] := by
  intro same
  have last := congrArg List.getLast? same
  rw [List.getLast?_concat] at last
  cases last
  exact other rfl

/-- A state that waits for a second frame does not acknowledge a WRITE. -/
theorem ready_of_acked (acked : (instanc.afterWrite page bytes).sent = [.shortFrame 0x0A#8]) :
    instanc.compositeCmd.callback = none := by
  cases first : instanc.compositeCmd.callback with
  | none => rfl
  | some handler =>
    have first : instanc.cleared.compositeCmd.callback = some handler := first
    have long : (writeFrame page bytes).length = 6 := by simp [writeFrame]
    have part : mfUltralightCompositeHandler handler (writeFrame page bytes) = pure .notProcessedNAK := by
      cases handler with
      | compWriteP2 =>
        show mfUltralightCompWriteHandlerP2 _ = _
        unfold mfUltralightCompWriteHandlerP2
        rw [if_pos (by omega)]
      | sectorSelectP2 =>
        show mfUltralightSectorSelectHandlerP2 _ = _
        unfold mfUltralightSectorSelectHandlerP2
        rw [if_pos (by omega)]
    have refused : (mfUltralightListenerHandleFrame (writeFrame page bytes) instanc.cleared).1 = .ok .notProcessedNAK := by
      unfold mfUltralightListenerHandleFrame mfUltralightCompositeCommandRun
      rw [Effect.observe_bind, first]
      dsimp only
      rw [part]
      rfl
    unfold MfUltralightListener.afterWrite at acked
    rw [mfUltralightListenerRun_frame] at acked
    rcases handled : mfUltralightListenerHandleFrame (writeFrame page bytes) instanc.cleared with ⟨outcome, last⟩
    rw [handled] at acked refused
    cases refused
    exact absurd acked (not_acked (by decide))

theorem storing_ordinary (instanc : MfUltralightListener) {page : BitVec 8} (user : 4 ≤ instanc.addressed page.toNat)
    (unlocked : instanc.isDynamicLock page.toNat = false) (bytes : MfUltralightPage) :
    (instanc.stored bytes page.toNat (mfUltralightIsI2cTag instanc.data.type)).isSome = true ∧
      (instanc.storing bytes page.toNat (mfUltralightIsI2cTag instanc.data.type)).cleared =
        instanc.cleared.setPage (instanc.addressed page.toNat) bytes := by
  have high : ¬ (page.toNat < 4 ∧ instanc.sector = 0) := by
    rintro ⟨less, zero⟩
    have same : instanc.addressed page.toNat = page.toNat := by
      unfold MfUltralightListener.addressed MfUltralightListener.writeTarget
      split
      · have few : page.toNat % 256 = page.toNat := by omega
        have numbers : page.toNat ≠ 0xEC ∧ page.toNat ≠ 0xED ∧ page.toNat ≠ 0xE8 ∧ page.toNat ≠ 0xE9 := by omega
        rw [zero]
        show mfUltralightI2cPageProviderForSector0 page.toNat instanc.data.type = page.toNat
        unfold mfUltralightI2cPageProviderForSector0
        split <;> simp [few, numbers]
      · rfl
    omega
  have stored : instanc.stored bytes page.toNat (mfUltralightIsI2cTag instanc.data.type) =
      some (instanc.addressed page.toNat, bytes, []) := by
    unfold MfUltralightListener.stored
    rw [if_neg fun serial => high ⟨by omega, serial.2⟩, if_neg fun locks => high ⟨by omega, locks.2⟩,
      if_neg fun container => high ⟨by omega, container.2⟩, unlocked]
    rfl
  unfold MfUltralightListener.storing
  rw [stored]
  exact ⟨rfl, rfl⟩

theorem write_stores (ordinary : OrdinaryPage instanc page.toNat)
    (acked : (instanc.afterWrite page bytes).sent = [.shortFrame 0x0A#8]) :
    pageInRange instanc page.toNat = true ∧ instanc.accessAllowed page.toNat .write = true ∧
      (instanc.afterWrite page bytes).cleared = instanc.cleared.setPage (instanc.addressed page.toNat) bytes := by
  have ready : instanc.cleared.compositeCmd.callback = none := ready_of_acked acked
  have member : (⟨0xA2#8, 6 * 8, mfUltralightListenerWritePageHandler⟩ : MfUltralightListenerCmdHandler) ∈
      mfUltralightCommand := List.mem_cons_of_mem _ (List.mem_cons_of_mem _ List.mem_cons_self)
  have fits : (⟨0xA2#8, 6 * 8, mfUltralightListenerWritePageHandler⟩ : MfUltralightListenerCmdHandler).Fits
      (writeFrame page bytes) := ⟨by simp [writeFrame], rfl⟩
  have named : ((writeFrame page bytes).byte 1).toNat = page.toNat := rfl
  have same : pageInRange instanc.cleared page.toNat = pageInRange instanc page.toNat := rfl
  unfold MfUltralightListener.afterWrite at acked ⊢
  rw [mfUltralightListenerRun_frame, handleFrame_command member fits ready] at acked ⊢
  dsimp only at acked ⊢
  rw [mfUltralightListenerWritePageHandler_run, named, writeFrame_page, same] at acked ⊢
  cases inRange : pageInRange instanc page.toNat with
  | false =>
    rw [inRange] at acked
    exact absurd acked (not_acked (by decide))
  | true =>
    rw [inRange] at acked
    cases allows : instanc.cleared.writeAllowed page.toNat with
    | false =>
      rw [allows] at acked
      exact absurd acked (not_acked (by decide))
    | true =>
      obtain ⟨-, stores⟩ := storing_ordinary (instanc.cleared.logging (instanc.cleared.writeLog page.toNat))
        ordinary.user ordinary.unlocked bytes
      obtain ⟨stored, -⟩ := storing_ordinary instanc.cleared ordinary.user ordinary.unlocked bytes
      have answer : instanc.cleared.writeAnswer bytes page.toNat (mfUltralightIsI2cTag instanc.cleared.data.type) =
          .processedACK := if_pos stored
      rw [answer]
      exact ⟨rfl, (Bool.and_eq_true_iff.mp allows).1, stores⟩

theorem accessAllowed_read_of_write {page : Nat} (allows : instanc.accessAllowed page .write = true) :
    instanc.accessAllowed page .read = true := by
  unfold MfUltralightListener.accessAllowed at allows ⊢
  by_cases supported : mfUltralightSupportFeature instanc.features [.passwordAuth] = true
  · rw [if_pos supported] at allows ⊢
    cases there : instanc.config with
    | none => rw [Option.all_none]
    | some config =>
      rw [there] at allows
      rw [Option.all_some]
      obtain ⟨password, -⟩ := Bool.and_eq_true_iff.mp allows
      have write : (MfUltralightListenerAccessType.write == .write) = true := rfl
      have read : (MfUltralightListenerAccessType.read == .write) = false := rfl
      rw [write] at password
      rw [read]
      unfold MfUltralightListener.needsPassword at password ⊢
      unfold MfUltralightListener.configLocked
      rw [Bool.or_true, Bool.and_true] at password
      rw [Bool.and_false, Bool.false_and, Bool.not_false, Bool.and_true]
      cases idle : decide (instanc.authState ≠ .success) with
      | false => rfl
      | true =>
        rw [idle, Bool.true_and, Bool.not_eq_true'] at password
        rw [Bool.true_and, password, Bool.false_and, Bool.not_false]
  · rw [if_neg supported]

theorem mirrorEnabled_sectored (sectored : mfUltralightIsI2cTag instanc.data.type = true) :
    (mfUltralightMirrorEnabled instanc).1 = .ok false := by
  have unsupported : mfUltralightSupportFeature instanc.features [.asciiMirror] = false := by
    unfold MfUltralightListener.features
    cases type : instanc.data.type <;> first | rfl | (rw [type] at sectored; cases sectored)
  unfold mfUltralightMirrorEnabled supports
  rw [Effect.observe_bind, Effect.observe_bind, unsupported]
  rfl

theorem mirrored_away {start : MfUltralightListener} {config : Nat} {mode : MfUltralightMirrorConf} {page : Nat}
    (there : start.config = some config) (stands : MirrorStands start config mode) (byte : page < 256)
    (away : page * 4 + 4 ≤ start.mirrorPage config * 4 + start.mirrorPlace config ∨
      start.mirrorPage config * 4 + start.mirrorPlace config + mfUltralightGetMirrorDataSize mode ≤ page * 4)
    (dest : MfUltralightPage) :
    start.mirrored (start.preparedMirror config mode page) (page % 256) dest = dest := by
  rw [Nat.mod_eq_of_lt byte]
  unfold MfUltralightListener.mirrored
  by_cases covered : start.covers (start.preparedMirror config mode page) page
  · rw [if_pos covered]
    have found : start.config.getD 0 = config := by rw [there]; rfl
    have begins := byteOffset_mirror there page
    have place := mirrorPlace_lt start config
    have fits := start.byteOffset_le page
    obtain ⟨-, first, last⟩ := covered
    rw [found] at first
    have pages := mirrorMaxPageOffset_le mode
    have data := mirrorDataSize_pages mode
    have ends := asciiEnd_eq stands.active
    have few := firstCharacter_le mode
    change page ≤ (start.mirrorPage config + 1 + mfUltralightGetMirrorDataSize mode / 4) % 256 at last
    refine page_ext fun j inside => ?_
    obtain ⟨bytes, -⟩ := fillByte_range (start.preparedMirror config mode page).asciiMirrorData
      (mfUltralightGetAsciiEnd mode) (start.byteOffset page) (4 - start.byteOffset page) dest
      (start.startOffset config page) (by omega)
    refine (bytes j).trans (if_neg ?_)
    rw [MfUltralightListener.startOffset, stands.firstCharacter]
    split <;> omega
  · rw [if_neg covered]

theorem mirrored_unmirrored {target : Nat} (apart : MirrorApart instanc target)
    (linear : mfUltralightIsI2cTag instanc.data.type = false → target = page.toNat) {prepared : MfUltralightMirrorMode}
    (prepares : Shows instanc.cleared (mfUltralightMirrorReadPrepare page.toNat) instanc.cleared.mirror () prepared)
    (dest : MfUltralightPage) : instanc.cleared.mirrored prepared (target % 256) dest = dest := by
  have self : MirrorAlike instanc.cleared instanc.cleared := ⟨rfl, rfl, rfl, fun _ _ => ⟨rfl, rfl⟩⟩
  obtain ⟨shown, last, enabled, away⟩ := apart
  obtain ⟨shows, found⟩ := mirrorEnabled_shows (seen_self instanc ▸ enabled)
  obtain ⟨log, ran⟩ := shows [] []
  cases shown with
  | false =>
    have same := prepared_alike self (readPrepare_off ran page.toNat) prepares
    rw [same]
    exact if_neg fun covered => absurd covered.1 Bool.false_ne_true
  | true =>
    obtain ⟨config, there⟩ := found rfl
    have found : instanc.cleared.config = some config := there
    have plain : mfUltralightIsI2cTag instanc.data.type = false := by
      rw [← Bool.not_eq_true]
      intro sectored
      have disabled := mirrorEnabled_sectored sectored
      rw [enabled] at disabled
      cases disabled
    have same := prepared_alike self (readPrepare_on found ran page.toNat) prepares
    have stands := mirrorStands_of_enabled there enabled
    rw [same, linear plain]
    rw [linear plain] at away
    exact mirrored_away found ⟨stands.user, stands.behind, stands.active, stands.counts⟩ page.isLt
      (away rfl config there) dest

theorem addressed_linear (plain : mfUltralightIsI2cTag instanc.data.type = false) :
    instanc.addressed page.toNat = page.toNat := by
  unfold MfUltralightListener.addressed MfUltralightListener.writeTarget
  rw [plain, if_neg Bool.false_ne_true]

theorem visible_ordinary (inRange : pageInRange instanc page.toNat = true)
    (shown : mfUltralightIsPagePwdOrPack instanc.data.type page.toNat = false) :
    visible instanc page.toNat (mfUltralightIsI2cTag instanc.data.type) = true := by
  unfold visible
  unfold pageInRange at inRange
  by_cases sectored : mfUltralightIsI2cTag instanc.data.type = true
  · rw [if_pos sectored] at inRange
    rw [sectored, Bool.true_and, Bool.not_not]
    exact Bool.and_eq_true_iff.mpr ⟨inRange, (Bool.not_eq_true' _).mpr shown⟩
  · rw [Bool.not_eq_true] at sectored
    rw [sectored, Bool.false_and, Bool.not_false]
    exact (Bool.not_eq_true' _).mpr shown

theorem shownPage_written (ordinary : OrdinaryPage instanc page.toNat) (few : instanc.data.pagesTotal ≤ 510)
    (inRange : pageInRange instanc page.toNat = true) (access : instanc.accessAllowed page.toNat .read = true)
    {prepared : MfUltralightMirrorMode}
    (prepares : Shows instanc.cleared (mfUltralightMirrorReadPrepare page.toNat) instanc.cleared.mirror () prepared) :
    ((instanc.cleared.setPage (instanc.addressed page.toNat) bytes).shownPage
      (mfUltralightIsI2cTag instanc.data.type) prepared page.toNat 0).content = bytes := by
  have inside := ordinary.inside
  have target : UserPage instanc.cleared (instanc.addressed page.toNat) := ⟨ordinary.user, by omega, ordinary.apart⟩
  have seen : visible (instanc.cleared.setPage (instanc.addressed page.toNat) bytes) page.toNat
      (mfUltralightIsI2cTag instanc.data.type) = true := visible_ordinary inRange ordinary.shown
  have readable : (instanc.cleared.setPage (instanc.addressed page.toNat) bytes).accessAllowed page.toNat .read = true := by
    rw [accessAllowed_setPage bytes target]
    exact access
  have index : (instanc.cleared.setPage (instanc.addressed page.toNat) bytes).readIndex
      (mfUltralightIsI2cTag instanc.data.type) page.toNat 0 = instanc.addressed page.toNat := by
    unfold MfUltralightListener.readIndex
    rw [readable]
    exact Nat.mod_eq_of_lt inside
  unfold MfUltralightListener.shownPage
  rw [if_pos seen]
  dsimp only
  rw [index, mirrored_setPage bytes target, pageAt_setPage instanc.cleared (by omega), if_pos rfl]
  exact mirrored_unmirrored ordinary.unmirrored addressed_linear prepares bytes

theorem readReply_written (sized : Sized instanc) (ready : instanc.compositeCmd.callback = none)
    (ordinary : OrdinaryPage instanc page.toNat) (inRange : pageInRange instanc page.toNat = true)
    (access : instanc.accessAllowed page.toNat .read = true) :
    ∃ rest, (instanc.cleared.setPage (instanc.addressed page.toNat) bytes).readReply page =
      [.standardFrame (bytes.toList ++ rest)] := by
  have few := sized.few
  have inside := ordinary.inside
  have target : UserPage instanc.cleared (instanc.addressed page.toNat) := ⟨ordinary.user, by omega, ordinary.apart⟩
  obtain ⟨result, last, enabled, -⟩ := ordinary.unmirrored
  have ends : (mfUltralightMirrorEnabled instanc).1 = .ok result := congrArg Prod.fst enabled
  have alike : MirrorAlike instanc instanc.cleared := ⟨rfl, rfl, rfl, fun _ _ => ⟨rfl, rfl⟩⟩
  have rewritten := mirrorAlike_setPage bytes target
  have alike' : MirrorAlike instanc (instanc.cleared.setPage (instanc.addressed page.toNat) bytes) :=
    ⟨rewritten.type, rewritten.authState, rewritten.mirror, rewritten.configPages⟩
  obtain ⟨prepared, prepares, sound⟩ := prepares_of_ends ends alike page.toNat
  obtain ⟨prepared', prepares', sound'⟩ := prepares_of_ends ends alike' page.toNat
  have same : prepared' = prepared := prepared_alike rewritten prepares prepares'
  subst same
  have sized' : Sized (instanc.cleared.setPage (instanc.addressed page.toNat) bytes) := ⟨sized.some, sized.few⟩
  have readable : (pageInRange (instanc.cleared.setPage (instanc.addressed page.toNat) bytes) page.toNat &&
      (instanc.cleared.setPage (instanc.addressed page.toNat) bytes).accessAllowed page.toNat .read) = true := by
    rw [accessAllowed_setPage bytes target]
    exact Bool.and_eq_true_iff.mpr ⟨inRange, access⟩
  rw [readReply_known sized' ready prepares' sound', if_pos readable]
  obtain ⟨rest, begins⟩ := shownBytes_begins (instanc.cleared.setPage (instanc.addressed page.toNat) bytes)
    (mfUltralightIsI2cTag instanc.data.type) page.toNat 3 prepared'
  rw [shownPage_written ordinary few inRange access prepares] at begins
  exact ⟨rest, congrArg (fun bytes => [Reply.standardFrame bytes]) begins⟩

theorem addressed_apart {sector' : BitVec 8} {page' : Nat} (inRange : pageInRange instanc page.toNat = true)
    (apart : AddressesApart instanc.data.type instanc.sector page.toNat sector' page')
    (inside : (instanc.inSector sector').addressed page' < instanc.data.pagesTotal)
    (shown : visible (instanc.inSector sector') page' (mfUltralightIsI2cTag instanc.data.type) = true) :
    (instanc.inSector sector').addressed page' % instanc.data.pagesTotal ≠ instanc.addressed page.toNat := by
  rw [Nat.mod_eq_of_lt inside]
  unfold MfUltralightListener.addressed MfUltralightListener.writeTarget
  have type : (instanc.inSector sector').data.type = instanc.data.type := rfl
  rw [type]
  unfold pageInRange at inRange
  by_cases sectored : mfUltralightIsI2cTag instanc.data.type = true
  · rw [if_pos sectored] at inRange
    rw [if_pos sectored, if_pos sectored]
    refine provided_apart sectored apart inRange ?_
    unfold visible at shown
    rw [sectored, Bool.true_and, Bool.not_not] at shown
    exact (Bool.and_eq_true_iff.mp shown).1
  · have differ := apart.differ
    rw [if_neg sectored] at differ
    rw [if_neg sectored, if_neg sectored]
    exact differ

end

/-- A reply depends only on what the state is between events. -/
theorem readReply_cleared (instanc : MfUltralightListener) (page : BitVec 8) :
    instanc.cleared.readReply page = instanc.readReply page := by
  rfl

theorem RepliesAgree.mono {kept fewer : Nat → Prop} {before after : List Reply} (agree : RepliesAgree kept before after)
    (among : ∀ i, fewer i → kept i) : RepliesAgree fewer before after := by
  rcases agree with same | ⟨bytes, bytes', first, second, length, same⟩
  · exact Or.inl same
  · exact Or.inr ⟨bytes, bytes', first, second, length, fun i member => same i (among i member)⟩

/-- **A page that was written reads as it was written**, and every page at another address as before. -/
theorem write_reads_back {instanc : MfUltralightListener} (fits : instanc.data.pagesTotal ≤ mfUltralightMaxPageNum)
    {page : BitVec 8} (ordinary : OrdinaryPage instanc page.toNat) {bytes : MfUltralightPage}
    (acked : (instanc.afterWrite page bytes).sent = [.shortFrame 0x0A#8]) :
    (∃ rest, (instanc.afterWrite page bytes).readReply page = [.standardFrame (bytes.toList ++ rest)]) ∧
    ∀ sector' page' : BitVec 8,
      RepliesAgree (fun i => AddressesApart instanc.data.type instanc.sector page.toNat sector' (page'.toNat + i) ∧
          (instanc.inSector sector').addressed (page'.toNat + i) < instanc.data.pagesTotal)
        ((instanc.inSector sector').readReply page') (((instanc.afterWrite page bytes).inSector sector').readReply page') := by
  obtain ⟨inRange, writes, stored⟩ := write_stores ordinary acked
  have ready := ready_of_acked acked
  have access := accessAllowed_read_of_write writes
  have inside := ordinary.inside
  have few : instanc.data.pagesTotal ≤ 510 := fits
  have sized : Sized instanc := ⟨Nat.zero_lt_of_lt inside, few⟩
  constructor
  · rw [← readReply_cleared, stored]
    exact readReply_written sized ready ordinary inRange access
  · intro sector' page'
    have alike : MirrorAlike instanc (instanc.inSector sector') := ⟨rfl, rfl, rfl, fun _ _ => ⟨rfl, rfl⟩⟩
    obtain ⟨result, last, enabled, -⟩ := ordinary.unmirrored
    have ends : (mfUltralightMirrorEnabled (instanc.inSector sector')).1 = .ok result :=
      (alike_mirrorEnabled _ _ alike).1.symm.trans (congrArg Prod.fst enabled)
    have target : UserPage (instanc.inSector sector') (instanc.addressed page.toNat) :=
      ⟨ordinary.user, by omega, ordinary.apart⟩
    have sized' : Sized (instanc.inSector sector') := ⟨sized.some, sized.few⟩
    have agree := repliesAgree_setPage bytes sized' ready target ends page'
    have written : ((instanc.afterWrite page bytes).inSector sector').cleared =
        ((instanc.inSector sector').setPage (instanc.addressed page.toNat) bytes).cleared :=
      congrArg (fun state => state.inSector sector') stored
    rw [← readReply_cleared ((instanc.afterWrite page bytes).inSector sector'), written]
    exact agree.mono fun i apart shown => addressed_apart inRange apart.1 apart.2 shown

def blankListener (type : MfUltralightType) (pagesTotal : Nat) (sector : BitVec 8) : MfUltralightListener :=
  (mfUltralightListenerAlloc (blankTag type pagesTotal)).inSector sector

def onesPage : MfUltralightPage := Vector.replicate 4 0xFF#8

theorem write_reads_back_sector :
    ∃ rest, ((blankListener .ntagI2C2K 485 1#8).afterWrite 5#8 onesPage).readReply 5#8 =
      [.standardFrame (onesPage.toList ++ rest)] := by
  have plain : (blankListener .ntagI2C2K 485 1#8).config = none := rfl
  have unmirrored : MirrorApart (blankListener .ntagI2C2K 485 1#8) 261 :=
    ⟨false, _, mfUltralightMirrorEnabled_without plain, fun shown => absurd shown Bool.false_ne_true⟩
  have ordinary : OrdinaryPage (blankListener .ntagI2C2K 485 1#8) (5#8).toNat :=
    ⟨by decide, by decide, fun config there => absurd (plain.symm.trans there) (by simp), by decide, by decide, unmirrored⟩
  exact (write_reads_back (by decide) ordinary (by decide +kernel)).1

theorem ne_written {reply : List Reply} {bytes : List (BitVec 8)} (read : reply = [.standardFrame bytes])
    {page : MfUltralightPage} (other : bytes.take 4 ≠ page.toList) (rest : List (BitVec 8)) :
    reply ≠ [.standardFrame (page.toList ++ rest)] := by
  intro same
  rw [read] at same
  injection same with head
  injection head with bytes
  rw [bytes, List.take_left' Vector.length_toList] at other
  exact other rfl

/-- The UID from the second byte of page 4 on. -/
def mirrorListener : MfUltralightListener := (blankListener .ntag213 45 0#8).setPage 41 #v[0x50#8, 0#8, 0x04#8, 0xFF#8]

/-- No page is protected, but those that are may not be read. -/
def protListener : MfUltralightListener :=
  ((blankListener .ntag213 45 0#8).setPage 41 #v[0#8, 0#8, 0#8, 0xFF#8]).setPage 42 #v[0x80#8, 0#8, 0#8, 0#8]

/-- The second sector of a tag of which no page is protected. -/
def openListener : MfUltralightListener := (blankListener .ntagI2CPlus2K 492 1#8).setPage 227 onesPage

/-- What is not an ordinary page: one under the mirror, which shows the text, one of the configuration, which
closes others, one with the number of a password page, which is blanked in every sector, and the one behind
the image, in whose place the first is read. -/
theorem write_not_read : ((mirrorListener.afterWrite 4#8 onesPage).sent = [.shortFrame 0x0A#8] ∧
      ∀ rest, (mirrorListener.afterWrite 4#8 onesPage).readReply 4#8 ≠ [.standardFrame (onesPage.toList ++ rest)]) ∧
    ((protListener.afterWrite 41#8 zeroPage).sent = [.shortFrame 0x0A#8] ∧
      protListener.readReply 5#8 = [.standardFrame (List.replicate 16 0#8)] ∧
      (protListener.afterWrite 41#8 zeroPage).readReply 5#8 = [.shortFrame 0x00#8]) ∧
    ((openListener.afterWrite 229#8 onesPage).sent = [.shortFrame 0x0A#8] ∧
      ∀ rest, (openListener.afterWrite 229#8 onesPage).readReply 229#8 ≠ [.standardFrame (onesPage.toList ++ rest)]) ∧
    (((blankListener .ntag203 42 0#8).afterWrite 42#8 onesPage).sent = [.shortFrame 0x0A#8] ∧
      ∀ rest, ((blankListener .ntag203 42 0#8).afterWrite 42#8 onesPage).readReply 42#8 ≠
        [.standardFrame (onesPage.toList ++ rest)]) := by
  have mirrored : (mirrorListener.afterWrite 4#8 onesPage).sent = [.shortFrame 0x0A#8] ∧
      (mirrorListener.afterWrite 4#8 onesPage).readReply 4#8 =
        [.standardFrame ([0xFF#8] ++ List.replicate 14 0x30#8 ++ [0x00#8])] := by decide +kernel
  have blanked : (openListener.afterWrite 229#8 onesPage).sent = [.shortFrame 0x0A#8] ∧
      (openListener.afterWrite 229#8 onesPage).readReply 229#8 = [.standardFrame (List.replicate 16 0#8)] := by
    decide +kernel
  have behind : ((blankListener .ntag203 42 0#8).afterWrite 42#8 onesPage).sent = [.shortFrame 0x0A#8] ∧
      ((blankListener .ntag203 42 0#8).afterWrite 42#8 onesPage).readReply 42#8 =
        [.standardFrame (List.replicate 16 0#8)] := by decide +kernel
  refine ⟨⟨mirrored.1, ne_written mirrored.2 (by decide)⟩, ?_, ⟨blanked.1, ne_written blanked.2 (by decide)⟩,
    ⟨behind.1, ne_written behind.2 (by decide)⟩⟩
  decide +kernel

end Xtreme.Nfc
