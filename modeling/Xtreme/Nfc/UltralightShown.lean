import Xtreme.Nfc.MirrorBoundaries
import Xtreme.Nfc.UltralightEvents

/-! What a read command sends, as a function of the state it begins in.

Between its steps only the mirror, the replies and the accesses differ from that state. `Shows` is
the judgement for a step: what it answers, and what it makes of the mirror. -/
namespace Xtreme.Nfc
open Xtreme.Library BitLib
open Effect (fault observe update)

namespace MfUltralightListener
variable (instanc : MfUltralightListener)

def seen (mirror : MfUltralightMirrorMode) (sent : List Reply) (accesses : List PageAccess) : MfUltralightListener :=
  { instanc with mirror := mirror, sent := sent, accesses := accesses }

end MfUltralightListener

def Shows {α : Type} (start : MfUltralightListener) (program : ListenerM α) (mirror : MfUltralightMirrorMode)
    (answer : α) (after : MfUltralightMirrorMode) : Prop :=
  ∀ sent accesses, ∃ accesses', program (start.seen mirror sent accesses) = (.ok answer, start.seen after sent accesses')

section
variable {α β : Type} {start : MfUltralightListener} {mirror middle after : MfUltralightMirrorMode}

namespace Shows

theorem pure (answer : α) : Shows start (Pure.pure answer) mirror answer mirror := fun _ accesses => ⟨accesses, rfl⟩

theorem bind {program : ListenerM α} {next : α → ListenerM β} {answer : α} {last : β}
    (first : Shows start program mirror answer middle) (second : Shows start (next answer) middle last after) :
    Shows start (program >>= next) mirror last after := by
  intro sent accesses
  obtain ⟨log, ran⟩ := first sent accesses
  rw [Effect.bind_of_ok ran]
  exact second sent log

/-- A view that looks neither at the replies nor at the accesses. -/
theorem observe {view : MfUltralightListener → α} {answer : α}
    (same : ∀ sent accesses, view (start.seen mirror sent accesses) = answer) :
    Shows start (Effect.observe view) mirror answer mirror :=
  fun sent accesses => ⟨accesses, congrArg (fun seen => (Except.ok seen, _)) (same sent accesses)⟩

theorem data (view : MfUltralightData → α) :
    Shows start (Effect.observe fun instanc => view instanc.data) mirror (view start.data) mirror :=
  observe fun _ _ => rfl

theorem sector : Shows start (Effect.observe (·.sector)) mirror start.sector mirror := observe fun _ _ => rfl

theorem supports (features : List MfUltralightFeatureSupport) :
    Shows start (Nfc.supports features) mirror (mfUltralightSupportFeature start.features features) mirror :=
  data fun data => mfUltralightSupportFeature (mfUltralightGetFeatureSupportSet data.type) features

theorem update {change : MfUltralightListener → MfUltralightListener}
    (changes : ∀ sent accesses, change (start.seen mirror sent accesses) = start.seen after sent accesses) :
    Shows start (Effect.update change) mirror () after :=
  fun sent accesses => ⟨accesses, congrArg (Prod.mk _) (changes sent accesses)⟩

theorem of_logging {program : ListenerM α} {answer : α}
    (ran : ∀ sent accesses, ∃ log, program (start.seen mirror sent accesses) =
      (.ok answer, (start.seen mirror sent accesses).logging log)) : Shows start program mirror answer mirror := by
  intro sent accesses
  obtain ⟨log, ran⟩ := ran sent accesses
  exact ⟨accesses ++ log, ran⟩

theorem ite_pos {condition : Prop} [Decidable condition] {yes no : ListenerM α} {answer : α} (holds : condition)
    (shows : Shows start yes mirror answer after) : Shows start (if condition then yes else no) mirror answer after := by
  rw [if_pos holds]
  exact shows

theorem ite_neg {condition : Prop} [Decidable condition] {yes no : ListenerM α} {answer : α} (fails : ¬ condition)
    (shows : Shows start no mirror answer after) : Shows start (if condition then yes else no) mirror answer after := by
  rw [if_neg fails]
  exact shows

end Shows

variable {config : Nat}

theorem configMirror_shows (there : start.config = some config) :
    Shows start configMirror mirror (start.configValue config 0) mirror :=
  .of_logging fun _ _ => ⟨_, configMirror_run there⟩

theorem configMirrorPage_shows (there : start.config = some config) :
    Shows start configMirrorPage mirror (start.mirrorPage config) mirror :=
  .of_logging fun _ _ => ⟨_, configMirrorPage_run there⟩

theorem checkAccess_shows (page : Nat) (accessType : MfUltralightListenerAccessType) :
    Shows start (mfUltralightListenerCheckAccess page accessType) mirror (start.accessAllowed page accessType) mirror :=
  .of_logging fun _ _ => ⟨_, mfUltralightListenerCheckAccess_run page accessType⟩

theorem readPage_shows (access : Nat → PageAccess) {index : Nat} (inside : index < 510) :
    Shows start (readPage access index) mirror (start.pageAt index) mirror :=
  .of_logging fun _ _ => ⟨_, readPage_run access inside⟩

def fillByte (text : List (BitVec 8)) (asciiEnd : Nat) (filled : MfUltralightPage × Nat) (j : Nat) :
    MfUltralightPage × Nat :=
  if filled.2 < asciiEnd then (filled.1.setIfInBounds j (text.getD filled.2 0), filled.2 + 1) else filled

theorem fillByte_range (text : List (BitVec 8)) (asciiEnd first count : Nat) (page : MfUltralightPage)
    (asciiOffset : Nat) (within : first + count ≤ 4) :
    (∀ j, byteAt ((List.range' first count).foldl (fillByte text asciiEnd) (page, asciiOffset)).1 j =
        if first ≤ j ∧ j < first + count ∧ asciiOffset + (j - first) < asciiEnd
        then text.getD (asciiOffset + (j - first)) 0 else byteAt page j) ∧
      ((List.range' first count).foldl (fillByte text asciiEnd) (page, asciiOffset)).2 =
        if asciiOffset < asciiEnd then min asciiEnd (asciiOffset + count) else asciiOffset := by
  induction count generalizing first page asciiOffset with
  | zero =>
    refine ⟨fun j => ?_, ?_⟩
    · rw [if_neg (by omega)]
      rfl
    · show asciiOffset = _
      split <;> omega
  | succ count next =>
    rw [List.range'_succ, List.foldl_cons]
    by_cases inside : asciiOffset < asciiEnd
    · have step : fillByte text asciiEnd (page, asciiOffset) first =
          (page.setIfInBounds first (text.getD asciiOffset 0), asciiOffset + 1) := if_pos inside
      obtain ⟨bytes, offset⟩ := next (first + 1) (page.setIfInBounds first (text.getD asciiOffset 0)) (asciiOffset + 1)
        (by omega)
      rw [step]
      refine ⟨fun j => ?_, ?_⟩
      · rw [bytes j]
        by_cases here : j = first
        · subst here
          rw [if_neg (by omega), if_pos (by omega), byteAt_setIfInBounds page (by omega), if_pos rfl, Nat.sub_self]
          rfl
        · rw [byteAt_setIfInBounds page (by omega), if_neg here]
          by_cases later : first + 1 ≤ j ∧ j < first + 1 + count ∧ asciiOffset + 1 + (j - (first + 1)) < asciiEnd
          · have place : asciiOffset + 1 + (j - (first + 1)) = asciiOffset + (j - first) := by omega
            rw [if_pos later, if_pos (by omega), place]
          · rw [if_neg later, if_neg (by omega)]
      · rw [offset]
        split <;> omega
    · have step : fillByte text asciiEnd (page, asciiOffset) first = (page, asciiOffset) := if_neg inside
      obtain ⟨bytes, offset⟩ := next (first + 1) page asciiOffset (by omega)
      rw [step]
      refine ⟨fun j => ?_, ?_⟩
      · rw [bytes j, if_neg (by omega), if_neg (by omega)]
      · rw [offset, if_neg inside, if_neg inside]

namespace MfUltralightListener
variable (instanc : MfUltralightListener)

/-- The page is among those that the read handler puts the text on. -/
def covers (mirror : MfUltralightMirrorMode) (page : Nat) : Prop :=
  mirror.enabled = true ∧ instanc.mirrorPage (instanc.config.getD 0) ≤ page ∧ page ≤ mirror.mirrorLastPage

instance (mirror : MfUltralightMirrorMode) (page : Nat) : Decidable (instanc.covers mirror page) := by
  unfold covers
  infer_instance

/-- The first byte of the page that the text takes. -/
def byteOffset (page : Nat) : Nat :=
  if instanc.mirrorPage (instanc.config.getD 0) < page then 0 else instanc.mirrorPlace (instanc.config.getD 0)

/-- The page `dest` after the read handler, and how far the text has come. -/
def filled (mirror : MfUltralightMirrorMode) (page : Nat) (dest : MfUltralightPage) : MfUltralightPage × Nat :=
  (List.range' (instanc.byteOffset page) (4 - instanc.byteOffset page)).foldl
    (fillByte mirror.asciiMirrorData mirror.asciiEnd) (dest, mirror.asciiOffset)

def mirrored (mirror : MfUltralightMirrorMode) (page : Nat) (dest : MfUltralightPage) : MfUltralightPage :=
  if instanc.covers mirror page then (instanc.filled mirror page dest).1 else dest

def mirrorAfter (mirror : MfUltralightMirrorMode) (page : Nat) (dest : MfUltralightPage) : MfUltralightMirrorMode :=
  if instanc.covers mirror page then { mirror with asciiOffset := (instanc.filled mirror page dest).2 } else mirror

theorem byteOffset_le (page : Nat) : instanc.byteOffset page ≤ 4 := by
  have place := mirrorPlace_lt instanc (instanc.config.getD 0)
  unfold byteOffset
  split <;> omega

end MfUltralightListener

theorem getByteOffset_shows (there : start.config = some config) (page : Nat) :
    Shows start (mfUltralightGetByteOffset page) mirror (start.byteOffset page) mirror := by
  have first : start.config.getD 0 = config := by rw [there]; rfl
  unfold MfUltralightListener.byteOffset
  rw [first]
  refine Shows.bind (configMirrorPage_shows there) ?_
  by_cases later : start.mirrorPage config < page
  · rw [if_pos later, if_pos later]
    exact .pure _
  · rw [if_neg later, if_neg later]
    exact Shows.bind (configMirror_shows there) (.pure _)

theorem mirrorReadHandler_shows (sound : mirror.enabled = true → ∃ config, start.config = some config) (page : Nat)
    (dest : MfUltralightPage) :
    Shows start (mfUltralightMirrorReadHandler page dest) mirror (start.mirrored mirror page dest)
      (start.mirrorAfter mirror page dest) := by
  unfold MfUltralightListener.mirrored MfUltralightListener.mirrorAfter
  refine Shows.bind (.observe fun _ _ => rfl) ?_
  by_cases enabled : mirror.enabled = true
  · obtain ⟨config, there⟩ := sound enabled
    have first : start.config.getD 0 = config := by rw [there]; rfl
    refine .ite_pos enabled (Shows.bind (configMirrorPage_shows there) ?_)
    by_cases among : start.mirrorPage config ≤ page ∧ page ≤ mirror.mirrorLastPage
    · have covered : start.covers mirror page := by
        rw [MfUltralightListener.covers, first]
        exact ⟨enabled, among⟩
      rw [if_pos covered, if_pos covered]
      refine .ite_pos among (Shows.bind (getByteOffset_shows there page) ?_)
      exact Shows.bind (.update fun _ _ => rfl) (.pure _)
    · have apart : ¬ start.covers mirror page := by
        rw [MfUltralightListener.covers, first]
        exact fun covered => among covered.2
      rw [if_neg apart, if_neg apart]
      exact .ite_neg among (.pure _)
  · have apart : ¬ start.covers mirror page := fun covered => enabled covered.1
    rw [if_neg apart, if_neg apart]
    exact .ite_neg enabled (.pure _)

/-- A page of a response, and what the next one begins with. -/
structure ShownPage where
  content : MfUltralightPage
  mirror : MfUltralightMirrorMode
  rollover : Nat

namespace MfUltralightListener
variable (instanc : MfUltralightListener) (doI2cPageCheck : Bool)

def readIndex (page rollover : Nat) : Nat :=
  if instanc.accessAllowed page .read then instanc.writeTarget page doI2cPageCheck % instanc.data.pagesTotal
  else rollover

/-- One round of `perform_read`. -/
def shownPage (mirror : MfUltralightMirrorMode) (page rollover : Nat) : ShownPage :=
  if visible instanc page doI2cPageCheck then
    let index := instanc.readIndex doI2cPageCheck page rollover
    { content := instanc.mirrored mirror (index % 256) (instanc.pageAt index)
      mirror := instanc.mirrorAfter mirror (index % 256) (instanc.pageAt index)
      rollover := if instanc.accessAllowed page .read then rollover else rollover + 1 }
  else ⟨zeroPage, mirror, rollover⟩

/-- The loop of `perform_read` from round `i` on. -/
def shownPages (startPage : Nat) :
    (rounds i : Nat) → (mirror : MfUltralightMirrorMode) → (rollover : Nat) → List MfUltralightPage × MfUltralightMirrorMode
  | 0, _, mirror, _ => ([], mirror)
  | rounds + 1, i, mirror, rollover =>
    let shown := instanc.shownPage doI2cPageCheck mirror (startPage + i) rollover
    let rest := shownPages startPage rounds (i + 1) shown.mirror shown.rollover
    (shown.content :: rest.1, rest.2)

end MfUltralightListener

/-- An image that has pages, and no more than there is room for. -/
structure Sized (instanc : MfUltralightListener) : Prop where
  some : 0 < instanc.data.pagesTotal
  few : instanc.data.pagesTotal ≤ 510

theorem mirrorAfter_enabled (start : MfUltralightListener) (mirror : MfUltralightMirrorMode) (page : Nat)
    (dest : MfUltralightPage) : (start.mirrorAfter mirror page dest).enabled = mirror.enabled := by
  unfold MfUltralightListener.mirrorAfter
  split <;> rfl

theorem readOnePage_shows (sized : Sized start) (sound : mirror.enabled = true → ∃ config, start.config = some config)
    (doI2cPageCheck : Bool) (page : Nat) {rollover : Nat} (early : rollover < 510) :
    Shows start (mfUltralightReadOnePage page rollover doI2cPageCheck) mirror
      ((start.shownPage doI2cPageCheck mirror page rollover).content,
        (start.shownPage doI2cPageCheck mirror page rollover).rollover)
      (start.shownPage doI2cPageCheck mirror page rollover).mirror := by
  refine Shows.bind (checkAccess_shows page .read) (Shows.bind (.data (·.type)) (Shows.bind .sector ?_))
  unfold MfUltralightListener.shownPage
  cases seen : visible start page doI2cPageCheck with
  | false =>
    have unseen := seen
    simp only [visible, Bool.and_eq_false_iff, Bool.not_eq_false'] at unseen
    by_cases invalid : (doI2cPageCheck &&
        !mfUltralightI2cValidatePages start.sector start.data.type page page) = true
    · exact .ite_pos invalid (.pure _)
    · exact .ite_neg invalid (.ite_pos (unseen.resolve_left invalid) (.pure _))
  | true =>
    have valid := seen
    simp only [visible, Bool.and_eq_true, Bool.not_eq_true'] at valid
    refine .ite_neg (by simp [valid.1]) (.ite_neg (by simp [valid.2]) ?_)
    refine Shows.bind (.data (·.pagesTotal)) (.ite_neg ?_ ?_)
    · have some : start.data.pagesTotal ≠ 0 := Nat.ne_of_gt sized.some
      simpa using fun _ => some
    have among : start.readIndex doI2cPageCheck page rollover < 510 := by
      unfold MfUltralightListener.readIndex
      split
      · have inside := Nat.mod_lt (start.writeTarget page doI2cPageCheck) sized.some
        have few := sized.few
        omega
      · exact early
    exact Shows.bind (readPage_shows .copied among) (Shows.bind (mirrorReadHandler_shows sound _ _) (.pure _))

theorem shownPage_enabled (start : MfUltralightListener) (mirror : MfUltralightMirrorMode) (doI2cPageCheck : Bool)
    (page rollover : Nat) : (start.shownPage doI2cPageCheck mirror page rollover).mirror.enabled = mirror.enabled := by
  unfold MfUltralightListener.shownPage
  split
  · exact mirrorAfter_enabled _ _ _ _
  · rfl

theorem shownPage_rollover (start : MfUltralightListener) (mirror : MfUltralightMirrorMode) (doI2cPageCheck : Bool)
    (page rollover : Nat) : (start.shownPage doI2cPageCheck mirror page rollover).rollover ≤ rollover + 1 := by
  unfold MfUltralightListener.shownPage
  split
  · dsimp only
    split <;> omega
  · exact Nat.le_succ _

theorem readLoop_shows (sized : Sized start) (sound : mirror.enabled = true → ∃ config, start.config = some config)
    (doI2cPageCheck : Bool) (startPage : Nat) {capacity rounds i rollover : Nat} (room : i + rounds ≤ capacity)
    (early : rollover + rounds ≤ 510) :
    Shows start (mfUltralightReadLoop capacity startPage doI2cPageCheck rounds i rollover) mirror
      ((start.shownPages doI2cPageCheck startPage rounds i mirror rollover).1.flatMap (·.toList))
      (start.shownPages doI2cPageCheck startPage rounds i mirror rollover).2 := by
  induction rounds generalizing i mirror rollover with
  | zero => exact .pure _
  | succ rounds next =>
    have later := shownPage_rollover start mirror doI2cPageCheck (startPage + i) rollover
    refine .ite_neg (by omega) (Shows.bind (readOnePage_shows sized sound doI2cPageCheck (startPage + i) (by omega)) ?_)
    refine Shows.bind (next ?_ (by omega) (by omega)) (.pure _)
    rw [shownPage_enabled]
    exact sound

theorem mirrorBoundariesLoop_shows {lastUserPage rounds maxByteOffset : Nat} {mode : MfUltralightMirrorConf}
    {again result : Bool} {last : MfUltralightListener} {sent : List Reply} {accesses : List PageAccess}
    (there : start.config = some config)
    (ran : mirrorBoundariesLoop lastUserPage rounds mode maxByteOffset again (start.seen mirror sent accesses) =
      (.ok result, last)) :
    Shows start (mirrorBoundariesLoop lastUserPage rounds mode maxByteOffset again) mirror result
      { mirror with actualMode := last.mirror.actualMode } := by
  induction rounds generalizing mirror mode maxByteOffset again accesses with
  | zero => cases ran
  | succ rounds next =>
    by_cases active : mode = .none
    · rw [mirrorBoundariesLoop, if_pos active] at ran ⊢
      cases ran
      exact .pure _
    intro sent' accesses'
    have found : (start.seen mirror sent accesses).config = some config := there
    have found' : (start.seen mirror sent' accesses').config = some config := there
    rw [mirrorBoundariesLoop_round found active] at ran
    rw [mirrorBoundariesLoop_round found' active]
    change (if start.mirrorPage config ≤ 3 then _ else if start.mirrorPage config < _ then _
      else if start.mirrorPage config = _ then _ else _) = _ at ran
    show ∃ after, (if start.mirrorPage config ≤ 3 then _ else if start.mirrorPage config < _ then _
      else if start.mirrorPage config = _ then _ else _) = _
    by_cases low : start.mirrorPage config ≤ 3
    · rw [if_pos low] at ran ⊢
      cases ran
      exact ⟨_, rfl⟩
    rw [if_neg low] at ran ⊢
    by_cases before : start.mirrorPage config < lastUserPage - mirrorMaxPageOffset mode
    · rw [if_pos before] at ran ⊢
      cases ran
      exact ⟨_, rfl⟩
    rw [if_neg before] at ran ⊢
    by_cases here : start.mirrorPage config = lastUserPage - mirrorMaxPageOffset mode
    · rw [if_pos here] at ran ⊢
      cases ran
      exact ⟨_, rfl⟩
    rw [if_neg here] at ran ⊢
    by_cases counts : mode = .uidCounter
    · subst counts
      have onward : mirrorBoundariesLoop lastUserPage rounds .uid 3 true
          (start.seen { mirror with actualMode := .uidCounter } sent (accesses ++ [.consulted config])) = _ := ran
      exact next onward _ _
    simp only [counts] at ran ⊢
    cases again with
    | true =>
      have onward : mirrorBoundariesLoop lastUserPage rounds mode maxByteOffset true
          (start.seen { mirror with actualMode := mode } sent (accesses ++ [.consulted config])) = _ := ran
      exact next onward _ _
    | false =>
      cases ran
      exact ⟨_, rfl⟩

theorem mirrorCheckMode_shows (there : start.config = some config) :
    Shows start mfUltralightMirrorCheckMode mirror (start.mirrorMode config) mirror :=
  .of_logging fun _ _ => mfUltralightMirrorCheckMode_run there

section
variable {result : Bool} {last : MfUltralightListener} {sent : List Reply} {accesses : List PageAccess}

theorem mirrorCheckBoundaries_shows (there : start.config = some config)
    (ran : mfUltralightMirrorCheckBoundaries (start.seen mirror sent accesses) = (.ok result, last)) :
    Shows start mfUltralightMirrorCheckBoundaries mirror result { mirror with actualMode := last.mirror.actualMode } := by
  have told : Shows start mfUltralightMirrorCheckMode mirror (start.mirrorMode config) mirror := mirrorCheckMode_shows there
  obtain ⟨log, mode⟩ := told sent accesses
  unfold mfUltralightMirrorCheckBoundaries at ran
  rw [Effect.observe_bind, Effect.bind_of_ok mode] at ran
  exact Shows.bind (.data fun data => mfUltralightGetConfigPageNum data.type - 2)
    (Shows.bind (mirrorCheckMode_shows there) (mirrorBoundariesLoop_shows there ran))

theorem setEnabled_shows (enabled : Bool) : Shows start (do
      Effect.update fun instanc => { instanc with mirror := { instanc.mirror with enabled := enabled } }
      Pure.pure enabled : ListenerM Bool) mirror enabled { mirror with enabled := enabled } :=
  Shows.bind (.update fun _ _ => rfl) (.pure _)

theorem mirrorEnabled_shows
    (ran : mfUltralightMirrorEnabled (start.seen mirror sent accesses) = (.ok result, last)) :
    Shows start mfUltralightMirrorEnabled mirror result
        { mirror with enabled := result, actualMode := last.mirror.actualMode } ∧
      (result = true → ∃ config, start.config = some config) := by
  have entered : mfUltralightMirrorEnabled (start.seen mirror sent accesses) =
      ((if (mfUltralightSupportFeature start.features [.asciiMirror] && start.config.isSome) = true then
        mfUltralightMirrorCheckBoundaries else Pure.pure false : ListenerM Bool) >>= fun enabled => do
          Effect.update fun instanc => { instanc with mirror := { instanc.mirror with enabled := enabled } }
          Pure.pure enabled) (start.seen mirror sent accesses) := rfl
  have configured : Shows start (Effect.observe (·.config)) mirror start.config mirror :=
    .data fun data => mfUltralightGetConfigPage data.type
  rw [entered] at ran
  by_cases mirrors : (mfUltralightSupportFeature start.features [.asciiMirror] && start.config.isSome) = true
  · rw [if_pos mirrors, Effect.bind_run] at ran
    have some : start.config.isSome = true := (Bool.and_eq_true_iff.mp mirrors).2
    obtain ⟨config, there⟩ := Option.isSome_iff_exists.mp some
    rcases checked : mfUltralightMirrorCheckBoundaries (start.seen mirror sent accesses) with ⟨outcome, checkedLast⟩
    rw [checked] at ran
    cases outcome with
    | error error => cases ran
    | ok enabled =>
      cases ran
      have checkedShows : Shows start (if (mfUltralightSupportFeature start.features [.asciiMirror] &&
          start.config.isSome) = true then mfUltralightMirrorCheckBoundaries else Pure.pure false) mirror result
          { mirror with actualMode := checkedLast.mirror.actualMode } :=
        .ite_pos mirrors (mirrorCheckBoundaries_shows there checked)
      exact ⟨Shows.bind (.supports _) (Shows.bind configured (Shows.bind checkedShows (setEnabled_shows result))),
        fun _ => ⟨config, there⟩⟩
  · rw [if_neg mirrors] at ran
    cases ran
    have unchecked : Shows start (if (mfUltralightSupportFeature start.features [.asciiMirror] &&
        start.config.isSome) = true then mfUltralightMirrorCheckBoundaries else Pure.pure false) mirror false mirror :=
      .ite_neg mirrors (.pure _)
    exact ⟨Shows.bind (.supports _) (Shows.bind configured (Shows.bind unchecked (setEnabled_shows false))),
      fun absent => absurd absent Bool.false_ne_true⟩

end

/-! ## The commands -/

namespace MfUltralightListener
variable (instanc : MfUltralightListener)

/-- How far the text has come when a read begins. -/
def startOffset (config startPage : Nat) : Nat :=
  let first := if mirrorConf (instanc.configValue config 0) = .counter then 15 else 0
  if instanc.mirrorPage config < startPage then
    ((startPage - instanc.mirrorPage config) * 4 - instanc.mirrorPlace config + first) % 256
  else first

/-- The mirror with which a read begins. -/
def preparedMirror (config : Nat) (mode : MfUltralightMirrorConf) (startPage : Nat) : MfUltralightMirrorMode where
  enabled := true
  asciiOffset := instanc.startOffset config startPage
  asciiEnd := mfUltralightGetAsciiEnd mode
  mirrorLastPage := (instanc.mirrorPage config + 1 + mfUltralightGetMirrorDataSize mode / 4) % 256
  actualMode := mode
  asciiMirrorData := instanc.mirror.asciiMirrorData

end MfUltralightListener

theorem getAsciiOffset_shows (there : start.config = some config) (startPage : Nat) :
    Shows start (mfUltralightGetAsciiOffset startPage) mirror (start.startOffset config startPage) mirror := by
  refine Shows.bind (configMirror_shows there) (Shows.bind (configMirrorPage_shows there) ?_)
  unfold MfUltralightListener.startOffset
  by_cases later : start.mirrorPage config < startPage
  · simp only [later]
    exact .pure _
  · simp only [later]
    exact .pure _

section
variable {last : MfUltralightListener}

theorem seen_self (instanc : MfUltralightListener) :
    instanc.seen instanc.mirror instanc.sent instanc.accesses = instanc := rfl

theorem readPrepare_on (there : start.config = some config)
    (ran : mfUltralightMirrorEnabled start = (.ok true, last)) (startPage : Nat) :
    Shows start (mfUltralightMirrorReadPrepare startPage) start.mirror ()
      (start.preparedMirror config last.mirror.actualMode startPage) := by
  obtain ⟨enabled, -⟩ := mirrorEnabled_shows (seen_self start ▸ ran)
  refine Shows.bind enabled (.ite_pos rfl ?_)
  refine Shows.bind (getAsciiOffset_shows there startPage) (Shows.bind (.observe fun _ _ => rfl) ?_)
  refine Shows.bind (Shows.bind (.observe fun _ _ => rfl) (Shows.bind (configMirrorPage_shows there) (.pure _))) ?_
  exact .update fun _ _ => rfl

theorem readPrepare_off (ran : mfUltralightMirrorEnabled start = (.ok false, last)) (startPage : Nat) :
    Shows start (mfUltralightMirrorReadPrepare startPage) start.mirror ()
      { start.mirror with enabled := false, actualMode := last.mirror.actualMode } := by
  obtain ⟨disabled, -⟩ := mirrorEnabled_shows (seen_self start ▸ ran)
  exact Shows.bind disabled (.ite_neg Bool.false_ne_true (.pure _))

theorem readPrepare_known {result : Bool} (ran : mfUltralightMirrorEnabled start = (.ok result, last))
    (startPage : Nat) :
    ∃ prepared, Shows start (mfUltralightMirrorReadPrepare startPage) start.mirror () prepared ∧
      (prepared.enabled = true → ∃ config, start.config = some config) := by
  cases result with
  | true =>
    obtain ⟨-, found⟩ := mirrorEnabled_shows (seen_self start ▸ ran)
    obtain ⟨config, there⟩ := found rfl
    exact ⟨_, readPrepare_on there ran startPage, fun _ => ⟨config, there⟩⟩
  | false => exact ⟨_, readPrepare_off ran startPage, fun enabled => absurd enabled Bool.false_ne_true⟩

end

theorem singleCounterTryIncrease_sends (instanc : MfUltralightListener) :
    Effect.Yields mfUltralightSingleCounterTryIncrease (fun _ after => after.sent = instanc.sent) instanc := by
  unfold mfUltralightSingleCounterTryIncrease supports
  rw [Effect.Yields.bind_iff, Effect.Yields.observe_iff]
  by_cases supported : mfUltralightSupportFeature instanc.features [.singleCounter] = true
  · obtain ⟨config, there⟩ := config_of_singleCounter supported
    rw [if_pos supported, Effect.Yields.bind_iff, Effect.Yields.iff_of_ok (configAccess_run there),
      Effect.Yields.bind_iff, Effect.Yields.observe_iff]
    split
    · rw [Effect.Yields.bind_iff, Effect.Yields.update_iff]
      split <;> rfl
    · rfl
  · rw [if_neg supported]
    rfl

section
variable {prepared : MfUltralightMirrorMode} {startPage count : Nat} {doI2cPageCheck : Bool}

def MfUltralightListener.shownBytes (instanc : MfUltralightListener) (doI2cPageCheck : Bool) (startPage count : Nat)
    (prepared : MfUltralightMirrorMode) : List (BitVec 8) :=
  (instanc.shownPages doI2cPageCheck startPage count 0 prepared 0).1.flatMap (·.toList)

theorem shownBytes_begins (instanc : MfUltralightListener) (doI2cPageCheck : Bool) (startPage count : Nat)
    (prepared : MfUltralightMirrorMode) :
    ∃ rest, instanc.shownBytes doI2cPageCheck startPage (count + 1) prepared =
      (instanc.shownPage doI2cPageCheck prepared startPage 0).content.toList ++ rest := ⟨_, List.flatMap_cons⟩

theorem performRead_shows (sized : Sized start)
    (prepares : Shows start (mfUltralightMirrorReadPrepare startPage) start.mirror () prepared)
    (sound : prepared.enabled = true → ∃ config, start.config = some config) {capacity : Nat}
    (room : count ≤ capacity) (small : capacity ≤ 64) (accesses : List PageAccess) :
    Effect.Yields (mfUltralightListenerPerformRead capacity startPage count doI2cPageCheck)
      (fun pages after => pages = start.shownBytes doI2cPageCheck startPage count prepared ∧ after.sent = start.sent)
      (start.seen start.mirror start.sent accesses) := by
  obtain ⟨log, ran⟩ := prepares start.sent accesses
  have within : 0 + count ≤ capacity := by omega
  have early : 0 + count ≤ 510 := by omega
  obtain ⟨log', looped⟩ := readLoop_shows sized sound doI2cPageCheck startPage within early start.sent log
  unfold mfUltralightListenerPerformRead
  rw [Effect.Yields.bind_iff, Effect.Yields.iff_of_ok ran, Effect.Yields.bind_iff, Effect.Yields.iff_of_ok looped]
  exact Effect.Yields.bind (singleCounterTryIncrease_sends _) fun _ _ kept => ⟨rfl, kept⟩

theorem shownPages_length (start : MfUltralightListener) (doI2cPageCheck : Bool) (startPage rounds i : Nat)
    (mirror : MfUltralightMirrorMode) (rollover : Nat) :
    (start.shownPages doI2cPageCheck startPage rounds i mirror rollover).1.length = rounds := by
  induction rounds generalizing i mirror rollover with
  | zero => rfl
  | succ rounds next => exact congrArg Nat.succ (next _ _ _)

theorem shownBytes_length (start : MfUltralightListener) (doI2cPageCheck : Bool) (startPage count : Nat)
    (prepared : MfUltralightMirrorMode) : (start.shownBytes doI2cPageCheck startPage count prepared).length = count * 4 := by
  have four (pages : List MfUltralightPage) : (pages.flatMap (·.toList)).length = pages.length * 4 := by
    induction pages with
    | nil => rfl
    | cons page rest next => simp [next, Nat.add_mul, Nat.add_comm]
  unfold MfUltralightListener.shownBytes
  rw [four, shownPages_length]

theorem performRead_sends (sized : Sized start)
    (prepares : Shows start (mfUltralightMirrorReadPrepare startPage) start.mirror () prepared)
    (sound : prepared.enabled = true → ∃ config, start.config = some config) {capacity : Nat}
    (room : count ≤ capacity) (small : capacity ≤ 64) (log : List PageAccess) :
    Effect.Yields (do
        let pages ← mfUltralightListenerPerformRead capacity startPage count doI2cPageCheck
        sendStandardFrame pages
        Pure.pure MfUltralightCommand.processed)
      (fun answer after => answer = .processed ∧
        after.sent = start.sent ++ [.standardFrame (start.shownBytes doI2cPageCheck startPage count prepared)])
      (start.logging log) := by
  refine Effect.Yields.bind (performRead_shows sized prepares sound room small (start.accesses ++ log)) ?_
  rintro pages after ⟨rfl, kept⟩
  have short : ¬ (start.shownBytes doI2cPageCheck startPage count prepared).length > 256 := by
    rw [shownBytes_length]
    omega
  unfold sendStandardFrame
  rw [if_neg short]
  exact ⟨rfl, congrArg (· ++ _) kept⟩

theorem readPageHandler_sends (sized : Sized start) {buffer : Frame} (named : (buffer.byte 1).toNat = startPage)
    (inRange : pageInRange start startPage = true) (access : start.accessAllowed startPage .read = true)
    (prepares : Shows start (mfUltralightMirrorReadPrepare startPage) start.mirror () prepared)
    (sound : prepared.enabled = true → ∃ config, start.config = some config) :
    Effect.Yields (mfUltralightListenerReadPageHandler buffer)
      (fun answer after => answer = .processed ∧ after.sent = start.sent ++
        [.standardFrame (start.shownBytes (mfUltralightIsI2cTag start.data.type) startPage 4 prepared)]) start := by
  unfold mfUltralightListenerReadPageHandler
  simp only [named, Effect.Yields.bind_iff, Effect.Yields.observe_iff]
  unfold pageInRange at inRange
  have valid : ¬ (mfUltralightIsI2cTag start.data.type &&
      !mfUltralightI2cValidatePages start.sector start.data.type startPage startPage) = true := by
    split at inRange <;> simp_all
  have within : ¬ (!mfUltralightIsI2cTag start.data.type && decide (start.data.pagesTotal < startPage)) = true := by
    split at inRange <;> simp_all
  rw [if_neg valid, if_neg within, Effect.Yields.bind_iff,
    Effect.Yields.iff_of_ok (mfUltralightListenerCheckAccess_run startPage .read), access]
  exact performRead_sends sized prepares sound (Nat.le_refl 4) (by decide) _

theorem readPageHandler_refuses {buffer : Frame} (named : (buffer.byte 1).toNat = startPage)
    (refused : (pageInRange start startPage && start.accessAllowed startPage .read) = false) :
    Effect.Yields (mfUltralightListenerReadPageHandler buffer)
      (fun answer after => answer = .notProcessedNAK ∧ after.sent = start.sent) start := by
  unfold mfUltralightListenerReadPageHandler
  simp only [named, Effect.Yields.bind_iff, Effect.Yields.observe_iff]
  by_cases invalid : (mfUltralightIsI2cTag start.data.type &&
      !mfUltralightI2cValidatePages start.sector start.data.type startPage startPage) = true
  · rw [if_pos invalid]
    exact ⟨rfl, rfl⟩
  by_cases beyond : (!mfUltralightIsI2cTag start.data.type && decide (start.data.pagesTotal < startPage)) = true
  · rw [if_neg invalid, if_pos beyond]
    exact ⟨rfl, rfl⟩
  have inRange : pageInRange start startPage = true := by
    unfold pageInRange
    split <;> simp_all
  have access : start.accessAllowed startPage .read = false := by simpa [inRange] using refused
  rw [if_neg invalid, if_neg beyond, Effect.Yields.bind_iff,
    Effect.Yields.iff_of_ok (mfUltralightListenerCheckAccess_run startPage .read), access]
  exact ⟨rfl, rfl⟩

theorem fastReadHandler_sends (sized : Sized start) {buffer : Frame} {endPage : Nat}
    (first : (buffer.byte 1).toNat = startPage) (last : (buffer.byte 2).toNat = endPage)
    (supported : mfUltralightSupportFeature start.features [.fastRead] = true)
    (inRange : pagesInRange start startPage endPage = true) (access : start.accessAllowed endPage .read = true)
    (few : endPage - startPage < 64)
    (prepares : Shows start (mfUltralightMirrorReadPrepare startPage) start.mirror () prepared)
    (sound : prepared.enabled = true → ∃ config, start.config = some config) :
    Effect.Yields (mfUltralightListenerFastReadHandler buffer)
      (fun answer after => answer = .processed ∧ after.sent = start.sent ++ [.standardFrame (start.shownBytes
        (mfUltralightIsI2cTag start.data.type) startPage (endPage - startPage + 1) prepared)]) start := by
  unfold mfUltralightListenerFastReadHandler supports
  simp only [first, last, Effect.Yields.bind_iff, Effect.Yields.observe_iff]
  obtain ⟨inRange, ordered⟩ := Bool.and_eq_true_iff.mp inRange
  have ordered : startPage ≤ endPage := of_decide_eq_true ordered
  have valid : ¬ (mfUltralightIsI2cTag start.data.type &&
      !mfUltralightI2cValidatePages start.sector start.data.type startPage endPage) = true := by
    split at inRange <;> simp_all
  have within : ¬ (!mfUltralightIsI2cTag start.data.type &&
      decide ((endPage : Int) > (start.data.pagesTotal : Int) - 1)) = true := by
    split at inRange
    · simp_all
    · have below : endPage < start.data.pagesTotal := of_decide_eq_true inRange
      simp only [Bool.and_eq_true, decide_eq_true_eq]
      omega
  have begins := accessAllowed_read_below ordered access
  have few : (endPage - startPage + 1) % 256 = endPage - startPage + 1 := Nat.mod_eq_of_lt (by omega)
  rw [if_neg (by simp [supported])]
  simp only [Effect.Yields.bind_iff, Effect.Yields.observe_iff]
  rw [if_neg valid, if_neg within, if_neg (Nat.not_lt_of_le ordered), Effect.Yields.bind_iff,
    Effect.Yields.iff_of_ok (mfUltralightListenerCheckAccess_run startPage .read), begins,
    if_neg (by decide), Effect.Yields.bind_iff,
    Effect.Yields.iff_of_ok (mfUltralightListenerCheckAccess_run endPage .read)]
  rw [MfUltralightListener.logging_accessAllowed, access, few, MfUltralightListener.logging_logging]
  exact performRead_sends sized prepares sound (by omega) (Nat.le_refl 64) _

end

section
variable {instanc : MfUltralightListener}

theorem handleFrame_command {handler : MfUltralightListenerCmdHandler} (member : handler ∈ mfUltralightCommand)
    {buffer : Frame} (fits : handler.Fits buffer) (first : start.compositeCmd.callback = none) :
    mfUltralightListenerHandleFrame buffer start = handler.callback buffer start := by
  unfold mfUltralightListenerHandleFrame
  rw [Effect.observe_bind, first]
  rw [runCommands_of_mem mfUltralightCommand_distinct member fits]

theorem mfUltralightListenerRun_sends {handler : MfUltralightListenerCmdHandler}
    (member : handler ∈ mfUltralightCommand) {buffer : Frame} (fits : handler.Fits buffer)
    (first : instanc.compositeCmd.callback = none) {answer : MfUltralightCommand} {bytes : List Reply}
    (handled : Effect.Yields (handler.callback buffer)
      (fun given after => given = answer ∧ after.sent = bytes) instanc.cleared) :
    (mfUltralightListenerRun (.receivedStandardFrame buffer) instanc).1 = .ok (nfcCommandOf answer) ∧
      (mfUltralightListenerRun (.receivedStandardFrame buffer) instanc).2.sent = bytes ++ ownReply answer := by
  have first : instanc.cleared.compositeCmd.callback = none := first
  rw [mfUltralightListenerRun_frame, handleFrame_command member fits first]
  unfold Effect.Yields at handled
  rcases ran : handler.callback buffer instanc.cleared with ⟨outcome, after⟩
  rw [ran] at handled
  cases outcome with
  | error error => exact handled.elim
  | ok given =>
    obtain ⟨rfl, rfl⟩ := handled
    exact ⟨rfl, rfl⟩

end

end

end Xtreme.Nfc
