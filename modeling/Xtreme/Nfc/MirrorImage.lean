import Xtreme.Nfc.UltralightSecrets
import Xtreme.Nfc.UltralightShown
import Xtreme.Nfc.UltralightSteps

/-! The image that the ASCII mirror makes of the memory: `UID x counter` stands in it, and reads show
slices of it, wherever they begin. -/
namespace Xtreme.Nfc
open Xtreme.Library BitLib
open Effect (fault observe update Reaches)

def counterBytes (counter : BitVec 32) : List (BitVec 8) :=
  [counter.extractLsb' 16 8, counter.extractLsb' 8 8, counter.extractLsb' 0 8]

theorem lastCounter : 2 < 3 := by decide

/-- `UID x counter`. -/
def mirrorText (data : MfUltralightData) : List (BitVec 8) :=
  mfUltralightFormatMirrorData (data.iso14443_3aData.uid.toList.take data.iso14443_3aData.uidLen) ++ [0x78#8] ++
    mfUltralightFormatMirrorData (counterBytes (data.counter.get ⟨2, lastCounter⟩))

def shownText (data : MfUltralightData) : MfUltralightMirrorConf → List (BitVec 8)
  | .none => []
  | .counter => mfUltralightFormatMirrorData (counterBytes (data.counter.get ⟨2, lastCounter⟩))
  | mode => (mirrorText data).take (mfUltralightGetMirrorDataSize mode)

theorem length_formatMirrorData (data : List (BitVec 8)) : (mfUltralightFormatMirrorData data).length = data.length * 2 := by
  unfold mfUltralightFormatMirrorData
  induction data with
  | nil => rfl
  | cons byte rest next =>
    rw [List.flatMap_cons, List.length_append, next]
    show 2 + rest.length * 2 = (rest.length + 1) * 2
    omega

section
variable {data : MfUltralightData}

theorem length_serialText (seven : data.iso14443_3aData.uidLen = 7) :
    (mfUltralightFormatMirrorData (data.iso14443_3aData.uid.toList.take data.iso14443_3aData.uidLen) ++
      [0x78#8]).length = 15 := by
  rw [List.length_append, length_formatMirrorData, seven]
  simp

theorem length_mirrorText (seven : data.iso14443_3aData.uidLen = 7) : (mirrorText data).length = 21 := by
  unfold mirrorText
  rw [List.length_append, length_serialText seven]
  rfl

structure MirrorTold (serial : Iso14443_3aData) (instanc : MfUltralightListener) : Prop where
  serial : instanc.data.iso14443_3aData = serial
  counts : mfUltralightSupportFeature instanc.features [.incCounter] = false
  text : instanc.mirror.asciiMirrorData = mirrorText instanc.data

theorem mirrorTold_step {serial : Iso14443_3aData} (seven : serial.uidLen = 7) {instanc after : MfUltralightListener}
    (told : MirrorTold serial instanc) (step : ListenerStep instanc after) : MirrorTold serial after := by
  obtain ⟨same, counts, text⟩ := told
  cases step with
  | counted counter =>
    refine ⟨same, counts, ?_⟩
    have length : instanc.data.iso14443_3aData.uidLen * 2 + 1 = 15 := by rw [same, seven]
    show instanc.mirror.asciiMirrorData.take (instanc.data.iso14443_3aData.uidLen * 2 + 1) ++ _ = _
    rw [text, length, mirrorText, List.take_left' (length_serialText (by rw [same, seven]))]
    rfl
  | counter supported counter => exact absurd supported (by rw [counts]; exact Bool.false_ne_true)
  | mirror mirror kept => exact ⟨same, counts, kept.trans text⟩
  | accessed access => exact ⟨same, counts, text⟩
  | setPage index page => exact ⟨same, counts, text⟩
  | replies sent => exact ⟨same, counts, text⟩
  | singleCounterIncreased increased => exact ⟨same, counts, text⟩
  | authAttempts attempts => exact ⟨same, counts, text⟩
  | authState authState => exact ⟨same, counts, text⟩
  | compositeCmd compositeCmd => exact ⟨same, counts, text⟩
  | sector sector => exact ⟨same, counts, text⟩

theorem reaches_mirrorTold (seven : data.iso14443_3aData.uidLen = 7)
    (counts : mfUltralightSupportFeature (mfUltralightGetFeatureSupportSet data.type) [.incCounter] = false)
    {guard : Iso14443_3aListenerEvent → MfUltralightListener → Prop} {events : List Iso14443_3aListenerEvent}
    {instanc : MfUltralightListener}
    (run : Reaches mfUltralightListenerRun guard (mfUltralightListenerAlloc data) events instanc) :
    MirrorTold data.iso14443_3aData instanc := by
  refine reaches_stepwise (fun _ _ => mirrorTold_step seven) (fun _ told => ⟨told.serial, told.counts, told.text⟩) ?_ run
  refine ⟨rfl, counts, ?_⟩
  have length : data.iso14443_3aData.uidLen * 2 + 1 = 15 := by rw [seven]
  show (_ ++ [0x78#8]).take (data.iso14443_3aData.uidLen * 2 + 1) ++ _ = _
  rw [length, List.take_of_length_le (Nat.le_of_eq (length_serialText seven))]
  rfl

end

def splice (text : List (BitVec 8)) (place : Nat) (memory : Nat → BitVec 8) (address : Nat) : BitVec 8 :=
  if place ≤ address ∧ address < place + text.length then text.getD (address - place) 0 else memory address

namespace MfUltralightListener
variable (instanc : MfUltralightListener)

def memoryByte (address : Nat) : BitVec 8 := byteAt (instanc.pageAt (address / 4)) (address % 4)

/-- The page of the image, with the password and its answer blanked. After the last page the image
begins anew. -/
def imagePage (config : Nat) (mode : MfUltralightMirrorConf) (page : Nat) : MfUltralightPage :=
  if mfUltralightIsPagePwdOrPack instanc.data.type page then zeroPage
  else Vector.ofFn fun j : Fin 4 =>
    splice (shownText instanc.data mode) (instanc.mirrorPage config * 4 + instanc.mirrorPlace config)
      instanc.memoryByte (page % instanc.data.pagesTotal * 4 + j)

def imageSlice (config : Nat) (mode : MfUltralightMirrorConf) (startPage count : Nat) : List (BitVec 8) :=
  (List.range' startPage count).flatMap fun page => (instanc.imagePage config mode page).toList

def textOffset (config : Nat) (mode : MfUltralightMirrorConf) (page : Nat) : Nat :=
  (if mode = .counter then 15 else 0) + ((page - instanc.mirrorPage config) * 4 - instanc.mirrorPlace config)

end MfUltralightListener

theorem splice_outside {text : List (BitVec 8)} {place address : Nat} (memory : Nat → BitVec 8)
    (outside : address < place ∨ place + text.length ≤ address) : splice text place memory address = memory address :=
  if_neg (by omega)

theorem byteAt_ofFn (bytes : Fin 4 → BitVec 8) {j : Nat} (inside : j < 4) :
    byteAt (Vector.ofFn bytes) j = bytes ⟨j, inside⟩ := by
  simp [byteAt, inside]

theorem page_ext {first second : MfUltralightPage} (same : ∀ j < 4, byteAt first j = byteAt second j) : first = second := by
  apply Vector.ext
  intro j inside
  have bytes := same j inside
  simpa [byteAt, inside] using bytes

structure MirrorStands (instanc : MfUltralightListener) (config : Nat) (mode : MfUltralightMirrorConf) : Prop where
  user : 3 < instanc.mirrorPage config
  behind : instanc.mirrorPage config + mirrorMaxPageOffset mode ≤ config - 2
  active : mode ≠ .none
  counts : mirrorConf (instanc.configValue config 0) = .counter ↔ mode = .counter

theorem mirrorMode_counter {instanc : MfUltralightListener} {config : Nat} (active : instanc.mirrorMode config ≠ .none) :
    instanc.mirrorMode config = .counter ↔ mirrorConf (instanc.configValue config 0) = .counter := by
  unfold MfUltralightListener.mirrorMode at active ⊢
  generalize mirrorConf (instanc.configValue config 0) = conf at active ⊢
  cases conf with
  | none => exact absurd rfl active
  | uid => exact Iff.rfl
  | counter =>
    rw [if_neg (by decide)] at active ⊢
    split
    · rename_i disabled
      rw [if_pos disabled] at active
      exact absurd rfl active
    · exact Iff.rfl
  | uidCounter =>
    rw [if_neg (by decide)]
    split <;> exact ⟨fun counter => (by cases counter), fun counter => (by cases counter)⟩

theorem mirrorStands_of_enabled {instanc after : MfUltralightListener} {config : Nat}
    (there : instanc.config = some config) (ran : mfUltralightMirrorEnabled instanc = (.ok true, after)) :
    MirrorStands instanc config after.mirror.actualMode := by
  have entered : mfUltralightMirrorEnabled instanc =
      ((if (mfUltralightSupportFeature instanc.features [.asciiMirror] && instanc.config.isSome) = true then
        mfUltralightMirrorCheckBoundaries else Pure.pure false : ListenerM Bool) >>= fun enabled => do
          update fun instanc => { instanc with mirror := { instanc.mirror with enabled := enabled } }
          Pure.pure enabled) instanc := rfl
  rw [entered] at ran
  by_cases mirrors : (mfUltralightSupportFeature instanc.features [.asciiMirror] && instanc.config.isSome) = true
  · rw [if_pos mirrors, Effect.bind_run] at ran
    obtain ⟨found, low, -⟩ := config_of_asciiMirror (Bool.and_eq_true_iff.mp mirrors).1
    have last : mfUltralightGetConfigPageNum instanc.data.type = config := Option.some.inj (found.symm.trans there)
    obtain ⟨log, rounds⟩ := boundariesWithin_run there 3
    rw [mfUltralightMirrorCheckBoundaries_rounds, rounds, last] at ran
    rcases checked : mirrorBoundariesLoop (config - 2) 3 (instanc.mirrorMode config) 2 false (instanc.logging log)
      with ⟨outcome, ended⟩
    rw [checked] at ran
    cases outcome with
    | error error => cases ran
    | ok enabled =>
      cases ran
      have active : instanc.mirrorMode config ≠ .none := by
        intro none
        rw [mirrorBoundariesLoop, if_pos none] at checked
        cases checked
      have looked : (instanc.logging log).config = some config := there
      obtain ⟨log', actual, rfl, chosen, stands⟩ := mirrorBoundariesLoop_ends looked active checked
      obtain ⟨user, place⟩ := stands rfl
      have counts := mirrorMode_counter active
      refine ⟨user, ?_, ?_, ?_⟩
      · show instanc.mirrorPage config + mirrorMaxPageOffset actual ≤ config - 2
        change 3 < instanc.mirrorPage config at user
        change instanc.mirrorPage config < _ ∨ instanc.mirrorPage config = _ ∧ _ at place
        omega
      · show actual ≠ .none
        rcases chosen with rfl | ⟨-, rfl, -⟩
        · exact active
        · decide
      · rcases chosen with rfl | ⟨both, rfl, -⟩
        · exact counts.symm
        · rw [both] at counts
          rw [← counts]
          exact ⟨fun counter => (by cases counter), fun counter => (by cases counter)⟩
  · rw [if_neg mirrors] at ran
    cases ran

/-! ## One page -/

def firstCharacter (mode : MfUltralightMirrorConf) : Nat := if mode = .counter then 15 else 0

theorem MirrorStands.firstCharacter {instanc : MfUltralightListener} {config : Nat} {mode : MfUltralightMirrorConf}
    (stands : MirrorStands instanc config mode) :
    (if mirrorConf (instanc.configValue config 0) = .counter then 15 else 0) = firstCharacter mode := by
  rw [Nfc.firstCharacter]
  by_cases counts : mode = .counter
  · rw [if_pos counts, if_pos (stands.counts.mpr counts)]
  · rw [if_neg counts, if_neg fun counter => counts (stands.counts.mp counter)]

theorem asciiEnd_eq {mode : MfUltralightMirrorConf} (active : mode ≠ .none) :
    mfUltralightGetAsciiEnd mode = firstCharacter mode + mfUltralightGetMirrorDataSize mode := by
  cases mode with
  | none => exact absurd rfl active
  | uid => rfl
  | counter => rfl
  | uidCounter => rfl

theorem mirrorDataSize_pages (mode : MfUltralightMirrorConf) :
    mfUltralightGetMirrorDataSize mode / 4 = mirrorMaxPageOffset mode := by
  cases mode <;> rfl

theorem mirrorMaxPageOffset_le (mode : MfUltralightMirrorConf) : mirrorMaxPageOffset mode ≤ 5 := by
  cases mode <;> decide

theorem firstCharacter_le (mode : MfUltralightMirrorConf) : firstCharacter mode ≤ 15 := by
  cases mode <;> decide

theorem shownText_length {data : MfUltralightData} (seven : data.iso14443_3aData.uidLen = 7)
    (mode : MfUltralightMirrorConf) : (shownText data mode).length = mfUltralightGetMirrorDataSize mode := by
  have whole := length_mirrorText seven
  cases mode with
  | none => rfl
  | uid =>
    show ((mirrorText data).take 14).length = 14
    rw [List.length_take, whole]
    rfl
  | counter => exact length_formatMirrorData _
  | uidCounter =>
    show ((mirrorText data).take 21).length = 21
    rw [List.length_take, whole]
    rfl

theorem shownText_getD {data : MfUltralightData} (seven : data.iso14443_3aData.uidLen = 7)
    {mode : MfUltralightMirrorConf} {k : Nat} (inside : k < mfUltralightGetMirrorDataSize mode) :
    (shownText data mode).getD k 0 = (mirrorText data).getD (firstCharacter mode + k) 0 := by
  have taken (count : Nat) (among : k < count) :
      ((mirrorText data).take count).getD k 0 = (mirrorText data).getD (0 + k) 0 := by
    rw [Nat.zero_add, List.getD_eq_getElem?_getD, List.getElem?_take_of_lt among, ← List.getD_eq_getElem?_getD]
  cases mode with
  | none => exact absurd inside (Nat.not_lt_zero k)
  | uid => exact taken 14 inside
  | uidCounter => exact taken 21 inside
  | counter =>
    have serial := length_serialText seven
    show _ = (mirrorText data).getD (15 + k) 0
    rw [mirrorText, List.getD_eq_getElem?_getD, List.getD_eq_getElem?_getD,
      List.getElem?_append_right (by omega), serial, Nat.add_sub_cancel_left]
    rfl

theorem memoryByte_page (instanc : MfUltralightListener) (index : Nat) {j : Nat} (inside : j < 4) :
    instanc.memoryByte (index * 4 + j) = byteAt (instanc.pageAt index) j := by
  have page : (index * 4 + j) / 4 = index := by omega
  have place : (index * 4 + j) % 4 = j := by omega
  rw [MfUltralightListener.memoryByte, page, place]

/-- The mirror before a page is read. Behind its last page the offset does not matter any more. -/
structure Showing (start : MfUltralightListener) (config : Nat) (mode : MfUltralightMirrorConf) (page : Nat)
    (mirror : MfUltralightMirrorMode) : Prop where
  enabled : mirror.enabled = true
  asciiEnd : mirror.asciiEnd = mfUltralightGetAsciiEnd mode
  lastPage : mirror.mirrorLastPage = start.mirrorPage config + 1 + mirrorMaxPageOffset mode
  text : mirror.asciiMirrorData = mirrorText start.data
  offset : page < start.data.pagesTotal → page ≤ start.mirrorPage config + 1 + mirrorMaxPageOffset mode →
    min mirror.asciiEnd mirror.asciiOffset = min mirror.asciiEnd (start.textOffset config mode page)

section
variable {start : MfUltralightListener} {config : Nat} {mode : MfUltralightMirrorConf} {page : Nat}
  {mirror : MfUltralightMirrorMode}

theorem covers_iff (there : start.config = some config) (showing : Showing start config mode page mirror) (index : Nat) :
    start.covers mirror index ↔
      start.mirrorPage config ≤ index ∧ index ≤ start.mirrorPage config + 1 + mirrorMaxPageOffset mode := by
  have first : start.config.getD 0 = config := by rw [there]; rfl
  rw [MfUltralightListener.covers, first, showing.lastPage]
  exact ⟨fun covered => covered.2, fun among => ⟨showing.enabled, among⟩⟩

theorem imagePage_apart (seven : start.data.iso14443_3aData.uidLen = 7)
    (plain : mfUltralightIsPagePwdOrPack start.data.type page = false)
    (apart : page % start.data.pagesTotal < start.mirrorPage config ∨
      start.mirrorPage config + 1 + mirrorMaxPageOffset mode < page % start.data.pagesTotal) :
    start.imagePage config mode page = start.pageAt (page % start.data.pagesTotal) := by
  have place := mirrorPlace_lt start config
  have pages := mirrorDataSize_pages mode
  have length := shownText_length seven mode
  refine page_ext fun j inside => ?_
  rw [MfUltralightListener.imagePage, plain, if_neg Bool.false_ne_true, byteAt_ofFn _ inside, splice_outside,
    memoryByte_page start _ inside]
  omega

theorem config_of_secret (there : start.config = some config)
    (secret : mfUltralightIsPagePwdOrPack start.data.type page = true) : config + 2 ≤ page := by
  obtain ⟨first, found, place⟩ := secret_iff.mp secret
  have same : first = config := Option.some.inj (found.symm.trans there)
  omega

/-- Behind the last page the first ones follow. -/
theorem wrapped_index {total : Nat} (some : 0 < total) (beyond : total ≤ page) (near : page < total + 4) :
    page % total ≤ 3 := by
  by_cases few : total ≤ 3
  · have := Nat.mod_lt page some
    omega
  · rw [Nat.mod_eq_sub_mod beyond, Nat.mod_eq_of_lt (by omega)]
    omega

theorem textOffset_eq (start : MfUltralightListener) (config : Nat) (mode : MfUltralightMirrorConf) (page : Nat) :
    start.textOffset config mode page =
      firstCharacter mode + ((page - start.mirrorPage config) * 4 - start.mirrorPlace config) := rfl

variable (there : start.config = some config)
include there

theorem byteOffset_mirror (page : Nat) :
    start.byteOffset page = if start.mirrorPage config < page then 0 else start.mirrorPlace config := by
  have found : start.config.getD 0 = config := by rw [there]; rfl
  rw [MfUltralightListener.byteOffset, found]

theorem mirrored_image (seven : start.data.iso14443_3aData.uidLen = 7)
    (stands : MirrorStands start config mode) (plain : mfUltralightIsPagePwdOrPack start.data.type page = false)
    (showing : Showing start config mode page mirror) (inside : page < start.data.pagesTotal)
    (first : start.mirrorPage config ≤ page) (last : page ≤ start.mirrorPage config + 1 + mirrorMaxPageOffset mode) :
    start.mirrored mirror page (start.pageAt page) = start.imagePage config mode page := by
  have covered : start.covers mirror page := (covers_iff there showing page).mpr ⟨first, last⟩
  have place := mirrorPlace_lt start config
  have size := shownText_length seven mode
  have ends : mirror.asciiEnd = firstCharacter mode + mfUltralightGetMirrorDataSize mode :=
    showing.asciiEnd.trans (asciiEnd_eq stands.active)
  have offset := showing.offset inside last
  have begins := byteOffset_mirror there page
  have fits := start.byteOffset_le page
  obtain ⟨bytes, -⟩ := fillByte_range mirror.asciiMirrorData mirror.asciiEnd (start.byteOffset page)
    (4 - start.byteOffset page) (start.pageAt page) mirror.asciiOffset (by omega)
  rw [MfUltralightListener.mirrored, if_pos covered, MfUltralightListener.imagePage, plain, if_neg Bool.false_ne_true,
    Nat.mod_eq_of_lt inside]
  refine page_ext fun j among => ?_
  rw [byteAt_ofFn _ among]
  refine (bytes j).trans ?_
  rw [textOffset_eq] at offset
  rw [showing.text, splice, size]
  by_cases shows : start.mirrorPage config * 4 + start.mirrorPlace config ≤ page * 4 + j ∧
      page * 4 + j < start.mirrorPage config * 4 + start.mirrorPlace config + mfUltralightGetMirrorDataSize mode
  · have within : page * 4 + j - (start.mirrorPage config * 4 + start.mirrorPlace config) <
        mfUltralightGetMirrorDataSize mode := by omega
    have same : mirror.asciiOffset + (j - start.byteOffset page) = firstCharacter mode +
        (page * 4 + j - (start.mirrorPage config * 4 + start.mirrorPlace config)) := by
      rw [begins]
      split <;> omega
    rw [if_pos shows, shownText_getD seven within, ← same, if_pos]
    rw [begins] at same ⊢
    split <;> omega
  · rw [if_neg shows, if_neg, memoryByte_page start page among]
    rw [begins]
    split <;> omega

/-- Behind a page under the mirror the text goes on. -/
theorem showing_next (showing : Showing start config mode page mirror)
    (inside : page < start.data.pagesTotal) (first : start.mirrorPage config ≤ page)
    (last : page ≤ start.mirrorPage config + 1 + mirrorMaxPageOffset mode) :
    Showing start config mode (page + 1) (start.mirrorAfter mirror page (start.pageAt page)) := by
  have covered : start.covers mirror page := (covers_iff there showing page).mpr ⟨first, last⟩
  have place := mirrorPlace_lt start config
  have offset := showing.offset inside last
  have begins := byteOffset_mirror there page
  have fits := start.byteOffset_le page
  obtain ⟨-, moved⟩ := fillByte_range mirror.asciiMirrorData mirror.asciiEnd (start.byteOffset page)
    (4 - start.byteOffset page) (start.pageAt page) mirror.asciiOffset (by omega)
  have went : (start.filled mirror page (start.pageAt page)).2 = _ := moved
  rw [MfUltralightListener.mirrorAfter, if_pos covered]
  refine ⟨showing.enabled, showing.asciiEnd, showing.lastPage, showing.text, fun _ _ => ?_⟩
  show min mirror.asciiEnd (start.filled mirror page (start.pageAt page)).2 = min mirror.asciiEnd _
  rw [textOffset_eq] at offset
  rw [went, textOffset_eq]
  by_cases more : mirror.asciiOffset < mirror.asciiEnd
  · rw [if_pos more, begins]
    split <;> omega
  · rw [if_neg more]
    omega

theorem shownPage_image (seven : start.data.iso14443_3aData.uidLen = 7)
    (stands : MirrorStands start config mode) (some : 0 < start.data.pagesTotal)
    (showing : Showing start config mode page mirror) (near : page < start.data.pagesTotal + 4) (byte : page < 259)
    (access : start.accessAllowed page .read = true) (rollover : Nat) :
    (start.shownPage false mirror page rollover).content = start.imagePage config mode page ∧
      Showing start config mode (page + 1) (start.shownPage false mirror page rollover).mirror := by
  have user := stands.user
  have behind := stands.behind
  have high := (config_inside there).2
  cases plain : mfUltralightIsPagePwdOrPack start.data.type page with
  | true =>
    -- The password lies behind the text.
    have hidden : visible start page false = false := by simp [visible, plain]
    have late := config_of_secret there plain
    have blank : start.imagePage config mode page = zeroPage := by
      rw [MfUltralightListener.imagePage, if_pos plain]
    rw [MfUltralightListener.shownPage, if_neg (by rw [hidden]; exact Bool.false_ne_true)]
    exact ⟨blank.symm, showing.enabled, showing.asciiEnd, showing.lastPage, showing.text, fun _ within => by omega⟩
  | false =>
    have shown : visible start page false = true := by simp [visible, plain]
    have index : start.readIndex false page rollover = page % start.data.pagesTotal := by
      rw [MfUltralightListener.readIndex, if_pos access, MfUltralightListener.writeTarget, if_neg Bool.false_ne_true]
    rw [MfUltralightListener.shownPage, if_pos shown]
    dsimp only
    rw [index]
    by_cases under : page < start.data.pagesTotal ∧ start.mirrorPage config ≤ page ∧
        page ≤ start.mirrorPage config + 1 + mirrorMaxPageOffset mode
    · obtain ⟨inside, first, last⟩ := under
      have same : page % start.data.pagesTotal = page := Nat.mod_eq_of_lt inside
      have small : page % 256 = page := Nat.mod_eq_of_lt (by omega)
      rw [same, small]
      exact ⟨mirrored_image there seven stands plain showing inside first last, showing_next there showing inside first last⟩
    · have apart : page % start.data.pagesTotal < start.mirrorPage config ∨
          start.mirrorPage config + 1 + mirrorMaxPageOffset mode < page % start.data.pagesTotal := by
        by_cases inside : page < start.data.pagesTotal
        · rw [Nat.mod_eq_of_lt inside]
          omega
        · have wrapped := wrapped_index some (Nat.le_of_not_lt inside) near
          omega
      have low := Nat.mod_le page start.data.pagesTotal
      have uncovered : ¬ start.covers mirror (page % start.data.pagesTotal % 256) := by
        rw [covers_iff there showing]
        omega
      rw [MfUltralightListener.mirrored, MfUltralightListener.mirrorAfter, if_neg uncovered, if_neg uncovered]
      refine ⟨(imagePage_apart seven plain apart).symm, showing.enabled, showing.asciiEnd, showing.lastPage, showing.text,
        fun inside within => ?_⟩
      rw [showing.offset (by omega) (by omega), textOffset_eq, textOffset_eq]
      omega

/-! ## The pages of a response -/

theorem showing_prepared (stands : MirrorStands start config mode)
    (told : start.mirror.asciiMirrorData = mirrorText start.data) (startPage : Nat) :
    Showing start config mode startPage (start.preparedMirror config mode startPage) := by
  have behind := stands.behind
  have high := (config_inside there).2
  refine ⟨rfl, rfl, ?_, told, fun _ within => ?_⟩
  · show (start.mirrorPage config + 1 + mfUltralightGetMirrorDataSize mode / 4) % 256 = _
    rw [mirrorDataSize_pages]
    omega
  · have pages := mirrorMaxPageOffset_le mode
    have few := firstCharacter_le mode
    show min _ (start.startOffset config startPage) = min _ _
    rw [MfUltralightListener.startOffset, stands.firstCharacter, textOffset_eq]
    split <;> omega

theorem shownPages_image (seven : start.data.iso14443_3aData.uidLen = 7)
    (stands : MirrorStands start config mode) (some : 0 < start.data.pagesTotal) {startPage rounds i : Nat}
    (showing : Showing start config mode (startPage + i) mirror)
    (near : startPage + i + rounds ≤ start.data.pagesTotal + 4) (byte : startPage + i + rounds ≤ 259)
    (access : ∀ page < startPage + i + rounds, start.accessAllowed page .read = true) (rollover : Nat) :
    (start.shownPages false startPage rounds i mirror rollover).1 =
      (List.range' (startPage + i) rounds).map (start.imagePage config mode) := by
  induction rounds generalizing i mirror rollover with
  | zero => rfl
  | succ rounds next =>
    obtain ⟨content, goesOn⟩ := shownPage_image there seven stands some showing (by omega) (by omega)
      (access _ (by omega)) rollover
    rw [List.range'_succ, List.map_cons, ← content]
    exact congrArg (_ :: ·) (next goesOn (by omega) (by omega) (fun page before => access page (by omega)) _)

theorem shownBytes_image (seven : start.data.iso14443_3aData.uidLen = 7)
    (stands : MirrorStands start config mode) (told : start.mirror.asciiMirrorData = mirrorText start.data)
    (some : 0 < start.data.pagesTotal) {startPage count : Nat} (near : startPage + count ≤ start.data.pagesTotal + 4)
    (byte : startPage + count ≤ 259) (access : ∀ page < startPage + count, start.accessAllowed page .read = true) :
    start.shownBytes false startPage count (start.preparedMirror config mode startPage) =
      start.imageSlice config mode startPage count := by
  have pages := shownPages_image (i := 0) there seven stands some (showing_prepared there stands told startPage) near byte
    access 0
  unfold MfUltralightListener.shownBytes MfUltralightListener.imageSlice
  rw [pages, List.flatMap_map]
  rfl

end

def HasMirror (type : MfUltralightType) : Prop := type = .ntag213 ∨ type = .ntag215 ∨ type = .ntag216

theorem HasMirror.supports {type : MfUltralightType} (mirrors : HasMirror type) :
    mfUltralightIsI2cTag type = false ∧
      mfUltralightSupportFeature (mfUltralightGetFeatureSupportSet type) [.incCounter] = false ∧
      mfUltralightSupportFeature (mfUltralightGetFeatureSupportSet type) [.fastRead] = true := by
  rcases mirrors with rfl | rfl | rfl <;> decide

section
variable {instanc : MfUltralightListener}

structure UnderMirror (instanc : MfUltralightListener) (config : Nat) (mode : MfUltralightMirrorConf) : Prop where
  type : HasMirror instanc.data.type
  sized : Sized instanc
  serial : instanc.data.iso14443_3aData.uidLen = 7
  text : instanc.mirror.asciiMirrorData = mirrorText instanc.data
  ready : instanc.compositeCmd.callback = none
  config : instanc.config = some config
  enabled : ∃ after, mfUltralightMirrorEnabled instanc = (.ok true, after) ∧ after.mirror.actualMode = mode

variable {config : Nat} {mode : MfUltralightMirrorConf}

variable (under : UnderMirror instanc config mode)
include under

theorem UnderMirror.prepares (startPage : Nat) :
    Shows instanc.cleared (mfUltralightMirrorReadPrepare startPage) instanc.cleared.mirror ()
      (instanc.cleared.preparedMirror config mode startPage) := by
  obtain ⟨after, enabled, rfl⟩ := under.enabled
  obtain ⟨shows, -⟩ := mirrorEnabled_shows (seen_self instanc ▸ enabled)
  obtain ⟨log, ran⟩ := shows [] []
  have there : instanc.cleared.config = some config := under.config
  exact readPrepare_on there ran startPage

theorem UnderMirror.bytes {startPage count : Nat}
    (near : startPage + count ≤ instanc.data.pagesTotal + 4) (byte : startPage + count ≤ 259) (many : 0 < count)
    (access : instanc.accessAllowed (startPage + count - 1) .read = true) :
    instanc.cleared.shownBytes false startPage count (instanc.cleared.preparedMirror config mode startPage) =
      instanc.imageSlice config mode startPage count := by
  obtain ⟨after, enabled, rfl⟩ := under.enabled
  have stands := mirrorStands_of_enabled under.config enabled
  have below : ∀ page < startPage + count, instanc.accessAllowed page .read = true :=
    fun page before => accessAllowed_read_below (by omega) access
  have there : instanc.cleared.config = some config := under.config
  exact shownBytes_image there under.serial ⟨stands.user, stands.behind, stands.active, stands.counts⟩ under.text
    under.sized.some near byte below

theorem read_shows_image (page : BitVec 8) (inRange : page.toNat ≤ instanc.data.pagesTotal)
    (access : ∀ i < 4, instanc.accessAllowed (page.toNat + i) .read = true) :
    (mfUltralightListenerRun (.receivedStandardFrame [0x30#8, page]) instanc).2.sent =
      [.standardFrame (instanc.imageSlice config mode page.toNat 4)] := by
  obtain ⟨linear, -, -⟩ := under.type.supports
  have ranged : pageInRange instanc.cleared page.toNat = true := by
    show (if mfUltralightIsI2cTag instanc.data.type = true then _ else decide (page.toNat ≤ instanc.data.pagesTotal)) = true
    rw [linear]
    exact decide_eq_true inRange
  have named : (Frame.byte [0x30#8, page] 1).toNat = page.toNat := rfl
  have sized : Sized instanc.cleared := ⟨under.sized.some, under.sized.few⟩
  have handled := readPageHandler_sends sized named ranged (access 0 (by omega)) (under.prepares page.toNat)
    fun _ => ⟨config, under.config⟩
  have member : (⟨0x30#8, 2 * 8, mfUltralightListenerReadPageHandler⟩ : MfUltralightListenerCmdHandler) ∈
      mfUltralightCommand := List.mem_cons_self
  obtain ⟨-, sent⟩ := mfUltralightListenerRun_sends member ⟨rfl, rfl⟩ under.ready handled
  have near : page.toNat + 4 ≤ instanc.data.pagesTotal + 4 := by omega
  have shows := under.bytes near (by omega) (by omega) (access 3 (by omega))
  rw [sent, MfUltralightListener.cleared_data, linear, shows]
  rfl

theorem fastRead_shows_image (startPage endPage : BitVec 8)
    (ordered : startPage.toNat ≤ endPage.toNat) (inRange : endPage.toNat < instanc.data.pagesTotal)
    (few : endPage.toNat - startPage.toNat + 1 ≤ 64) (access : instanc.accessAllowed endPage.toNat .read = true) :
    (mfUltralightListenerRun (.receivedStandardFrame [0x3A#8, startPage, endPage]) instanc).2.sent =
      [.standardFrame (instanc.imageSlice config mode startPage.toNat (endPage.toNat - startPage.toNat + 1))] := by
  obtain ⟨linear, -, fast⟩ := under.type.supports
  have ranged : pagesInRange instanc.cleared startPage.toNat endPage.toNat = true := by
    show ((if mfUltralightIsI2cTag instanc.data.type = true then _
      else decide (endPage.toNat < instanc.data.pagesTotal)) && decide (startPage.toNat ≤ endPage.toNat)) = true
    rw [linear, decide_eq_true inRange, decide_eq_true ordered]
    rfl
  have first : (Frame.byte [0x3A#8, startPage, endPage] 1).toNat = startPage.toNat := rfl
  have last : (Frame.byte [0x3A#8, startPage, endPage] 2).toNat = endPage.toNat := rfl
  have sized : Sized instanc.cleared := ⟨under.sized.some, under.sized.few⟩
  have handled := fastReadHandler_sends sized first last fast ranged access (by omega) (under.prepares startPage.toNat)
    fun _ => ⟨config, under.config⟩
  have member : (⟨0x3A#8, 3 * 8, mfUltralightListenerFastReadHandler⟩ : MfUltralightListenerCmdHandler) ∈
      mfUltralightCommand := List.mem_cons_of_mem _ List.mem_cons_self
  obtain ⟨-, sent⟩ := mfUltralightListenerRun_sends member ⟨rfl, rfl⟩ under.ready handled
  have ends : startPage.toNat + (endPage.toNat - startPage.toNat + 1) - 1 = endPage.toNat := by omega
  have near : startPage.toNat + (endPage.toNat - startPage.toNat + 1) ≤ instanc.data.pagesTotal + 4 := by omega
  have shows := under.bytes near (by omega) (by omega) (by rw [ends]; exact access)
  rw [sent, MfUltralightListener.cleared_data, linear, shows]
  rfl

end

/-- **READ and FAST_READ show slices of the image**, wherever they begin. -/
theorem reads_show_image {data : MfUltralightData} (type : HasMirror data.type)
    (seven : data.iso14443_3aData.uidLen = 7) (fits : data.pagesTotal ≤ mfUltralightMaxPageNum)
    {events : List Iso14443_3aListenerEvent} {instanc : MfUltralightListener}
    (run : Reaches mfUltralightListenerRun (fun _ _ => True) (mfUltralightListenerAlloc data) events instanc)
    (ready : instanc.compositeCmd.callback = none) {after : MfUltralightListener}
    (enabled : mfUltralightMirrorEnabled instanc = (.ok true, after)) {config : Nat}
    (there : mfUltralightGetConfigPage data.type = some config) :
    (∀ page : BitVec 8, 0 < data.pagesTotal → page.toNat ≤ data.pagesTotal →
      (∀ i < 4, instanc.accessAllowed (page.toNat + i) .read = true) →
      (mfUltralightListenerRun (.receivedStandardFrame [0x30#8, page]) instanc).2.sent =
        [.standardFrame (instanc.imageSlice config after.mirror.actualMode page.toNat 4)]) ∧
    (∀ startPage endPage : BitVec 8, startPage.toNat ≤ endPage.toNat → endPage.toNat < data.pagesTotal →
      endPage.toNat - startPage.toNat + 1 ≤ 64 →
      (∀ page, startPage.toNat ≤ page → page ≤ endPage.toNat → instanc.accessAllowed page .read = true) →
      (mfUltralightListenerRun (.receivedStandardFrame [0x3A#8, startPage, endPage]) instanc).2.sent =
        [.standardFrame (instanc.imageSlice config after.mirror.actualMode startPage.toNat
          (endPage.toNat - startPage.toNat + 1))]) := by
  obtain ⟨-, counts, -⟩ := type.supports
  have told := reaches_mirrorTold seven counts run
  obtain ⟨sameType, sameTotal⟩ := reaches_tag run
  have under (some : 0 < data.pagesTotal) : UnderMirror instanc config after.mirror.actualMode := by
    refine ⟨?_, ⟨?_, ?_⟩, ?_, told.text, ready, ?_, after, enabled, rfl⟩
    · rw [sameType]
      exact type
    · rw [sameTotal]
      exact some
    · rw [sameTotal]
      exact fits
    · rw [told.serial]
      exact seven
    · rw [MfUltralightListener.config, sameType]
      exact there
  constructor
  · intro page some inRange access
    exact read_shows_image (under some) page (by rw [sameTotal]; exact inRange) access
  · intro startPage endPage ordered inRange few access
    exact fastRead_shows_image (under (Nat.zero_lt_of_lt inRange)) startPage endPage ordered
      (by rw [sameTotal]; exact inRange) few (access _ ordered (Nat.le_refl _))

/-- The UID from the second byte of page 4 on, read from page 5 on. -/
theorem reads_show_image_uid :
    (mfUltralightListenerRun (.receivedStandardFrame [0x30#8, 5#8]) (mirrorTag 0x50#8 0x04#8)).2.sent =
      [.standardFrame ((mirrorTag 0x50#8 0x04#8).imageSlice 41 .uid 5 4)] := by
  have known : (mfUltralightMirrorEnabled (mirrorTag 0x50#8 0x04#8)).1 = .ok true ∧
      (mfUltralightMirrorEnabled (mirrorTag 0x50#8 0x04#8)).2.mirror.actualMode = .uid ∧
      ∀ i < 4, (mirrorTag 0x50#8 0x04#8).accessAllowed ((5#8).toNat + i) .read = true := by decide +kernel
  obtain ⟨enabled, mode, access⟩ := known
  rcases ran : mfUltralightMirrorEnabled (mirrorTag 0x50#8 0x04#8) with ⟨outcome, after⟩
  rw [ran] at enabled mode
  cases enabled
  have some : 0 < (mirrorTag 0x50#8 0x04#8).data.pagesTotal := Nat.lt_of_sub_eq_succ rfl
  have inside : (5#8).toNat ≤ (mirrorTag 0x50#8 0x04#8).data.pagesTotal := Nat.le_of_ble_eq_true rfl
  have run : Reaches mfUltralightListenerRun (fun _ _ => True)
      (mfUltralightListenerAlloc (mirrorTag 0x50#8 0x04#8).data) [] (mirrorTag 0x50#8 0x04#8) := .start
  have shows := (reads_show_image (Or.inl rfl) rfl (Nat.le_of_ble_eq_true rfl) run rfl ran rfl).1 5#8 some inside access
  rw [show after.mirror.actualMode = .uid from mode] at shows
  exact shows

example : (mirrorTag 0x50#8 0x04#8).imageSlice 41 .uid 4 2 =
    [0x00#8, 0x30#8, 0x34#8, 0x31#8, 0x31#8, 0x32#8, 0x32#8, 0x33#8] := by decide +kernel

end Xtreme.Nfc
