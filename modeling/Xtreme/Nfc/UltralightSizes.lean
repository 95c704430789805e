import Xtreme.Nfc.UltralightFootprint

/-! The listener and the size of the image. A file may give a tag fewer pages
than its type has, and the listener finds the configuration, the lock bytes and
the pages behind the I2C addresses by the type; `Fits` says which pages a frame
needs. -/
namespace Xtreme.Nfc
open Xtreme.Library BitLib
open Effect (Reaches)

theorem mfUltralightLoad_pagesTotal {file : Type} {reader : FlipperFormatReader file} {empty data : MfUltralightData}
    {version : Nat} {contents : file} (accepted : (mfUltralightLoad reader empty version contents).1 = .ok data) :
    data.pagesTotal ≤ mfUltralightMaxPageNum := by
  obtain ⟨_, _, -, rest⟩ := Effect.bind_ok accepted
  obtain ⟨_, _, -, rest⟩ := Effect.bind_ok rest
  obtain ⟨_, _, -, rest⟩ := Effect.bind_ok rest
  obtain ⟨_, _, -, rest⟩ := Effect.bind_ok rest
  obtain ⟨_, _, -, rest⟩ := Effect.bind_ok rest
  obtain ⟨_, _, -, rest⟩ := Effect.bind_ok rest
  obtain ⟨_, _, -, rest⟩ := Effect.bind_ok rest
  obtain ⟨pagesTotal, _, -, rest⟩ := Effect.bind_ok rest
  obtain ⟨pagesRead, _, -, rest⟩ := Effect.bind_ok rest
  split at rest
  · cases rest
  · rename_i few
    have bound : pagesTotal.toNat ≤ mfUltralightMaxPageNum := by
      simp only [Bool.or_eq_true, decide_eq_true_eq] at few
      omega
    obtain ⟨loaded, _, pages, rest⟩ := Effect.bind_ok rest
    obtain ⟨_, _, -, rest⟩ := Effect.bind_ok rest
    let holds (data : MfUltralightData) : Prop := data.pagesTotal ≤ mfUltralightMaxPageNum
    have kept : holds loaded := by
      refine Effect.foldlM_ok (fun value i state answer held ran => ?_) ?_ (congrArg Prod.fst pages)
      · obtain ⟨_, _, -, rest⟩ := Effect.bind_ok ran
        cases rest
        exact held
      · exact bound
    cases rest
    exact kept

section
variable (instanc : MfUltralightListener)

/-- The configuration reaches at least to its page `last`. -/
def ConfigFits (last : Nat) : Prop := ∀ config, instanc.config = some config → config + last < instanc.data.pagesTotal

structure ReadFits (page : Nat) : Prop where
  config : ConfigFits instanc 1
  nonempty : instanc.accessAllowed page .read = true → 0 < instanc.data.pagesTotal

/-- The number of pages is counted in a byte. -/
structure FastReadFits (startPage endPage : Nat) : Prop where
  config : ConfigFits instanc 1
  nonempty : instanc.accessAllowed endPage .read = true → (endPage - startPage + 1) % 256 ≠ 0 →
    0 < instanc.data.pagesTotal
  short : instanc.accessAllowed endPage .read = true → (endPage - startPage + 1) % 256 ≤ 64

structure ChecksFit (page : Nat) : Prop where
  config : ConfigFits instanc 1
  static : instanc.accessAllowed page .write = true → 3 ≤ page → page ≤ 15 → 2 < instanc.data.pagesTotal
  dynamic : instanc.accessAllowed page .write = true → instanc.staticLocked page = false →
    instanc.dynamicLockCovers page → instanc.dynamicLockPage < instanc.data.pagesTotal

def StoreFits (page : Nat) (doI2cCheck : Bool) : Prop :=
  ¬ (page < 2 ∧ instanc.sector = 0) → storePage instanc page doI2cCheck < instanc.data.pagesTotal

structure FrameFits (buffer : Frame) : Prop where
  read : IsCommand instanc buffer 0x30#8 2 → pageInRange instanc (buffer.byte 1).toNat = true →
    ReadFits instanc (buffer.byte 1).toNat
  fastRead : IsCommand instanc buffer 0x3A#8 3 → mfUltralightSupportFeature instanc.features [.fastRead] = true →
    pagesInRange instanc (buffer.byte 1).toNat (buffer.byte 2).toNat = true →
    FastReadFits instanc (buffer.byte 1).toNat (buffer.byte 2).toNat
  write : IsCommand instanc buffer 0xA2#8 6 → pageInRange instanc (buffer.byte 1).toNat = true →
    ChecksFit instanc (buffer.byte 1).toNat ∧ (instanc.writeAllowed (buffer.byte 1).toNat = true →
      StoreFits instanc (buffer.byte 1).toNat (mfUltralightIsI2cTag instanc.data.type))
  compWrite : IsCommand instanc buffer 0xA0#8 2 →
    mfUltralightSupportFeature instanc.features [.compatibleWrite] = true →
    compWriteInRange instanc (buffer.byte 1).toNat = true → ChecksFit instanc (buffer.byte 1).toNat
  secondWrite : instanc.compositeCmd.callback = some .compWriteP2 → buffer.length = 16 →
    StoreFits instanc instanc.compositeCmd.data.toNat false
  readCounter : IsCommand instanc buffer 0x39#8 2 →
    mfUltralightSupportFeature instanc.features [.readCounter] = true →
    mfUltralightSupportFeature instanc.features [.singleCounter] = true → ConfigFits instanc 1
  vcsl : IsCommand instanc buffer 0x4B#8 21 →
    mfUltralightSupportFeature instanc.features [.vcsl] = true → ConfigFits instanc 1
  password : IsCommand instanc buffer 0x1B#8 5 →
    mfUltralightSupportFeature instanc.features [.passwordAuth] = true → ConfigFits instanc 2
  pack : IsCommand instanc buffer 0x1B#8 5 → mfUltralightSupportFeature instanc.features [.passwordAuth] = true →
    ∀ config, instanc.config = some config →
    instanc.cardLocked config (instanc.passwordMatches config buffer) = false →
    instanc.passwordMatches config buffer = true → config + 3 < instanc.data.pagesTotal

end

/-- The image has the pages that the event needs. -/
def Fits (event : Iso14443_3aListenerEvent) (instanc : MfUltralightListener) : Prop :=
  ∀ buffer, event = .receivedStandardFrame buffer → FrameFits instanc buffer

section
variable {instanc : MfUltralightListener}

def insideImage (instanc : MfUltralightListener) (access : PageAccess) : Prop :=
  access.page < instanc.data.pagesTotal

def hangsOnly (error : MfUltralightFault) : Prop := error = .endlessLoop

theorem admitsConfig_of_fits (fits : ConfigFits instanc 1) : AdmitsConfig (insideImage instanc) instanc :=
  fun config there =>
    have inside : config + 1 < instanc.data.pagesTotal := fits config there
    ⟨Nat.lt_of_succ_lt inside, inside⟩

theorem writeLog_inside {page : Nat} (checks : ChecksFit instanc page) :
    ∀ access ∈ instanc.writeLog page, insideImage instanc access := by
  intro access member
  rcases List.mem_append.mp member with access' | locks
  · exact accessLog_admitted (admitsConfig_of_fits checks.config) page .write access access'
  cases allows : instanc.accessAllowed page .write with
  | false =>
    rw [allows] at locks
    cases locks
  | true =>
    rw [allows] at locks
    rcases List.mem_append.mp locks with static | dynamic
    · unfold staticLockLog at static
      split at static
      · rename_i among
        have inside := checks.static allows among.1 among.2
        rw [List.mem_singleton.mp static]
        exact inside
      · cases static
    · cases unlocked : instanc.staticLocked page with
      | true =>
        rw [unlocked] at dynamic
        cases dynamic
      | false =>
        rw [unlocked, if_neg Bool.false_ne_true] at dynamic
        unfold MfUltralightListener.dynamicLockLog at dynamic
        split at dynamic
        · rename_i covers
          rw [List.mem_singleton.mp dynamic]
          exact checks.dynamic allows unlocked covers
        · cases dynamic

theorem storeAdmits_of_fits {rxData : MfUltralightPage} {page : Nat} {doI2cCheck : Bool}
    (fits : StoreFits instanc page doI2cCheck) :
    StoreAdmits (insideImage instanc) instanc rxData page doI2cCheck := by
  intro index content log stored
  obtain ⟨notSerial, same, touched⟩ := stored_page stored
  have inside : index < instanc.data.pagesTotal := same ▸ fits notSerial
  refine ⟨inside, fun access member => ?_⟩
  rw [insideImage, touched access member]
  exact inside

theorem config_of_restricted {page : Nat} {accessType : MfUltralightListenerAccessType}
    (restricted : instanc.accessAllowed page accessType = false) : ∃ config, instanc.config = some config := by
  unfold MfUltralightListener.accessAllowed at restricted
  split at restricted
  · cases there : instanc.config with
    | none =>
      rw [there] at restricted
      cases restricted
    | some config => exact ⟨config, rfl⟩
  · cases restricted

theorem frameAdmits_of_fits {buffer : Frame} (fits : FrameFits instanc buffer) :
    FrameAdmits (insideImage instanc) hangsOnly instanc buffer where
  read command inRange := by
    have fits := fits.read command inRange
    refine ⟨admitsConfig_of_fits fits.config, fun access empty => ?_, fun _ i inside _ _ some => ?_, ?_⟩
    · have := fits.nonempty access
      omega
    · exact Nat.mod_lt _ (Nat.pos_of_ne_zero some)
    · intro _ i inside restricted index below
      obtain ⟨config, there⟩ := config_of_restricted restricted
      have := (config_inside there).1
      have := fits.config config there
      exact show index < instanc.data.pagesTotal by omega
  fastRead command supported inRange := by
    have fits := fits.fastRead command supported inRange
    refine ⟨admitsConfig_of_fits fits.config, fun access long => ?_, fun access some empty => ?_, ?_⟩
    · have := fits.short access
      omega
    · have := fits.nonempty access some
      omega
    · exact fun _ i inside _ _ some => Nat.mod_lt _ (Nat.pos_of_ne_zero some)
  write command inRange :=
    have fits := fits.write command inRange
    ⟨writeLog_inside fits.1, fun allows => storeAdmits_of_fits (fits.2 allows)⟩
  compWrite command supported inRange := writeLog_inside (fits.compWrite command supported inRange)
  secondWrite pending long := storeAdmits_of_fits (fits.secondWrite pending long)
  readCounter command readable single := admitsConfig_of_fits (fits.readCounter command readable single)
  vcsl command supported config there := fits.vcsl command supported config there
  password command supported config there := by
    have inside := fits.password command supported config there
    exact ⟨show config + 1 < instanc.data.pagesTotal by omega, inside, fits.pack command supported config there⟩

end

/-- **While the image has the pages that the frames need, a loaded tag is used
within its bounds**: every page that an event touches is one of the image,
there is no remainder by zero, and every response fits the buffers. -/
theorem listener_stays_inside {file : Type} {reader : FlipperFormatReader file} {empty data : MfUltralightData}
    {version : Nat} {contents : file} (accepted : (mfUltralightLoad reader empty version contents).1 = .ok data)
    {events : List Iso14443_3aListenerEvent} {instanc : MfUltralightListener}
    (run : Reaches mfUltralightListenerRun Fits (mfUltralightListenerAlloc data) events instanc)
    {event : Iso14443_3aListenerEvent} (fits : Fits event instanc) :
    (∀ access ∈ (mfUltralightListenerRun event instanc).2.accesses, access.page < data.pagesTotal) ∧
      ∀ error, (mfUltralightListenerRun event instanc).1 = .error error → error = .endlessLoop := by
  have sound := reaches_sound run
  have size := (reaches_tag run).2
  have room := mfUltralightLoad_pagesTotal accepted
  have few : instanc.data.pagesTotal ≤ 510 ∨ hangsOnly .pageArray := .inl (size ▸ room)
  have hangs : hangsOnly .endlessLoop := rfl
  obtain ⟨inside, faults⟩ := mfUltralightListenerRun_touched sound.mirror hangs few
    fun buffer same => frameAdmits_of_fits (fits buffer same)
  refine ⟨fun access member => ?_, faults⟩
  exact size ▸ inside access member

def constantReader (number : BitVec 32) (text : String) : FlipperFormatReader Unit where
  rewind := pure ()
  readUint32 _ := pure number
  readHex _ size := pure (Vector.replicate size 0xFF#8)
  readString _ := pure text

/-- The NTAG213 of 45 pages that such a file describes. -/
def loadedNtag213 : MfUltralightData :=
  match (mfUltralightLoad (constantReader 45#32 "NTAG213") (blankTag .unknown 0) 4 ()).1 with
  | .ok data => data
  | .error _ => blankTag .unknown 0

theorem loadedNtag213_accepted :
    (mfUltralightLoad (constantReader 45#32 "NTAG213") (blankTag .unknown 0) 4 ()).1 = .ok loadedNtag213 := rfl

theorem fits_readPage : Fits (.receivedStandardFrame [0x30#8, 4#8]) (mfUltralightListenerAlloc loadedNtag213) := by
  rintro buffer ⟨⟩
  have config {last : Nat} (low : last ≤ 3) : ConfigFits (mfUltralightListenerAlloc loadedNtag213) last := by
    intro config there
    have first : some 41 = some config := there
    cases first
    exact show 41 + last < 45 by omega
  refine ⟨fun _ _ => ⟨config (by omega), fun _ => ?_⟩, ?_, ?_, ?_, ?_, ?_, ?_, ?_, ?_⟩
  · exact show 0 < 45 by omega
  · exact fun command => absurd command.code (by decide)
  · exact fun command => absurd command.code (by decide)
  · exact fun command => absurd command.code (by decide)
  · exact fun pending => nomatch pending
  · exact fun command => absurd command.code (by decide)
  · exact fun command => absurd command.code (by decide)
  · exact fun command => absurd command.code (by decide)
  · exact fun command => absurd command.code (by decide)

/-- READ of page 4. -/
theorem listener_stays_inside_read : (∀ access ∈ (mfUltralightListenerRun (.receivedStandardFrame [0x30#8, 4#8])
        (mfUltralightListenerAlloc loadedNtag213)).2.accesses, access.page < loadedNtag213.pagesTotal) ∧
      ∀ error, (mfUltralightListenerRun (.receivedStandardFrame [0x30#8, 4#8])
        (mfUltralightListenerAlloc loadedNtag213)).1 = .error error → error = .endlessLoop :=
  listener_stays_inside loadedNtag213_accepted .start fits_readPage

/-- WRITE is accepted for the page after the last. -/
theorem write_past_image :
    ∃ data, (mfUltralightLoad (constantReader 45#32 "NTAG213") (blankTag .unknown 0) 4 ()).1 = .ok data ∧
      ∃ events instanc event,
        Reaches mfUltralightListenerRun (fun _ _ => True) (mfUltralightListenerAlloc data) events instanc ∧
          ∃ access ∈ (mfUltralightListenerRun event instanc).2.accesses, data.pagesTotal ≤ access.page := by
  refine ⟨loadedNtag213, loadedNtag213_accepted, [], _,
    .receivedStandardFrame [0xA2#8, 45#8, 1#8, 2#8, 3#8, 4#8], .start, .written 45, ?_, ?_⟩
  · decide +kernel
  · decide +kernel

end Xtreme.Nfc
