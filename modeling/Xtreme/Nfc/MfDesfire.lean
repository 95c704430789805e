import Xtreme.Library.Records
import Xtreme.Nfc.MfUltralight
import Xtreme.Toolbox.SimpleArray

/-! When two MIFARE DESFire cards pass for equal (`mf_desfire.c`). An application lies in
memory as its key settings and four pointers to arrays, so that a comparison of the
applications never gets to their file IDs. -/
namespace Xtreme.Nfc
open BitLib Toolbox

/-- Seven bytes, none of them padding. -/
structure MfDesfireKeySettings where
  isMasterKeyChangeable : Bool
  isFreeDirectoryList : Bool
  isFreeCreateDelete : Bool
  isConfigChangeable : Bool
  changeKeyId : BitVec 8
  maxKeys : BitVec 8
  flags : BitVec 8
  deriving DecidableEq, Repr

/-- The padding behind `is_present` is never written. -/
structure MfDesfireFreeMemory where
  bytesFree : BitVec 32
  isPresent : Bool
  deriving DecidableEq, Repr

def mfDesfireKeyVersionArrayConfig : SimpleArrayConfig := ⟨"mf_desfire_key_version_array_config", 1, Nat.one_pos⟩

def mfDesfireAppIdArrayConfig : SimpleArrayConfig := ⟨"mf_desfire_app_id_array_config", 3, by decide⟩

def mfDesfireFileIdArrayConfig : SimpleArrayConfig := ⟨"mf_desfire_file_id_array_config", 1, Nat.one_pos⟩

def mfDesfireApplicationArrayConfig : SimpleArrayConfig := ⟨"mf_desfire_application_array_config", 24, by decide⟩

/-- The settings and the data of the files are left out, up to the addresses of their arrays. -/
structure MfDesfireApplication where
  keySettings : MfDesfireKeySettings
  keyVersions : SimpleArray mfDesfireKeyVersionArrayConfig
  fileIds : SimpleArray mfDesfireFileIdArrayConfig
  fileSettings : BitVec 32
  fileData : BitVec 32

structure MfDesfireData where
  iso14443_3aData : Iso14443_3aData
  version : Bytes 28
  freeMemory : MfDesfireFreeMemory
  masterKeySettings : MfDesfireKeySettings
  masterKeyVersions : SimpleArray mfDesfireKeyVersionArrayConfig
  applicationIds : SimpleArray mfDesfireAppIdArrayConfig
  /-- The array of the applications, by its address and its elements. -/
  applicationArray : BitVec 32
  applications : List MfDesfireApplication

def MfDesfireKeySettings.memory (settings : MfDesfireKeySettings) : List (BitVec 8) :=
  [settings.isMasterKeyChangeable, settings.isFreeDirectoryList, settings.isFreeCreateDelete,
      settings.isConfigChangeable].map (fun flag => if flag then 1 else 0) ++
    [settings.changeKeyId, settings.maxKeys, settings.flags]

def pointerBytes (address : BitVec 32) : List (BitVec 8) :=
  [address.setWidth 8, (address >>> 8).setWidth 8, (address >>> 16).setWidth 8, (address >>> 24).setWidth 8]

/-- An application as it lies in memory, with a byte of padding behind the settings. -/
def MfDesfireApplication.memory (application : MfDesfireApplication) : List (BitVec 8) :=
  application.keySettings.memory ++ [0] ++ pointerBytes application.keyVersions.address ++
    pointerBytes application.fileIds.address ++ pointerBytes application.fileSettings ++
    pointerBytes application.fileData

theorem length_applicationMemory (applications : List MfDesfireApplication) :
    (applications.flatMap (·.memory)).length = applications.length * 24 := by
  rw [Nat.mul_comm]
  have sized (application : MfDesfireApplication) : application.memory.length = 24 := rfl
  exact Library.length_records sized applications

namespace MfDesfireData
variable (data : MfDesfireData)

def applicationsRaw : SimpleArray mfDesfireApplicationArrayConfig where
  address := data.applicationArray
  data := if data.applications = [] then none else some (data.applications.flatMap (·.memory))
  count := data.applications.length
  sized := by
    split
    · rename_i none
      rw [none]
      rfl
    · exact length_applicationMemory _

end MfDesfireData

/-- `memcmp` of two records without padding. -/
def iso14443_3aIsEqual (data other : Iso14443_3aData) : Bool :=
  data.uid = other.uid && data.uidLen = other.uidLen && data.atqa = other.atqa && data.sak = other.sak

/-- `iso14443_4a_is_equal`, which looks at the base data only, comes first. -/
def mfDesfireIsEqual (data other : MfDesfireData) : Bool :=
  iso14443_3aIsEqual data.iso14443_3aData other.iso14443_3aData && data.version = other.version &&
    data.freeMemory = other.freeMemory &&
    data.masterKeySettings = other.masterKeySettings &&
    simpleArrayIsEqual data.masterKeyVersions other.masterKeyVersions &&
    simpleArrayIsEqual data.applicationIds other.applicationIds &&
    simpleArrayIsEqual data.applicationsRaw other.applicationsRaw

/-- Arrays at one address are one array. -/
structure OwnMemory (data other : MfDesfireData) : Prop where
  masterKeyVersions : data.masterKeyVersions.address = other.masterKeyVersions.address →
    data.masterKeyVersions = other.masterKeyVersions
  applicationIds : data.applicationIds.address = other.applicationIds.address → data.applicationIds = other.applicationIds
  applications : data.applicationsRaw.address = other.applicationsRaw.address →
    data.applicationsRaw = other.applicationsRaw

/-- Two cards have the same application IDs, and their applications the same file IDs. -/
def SameIds (data other : MfDesfireData) : Prop :=
  SameElements data.applicationIds other.applicationIds ∧
    data.applications.map (·.fileIds.bytes) = other.applications.map (·.fileIds.bytes)

/-- Two cards differ in what is compared: of the application IDs and of the applications as
they lie in memory as many bytes as there are elements. -/
inductive ComparedApart (data other : MfDesfireData) : Prop
  | base (differs : iso14443_3aIsEqual data.iso14443_3aData other.iso14443_3aData = false)
  | version (differs : data.version ≠ other.version)
  | freeMemory (differs : data.freeMemory ≠ other.freeMemory)
  | masterKeySettings (differs : data.masterKeySettings ≠ other.masterKeySettings)
  | masterKeyVersions (differs : ¬SameElements data.masterKeyVersions other.masterKeyVersions)
  | applicationIdCount (differs : data.applicationIds.count ≠ other.applicationIds.count)
  | applicationIds (differs : data.applicationIds.bytes.take other.applicationIds.count ≠
      other.applicationIds.bytes.take other.applicationIds.count)
  | applicationCount (differs : data.applications.length ≠ other.applications.length)
  | applications (differs : (data.applications.flatMap (·.memory)).take other.applications.length ≠
      (other.applications.flatMap (·.memory)).take other.applications.length)

section
variable {data other : MfDesfireData}

theorem bytes_applicationsRaw (data : MfDesfireData) :
    data.applicationsRaw.bytes = data.applications.flatMap (·.memory) := by
  unfold SimpleArray.bytes MfDesfireData.applicationsRaw
  by_cases none : data.applications = []
  · simp only [none]
    rfl
  · simp only [none]
    rfl

theorem isEqual_iff_alike (own : OwnMemory data other) : mfDesfireIsEqual data other = true ↔ ¬ComparedApart data other := by
  have keys : simpleArrayIsEqual data.masterKeyVersions other.masterKeyVersions = true ↔
      SameElements data.masterKeyVersions other.masterKeyVersions :=
    (isEqual_right_iff own.masterKeyVersions).mpr (differEarly_bytes rfl)
  have ids := isEqual_iff own.applicationIds
  have applications := isEqual_iff own.applications
  rw [bytes_applicationsRaw, bytes_applicationsRaw] at applications
  unfold mfDesfireIsEqual
  simp only [Bool.and_eq_true, decide_eq_true_eq, keys, ids, applications]
  constructor
  · rintro ⟨⟨⟨⟨⟨⟨base, version⟩, memory⟩, settings⟩, keys⟩, ids⟩, applications⟩ apart
    cases apart with
    | base differs => exact absurd (base.symm.trans differs) (by decide)
    | version differs => exact differs version
    | freeMemory differs => exact differs memory
    | masterKeySettings differs => exact differs settings
    | masterKeyVersions differs => exact differs keys
    | applicationIdCount differs => exact differs ids.1
    | applicationIds differs => exact differs ids.2
    | applicationCount differs => exact differs applications.1
    | applications differs => exact differs applications.2
  · intro alike
    have base : iso14443_3aIsEqual data.iso14443_3aData other.iso14443_3aData = true := by
      by_contra differs
      exact alike (.base (Bool.not_eq_true _ ▸ differs))
    refine ⟨⟨⟨⟨⟨⟨base, ?_⟩, ?_⟩, ?_⟩, ?_⟩, ?_, ?_⟩, ?_, ?_⟩
    · exact not_not.mp fun differs => alike (.version differs)
    · exact not_not.mp fun differs => alike (.freeMemory differs)
    · exact not_not.mp fun differs => alike (.masterKeySettings differs)
    · exact not_not.mp fun differs => alike (.masterKeyVersions differs)
    · exact not_not.mp fun differs => alike (.applicationIdCount differs)
    · exact not_not.mp fun differs => alike (.applicationIds differs)
    · exact not_not.mp fun differs => alike (.applicationCount differs)
    · exact not_not.mp fun differs => alike (.applications differs)

/-- **The comparison of two arrays of one configuration is right just if they differ early,
if at all; cards with other IDs are told apart just if something differs that is compared.** -/
theorem isEqual_tells_apart {config : SimpleArrayConfig} (instanc other : SimpleArray config)
    (data card : MfDesfireData) :
    ((instanc.address = other.address → instanc = other) →
      ((simpleArrayIsEqual instanc other = true ↔ SameElements instanc other) ↔ DifferEarly instanc other)) ∧
    (OwnMemory data card → ¬SameIds data card → (mfDesfireIsEqual data card = false ↔ ComparedApart data card)) := by
  refine ⟨isEqual_right_iff, fun own _ => ?_⟩
  rw [← Bool.not_eq_true, isEqual_iff_alike own, not_not]

end

/-- A card with one application of one file, by the last byte of the ID of the application,
the ID of the file and the place of its arrays. -/
def oneFileCard (application file : BitVec 8) (address : BitVec 32) : MfDesfireData where
  iso14443_3aData := ⟨Vector.replicate 10 0, 7, Vector.replicate 2 0, 0x20⟩
  version := Vector.replicate 28 0
  freeMemory := ⟨0, false⟩
  masterKeySettings := ⟨true, true, true, true, 0, 1, 0⟩
  masterKeyVersions := ⟨address, some [0], 1, rfl⟩
  applicationIds := ⟨address + 0x10, some [0, 0, application], 1, rfl⟩
  applicationArray := address + 0x20
  applications := [⟨⟨true, true, true, true, 0, 1, 0⟩, ⟨address + 0x30, some [0], 1, rfl⟩,
    ⟨address + 0x40, some [file], 1, rfl⟩, address + 0x50, address + 0x60⟩]

/-- Two IDs are told apart by their first bytes, and two cards with other file IDs by their
versions. -/
theorem isEqual_tells_apart_version :
    simpleArrayIsEqual (⟨0x1000, some [1, 0, 0], 1, rfl⟩ : SimpleArray mfDesfireAppIdArrayConfig)
        (⟨0x2000, some [2, 0, 0], 1, rfl⟩ : SimpleArray mfDesfireAppIdArrayConfig) = false ∧
      mfDesfireIsEqual (oneFileCard 1 1 0x1000) { oneFileCard 1 2 0x2000 with version := Vector.replicate 28 1 } =
        false := by
  obtain ⟨arrays, cards⟩ := isEqual_tells_apart
    (⟨0x1000, some [1, 0, 0], 1, rfl⟩ : SimpleArray mfDesfireAppIdArrayConfig) ⟨0x2000, some [2, 0, 0], 1, rfl⟩
    (oneFileCard 1 1 0x1000) { oneFileCard 1 2 0x2000 with version := Vector.replicate 28 1 }
  constructor
  · have right := (arrays fun same => absurd same (by decide)).mpr fun _ early => absurd early (by decide)
    refine Bool.eq_false_iff.mpr fun equal => ?_
    exact absurd (sameElements_iff.mp (right.mp equal)).2 (by decide)
  · have own : OwnMemory (oneFileCard 1 1 0x1000) { oneFileCard 1 2 0x2000 with version := Vector.replicate 28 1 } :=
      ⟨fun same => absurd same (by decide), fun same => absurd same (by decide), fun same => absurd same (by decide)⟩
    exact (cards own fun same => absurd same.2 (by decide)).mpr (.version (by decide))

/-- Cards pass for equal that differ in the last byte of an application ID, or in a file ID. -/
theorem isEqual_confuses :
    ¬(simpleArrayIsEqual (oneFileCard 1 1 0x1000).applicationIds (oneFileCard 2 1 0x2000).applicationIds = true ↔
        SameElements (oneFileCard 1 1 0x1000).applicationIds (oneFileCard 2 1 0x2000).applicationIds) ∧
      ¬(¬SameIds (oneFileCard 1 1 0x1000) (oneFileCard 1 2 0x2000) →
        mfDesfireIsEqual (oneFileCard 1 1 0x1000) (oneFileCard 1 2 0x2000) = false) := by
  refine ⟨fun right => ?_, fun apart => ?_⟩
  · have same := (sameElements_iff.mp (right.mp (by decide +kernel))).2
    exact absurd same (by decide)
  · have differ : ¬SameIds (oneFileCard 1 1 0x1000) (oneFileCard 1 2 0x2000) := fun same =>
      absurd same.2 (by decide)
    exact absurd (apart differ) (by decide +kernel)

end Xtreme.Nfc
