import Xtreme.Flipper.FlipperFormat

/-! A device and how it is loaded from a file (`nfc_device.c`).

What the protocols do is a table of functions, as `nfc_devices` is: any may fail, change its
object and stop the firmware. An object is told from another by the number of its allocation, as
C tells them apart. The callback of the application is left out. -/
namespace Xtreme.Nfc
open Xtreme.Library Flipper
open Effect (fault observe update)

inductive NfcProtocol
  | iso14443_3a
  | iso14443_3b
  | iso14443_4a
  | iso14443_4b
  | iso15693_3
  | felica
  | mfUltralight
  | mfClassic
  | mfDesfire
  | slix
  | st25tb
  | emv
  deriving DecidableEq, Repr

/-- The protocols in the order of their enumeration. -/
def nfcProtocols : List NfcProtocol :=
  [.iso14443_3a, .iso14443_3b, .iso14443_4a, .iso14443_4b, .iso15693_3, .felica, .mfUltralight, .mfClassic,
    .mfDesfire, .slix, .st25tb, .emv]

inductive NfcDeviceFault
  /-- A check or an allocation stops the firmware. -/
  | crashed
  deriving DecidableEq, Repr

/-- The functions of a protocol that loading calls. -/
structure NfcDeviceBase (Data : Type) where
  protocolName : Text
  alloc : Data
  verify : (deviceType : Text) → Effect NfcDeviceFault Data Bool
  setUid : (uid : List (BitVec 8)) → Effect NfcDeviceFault Data Bool
  load : (version : BitVec 32) → Effect NfcDeviceFault (Data × FlipperFormat) Bool

structure NfcDeviceData (Data : Type) where
  allocation : Nat
  content : Data

structure NfcDevice (Data : Type) where
  protocol : Option NfcProtocol
  protocolData : Option (NfcDeviceData Data)
  /-- What `nfc_device_clear` asserts. -/
  empty : protocol = none → protocolData = none

namespace NfcDevice
variable {Data : Type}

/-- No protocol and no data, as `nfc_device_alloc` makes it. -/
def cleared : NfcDevice Data := ⟨none, none, fun _ => rfl⟩

/-- `nfc_device_clear`. -/
def clear (instanc : NfcDevice Data) : NfcDevice Data := if instanc.protocol = none then instanc else cleared

theorem clear_eq (instanc : NfcDevice Data) : instanc.clear = cleared := by
  unfold clear
  split
  · rename_i invalid
    rcases instanc with ⟨protocol, protocolData, empty⟩
    cases invalid
    cases empty rfl
    rfl
  · rfl

def withContent (instanc : NfcDevice Data) (content : Data) : NfcDevice Data where
  protocol := instanc.protocol
  protocolData := instanc.protocolData.map fun object => { object with content := content }
  empty := fun invalid => by rw [instanc.empty invalid, Option.map_none]

end NfcDevice

structure DeviceLoading (Data : Type) where
  instanc : NfcDevice Data
  ff : FlipperFormat
  allocations : Nat
  allocated : ∀ object, instanc.protocolData = some object → object.allocation < allocations

abbrev DeviceM (Data α : Type) := Effect NfcDeviceFault (DeviceLoading Data) α

namespace DeviceLoading
variable {Data : Type}

def withFile (loading : DeviceLoading Data) (ff : FlipperFormat) : DeviceLoading Data := { loading with ff := ff }

def clear (loading : DeviceLoading Data) : DeviceLoading Data where
  instanc := loading.instanc.clear
  ff := loading.ff
  allocations := loading.allocations
  allocated := by
    rw [NfcDevice.clear_eq]
    exact fun _ absent => absurd absent.symm (Option.some_ne_none _)

/-- A new object of a protocol in the place of what was there. -/
def renew (loading : DeviceLoading Data) (protocol : NfcProtocol) (content : Data) : DeviceLoading Data where
  instanc :=
    ⟨some protocol, some ⟨loading.allocations, content⟩, fun invalid => absurd invalid (Option.some_ne_none _)⟩
  ff := loading.ff
  allocations := loading.allocations + 1
  allocated := by
    rintro _ ⟨⟩
    exact Nat.lt_succ_self _

def withContent (loading : DeviceLoading Data) (content : Data) (ff : FlipperFormat) : DeviceLoading Data where
  instanc := loading.instanc.withContent content
  ff := ff
  allocations := loading.allocations
  allocated := by
    intro object held
    obtain ⟨before, there, rfl⟩ := Option.map_eq_some_iff.mp held
    exact loading.allocated before there

end DeviceLoading

def nfcFileHeader : Text := "Flipper NFC device".toList
def nfcDeviceUidKey : Text := "UID".toList
def nfcDeviceTypeKey : Text := "Device type".toList
def nfcDeviceUidMaxLen : Nat := 10
def nfcMinimumSupportedFormatVersion : Nat := 2
def nfcUnifiedFormatVersion : Nat := 4

section
variable {Data α : Type}

/-- A call on the file: its answer, or nothing where it returns false. -/
def readFile (call : LoadM α) : DeviceM Data (Option α) := fun loading =>
  match call loading.ff with
  | (.ok answer, ff) => (.ok (some answer), loading.withFile ff)
  | (.error .refused, ff) => (.ok none, loading.withFile ff)
  | (.error .crashed, ff) => (.error .crashed, loading.withFile ff)

/-- A function of a protocol on the object of the device. -/
def onData (program : Effect NfcDeviceFault (Data × FlipperFormat) α) : DeviceM Data α := fun loading =>
  match loading.instanc.protocolData with
  | none => (.error .crashed, loading)
  | some object =>
    let ran := program (object.content, loading.ff)
    (ran.1, loading.withContent ran.2.1 ran.2.2)

/-- A function that does not look at the file. -/
def ofData (program : Effect NfcDeviceFault Data α) : Effect NfcDeviceFault (Data × FlipperFormat) α := fun both =>
  let ran := program both.1
  (ran.1, (ran.2, both.2))

def nfcDeviceClear : DeviceM Data Unit := update (·.clear)

/-- `flipper_format_get_value_count` returns false where there is no number. -/
def nfcDeviceLoadUid (uidMaxlen : Nat) : DeviceM Data (Option (List (BitVec 8))) := do
  let count ← readFile (flipperFormatGetValueCount nfcDeviceUidKey)
  match count.join with
  | none => pure none
  | some uidLenCurrent =>
    if uidMaxlen < uidLenCurrent then pure none else readFile (flipperFormatReadHex nfcDeviceUidKey uidLenCurrent)

variable (nfcDevices : NfcProtocol → NfcDeviceBase Data)

def nfcDeviceSetUid (uid : List (BitVec 8)) : DeviceM Data Bool := do
  match ← observe (·.instanc.protocol) with
  | none => fault .crashed
  | some protocol => onData (ofData ((nfcDevices protocol).setUid uid))

/-- `protocol` and `protocol_data` of a new object. -/
def nfcDeviceRenew (protocol : NfcProtocol) : DeviceM Data Unit :=
  update (·.renew protocol (nfcDevices protocol).alloc)

/-- UID and data of a new object, which both formats load alike. -/
def nfcDeviceLoadCard (protocol : NfcProtocol) (version : BitVec 32) : DeviceM Data Bool := do
  match ← nfcDeviceLoadUid nfcDeviceUidMaxLen with
  | none => pure false
  | some uid => do
    let uidSet ← nfcDeviceSetUid nfcDevices uid
    if uidSet then onData ((nfcDevices protocol).load version) else pure false

/-- The body of `nfc_device_load_unified`, before it looks at `loaded`. -/
def nfcDeviceLoadUnifiedCard (version : BitVec 32) : DeviceM Data Bool := do
  match ← readFile (flipperFormatReadString nfcDeviceTypeKey) with
  | none => pure false
  | some deviceType =>
    match nfcProtocols.find? fun protocol => cString deviceType = (nfcDevices protocol).protocolName with
    | none => pure false
    | some protocol => do
      nfcDeviceClear
      nfcDeviceRenew nfcDevices protocol
      nfcDeviceLoadCard nfcDevices protocol version

def nfcDeviceLoadUnified (version : BitVec 32) : DeviceM Data Bool := do
  let loaded ← nfcDeviceLoadUnifiedCard nfcDevices version
  (if loaded then pure () else nfcDeviceClear)
  pure loaded

/-- The loop of `nfc_device_load_legacy` over the protocols. -/
def nfcDeviceLegacyLoop (deviceType : Text) (version : BitVec 32) : List NfcProtocol → DeviceM Data Bool
  | [] => pure false
  | protocol :: rest => do
    nfcDeviceRenew nfcDevices protocol
    let verified ← onData (ofData ((nfcDevices protocol).verify deviceType))
    if verified then nfcDeviceLoadCard nfcDevices protocol version
    else do
      nfcDeviceClear
      nfcDeviceLegacyLoop deviceType version rest

def nfcDeviceLoadLegacy (version : BitVec 32) : DeviceM Data Bool := do
  match ← readFile (flipperFormatReadString nfcDeviceTypeKey) with
  | none => pure false
  | some deviceType => do
    nfcDeviceClear
    nfcDeviceLegacyLoop nfcDevices deviceType version nfcProtocols

/-- `nfc_device_load` of a file, or of a path without one. -/
def nfcDeviceLoad : (file : Option Text) → DeviceM Data Bool
  | none => pure false
  | some content => do
    update (·.withFile (.opened content))
    match ← readFile flipperFormatReadHeader with
    | none => pure false
    | some (filetype, version) =>
      if cString filetype ≠ nfcFileHeader then pure false
      else if version.toNat < nfcMinimumSupportedFormatVersion then pure false
      else if version.toNat < nfcUnifiedFormatVersion then nfcDeviceLoadLegacy nfcDevices version
      else nfcDeviceLoadUnified nfcDevices version

end

end Xtreme.Nfc
