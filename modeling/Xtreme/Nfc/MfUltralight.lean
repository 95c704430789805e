import Xtreme.BitLib.BitLib
import Xtreme.Library.Effect

/-! The data of a MIFARE Ultralight or NTAG tag (`mf_ultralight.c`): what each
type has, and how an image is loaded.

A file is read through `FlipperFormatReader`, the calls of `flipper_format.h`
that the loaders make; a call that fails may still have moved in the file. -/
namespace Xtreme.Nfc
open Xtreme.Library BitLib

/-- What a listener asks of the poller loop (`nfc.h`). -/
inductive NfcCommand
  | continue
  | reset
  | stop
  | sleep
  deriving DecidableEq, Repr

inductive MfUltralightType
  | unknown
  | ntag203
  | mfulC
  | ul11
  | ul21
  | ntag213
  | ntag215
  | ntag216
  | ntagI2C1K
  | ntagI2C2K
  | ntagI2CPlus1K
  | ntagI2CPlus2K
  deriving DecidableEq, Repr

inductive MfUltralightFeatureSupport
  | readVersion
  | readSignature
  | readCounter
  | checkTearingFlag
  | fastRead
  | incCounter
  | fastWrite
  | compatibleWrite
  | passwordAuth
  | vcsl
  | sectorSelect
  | singleCounter
  | asciiMirror
  | counterInMemory
  | dynamicLock
  | authenticate
  deriving DecidableEq, Repr

/-- The feature set is one word in the source, a bit for each feature. -/
structure MfUltralightFeatures where
  deviceName : String
  totalPages : Nat
  configPage : Nat
  featureSet : List MfUltralightFeatureSupport

def mfUltralightFeatures : MfUltralightType → MfUltralightFeatures
  | .unknown => ⟨"Mifare Ultralight", 16, 0, [.compatibleWrite]⟩
  | .mfulC => ⟨"Mifare Ultralight C", 48, 0, [.compatibleWrite, .authenticate]⟩
  | .ntag203 => ⟨"NTAG203", 42, 0, [.compatibleWrite, .counterInMemory]⟩
  | .ul11 => ⟨"Mifare Ultralight 11", 20, 16,
      [.readVersion, .readSignature, .readCounter, .checkTearingFlag, .fastRead, .incCounter,
        .compatibleWrite, .passwordAuth, .vcsl]⟩
  | .ul21 => ⟨"Mifare Ultralight 21", 41, 37,
      [.readVersion, .readSignature, .readCounter, .checkTearingFlag, .fastRead, .incCounter,
        .compatibleWrite, .passwordAuth, .vcsl, .dynamicLock]⟩
  | .ntag213 => ⟨"NTAG213", 45, 41,
      [.readVersion, .readSignature, .readCounter, .fastRead, .compatibleWrite, .passwordAuth,
        .singleCounter, .asciiMirror, .dynamicLock]⟩
  | .ntag215 => ⟨"NTAG215", 135, 131,
      [.readVersion, .readSignature, .readCounter, .fastRead, .compatibleWrite, .passwordAuth,
        .singleCounter, .asciiMirror, .dynamicLock]⟩
  | .ntag216 => ⟨"NTAG216", 231, 227,
      [.readVersion, .readSignature, .readCounter, .fastRead, .compatibleWrite, .passwordAuth,
        .singleCounter, .asciiMirror, .dynamicLock]⟩
  | .ntagI2C1K => ⟨"NTAG I2C 1K", 231, 0, [.readVersion, .fastRead, .sectorSelect, .dynamicLock]⟩
  | .ntagI2C2K => ⟨"NTAG I2C 2K", 485, 0, [.readVersion, .fastRead, .sectorSelect, .dynamicLock]⟩
  | .ntagI2CPlus1K => ⟨"NTAG I2C Plus 1K", 236, 227,
      [.readVersion, .readSignature, .fastRead, .passwordAuth, .sectorSelect, .fastWrite, .dynamicLock]⟩
  | .ntagI2CPlus2K => ⟨"NTAG I2C Plus 2K", 492, 227,
      [.readVersion, .readSignature, .fastRead, .passwordAuth, .sectorSelect, .fastWrite, .dynamicLock]⟩

def mfUltralightGetFeatureSupportSet (type : MfUltralightType) : List MfUltralightFeatureSupport :=
  (mfUltralightFeatures type).featureSet

def mfUltralightSupportFeature (featureSet featuresToCheck : List MfUltralightFeatureSupport) : Bool :=
  featuresToCheck.any (featureSet.contains ·)

def mfUltralightGetConfigPageNum (type : MfUltralightType) : Nat := (mfUltralightFeatures type).configPage

/-- Both numbers are bytes in the source, and no type's do not fit in one. -/
def mfUltralightGetPwdPageNum (type : MfUltralightType) : Nat :=
  if (mfUltralightFeatures type).configPage ≠ 0 then (mfUltralightFeatures type).configPage + 2 else 0

def mfUltralightIsPagePwdOrPack (type : MfUltralightType) (page : Nat) : Bool :=
  mfUltralightGetPwdPageNum type ≠ 0 &&
    (page = mfUltralightGetPwdPageNum type || page = mfUltralightGetPwdPageNum type + 1)

abbrev MfUltralightPage := Bytes 4

structure Iso14443_3aData where
  uid : Bytes 10
  uidLen : Nat
  atqa : Bytes 2
  sak : BitVec 8

abbrev mfUltralightMaxPageNum : Nat := 510

structure MfUltralightData where
  iso14443_3aData : Iso14443_3aData
  type : MfUltralightType
  version : Bytes 8
  signature : Bytes 32
  counter : Vector (BitVec 32) 3
  tearingFlag : Bytes 3
  page : Vector MfUltralightPage mfUltralightMaxPageNum
  pagesRead : Nat
  pagesTotal : Nat
  authAttempts : BitVec 32

def mfUltralightGetConfigPage (type : MfUltralightType) : Option Nat :=
  if mfUltralightGetConfigPageNum type ≠ 0 then some (mfUltralightGetConfigPageNum type) else none

structure FlipperFormatReader (file : Type) where
  rewind : Effect Unit file Unit
  readUint32 : String → Effect Unit file (BitVec 32)
  readHex : String → (size : Nat) → Effect Unit file (Bytes size)
  readString : String → Effect Unit file String

/-- The answer of a call, or nothing where it failed. -/
def attempt {file α : Type} (call : Effect Unit file α) : Effect Unit file (Option α) := fun state =>
  match call state with
  | (.ok answer, after) => (.ok (some answer), after)
  | (.error _, after) => (.ok none, after)

section
variable {file : Type} (reader : FlipperFormatReader file)

def iso14443_3aLoad (data : Iso14443_3aData) (version : Nat) : Effect Unit file Iso14443_3aData := do
  let atqa ← reader.readHex "ATQA" 2
  let sak ← reader.readHex "SAK" 1
  -- Versions after `NFC_LSB_ATQA_FORMAT_VERSION` store the two bytes the other way round.
  let atqa := if version > 2 then #v[atqa[1], atqa[0]] else atqa
  pure { data with atqa := atqa, sak := sak[0] }

/-- All types in the order of their enumeration. -/
def mfUltralightTypes : List MfUltralightType :=
  [.unknown, .ntag203, .mfulC, .ul11, .ul21, .ntag213, .ntag215, .ntag216, .ntagI2C1K, .ntagI2C2K,
    .ntagI2CPlus1K, .ntagI2CPlus2K]

def mfUltralightVerify (deviceType : String) : Option MfUltralightType :=
  mfUltralightTypes.find? fun type => deviceType = (mfUltralightFeatures type).deviceName

def mfUltralightLoadCounter (data : MfUltralightData) (i : Nat) : Effect Unit file MfUltralightData := do
  let counter ← reader.readUint32 s!"Counter {i}"
  let tearing ← reader.readHex s!"Tearing {i}" 1
  pure { data with
    counter := data.counter.setIfInBounds i counter
    tearingFlag := data.tearingFlag.setIfInBounds i tearing[0] }

def mfUltralightLoadPage (data : MfUltralightData) (i : Nat) : Effect Unit file MfUltralightData := do
  let page ← reader.readHex s!"Page {i}" 4
  pure { data with page := data.page.setIfInBounds i page }

def mfUltralightLoadType (type : MfUltralightType) (dataFormatVersion : Nat) :
    Effect Unit file MfUltralightType :=
  if dataFormatVersion > 1 then do
    let name ← reader.readString "NTAG/Ultralight type"
    match mfUltralightVerify name with
    | some type => pure type
    | none => Effect.fault ()
  else pure type

def mfUltralightLoad (data : MfUltralightData) (version : Nat) : Effect Unit file MfUltralightData := do
  let iso ← iso14443_3aLoad reader data.iso14443_3aData version
  let dataFormatVersion ← attempt (reader.readUint32 "Data format version")
  (if dataFormatVersion.isNone then reader.rewind else pure ())
  let dataFormatVersion := (dataFormatVersion.getD 0).toNat
  let type ← mfUltralightLoadType reader data.type dataFormatVersion
  let signature ← reader.readHex "Signature" 32
  let mifareVersion ← reader.readHex "Mifare version" 8
  let data := { data with
    iso14443_3aData := iso, type := type, signature := signature, version := mifareVersion }
  let data ← (List.range 3).foldlM (mfUltralightLoadCounter reader) data
  let pagesTotal ← reader.readUint32 "Pages total"
  let pagesRead ← (if dataFormatVersion < 2 then pure pagesTotal else reader.readUint32 "Pages read")
  if pagesRead.toNat > mfUltralightMaxPageNum || pagesTotal.toNat > mfUltralightMaxPageNum then
    Effect.fault ()
  else do
    let data := { data with pagesTotal := pagesTotal.toNat, pagesRead := pagesRead.toNat }
    let data ← (List.range data.pagesTotal).foldlM (mfUltralightLoadPage reader) data
    let attempts ← attempt (reader.readUint32 "Failed authentication attempts")
    pure { data with authAttempts := attempts.getD 0 }

end

end Xtreme.Nfc
