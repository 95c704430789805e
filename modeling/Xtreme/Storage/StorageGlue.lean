import Mathlib.Data.List.Lookmap
import Mathlib.Logic.Function.Basic

/-! The open-file list of a storage (`storage_glue.c`). A record names its file by the
pointer that the client holds, and is found through the id in that file: the address of the
record, which stays in the file when the record is gone. -/
namespace Xtreme.Storage

/-- Paths as strings, one character a byte. -/
abbrev Path := List Char

inductive FsError
  | ok
  | notReady
  | exist
  | notExist
  | invalidParameter
  | denied
  | invalidName
  | internal
  | notImplemented
  | alreadyOpen
  deriving DecidableEq, Repr

inductive StorageStatus
  | ok
  | notReady
  | notMounted
  | noFS
  | notAccessible
  | errorInternal
  deriving DecidableEq, Repr

variable {κ φ δ : Type*} [DecidableEq κ]

/-- A record of the list. `file` is the client's file, `fileData` belongs to the driver. -/
structure StorageFile (κ δ : Type*) where
  address : BitVec 32
  file : κ
  fileData : Option δ
  path : Path
  deriving DecidableEq, Repr

structure StorageData (κ φ δ : Type*) where
  data : φ
  status : StorageStatus
  files : List (StorageFile κ δ)
  timestamp : BitVec 32

abbrev FileIds (κ : Type*) := κ → BitVec 32

def storageDataTimestamp (storage : StorageData κ φ δ) (now : BitVec 32) : StorageData κ φ δ :=
  { storage with timestamp := now }

def storageGetFile (ids : FileIds κ) (file : κ) (storage : StorageData κ φ δ) :
    Option (StorageFile κ δ) :=
  storage.files.find? fun storageFile => ids storageFile.file = ids file

def storageHasFile (ids : FileIds κ) (file : κ) (storage : StorageData κ φ δ) : Bool :=
  (storageGetFile ids file storage).isSome

def storagePathAlreadyOpen (path : Path) (storage : StorageData κ φ δ) : Bool :=
  storage.files.any fun storageFile => storageFile.path = path

def storageSetStorageFileData (ids : FileIds κ) (file : κ) (fileData : Option δ)
    (storage : StorageData κ φ δ) : StorageData κ φ δ :=
  { storage with
    files := storage.files.lookmap fun storageFile =>
      if ids storageFile.file = ids file then some { storageFile with fileData := fileData }
      else none }

def storageGetStorageFileData (ids : FileIds κ) (file : κ) (storage : StorageData κ φ δ) :
    Option δ :=
  (storageGetFile ids file storage).bind StorageFile.fileData

/-- A new record, at an address from the heap. The file gets its id. -/
def storagePushStorageFile (address : BitVec 32) (ids : FileIds κ) (file : κ) (path : Path)
    (storage : StorageData κ φ δ) : FileIds κ × StorageData κ φ δ :=
  (Function.update ids file address,
    { storage with files := ⟨address, file, none, path⟩ :: storage.files })

def storagePopStorageFile (ids : FileIds κ) (file : κ) (storage : StorageData κ φ δ) :
    StorageData κ φ δ :=
  { storage with files := storage.files.eraseP fun storageFile => ids storageFile.file = ids file }

def storageOpenFilesCount (storage : StorageData κ φ δ) : Nat := storage.files.length

end Xtreme.Storage
