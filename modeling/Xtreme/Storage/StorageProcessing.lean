import Xtreme.Storage.StorageGlue
import Xtreme.Library.Simulation

/-! The storage service (`storage_processing.c`), which handles one request after the other.
The file systems behind it are parameters: what a driver does on its medium, with its errors.
The image behind `/mnt` is part of that medium. -/
namespace Xtreme.Storage
open Library

inductive StorageIndex
  | ext
  | int
  | mnt
  deriving DecidableEq, Repr

inductive StorageType
  | real (index : StorageIndex)
  | any
  | error
  deriving DecidableEq, Repr

structure FsAccessMode where
  read : Bool
  write : Bool
  deriving DecidableEq, Repr

inductive FsOpenMode
  | openExisting
  | openAlways
  | openAppend
  | createNew
  | createAlways
  deriving DecidableEq, Repr

structure FileInfo where
  flags : BitVec 8
  size : BitVec 64
  deriving DecidableEq, Repr

inductive FileAccess
  | read (bytesToRead : BitVec 16)
  | write (bytes : List (BitVec 8))
  | seek (offset : BitVec 32) (fromStart : Bool)
  | tell
  | expand (size : BitVec 64)
  | truncate
  | sync
  | size
  | eof
  | dirRead (nameLength : BitVec 16)
  | dirRewind
  deriving DecidableEq, Repr

/-- What a request returns, with what it writes to the client's memory. -/
inductive SaReturn
  | boolValue (value : Bool)
  | uint16Value (value : BitVec 16) (buffer : List (BitVec 8))
  | uint64Value (value : BitVec 64)
  | dirEntry (value : Bool) (info : FileInfo) (name : Path)
  | errorValue (value : FsError)
  | timestamp (value : FsError) (timestamp : BitVec 32)
  | info (value : FsError) (info : FileInfo)
  | space (value : FsError) (totalSpace freeSpace : BitVec 64)
  | path (value : Path)
  deriving DecidableEq, Repr

/-- `FS_Api`: a driver. Its calls see the medium, and for a file the data of its record. -/
structure FsApi (φ δ : Type*) where
  fileOpen : φ → Path → FsAccessMode → FsOpenMode → Bool × FsError × Option δ × φ
  fileClose : φ → Option δ → Bool × FsError × Option δ × φ
  dirOpen : φ → Path → Bool × FsError × Option δ × φ
  dirClose : φ → Option δ → Bool × FsError × Option δ × φ
  access : φ → Option δ → FileAccess → SaReturn × FsError × Option δ × φ
  stat : φ → Path → FsError × FileInfo
  remove : φ → Path → FsError × φ
  mkdir : φ → Path → FsError × φ
  fsInfo : φ → Path → FsError × BitVec 64 × BitVec 64
  equivalentPath : Path → Path → Bool
  rename : φ → Path → Path → FsError × φ

/-- What the service does with a medium besides: cards and images are formatted, mounted and
taken out. Formats and mounts also tell the status of the storage. -/
structure MediumApi (φ : Type*) where
  format : φ → FsError × StorageStatus × φ
  mount : StorageStatus → φ → StorageStatus × φ
  unmount : φ → FsError × φ
  info : φ → FsError

inductive StorageEventType
  | fileClose
  | dirClose
  deriving DecidableEq, Repr

/-- `Storage`: the service, with the ids and errors of its clients' files. -/
structure StorageApp (κ φ δ : Type*) where
  storage : StorageIndex → StorageData κ φ δ
  fileId : FileIds κ
  errorId : κ → FsError
  published : List StorageEventType
  sdWasPresent : Bool
  mntImage : Option κ
  mntMounted : Bool

variable {κ φ δ : Type*} [DecidableEq κ]

def storageExtPathPrefix : Path := ['/', 'e', 'x', 't']
def storageIntPathPrefix : Path := ['/', 'i', 'n', 't']
def storageMntPathPrefix : Path := ['/', 'm', 'n', 't']
def storageAnyPathPrefix : Path := ['/', 'a', 'n', 'y']
def storagePathPrefixLen : Nat := 4

def StorageApp.setStorage (app : StorageApp κ φ δ) (index : StorageIndex) (data : StorageData κ φ δ) :
    StorageApp κ φ δ :=
  { app with storage := Function.update app.storage index data }

def StorageApp.setError (app : StorageApp κ φ δ) (file : κ) (error : FsError) : StorageApp κ φ δ :=
  { app with errorId := Function.update app.errorId file error }

def getStorageByFile (app : StorageApp κ φ δ) (file : κ) : Option StorageIndex :=
  [.ext, .int, .mnt].foldl
    (fun found index => if storageHasFile app.fileId file (app.storage index) then some index else found)
    none

def cstrPathWithoutVfsPrefix (path : Path) : Path := path.drop (min storagePathPrefixLen path.length)

def storageGetTypeByPath (path : Path) : StorageType :=
  if storagePathPrefixLen < path.length ∧ path[storagePathPrefixLen]? ≠ some '/' then .error
  else if storageExtPathPrefix <+: path then .real .ext
  else if storageIntPathPrefix <+: path then .real .int
  else if storageMntPathPrefix <+: path then .real .mnt
  else if storageAnyPathPrefix <+: path then .any
  else .error

/-- Only `/ext` and `/int` take the place of `/any`. -/
def storagePathChangeToRealStorage (path : Path) (realStorage : StorageIndex) : Path :=
  if storageAnyPathPrefix <+: path then
    match realStorage with
    | .ext => storageExtPathPrefix ++ path.drop storageExtPathPrefix.length
    | .int => storageIntPathPrefix ++ path.drop storageIntPathPrefix.length
    | .mnt => path
  else path

def storageGetData (app : StorageApp κ φ δ) (path : Path) : Except FsError (StorageIndex × Path) :=
  match storageGetTypeByPath path with
  | .real index => .ok (index, path)
  | .any =>
    let index := if (app.storage .ext).status = .ok then .ext else .int
    .ok (index, storagePathChangeToRealStorage path index)
  | .error => .error .invalidName

variable (api : StorageIndex → FsApi φ δ)

/-- Take what a driver says of a file: its data, its error and the medium. -/
def StorageApp.answered (app : StorageApp κ φ δ) (index : StorageIndex) (file : κ) (error : FsError)
    (fileData : Option δ) (data : φ) : StorageApp κ φ δ :=
  let storage := storageSetStorageFileData app.fileId file fileData (app.storage index)
  (app.setStorage index { storage with data := data }).setError file error

/-- Some requests set the storage's timestamp. -/
def StorageData.stamped (storage : StorageData κ φ δ) : Option (BitVec 32) → StorageData κ φ δ
  | some now => storageDataTimestamp storage now
  | none => storage

omit [DecidableEq κ] in
@[simp] theorem stamped_files (storage : StorageData κ φ δ) (stamp : Option (BitVec 32)) :
    (storage.stamped stamp).files = storage.files := by
  cases stamp <;> rfl

/-- A record is made before the driver opens the file, and stays if the driver fails. -/
def storageProcessOpen (app : StorageApp κ φ δ) (address : BitVec 32) (file : κ) (path : Path)
    (stamp : Option (BitVec 32)) (call : StorageIndex → φ → Path → Bool × FsError × Option δ × φ) :
    Bool × StorageApp κ φ δ :=
  match storageGetData app path with
  | .error error => (false, app.setError file error)
  | .ok (index, path) =>
    let app := app.setError file .ok
    if storagePathAlreadyOpen path (app.storage index) then
      (false, app.setError file .alreadyOpen)
    else
      let (fileId, storage) :=
        storagePushStorageFile address app.fileId file path ((app.storage index).stamped stamp)
      let app := { app.setStorage index storage with fileId := fileId }
      let (ret, error, fileData, data) :=
        call index (app.storage index).data (cstrPathWithoutVfsPrefix path)
      (ret, app.answered index file error fileData data)

def storageProcessFileOpen (app : StorageApp κ φ δ) (now address : BitVec 32) (file : κ) (path : Path)
    (accessMode : FsAccessMode) (openMode : FsOpenMode) : Bool × StorageApp κ φ δ :=
  storageProcessOpen app address file path (if accessMode.write then some now else none)
    fun index data path => (api index).fileOpen data path accessMode openMode

def storageProcessDirOpen (app : StorageApp κ φ δ) (address : BitVec 32) (file : κ) (path : Path) :
    Bool × StorageApp κ φ δ :=
  storageProcessOpen app address file path none fun index => (api index).dirOpen

def storageProcessClose (app : StorageApp κ φ δ) (file : κ) (event : StorageEventType)
    (call : StorageIndex → φ → Option δ → Bool × FsError × Option δ × φ) :
    Bool × StorageApp κ φ δ :=
  match getStorageByFile app file with
  | none => (false, app.setError file .invalidParameter)
  | some index =>
    let storage := app.storage index
    let (ret, error, fileData, data) :=
      call index storage.data (storageGetStorageFileData app.fileId file storage)
    let app := app.answered index file error fileData data
    let app := app.setStorage index (storagePopStorageFile app.fileId file (app.storage index))
    (ret, { app with published := app.published ++ [event] })

def storageProcessFileClose (app : StorageApp κ φ δ) (file : κ) : Bool × StorageApp κ φ δ :=
  storageProcessClose app file .fileClose fun index => (api index).fileClose

def storageProcessDirClose (app : StorageApp κ φ δ) (file : κ) : Bool × StorageApp κ φ δ :=
  storageProcessClose app file .dirClose fun index => (api index).dirClose

/-- A request through a file: `nothing` is what it returns without a record. -/
def storageProcessAccess (app : StorageApp κ φ δ) (file : κ) (access : FileAccess)
    (stamp : Option (BitVec 32)) (nothing : SaReturn) : SaReturn × StorageApp κ φ δ :=
  match getStorageByFile app file with
  | none => (nothing, app.setError file .invalidParameter)
  | some index =>
    let storage := (app.storage index).stamped stamp
    let (ret, error, fileData, data) :=
      (api index).access storage.data (storageGetStorageFileData app.fileId file storage) access
    (ret, (app.setStorage index storage).answered index file error fileData data)

def storageProcessFileRead (app : StorageApp κ φ δ) (file : κ) (bytesToRead : BitVec 16) :
    SaReturn × StorageApp κ φ δ :=
  storageProcessAccess api app file (.read bytesToRead) none (.uint16Value 0 [])

def storageProcessFileWrite (app : StorageApp κ φ δ) (now : BitVec 32) (file : κ)
    (bytes : List (BitVec 8)) : SaReturn × StorageApp κ φ δ :=
  storageProcessAccess api app file (.write bytes) (some now) (.uint16Value 0 [])

def storageProcessFileSeek (app : StorageApp κ φ δ) (file : κ) (offset : BitVec 32)
    (fromStart : Bool) : SaReturn × StorageApp κ φ δ :=
  storageProcessAccess api app file (.seek offset fromStart) none (.boolValue false)

def storageProcessFileTell (app : StorageApp κ φ δ) (file : κ) : SaReturn × StorageApp κ φ δ :=
  storageProcessAccess api app file .tell none (.uint64Value 0)

def storageProcessFileExpand (app : StorageApp κ φ δ) (file : κ) (size : BitVec 64) :
    SaReturn × StorageApp κ φ δ :=
  storageProcessAccess api app file (.expand size) none (.boolValue false)

def storageProcessFileTruncate (app : StorageApp κ φ δ) (now : BitVec 32) (file : κ) :
    SaReturn × StorageApp κ φ δ :=
  storageProcessAccess api app file .truncate (some now) (.boolValue false)

def storageProcessFileSync (app : StorageApp κ φ δ) (now : BitVec 32) (file : κ) :
    SaReturn × StorageApp κ φ δ :=
  storageProcessAccess api app file .sync (some now) (.boolValue false)

def storageProcessFileSize (app : StorageApp κ φ δ) (file : κ) : SaReturn × StorageApp κ φ δ :=
  storageProcessAccess api app file .size none (.uint64Value 0)

def storageProcessFileEof (app : StorageApp κ φ δ) (file : κ) : SaReturn × StorageApp κ φ δ :=
  storageProcessAccess api app file .eof none (.boolValue false)

def storageProcessDirRead (app : StorageApp κ φ δ) (file : κ) (nameLength : BitVec 16) :
    SaReturn × StorageApp κ φ δ :=
  storageProcessAccess api app file (.dirRead nameLength) none (.dirEntry false ⟨0, 0⟩ [])

def storageProcessDirRewind (app : StorageApp κ φ δ) (file : κ) : SaReturn × StorageApp κ φ δ :=
  storageProcessAccess api app file .dirRewind none (.boolValue false)

def storageProcessFileAccess (app : StorageApp κ φ δ) (now : BitVec 32) (file : κ) :
    FileAccess → SaReturn × StorageApp κ φ δ
  | .read bytesToRead => storageProcessFileRead api app file bytesToRead
  | .write bytes => storageProcessFileWrite api app now file bytes
  | .seek offset fromStart => storageProcessFileSeek api app file offset fromStart
  | .tell => storageProcessFileTell api app file
  | .expand size => storageProcessFileExpand api app file size
  | .truncate => storageProcessFileTruncate api app now file
  | .sync => storageProcessFileSync api app now file
  | .size => storageProcessFileSize api app file
  | .eof => storageProcessFileEof api app file
  | .dirRead nameLength => storageProcessDirRead api app file nameLength
  | .dirRewind => storageProcessDirRewind api app file

def storageProcessCommonTimestamp (app : StorageApp κ φ δ) (path : Path) : SaReturn :=
  match storageGetData app path with
  | .error error => .timestamp error 0
  | .ok (index, _) => .timestamp .ok (app.storage index).timestamp

def storageProcessCommonStat (app : StorageApp κ φ δ) (path : Path) : FsError × FileInfo :=
  match storageGetData app path with
  | .error error => (error, ⟨0, 0⟩)
  | .ok (index, path) => (api index).stat (app.storage index).data (cstrPathWithoutVfsPrefix path)

/-- A change that the driver makes on the medium of a storage. -/
def StorageApp.change (app : StorageApp κ φ δ) (index : StorageIndex) (now : BitVec 32)
    (call : φ → FsError × φ) : FsError × StorageApp κ φ δ :=
  let storage := storageDataTimestamp (app.storage index) now
  let (ret, data) := call storage.data
  (ret, app.setStorage index { storage with data := data })

def storageProcessCommonRemove (app : StorageApp κ φ δ) (now : BitVec 32) (path : Path) :
    FsError × StorageApp κ φ δ :=
  match storageGetData app path with
  | .error error => (error, app)
  | .ok (index, path) =>
    if storagePathAlreadyOpen path (app.storage index) then (.alreadyOpen, app)
    else app.change index now fun data => (api index).remove data (cstrPathWithoutVfsPrefix path)

/-- Only the old path is looked up among the open files. The new one keeps its `/any`. -/
def storageProcessCommonRename (app : StorageApp κ φ δ) (now : BitVec 32) (old new : Path) :
    FsError × StorageApp κ φ δ :=
  if storageGetTypeByPath old ≠ storageGetTypeByPath new then (.notImplemented, app)
  else
    match storageGetData app old with
    | .error error => (error, app)
    | .ok (index, old) =>
      if storagePathAlreadyOpen old (app.storage index) then (.alreadyOpen, app)
      else
        app.change index now fun data =>
          (api index).rename data (cstrPathWithoutVfsPrefix old) (cstrPathWithoutVfsPrefix new)

def storageProcessCommonMkdir (app : StorageApp κ φ δ) (now : BitVec 32) (path : Path) :
    FsError × StorageApp κ φ δ :=
  match storageGetData app path with
  | .error error => (error, app)
  | .ok (index, path) =>
    app.change index now fun data => (api index).mkdir data (cstrPathWithoutVfsPrefix path)

def storageProcessCommonFsInfo (app : StorageApp κ φ δ) (path : Path) : SaReturn :=
  match storageGetData app path with
  | .error error => .space error 0 0
  | .ok (index, path) =>
    let (ret, totalSpace, freeSpace) :=
      (api index).fsInfo (app.storage index).data (cstrPathWithoutVfsPrefix path)
    .space ret totalSpace freeSpace

def storageProcessCommonEquivalentPath (app : StorageApp κ φ δ) (path₁ path₂ : Path) : Bool :=
  if storageGetTypeByPath path₁ ≠ storageGetTypeByPath path₂ then false
  else
    match storageGetData app path₁ with
    | .error _ => false
    | .ok (index, path₁) => (api index).equivalentPath path₁ path₂

def storagePathTrimTrailingSlashes (path : Path) : Path :=
  (path.reverse.dropWhile (· = '/')).reverse

def storageAppDataPathPrefix : Path := ['/', 'd', 'a', 't', 'a']
def storageAppAssetsPathPrefix : Path := ['/', 'a', 's', 's', 'e', 't', 's']
def storageCfgPathPrefix : Path := storageExtPathPrefix ++ ['/', '.', 'c', 'o', 'n', 'f', 'i', 'g']
def appsDataPath : Path := storageExtPathPrefix ++ ['/', 'a', 'p', 'p', 's', '_', 'd', 'a', 't', 'a']
def appsAssetsPath : Path :=
  storageExtPathPrefix ++ ['/', 'a', 'p', 'p', 's', '_', 'a', 's', 's', 'e', 't', 's']

/-- Resolve the aliases of an application's folders, and make the folders if asked to. -/
def storageProcessAlias (app : StorageApp κ φ δ) (now : BitVec 32) (path appId : Path)
    (createFolders : Bool) : Path × StorageApp κ φ δ :=
  if storageAppDataPathPrefix <+: path then
    let appsDataPathWithAppsid := appsDataPath ++ '/' :: appId
    (appsDataPathWithAppsid ++ path.drop storageAppDataPathPrefix.length,
      if createFolders ∧ (storageProcessCommonStat api app appsDataPathWithAppsid).1 ≠ .ok then
        let app := (storageProcessCommonMkdir api app now appsDataPath).2
        (storageProcessCommonMkdir api app now appsDataPathWithAppsid).2
      else app)
  else if storageAppAssetsPathPrefix <+: path then
    (appsAssetsPath ++ '/' :: appId ++ path.drop storageAppAssetsPathPrefix.length, app)
  else if storageCfgPathPrefix <+: path then
    (path,
      if createFolders ∧ (storageProcessCommonStat api app storageCfgPathPrefix).1 ≠ .ok then
        (storageProcessCommonMkdir api app now storageCfgPathPrefix).2
      else app)
  else (path, app)

variable (card image : MediumApi φ)

def storageProcessSdFormat (app : StorageApp κ φ δ) (now : BitVec 32) : FsError × StorageApp κ φ δ :=
  let storage := app.storage .ext
  if storage.status = .notReady then (.notReady, app)
  else
    let (ret, status, data) := card.format storage.data
    (ret, app.setStorage .ext
      (storageDataTimestamp { storage with status := status, data := data } now))

/-- Take the card out. The unmount's own error is not looked at. -/
def sdUnmountCard (storage : StorageData κ φ δ) : StorageData κ φ δ :=
  { storage with status := .notReady, data := (card.unmount storage.data).2 }

def sdMountCard (storage : StorageData κ φ δ) : FsError × StorageData κ φ δ :=
  let (status, data) := card.mount storage.status storage.data
  (if status ≠ .ok then .internal else .ok, { storage with status := status, data := data })

def storageProcessSdUnmount (app : StorageApp κ φ δ) (now : BitVec 32) : FsError × StorageApp κ φ δ :=
  let storage := app.storage .ext
  if storage.status = .notReady then (.notReady, app)
  else if storageOpenFilesCount storage ≠ 0 then (.denied, app)
  else (.ok, app.setStorage .ext (storageDataTimestamp (sdUnmountCard card storage) now))

def storageProcessSdMount (app : StorageApp κ φ δ) (now : BitVec 32) : FsError × StorageApp κ φ δ :=
  let storage := app.storage .ext
  if storage.status ≠ .notReady then (.notReady, app)
  else
    let (ret, storage) := sdMountCard card storage
    (ret, app.setStorage .ext (storageDataTimestamp storage now))

def storageProcessSdInfo (app : StorageApp κ φ δ) : FsError :=
  let storage := app.storage .ext
  if storage.status = .notReady then .notReady else card.info storage.data

def storageProcessSdStatus (app : StorageApp κ φ δ) : FsError :=
  match (app.storage .ext).status with
  | .ok => .ok
  | .notReady => .notReady
  | _ => .internal

/-- The tick of the card's driver: a card that came is mounted, one that left taken out. -/
def storageExtTick (app : StorageApp κ φ δ) (present stillPresent : Bool) : StorageApp κ φ δ :=
  if app.sdWasPresent then
    if present then
      let storage := (sdMountCard card (app.storage .ext)).2
      if stillPresent then { app.setStorage .ext storage with sdWasPresent := false }
      else app.setStorage .ext (sdUnmountCard card storage)
    else app
  else if present then app
  else { app.setStorage .ext (sdUnmountCard card (app.storage .ext)) with sdWasPresent := true }

def storageProcessVirtualInit (app : StorageApp κ φ δ) (file : κ) : FsError × StorageApp κ φ δ :=
  if app.mntImage.isSome then (.alreadyOpen, app) else (.ok, { app with mntImage := some file })

def storageProcessVirtualFormat (app : StorageApp κ φ δ) : FsError × StorageApp κ φ δ :=
  if app.mntImage.isNone then (.notReady, app)
  else
    let storage := app.storage .mnt
    let (error, _, data) := image.format storage.data
    (if error ≠ .ok then .internal else .ok, app.setStorage .mnt { storage with data := data })

/-- A medium without a file system is told apart by the status that its mount gives. -/
def storageProcessVirtualMount (app : StorageApp κ φ δ) : FsError × StorageApp κ φ δ :=
  if app.mntImage.isNone then (.notReady, app)
  else
    let storage := app.storage .mnt
    let (status, data) := image.mount .ok storage.data
    let app := app.setStorage .mnt { storage with data := data }
    if status = .noFS then (.invalidParameter, app)
    else if status ≠ .ok then (.internal, app)
    else (.ok, { app with mntMounted := true })

def storageProcessVirtualUnmount (app : StorageApp κ φ δ) : FsError × StorageApp κ φ δ :=
  if app.mntImage.isNone then (.notReady, app)
  else
    let storage := app.storage .mnt
    let (error, data) := image.unmount storage.data
    let app := app.setStorage .mnt { storage with data := data }
    if error ≠ .ok then (.internal, app) else (.ok, { app with mntMounted := false })

def storageProcessVirtualQuit (app : StorageApp κ φ δ) : FsError × StorageApp κ φ δ :=
  if app.mntImage.isNone then (.notReady, app)
  else
    let app := if app.mntMounted then (storageProcessVirtualUnmount image app).2 else app
    (.ok, { app with mntImage := none })

/-- `StorageCommand` with its data. The thread of a request shows by its application's id. -/
inductive StorageCommand (κ : Type*)
  | fileOpen (file : κ) (path : Path) (accessMode : FsAccessMode) (openMode : FsOpenMode) (appId : Path)
  | fileClose (file : κ)
  | fileAccess (file : κ) (access : FileAccess)
  | dirOpen (file : κ) (path appId : Path)
  | dirClose (file : κ)
  | commonTimestamp (path appId : Path)
  | commonStat (path appId : Path)
  | commonRemove (path appId : Path)
  | commonRename (old new : Path)
  | commonMkDir (path appId : Path)
  | commonFsInfo (path appId : Path)
  | commonResolvePath (path appId : Path)
  | commonEquivalentPath (path₁ path₂ : Path) (truncate : Bool) (appId : Path)
  | sdFormat
  | sdUnmount
  | sdMount
  | sdInfo
  | sdStatus
  | virtualInit (image : κ)
  | virtualFormat
  | virtualMount
  | virtualUnmount
  | virtualQuit
  | tick (present stillPresent : Bool)
  deriving DecidableEq

/-- A request, with the clock and with the address that the heap gives next. -/
structure StorageMessage (κ : Type*) where
  command : StorageCommand κ
  now : BitVec 32
  address : BitVec 32

/-- The application's id when there is no thread. -/
def systemAppId : Path := ['s', 'y', 's', 't', 'e', 'm']

def reply (answer : FsError × StorageApp κ φ δ) : SaReturn × StorageApp κ φ δ :=
  (.errorValue answer.1, answer.2)

def replyBool (answer : Bool × StorageApp κ φ δ) : SaReturn × StorageApp κ φ δ :=
  (.boolValue answer.1, answer.2)

/-- `storage_process_message_internal`. The thread of a rename is read where another request
has its own, so it is none. A tick comes when no message does. -/
def storageProcessMessage (app : StorageApp κ φ δ) (message : StorageMessage κ) :
    SaReturn × StorageApp κ φ δ :=
  let now := message.now
  match message.command with
  | .fileOpen file path accessMode openMode appId =>
    let (path, app) := storageProcessAlias api app now path appId true
    replyBool (storageProcessFileOpen api app now message.address file path accessMode openMode)
  | .fileClose file => replyBool (storageProcessFileClose api app file)
  | .fileAccess file access => storageProcessFileAccess api app now file access
  | .dirOpen file path appId =>
    let (path, app) := storageProcessAlias api app now path appId true
    replyBool (storageProcessDirOpen api app message.address file path)
  | .dirClose file => replyBool (storageProcessDirClose api app file)
  | .commonTimestamp path appId =>
    let (path, app) := storageProcessAlias api app now path appId false
    (storageProcessCommonTimestamp app path, app)
  | .commonStat path appId =>
    let (path, app) := storageProcessAlias api app now path appId false
    let (ret, info) := storageProcessCommonStat api app path
    (.info ret info, app)
  | .commonRemove path appId =>
    let (path, app) := storageProcessAlias api app now path appId false
    reply (storageProcessCommonRemove api app now path)
  | .commonRename old new =>
    let (old, app) := storageProcessAlias api app now old systemAppId false
    let (new, app) := storageProcessAlias api app now new systemAppId false
    reply (storageProcessCommonRename api app now old new)
  | .commonMkDir path appId =>
    let (path, app) := storageProcessAlias api app now path appId true
    reply (storageProcessCommonMkdir api app now path)
  | .commonFsInfo path appId =>
    let (path, app) := storageProcessAlias api app now path appId false
    (storageProcessCommonFsInfo api app path, app)
  | .commonResolvePath path appId =>
    let (path, app) := storageProcessAlias api app now path appId true
    (.path path, app)
  | .commonEquivalentPath path₁ path₂ truncate appId =>
    let (path₁, app) :=
      storageProcessAlias api app now (storagePathTrimTrailingSlashes path₁) appId false
    let (path₂, app) :=
      storageProcessAlias api app now (storagePathTrimTrailingSlashes path₂) appId false
    let path₁ := path₁ ++ ['/']
    let path₂ := path₂ ++ ['/']
    let path₂ := if truncate then path₂.take path₁.length else path₂
    (.boolValue (storageProcessCommonEquivalentPath api app path₁ path₂), app)
  | .sdFormat => reply (storageProcessSdFormat card app now)
  | .sdUnmount => reply (storageProcessSdUnmount card app now)
  | .sdMount => reply (storageProcessSdMount card app now)
  | .sdInfo => (.errorValue (storageProcessSdInfo card app), app)
  | .sdStatus => (.errorValue (storageProcessSdStatus app), app)
  | .virtualInit file => reply (storageProcessVirtualInit app file)
  | .virtualFormat => reply (storageProcessVirtualFormat image app)
  | .virtualMount => reply (storageProcessVirtualMount image app)
  | .virtualUnmount => reply (storageProcessVirtualUnmount image app)
  | .virtualQuit => reply (storageProcessVirtualQuit image app)
  | .tick present stillPresent => (.boolValue true, storageExtTick card app present stillPresent)

end Xtreme.Storage
