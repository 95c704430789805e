import Mathlib.Logic.Function.Basic
import Xtreme.Library.Simulation

/-! The storage commands of a session with a remote client (`rpc_storage.c`). A write comes
in several requests that share one file and one command id, and every other command has to
end it. What the commands do is kept as a log of acts: responses, and what is taken and
given back. What the storage service answers is part of a call. -/
namespace Xtreme.Rpc
open Library

inductive FsError
  | ok | notReady | exist | notExist | invalidParameter | denied | invalidName | internal | notImplemented | alreadyOpen
  deriving DecidableEq, Repr

inductive CommandStatus
  | ok | error | invalidParameters | continuousCommandInterrupted | storageNotReady | storageExist | storageNotExist
  | storageInvalidParameter | storageDenied | storageInvalidName | storageInternal | storageNotImplemented
  | storageAlreadyOpen | storageDirNotEmpty
  deriving DecidableEq, Repr

def rpcSystemStorageGetError : FsError → CommandStatus
  | .ok => .ok
  | .invalidName => .storageInvalidName
  | .invalidParameter => .storageInvalidParameter
  | .internal => .storageInternal
  | .alreadyOpen => .storageAlreadyOpen
  | .denied => .storageDenied
  | .exist => .storageExist
  | .notExist => .storageNotExist
  | .notReady => .storageNotReady
  | .notImplemented => .storageNotImplemented

abbrev Bytes := List (BitVec 8)
abbrev Path := List Char
abbrev CommandId := BitVec 32

/-- `path_contains_only_ascii`: of the last component. -/
def pathContainsOnlyAscii : Option Path → Bool
  | none => false
  | some path =>
    (path.reverse.takeWhile (· ≠ '/')).all fun c =>
      !(c < ' ' || '~' < c) && !("\\<>*|\":?".toList.contains c)

/-- What becomes of a calculation of `md5_string_calc_file`. -/
inductive Md5Outcome
  | notOpened (error : FsError)
  | failed (error : FsError)
  | computed (md5 : String)

/-- An entry of a directory as it is read, with its checksum if that is asked for. -/
structure DirEntry where
  name : Path
  isDir : Bool
  size : Nat
  md5 : Md5Outcome

inductive StorageRequest
  | info (path : Path)
  | timestamp (path : Path)
  | stat (path : Path)
  | list (path : Path) (includeMd5 : Bool) (filterMaxSize : Nat)
  | read (path : Path)
  | write (path : Option Path) (data : Bytes)
  | delete (path : Option Path) (recursive : Bool)
  | mkdir (path : Option Path)
  | md5sum (path : Option Path)
  | rename (oldPath newPath : Option Path)
  | backupCreate (archivePath : Path)
  | backupRestore (archivePath : Path)

structure StorageAnswers where
  /-- `storage_common_*`, and the `stat` of a directory that could not be removed. -/
  error : FsError
  statError : FsError
  totalSpace : Nat
  freeSpace : Nat
  timestamp : Nat
  isDir : Bool
  size : Nat
  /-- Opening a file or a directory, and its error. -/
  opens : Bool
  fileError : FsError
  /-- What each read yields. -/
  reads : List Bytes
  /-- How much of a chunk is written. -/
  written : Nat
  entries : List DirEntry
  md5 : Md5Outcome
  removed : Bool
  backupOk : Bool

/-- A request of `PB_Main`, and what storage will answer to it. -/
structure StorageCall where
  commandId : CommandId
  hasNext : Bool
  content : StorageRequest
  answers : StorageAnswers

inductive FileHandle
  | write | read | dir | md5
  deriving DecidableEq, Repr

/-- What is taken from the system and given back. -/
inductive Resource
  | record
  | file (handle : FileHandle)
  | opened (handle : FileHandle)
  deriving DecidableEq, Repr

structure ListedFile where
  name : Path
  isDir : Bool
  size : Nat
  md5 : Option String
  deriving DecidableEq, Repr

inductive ResponseContent
  | empty
  | info (totalSpace freeSpace : Nat)
  | timestamp (timestamp : Nat)
  | stat (isDir : Bool) (size : Nat)
  | list (files : List ListedFile)
  | read (data : Bytes)
  | md5sum (md5 : String)
  deriving DecidableEq, Repr

inductive Act
  | takes (resource : Resource)
  | gives (resource : Resource)
  /-- Bytes written at the end of the file that is open for writing. -/
  | writes (data : Bytes)
  | sends (commandId : CommandId) (status : CommandStatus) (hasNext : Bool) (content : ResponseContent)
  deriving DecidableEq, Repr

/-- `rpc_send_and_release_empty`. -/
def rpcSendAndReleaseEmpty (commandId : CommandId) (status : CommandStatus) : Act :=
  .sends commandId status false .empty

inductive RpcStorageState
  | idle | writing
  deriving DecidableEq, Repr

structure RpcStorageSystem where
  state : RpcStorageState
  currentCommandId : CommandId
  /-- Whether the file of the write is open. -/
  fileIsOpen : Bool
  deriving DecidableEq, Repr

def rpcSystemStorageResetState (system : RpcStorageSystem) (sendError : Bool) : List Act × RpcStorageSystem :=
  match system.state with
  | .idle => ([], system)
  | .writing =>
    ((if sendError then [rpcSendAndReleaseEmpty system.currentCommandId .continuousCommandInterrupted] else []) ++
        (if system.fileIsOpen then [.gives (.opened .write)] else []) ++ [.gives (.file .write), .gives .record],
      { system with state := .idle, fileIsOpen := false })

/-- `storage_common_*` between opening and closing the record, and one response. -/
def commonCall (call : StorageCall) (status : CommandStatus) (content : ResponseContent) : List Act :=
  [.takes .record, .sends call.commandId status false content, .gives .record]

/-- The same, with the record closed before the response. -/
def closedCall (call : StorageCall) (status : CommandStatus) : List Act :=
  [.takes .record, .gives .record, rpcSendAndReleaseEmpty call.commandId status]

def rpcSystemStorageInfo (call : StorageCall) : List Act :=
  let answers := call.answers
  commonCall call (rpcSystemStorageGetError answers.error)
    (if answers.error = .ok then .info answers.totalSpace answers.freeSpace else .empty)

def rpcSystemStorageTimestamp (call : StorageCall) : List Act :=
  let answers := call.answers
  commonCall call (rpcSystemStorageGetError answers.error)
    (if answers.error = .ok then .timestamp answers.timestamp else .empty)

def rpcSystemStorageStat (call : StorageCall) : List Act :=
  let answers := call.answers
  commonCall call (rpcSystemStorageGetError answers.error)
    (if answers.error = .ok then .stat answers.isDir answers.size else .empty)

def rpcSystemStorageListRoot (call : StorageCall) : List Act :=
  let dir (name : String) : ListedFile := ⟨name.toList, true, 0, none⟩
  [.sends call.commandId .ok false (.list [dir "any", dir "int", dir "ext"])]

def rpcSystemStorageListFilter (filterMaxSize : Nat) (entry : DirEntry) : Bool :=
  pathContainsOnlyAscii (some entry.name) && (filterMaxSize = 0 || entry.size ≤ filterMaxSize)

def md5CalcFile : Md5Outcome → List Act
  | .notOpened _ => []
  | .failed _ | .computed _ => [.takes (.opened .md5), .gives (.opened .md5)]

/-- The checksum of an entry, if it is asked for. -/
def ownMd5 (includeMd5 : Bool) (entry : DirEntry) : Option String :=
  match includeMd5 && !entry.isDir, entry.md5 with
  | true, .computed md5 => some md5
  | _, _ => none

/-- The files of a directory, in responses of at most `count` of them. A place of the response
keeps its array for a checksum (`slots`) until another one is written there: `pb_release` gives
back what is behind pointers only. -/
def listLoop (count : Nat) (call : StorageCall) (includeMd5 : Bool) (filterMaxSize : Nat) :
    List DirEntry → List ListedFile → (slots : Nat → Option String) → List Act
  | [], files, _ => [.sends call.commandId .ok false (.list files)]
  | entry :: entries, files, slots =>
    if rpcSystemStorageListFilter filterMaxSize entry then
      let full := files.length = count
      let flushed : List Act := if full then [.sends call.commandId .ok true (.list files)] else []
      let files := if full then [] else files
      let md5 := (ownMd5 includeMd5 entry).or (slots files.length)
      flushed ++ (if includeMd5 && !entry.isDir then md5CalcFile entry.md5 else []) ++
        listLoop count call includeMd5 filterMaxSize entries (files ++ [⟨entry.name, entry.isDir, entry.size, md5⟩])
          (Function.update slots files.length md5)
    else listLoop count call includeMd5 filterMaxSize entries files slots

def rpcSystemStorageList (count : Nat) (call : StorageCall) (path : Path) (includeMd5 : Bool)
    (filterMaxSize : Nat) : List Act :=
  let answers := call.answers
  if path = ['/'] then rpcSystemStorageListRoot call
  else
    [.takes .record, .takes (.file .dir), .takes (.file .md5)] ++ (if answers.opens then
        .takes (.opened .dir) :: listLoop count call includeMd5 filterMaxSize answers.entries [] (fun _ => none) ++
          [.gives (.opened .dir)]
      else [rpcSendAndReleaseEmpty call.commandId (rpcSystemStorageGetError answers.fileError)]) ++
      [.gives (.file .dir), .gives (.file .md5), .gives .record]

def maxDataSize : Nat := 512

/-- The chunks of a file, and whether all of it was read. A read that storage does not
answer yields nothing. -/
def readLoop (call : StorageCall) : List Bytes → (sizeLeft : Nat) → List Act × Bool
  | _, 0 => ([.sends call.commandId .ok false (.read [])], true)
  | [], _ + 1 => ([], false)
  | chunk :: reads, sizeLeft@(_ + 1) =>
    let readSize := min sizeLeft maxDataSize
    let data := chunk.take readSize
    if data.length = readSize then
      let sizeLeft := sizeLeft - readSize
      if sizeLeft = 0 then ([.sends call.commandId .ok false (.read data)], true)
      else
        let (sent, success) := readLoop call reads sizeLeft
        (.sends call.commandId .ok true (.read data) :: sent, success)
    else ([], false)

def rpcSystemStorageRead (call : StorageCall) : List Act :=
  let answers := call.answers
  let failed := rpcSendAndReleaseEmpty call.commandId (rpcSystemStorageGetError answers.fileError)
  [.takes .record, .takes (.file .read)] ++ (if answers.opens then
      let (sent, success) := readLoop call answers.reads answers.size
      .takes (.opened .read) :: sent ++ (if success then [] else [failed]) ++ [.gives (.opened .read)]
    else [failed]) ++
    [.gives (.file .read), .gives .record]

/-- `rpc_system_storage_is_dir_is_empty`. -/
def rpcSystemStorageIsDirIsEmpty (answers : StorageAnswers) : List Act × Bool :=
  if answers.statError = .ok ∧ answers.isDir then
    (.takes (.file .dir) :: (if answers.opens then [.takes (.opened .dir), .gives (.opened .dir)] else []) ++
        [.gives (.file .dir)],
      !(answers.opens && answers.entries.any fun entry => pathContainsOnlyAscii (some entry.name)))
  else ([], true)

def rpcSystemStorageDelete (call : StorageCall) (path : Option Path) (recursive : Bool) : List Act :=
  let answers := call.answers
  match path with
  | none => closedCall call .invalidParameters
  | some _ =>
    let (looks, isEmpty) := if answers.error = .denied then rpcSystemStorageIsDirIsEmpty answers else ([], true)
    let status :=
      if answers.error = .denied ∧ !isEmpty then
        if recursive then (if answers.removed then .ok else .error) else .storageDirNotEmpty
      else if answers.error = .notExist then .ok
      else rpcSystemStorageGetError answers.error
    .takes .record :: looks ++ [.gives .record, rpcSendAndReleaseEmpty call.commandId status]

def rpcSystemStorageMkdir (call : StorageCall) (path : Option Path) : List Act :=
  closedCall call (match path with
    | none => .invalidParameters
    | some path =>
      if pathContainsOnlyAscii (some path) then rpcSystemStorageGetError call.answers.error else .storageInvalidName)

def rpcSystemStorageMd5sum (call : StorageCall) (path : Option Path) : List Act :=
  match path with
  | none => [rpcSendAndReleaseEmpty call.commandId .invalidParameters]
  | some _ =>
    let response := match call.answers.md5 with
      | .computed md5 => .sends call.commandId .ok false (.md5sum md5)
      | .notOpened error | .failed error => rpcSendAndReleaseEmpty call.commandId (rpcSystemStorageGetError error)
    [.takes .record, .takes (.file .md5)] ++ md5CalcFile call.answers.md5 ++
      [response, .gives (.file .md5), .gives .record]

def rpcSystemStorageRename (call : StorageCall) (newPath : Option Path) : List Act :=
  closedCall call
    (if pathContainsOnlyAscii newPath then rpcSystemStorageGetError call.answers.error else .storageInvalidName)

/-- `rpc_system_storage_backup_create_process`, `rpc_system_storage_backup_restore_process`. -/
def rpcSystemStorageBackup (call : StorageCall) : List Act :=
  closedCall call (if call.answers.backupOk then .ok else .error)

def writeOpen (system : RpcStorageSystem) (call : StorageCall) : List Act × RpcStorageSystem × Bool :=
  match system.state with
  | .writing => ([], system, true)
  | .idle =>
    ([.takes .record, .takes (.file .write)] ++ (if call.answers.opens then [.takes (.opened .write)] else []),
      ⟨.writing, call.commandId, call.answers.opens⟩, call.answers.opens)

/-- Write a chunk to the open file, and answer the last one or a failure. -/
def writeChunk (system : RpcStorageSystem) (call : StorageCall) (data : Bytes) (opened : Bool) :
    List Act × RpcStorageSystem :=
  let writes : List Act := if opened ∧ data ≠ [] then [.writes (data.take call.answers.written)] else []
  let success := opened && (data.take call.answers.written).length == data.length
  let status :=
    if success then .ok
    else if rpcSystemStorageGetError call.answers.fileError = .ok then .storageInternal
    else rpcSystemStorageGetError call.answers.fileError
  if !success || !call.hasNext then
    let (closes, system') := rpcSystemStorageResetState system false
    (writes ++ rpcSendAndReleaseEmpty system.currentCommandId status :: closes, system')
  else (writes, system)

def rpcSystemStorageWrite (system : RpcStorageSystem) (call : StorageCall) (path : Option Path) (data : Bytes) :
    List Act × RpcStorageSystem :=
  if !pathContainsOnlyAscii path then
    let system := { system with currentCommandId := call.commandId }
    let (closes, system) := rpcSystemStorageResetState system false
    (rpcSendAndReleaseEmpty call.commandId .storageInvalidName :: closes, system)
  else
    let (interrupts, system) :=
      if call.commandId ≠ system.currentCommandId ∧ system.state = .writing then rpcSystemStorageResetState system true
      else ([], system)
    let (opens, system, opened) := writeOpen system call
    let (writes, system) := writeChunk system call data opened
    (interrupts ++ opens ++ writes, system)

variable (count : Nat)

/-- The acts of a command other than a write, behind the reset of the state that most begin with. -/
def commandActs (call : StorageCall) : List Act :=
  match call.content with
  | .info _ => rpcSystemStorageInfo call
  | .timestamp _ => rpcSystemStorageTimestamp call
  | .stat _ => rpcSystemStorageStat call
  | .list path includeMd5 filterMaxSize => rpcSystemStorageList count call path includeMd5 filterMaxSize
  | .read _ => rpcSystemStorageRead call
  | .write _ _ => []
  | .delete path recursive => rpcSystemStorageDelete call path recursive
  | .mkdir path => rpcSystemStorageMkdir call path
  | .md5sum path => rpcSystemStorageMd5sum call path
  | .rename _ newPath => rpcSystemStorageRename call newPath
  | .backupCreate _ | .backupRestore _ => rpcSystemStorageBackup call

/-- A storage command. `count` is how many files a list response has room for. -/
def rpcStorage : Machine RpcStorageSystem StorageCall (List Act) := fun system call =>
  match call.content with
  | .write path data => rpcSystemStorageWrite system call path data
  -- the backups leave the state alone
  | .backupCreate _ | .backupRestore _ => (commandActs count call, system)
  | _ =>
    let (interrupts, system) := rpcSystemStorageResetState system true
    (interrupts ++ commandActs count call, system)

/-- The state of a session that has begun. -/
def rpcSystemStorageAlloc : List Act × RpcStorageSystem := ([.takes .record], ⟨.idle, 0#32, false⟩)

def rpcSystemStorageFree (system : RpcStorageSystem) : List Act := (rpcSystemStorageResetState system false).1

/-- What commands do, one after the other, from a session's beginning. -/
def sessionActs (calls : List StorageCall) : List Act :=
  rpcSystemStorageAlloc.1 ++ ((rpcStorage count).run rpcSystemStorageAlloc.2 calls).1.flatten

/-- A session from its beginning to its end. -/
def session (calls : List StorageCall) : List Act :=
  sessionActs count calls ++ rpcSystemStorageFree ((rpcStorage count).run rpcSystemStorageAlloc.2 calls).2

end Xtreme.Rpc
