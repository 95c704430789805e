import Xtreme.Library.Settling
import Xtreme.Storage.StorageProcessing
import Xtreme.Toolbox.FuriString

/-! Walks through directories with one open directory at a time (`lib/toolbox/dir_walk.c`).
What the storage has of directories is a parameter of each call: the entries of one, in the
order in which they are read. -/
namespace Xtreme.Toolbox
open Xtreme.Storage Xtreme.Library

structure DirEntry where
  name : Path
  info : FileInfo
  deriving DecidableEq, Repr

abbrev Directories := Path → Option (List DirEntry)

def fsfDirectory : BitVec 8 := 1

def fileInfoIsDir (info : FileInfo) : Bool := info.flags &&& fsfDirectory ≠ 0

/-- `"%s/%s"`. -/
def slashed (path name : Path) : Path := path ++ '/' :: name

def maxNameLen : Nat := 254

/-- `File` for a directory: its path, and how many of its entries were read. -/
structure DirFile where
  opened : Option (Path × Nat)
  error : FsError
  deriving DecidableEq, Repr

def storageDirOpen (directories : Directories) (path : Path) : Bool × DirFile :=
  match directories path with
  | some _ => (true, ⟨some (path, 0), .ok⟩)
  | none => (false, ⟨none, .notExist⟩)

def storageDirClose (file : DirFile) : DirFile := { file with opened := none }

/-- The next entry; its name is cut to a buffer with its terminator. -/
def storageDirRead (directories : Directories) (file : DirFile) (nameLength : Nat) : Option DirEntry × DirFile :=
  match file.opened with
  | none => (none, { file with error := .invalidParameter })
  | some (path, count) =>
    match ((directories path).getD [])[count]? with
    | some entry =>
      (some ⟨entry.name.take (nameLength - 1), entry.info⟩, ⟨some (path, count + 1), .ok⟩)
    | none => (none, { file with error := .notExist })

inductive DirWalkResult
  | ok
  | error
  | last
  deriving DecidableEq, Repr

abbrev DirWalkFilterCb (σ : Type) := Path → FileInfo → σ → Bool × σ

structure DirWalk (σ : Type) where
  file : DirFile
  path : Path
  indexList : List (BitVec 32)
  currentIndex : BitVec 32
  recursive : Bool
  filterCb : Option (DirWalkFilterCb σ)
  filterContext : σ
  recurseFilter : List Path

/-- What a read returns, with what it writes to the caller's path and file information. -/
structure DirWalkAnswer (σ : Type) where
  result : DirWalkResult
  found : Option (Path × FileInfo)
  walk : DirWalk σ

section
variable {σ : Type}

def dirWalkAlloc (context : σ) : DirWalk σ :=
  ⟨⟨none, .ok⟩, [], [], 0, true, none, context, []⟩

def dirWalkOpen (directories : Directories) (path : Path) (walk : DirWalk σ) : Bool × DirWalk σ :=
  let (opened, file) := storageDirOpen directories path
  (opened, { walk with path := path, currentIndex := 0, file := file })

def dirWalkFilter (entry : DirEntry) (walk : DirWalk σ) : Bool × DirWalk σ :=
  match walk.filterCb with
  | some filterCb =>
    let (passes, context) := filterCb entry.name entry.info walk.filterContext
    (passes, { walk with filterContext := context })
  | none => (true, walk)

/-- The path up to its last slash, if it has one. -/
def pathLeft (path : Path) : Path :=
  match furiStringSearchRchar '/' path with
  | some lastChar => furiStringLeft path lastChar
  | none => path

/-- Step into a directory, unless it is one of the recursion filter. -/
def stepInto (directories : Directories) (name : Path) (walk : DirWalk σ) : DirWalk σ :=
  let path := slashed walk.path name
  if walk.recurseFilter.contains path then { walk with path := pathLeft path }
  else
    { walk with
      path := path
      indexList := walk.currentIndex :: walk.indexList
      currentIndex := 0
      file := (storageDirOpen directories path).2 }

/-- The directory above, from its start on. -/
def stepOut (directories : Directories) (indexList : List (BitVec 32)) (walk : DirWalk σ) : DirWalk σ :=
  { walk with
    path := pathLeft walk.path
    indexList := indexList
    currentIndex := 0
    file := (storageDirOpen directories (pathLeft walk.path)).2 }

/-- As many entries are read again as were read before; false if there are less. -/
def rewindLoop (directories : Directories) (index : BitVec 32) : Nat → DirWalk σ → Option (Bool × DirWalk σ)
  | 0, _ => none
  | fuel + 1, walk =>
    if index = walk.currentIndex then some (true, walk)
    else
      match storageDirRead directories walk.file maxNameLen with
      | (none, file) => some (false, { walk with file := file })
      | (some _, file) =>
        rewindLoop directories index fuel { walk with file := file, currentIndex := walk.currentIndex + 1 }

def dirWalkIter (directories : Directories) : Nat → DirWalk σ → Option (DirWalkAnswer σ)
  | 0, _ => none
  | fuel + 1, walk =>
    match storageDirRead directories walk.file maxNameLen with
    | (some entry, file) =>
      let (passes, filtered) :=
        dirWalkFilter entry { walk with file := file, currentIndex := walk.currentIndex + 1 }
      let next :=
        if fileInfoIsDir entry.info ∧ walk.recursive then stepInto directories entry.name filtered else filtered
      if passes then some ⟨.ok, some (slashed walk.path entry.name, entry.info), next⟩
      else dirWalkIter directories fuel next
    | (none, file) =>
      if file.error = .notExist then
        match walk.indexList with
        | [] => some ⟨.last, none, { walk with file := file }⟩
        | index :: indexList =>
          (rewindLoop directories index fuel (stepOut directories indexList { walk with file := file })).bind
            fun rewound =>
              if rewound.1 then dirWalkIter directories fuel rewound.2 else some ⟨.error, none, rewound.2⟩
      else some ⟨.error, none, { walk with file := file }⟩

def dirWalkRead (directories : Directories) (fuel : Nat) (walk : DirWalk σ) : Option (DirWalkAnswer σ) :=
  dirWalkIter directories fuel walk

end
end Xtreme.Toolbox
