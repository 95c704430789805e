import Xtreme.Storage.OpenFiles
import Mathlib.Data.List.Nodup

/-! Runs of the storage service with clients that share its files. A file is open from the
request that entered a record for it to its close. An open file has one record and a record
one open file; requests through files that are not open find nothing; and what is open stays
where it is. For this, no file that is not open may have got the id of a new record, and no
remove or rename may reach the place of an open record under another name than the record's,
or as the new name of a rename: neither is looked up in the list of open files. -/
namespace Xtreme.Storage
open Library

variable {κ φ δ ν : Type*}

/-- A driver with what is promised of it. `lookup` is what is at a path, and `reaches` whether a
change at the first path can be one at the second: the same place by another name, or a place
below it. -/
structure FileSystem (φ δ ν : Type*) extends FsApi φ δ where
  lookup : φ → Path → Option ν
  reaches : Path → Path → Bool
  remove_elsewhere : ∀ data path place, reaches path place = false →
    lookup (remove data path).2 place = lookup data place
  rename_elsewhere : ∀ data old new place, reaches old place = false → reaches new place = false →
    lookup (rename data old new).2 place = lookup data place

abbrev drivers (fs : StorageIndex → FileSystem φ δ ν) : StorageIndex → FsApi φ δ :=
  fun index => (fs index).toFsApi

/-- The service, and which files its clients have open. -/
structure Session (κ φ δ : Type*) where
  app : StorageApp κ φ δ
  isOpen : κ → Bool

def StorageApp.hasRecord [DecidableEq κ] (app : StorageApp κ φ δ) (file : κ) : Bool :=
  [.ext, .int, .mnt].any fun index => (app.entries index).any fun entry => entry.file = file

def StorageCommand.opened : StorageCommand κ → Option κ
  | .fileOpen file _ _ _ _ | .dirOpen file _ _ => some file
  | _ => none

def StorageCommand.closed : StorageCommand κ → Option κ
  | .fileClose file | .dirClose file => some file
  | _ => none

/-- The file that a request goes through. -/
def StorageCommand.used : StorageCommand κ → Option κ
  | .fileAccess file _ => some file
  | command => command.closed

/-- Which files are open after a request that led to `next`. -/
def Session.opens [DecidableEq κ] (session : Session κ φ δ) (next : StorageApp κ φ δ)
    (command : StorageCommand κ) : κ → Bool :=
  match command.opened, command.closed with
  | some file, _ => Function.update session.isOpen file (session.isOpen file || next.hasRecord file)
  | none, some file => Function.update session.isOpen file false
  | none, none => session.isOpen

/-- The places that a request removes, renames or renames to, if it does. -/
def targets (api : StorageIndex → FsApi φ δ) (app : StorageApp κ φ δ) (message : StorageMessage κ) :
    List (StorageIndex × Path) :=
  match message.command with
  | .commonRemove path appId =>
    match storageGetData app (storageProcessAlias api app message.now path appId false).1 with
    | .ok (index, path) => if storagePathAlreadyOpen path (app.storage index) then [] else [(index, path)]
    | .error _ => []
  | .commonRename old new =>
    let old := (storageProcessAlias api app message.now old systemAppId false).1
    let new := (storageProcessAlias api app message.now new systemAppId false).1
    match storageGetData app old with
    | .ok (index, path) =>
      if storageGetTypeByPath old ≠ storageGetTypeByPath new ∨
        storagePathAlreadyOpen path (app.storage index) then []
      else [(index, path), (index, new)]
    | .error _ => []
  | _ => []

def service [DecidableEq κ] (fs : StorageIndex → FileSystem φ δ ν) (card image : MediumApi φ) :
    Machine (Session κ φ δ) (StorageMessage κ) SaReturn := fun session message =>
  let (ret, app) := storageProcessMessage (drivers fs) card image session.app message
  (ret, ⟨app, session.opens app message.command⟩)

/-- A service that nobody has used. -/
def Session.Fresh (session : Session κ φ δ) : Prop :=
  (∀ index, (session.app.storage index).files = []) ∧ ∀ file, session.isOpen file = false

/-- What is promised of the clients and of the heap: nobody opens a file that is open, and a new
record has an address that no other has. -/
def Disciplined (session : Session κ φ δ) (message : StorageMessage κ) : Prop :=
  (∀ index, ∀ entry ∈ session.app.entries index, entry.address ≠ message.address) ∧
    ∀ file ∈ message.command.opened, session.isOpen file = false

/-- The id of the file, if it is not open, is that of no record. -/
def Unmistaken (session : Session κ φ δ) (file : κ) : Prop :=
  session.isOpen file = false →
    ∀ index, ∀ entry ∈ session.app.entries index, entry.address ≠ session.app.fileId file

/-- A change at `place` is none at the path of a record. -/
def Clear (fs : StorageIndex → FileSystem φ δ ν) (session : Session κ φ δ)
    (place : StorageIndex × Path) : Prop :=
  ∀ entry ∈ session.app.entries place.1, (fs place.1).reaches (cstrPathWithoutVfsPrefix place.2)
    (cstrPathWithoutVfsPrefix entry.path) = false

/-- No request goes through a closed file whose id a new record has, and what is removed, renamed
or renamed to is clear of open records. -/
def Careful (fs : StorageIndex → FileSystem φ δ ν) (session : Session κ φ δ)
    (message : StorageMessage κ) : Prop :=
  (∀ file ∈ message.command.used, Unmistaken session file) ∧
    ∀ place ∈ targets (drivers fs) session.app message, Clear fs session place

/-- The books are sound: in each storage no two records have one path, a record belongs to one
open file, and an open file has one record. -/
structure Sound (session : Session κ φ δ) : Prop where
  paths : ∀ index, ((session.app.entries index).map Entry.path).Nodup
  owned : ∀ index, ∀ entry ∈ session.app.entries index, session.isOpen entry.file ∧
      ∀ file, session.isOpen file → (session.app.fileId file = entry.address ↔ file = entry.file)
  single : ∀ file, session.isOpen file →
    ∃! place : StorageIndex × Entry κ, place.2 ∈ session.app.entries place.1 ∧ place.2.file = file

/-- What a request keeps. Through a file, it leaves the records of all other files alone, and
all storages if the file is not open. A remove or a rename leaves what is at the path of an open
record. -/
def Kept [DecidableEq κ] (fs : StorageIndex → FileSystem φ δ ν) (card image : MediumApi φ)
    (session : Session κ φ δ) (message : StorageMessage κ) : Prop :=
  let next := (service fs card image session message).2
  (∀ file ∈ message.command.used, (∀ index, ∀ record ∈ (session.app.storage index).files, record.file ≠ file →
      record ∈ (next.app.storage index).files) ∧
    (session.isOpen file = false → next.app.storage = session.app.storage)) ∧
  match message.command with
  | .commonRemove _ _ | .commonRename _ _ =>
    ∀ index, ∀ entry ∈ session.app.entries index,
      (fs index).lookup (next.app.storage index).data (cstrPathWithoutVfsPrefix entry.path) =
        (fs index).lookup (session.app.storage index).data (cstrPathWithoutVfsPrefix entry.path)
  | _ => True

/-! ## The invariant -/

/-- Every record is its open file's own, with an address of its own. -/
structure Owned (entries : StorageIndex → List (Entry κ)) (ids : FileIds κ) (isOpen : κ → Bool) :
    Prop where
  paths : ∀ index, ((entries index).map Entry.path).Nodup
  held : ∀ index, ∀ entry ∈ entries index, isOpen entry.file = true
  named : ∀ index, ∀ entry ∈ entries index, ids entry.file = entry.address
  apart : ∀ index index' entry entry', entry ∈ entries index → entry' ∈ entries index' →
    entry.address = entry'.address → index = index' ∧ entry = entry'
  listed : ∀ file, isOpen file = true → ∃ index, ∃ entry ∈ entries index, entry.file = file

def Session.Owned (session : Session κ φ δ) : Prop :=
  Storage.Owned session.app.entries session.app.fileId session.isOpen

section
variable {entries : StorageIndex → List (Entry κ)} {ids : FileIds κ} {isOpen : κ → Bool}

theorem Owned.same_file (owned : Owned entries ids isOpen) {index index' : StorageIndex}
    {entry entry' : Entry κ} (listed : entry ∈ entries index) (listed' : entry' ∈ entries index')
    (same : entry.file = entry'.file) : index = index' ∧ entry = entry' := by
  refine owned.apart index index' entry entry' listed listed' ?_
  rw [← owned.named index entry listed, ← owned.named index' entry' listed', same]

theorem Owned.names_own (owned : Owned entries ids isOpen) {file : κ}
    (stale : isOpen file = false → ∀ index, ∀ entry ∈ entries index, entry.address ≠ ids file)
    {index : StorageIndex} {entry : Entry κ} (listed : entry ∈ entries index)
    (names : Names ids file entry) : entry.file = file := by
  have address : entry.address = ids file := (owned.named index entry listed).symm.trans names
  cases opened : isOpen file with
  | false => exact absurd address (stale opened index entry listed)
  | true =>
    obtain ⟨index', own, listed', mine⟩ := owned.listed file opened
    have same : entry.address = own.address := by
      rw [address, ← mine, owned.named index' own listed']
    rw [(owned.apart index index' entry own listed listed' same).2, mine]

theorem sound_of_owned {session : Session κ φ δ} (owned : session.Owned) : Sound session := by
  refine ⟨owned.paths, fun index entry listed => ⟨owned.held index entry listed, ?_⟩, ?_⟩
  · intro file opened
    constructor
    · intro names
      refine (owned.names_own (fun closed => ?_) listed ?_).symm
      · rw [opened] at closed
        cases closed
      · exact (owned.named index entry listed).trans names.symm
    · rintro rfl
      exact owned.named index entry listed
  · intro file opened
    obtain ⟨index, entry, listed, mine⟩ := owned.listed file opened
    refine ⟨(index, entry), ⟨listed, mine⟩, ?_⟩
    rintro ⟨index', entry'⟩ ⟨listed', mine'⟩
    obtain ⟨rfl, rfl⟩ := owned.same_file listed listed' (mine.trans mine'.symm)
    rfl

theorem owned_of_fresh {session : Session κ φ δ} (fresh : session.Fresh) : session.Owned := by
  have unlisted (index : StorageIndex) : session.app.entries index = [] := by
    rw [StorageApp.entries, fresh.1 index, List.map_nil]
  refine ⟨fun index => ?_, fun index entry listed => ?_, fun index entry listed => ?_,
    fun index _ entry _ listed => ?_, fun file opened => ?_⟩
  · rw [unlisted index]
    exact List.nodup_nil
  · exact absurd (unlisted index ▸ listed) List.not_mem_nil
  · exact absurd (unlisted index ▸ listed) List.not_mem_nil
  · exact absurd (unlisted index ▸ listed) List.not_mem_nil
  · rw [fresh.2 file] at opened
    cases opened

theorem mem_entered {place index : StorageIndex} {entry other : Entry κ} :
    other ∈ Function.update entries index (entry :: entries index) place ↔
      place = index ∧ other = entry ∨ other ∈ entries place := by
  by_cases same : place = index
  · subst same
    simp
  · simp [same]

theorem Owned.enter [DecidableEq κ] (owned : Owned entries ids isOpen) {file : κ} {address : BitVec 32} {path : Path}
    {index : StorageIndex} (closed : isOpen file = false)
    (unused : ∀ entry ∈ entries index, entry.path ≠ path)
    (free : ∀ index, ∀ entry ∈ entries index, entry.address ≠ address) :
    Owned (Function.update entries index (⟨address, file, path⟩ :: entries index))
      (Function.update ids file address) (Function.update isOpen file true) := by
  have others (place : StorageIndex) (entry : Entry κ) (listed : entry ∈ entries place) :
      entry.file ≠ file := by
    rintro rfl
    rw [owned.held place entry listed] at closed
    cases closed
  refine ⟨fun place => ?_, fun place entry listed => ?_, fun place entry listed => ?_,
    fun place place' entry entry' listed listed' same => ?_, fun other opened => ?_⟩
  · by_cases same : place = index
    · subst same
      rw [Function.update_self, List.map_cons, List.nodup_cons]
      refine ⟨fun again => ?_, owned.paths place⟩
      obtain ⟨entry, listed, used⟩ := List.mem_map.mp again
      exact unused entry listed used
    · rw [Function.update_of_ne same]
      exact owned.paths place
  · rcases mem_entered.mp listed with ⟨-, rfl⟩ | old
    · exact Function.update_self file true isOpen
    · rw [Function.update_of_ne (others place entry old)]
      exact owned.held place entry old
  · rcases mem_entered.mp listed with ⟨-, rfl⟩ | old
    · exact Function.update_self file address ids
    · rw [Function.update_of_ne (others place entry old)]
      exact owned.named place entry old
  · rcases mem_entered.mp listed with ⟨rfl, rfl⟩ | old <;> rcases mem_entered.mp listed' with ⟨rfl, rfl⟩ | old'
    · exact ⟨rfl, rfl⟩
    · exact absurd same.symm (free place' entry' old')
    · exact absurd same (free place entry old)
    · exact owned.apart place place' entry entry' old old' same
  · by_cases same : other = file
    · exact ⟨index, ⟨address, file, path⟩, mem_entered.mpr (.inl ⟨rfl, rfl⟩), same.symm⟩
    · rw [Function.update_of_ne same] at opened
      obtain ⟨place, entry, listed, mine⟩ := owned.listed other opened
      exact ⟨place, entry, mem_entered.mpr (.inr listed), mine⟩

theorem Owned.mem_struck (owned : Owned entries ids isOpen) {file : κ} (opened : isOpen file = true)
    {place index : StorageIndex} (names : ∃ entry ∈ entries index, Names ids file entry)
    {other : Entry κ} :
    other ∈ Function.update entries index ((entries index).eraseP (Names ids file ·)) place ↔
      other ∈ entries place ∧ other.file ≠ file := by
  have stale : isOpen file = false → ∀ index, ∀ entry ∈ entries index, entry.address ≠ ids file :=
    fun closed => by rw [opened] at closed; cases closed
  obtain ⟨own, listed, named⟩ := names
  have mine : own.file = file := owned.names_own stale listed named
  by_cases same : place = index
  · subst same
    rw [Function.update_self]
    obtain ⟨struck, before, after, earlier, hit, split, left⟩ :=
      @List.exists_of_eraseP _ (Names ids file ·) _ _ listed (decide_eq_true named)
    have struckListed : struck ∈ entries place := by simp [split]
    have struckMine : struck.file = file :=
      owned.names_own stale struckListed (of_decide_eq_true hit)
    have once : (before ++ struck :: after).Nodup := split ▸ List.Nodup.of_map Entry.path (owned.paths place)
    rw [left, split]
    constructor
    · intro member
      have otherListed : other ∈ entries place := by grind
      refine ⟨split ▸ otherListed, fun again => ?_⟩
      have twice : other = struck :=
        (owned.same_file otherListed struckListed (again.trans struckMine.symm)).2
      grind
    · rintro ⟨member, another⟩
      rcases List.mem_append.mp member with member | member
      · exact List.mem_append_left _ member
      · rcases List.mem_cons.mp member with rfl | member
        · exact absurd struckMine another
        · exact List.mem_append_right _ member
  · rw [Function.update_of_ne same]
    refine ⟨fun member => ⟨member, fun again => same ?_⟩, And.left⟩
    exact (owned.same_file member listed (again.trans mine.symm)).1

theorem Owned.strike [DecidableEq κ] (owned : Owned entries ids isOpen) {file : κ} (opened : isOpen file = true)
    {index : StorageIndex} (names : ∃ entry ∈ entries index, Names ids file entry) :
    Owned (Function.update entries index ((entries index).eraseP (Names ids file ·))) ids
      (Function.update isOpen file false) := by
  refine ⟨fun place => ?_, fun place entry listed => ?_, fun place entry listed => ?_,
    fun place place' entry entry' listed listed' same => ?_, fun other isOpen => ?_⟩
  · by_cases same : place = index
    · subst same
      rw [Function.update_self]
      exact (owned.paths place).sublist (List.eraseP_sublist.map Entry.path)
    · rw [Function.update_of_ne same]
      exact owned.paths place
  · obtain ⟨old, another⟩ := (owned.mem_struck opened names).mp listed
    rw [Function.update_of_ne another]
    exact owned.held place entry old
  · exact owned.named place entry ((owned.mem_struck opened names).mp listed).1
  · exact owned.apart place place' entry entry' ((owned.mem_struck opened names).mp listed).1
      ((owned.mem_struck opened names).mp listed').1 same
  · have another : other ≠ file := by
      rintro rfl
      rw [Function.update_self] at isOpen
      cases isOpen
    rw [Function.update_of_ne another] at isOpen
    obtain ⟨place, entry, listed, mine⟩ := owned.listed other isOpen
    exact ⟨place, entry, (owned.mem_struck opened names).mpr ⟨listed, mine ▸ another⟩, mine⟩

end

section
variable {session : Session κ φ δ} {app : StorageApp κ φ δ}

/-- Requests that leave the books and the clients' files alone keep the invariant. -/
theorem Session.Owned.same (owned : session.Owned) (books : SameBooks session.app app) :
    Storage.Owned app.entries app.fileId session.isOpen := by
  rw [books.entries, books.ids]
  exact owned

variable [DecidableEq κ] {file : κ}

theorem hasRecord_iff :
    app.hasRecord file = true ↔ ∃ index, ∃ entry ∈ app.entries index, entry.file = file := by
  unfold StorageApp.hasRecord
  simp only [List.any_eq_true, decide_eq_true_eq]
  constructor
  · rintro ⟨index, -, found⟩
    exact ⟨index, found⟩
  · rintro ⟨index, found⟩
    exact ⟨index, by cases index <;> simp, found⟩

theorem Owned.open_file {app next : StorageApp κ φ δ} {isOpen : κ → Bool}
    {address : BitVec 32} (owned : Storage.Owned app.entries app.fileId isOpen) (closed : isOpen file = false)
    (free : ∀ index, ∀ entry ∈ app.entries index, entry.address ≠ address)
    (cases : SameBooks app next ∨ ∃ index path, Entered app next address file index path) :
    Storage.Owned next.entries next.fileId
      (Function.update isOpen file (isOpen file || next.hasRecord file)) := by
  rcases cases with books | ⟨index, path, entered⟩
  · have missing : next.hasRecord file = false := by
      rw [Bool.eq_false_iff]
      intro found
      obtain ⟨index, entry, listed, rfl⟩ := hasRecord_iff.mp found
      rw [books.entries] at listed
      rw [owned.held index entry listed] at closed
      cases closed
    rw [missing, Bool.or_false, Function.update_eq_self, books.entries, books.ids]
    exact owned
  · have found : next.hasRecord file = true := by
      refine hasRecord_iff.mpr ⟨index, ⟨address, file, path⟩, ?_, rfl⟩
      rw [entered.entries, Function.update_self]
      exact List.mem_cons_self
    rw [found, Bool.or_true, entered.entries, entered.ids]
    exact owned.enter closed entered.unused free

theorem Session.Owned.close_file (owned : session.Owned) (stale : Unmistaken session file) (event : StorageEventType)
    (call : StorageIndex → φ → Option δ → Bool × FsError × Option δ × φ) :
    let next := (storageProcessClose session.app file event call).2
    Storage.Owned next.entries next.fileId (Function.update session.isOpen file false) := by
  obtain ⟨ids, ⟨missing, same⟩ | ⟨index, found, entries⟩⟩ := close_cases session.app file event call
  · have closed : session.isOpen file = false := by
      rw [Bool.eq_false_iff]
      intro opened
      obtain ⟨index, entry, listed, rfl⟩ := owned.listed file opened
      exact getStorageByFile_none missing index entry listed rfl
    have entries : (storageProcessClose session.app file event call).2.entries = session.app.entries := by
      funext index
      rw [StorageApp.entries, same]
      rfl
    dsimp only
    rw [entries, ids, ← closed, Function.update_eq_self]
    exact owned
  · obtain ⟨entry, listed, names⟩ := getStorageByFile_some found
    have opened : session.isOpen file = true := by
      rw [← owned.names_own stale listed names]
      exact owned.held index entry listed
    dsimp only
    rw [entries, ids]
    exact owned.strike opened ⟨entry, listed, names⟩

variable {fs : StorageIndex → FileSystem φ δ ν} {card image : MediumApi φ}

/-- Every request of disciplined and careful clients keeps the invariant. -/
theorem service_owned {message : StorageMessage κ} (owned : session.Owned)
    (disciplined : Disciplined session message) (careful : Careful fs session message) :
    (service fs card image session message).2.Owned := by
  obtain ⟨free, discipline⟩ := disciplined
  have unmistaken := careful.1
  have opening (path appId : Path) := alias_books (drivers fs) session.app message.now path appId true
  have freed (path appId : Path) : ∀ index, ∀ entry ∈ (storageProcessAlias
      (drivers fs) session.app message.now path appId true).2.entries index,
      entry.address ≠ message.address := by
    rw [(opening path appId).entries]
    exact free
  rcases message with ⟨command, now, address⟩
  cases command with
  | fileOpen file path accessMode openMode appId =>
    exact (owned.same (opening path appId)).open_file (discipline file rfl) (freed path appId)
      (open_cases _ address file _ _ _)
  | dirOpen file path appId =>
    exact (owned.same (opening path appId)).open_file (discipline file rfl) (freed path appId)
      (open_cases _ address file _ _ _)
  | fileClose file => exact owned.close_file (unmistaken file rfl) .fileClose _
  | dirClose file => exact owned.close_file (unmistaken file rfl) .dirClose _
  | fileAccess file access => exact owned.same (access_books _ session.app now file access)
  | commonTimestamp path appId | commonStat path appId | commonFsInfo path appId =>
    exact owned.same (alias_books _ session.app now path appId false)
  | commonRemove path appId =>
    exact owned.same ((alias_books _ session.app now path appId false).trans (remove_books _ _ now _))
  | commonRename old new =>
    exact owned.same (((alias_books _ session.app now old systemAppId false).trans
      (alias_books _ _ now new systemAppId false)).trans (rename_books _ _ now _ _))
  | commonMkDir path appId => exact owned.same ((opening path appId).trans (mkdir_books _ _ now _))
  | commonResolvePath path appId => exact owned.same (opening path appId)
  | commonEquivalentPath path₁ path₂ truncate appId =>
    exact owned.same ((alias_books _ session.app now _ appId false).trans (alias_books _ _ now _ appId false))
  | sdFormat => exact owned.same (sdFormat_books card session.app now)
  | sdUnmount => exact owned.same (sdUnmount_books card session.app now)
  | sdMount => exact owned.same (sdMount_books card session.app now)
  | sdInfo | sdStatus => exact owned
  | virtualInit file => exact owned.same (virtualInit_books session.app file)
  | virtualFormat => exact owned.same (virtualFormat_books image session.app)
  | virtualMount => exact owned.same (virtualMount_books image session.app)
  | virtualUnmount => exact owned.same (virtualUnmount_books image session.app)
  | virtualQuit => exact owned.same (virtualQuit_books image session.app)
  | tick present stillPresent => exact owned.same (tick_books card session.app present stillPresent)

/-! ## What a request keeps -/

/-- The id of the file names no record but its own. -/
def OnlyOwn (app : StorageApp κ φ δ) (file : κ) : Prop :=
  ∀ index, ∀ record ∈ (app.storage index).files, app.fileId record.file = app.fileId file → record.file = file

omit [DecidableEq κ] in
theorem onlyOwn_of_owned (owned : session.Owned) (stale : Unmistaken session file) : OnlyOwn session.app file :=
  fun index _ member names => owned.names_own stale
    (List.mem_map_of_mem member : _ ∈ session.app.entries index) names

omit [DecidableEq κ] in
theorem unfound_of_closed (owned : session.Owned) (stale : Unmistaken session file) (closed : session.isOpen file = false) :
    getStorageByFile session.app file = none := by
  rw [Option.eq_none_iff_forall_ne_some]
  intro index found
  obtain ⟨entry, listed, names⟩ := getStorageByFile_some found
  have mine := owned.names_own stale listed names
  rw [← mine, owned.held index entry listed] at closed
  cases closed

omit [DecidableEq κ] in
theorem mem_setStorageFileData {ids : FileIds κ} {fileData : Option δ}
    {storage : StorageData κ φ δ} {record : StorageFile κ δ} (member : record ∈ storage.files)
    (unnamed : ids record.file ≠ ids file) :
    record ∈ (storageSetStorageFileData ids file fileData storage).files := by
  rw [storageSetStorageFileData]
  dsimp only
  generalize storage.files = files at member
  induction files with
  | nil => cases member
  | cons head tail ih =>
    rw [List.lookmap_cons]
    split
    · rcases List.mem_cons.mp member with rfl | later
      · exact List.mem_cons_self
      · exact List.mem_cons_of_mem _ (ih later)
    · rename_i set hit
      rcases List.mem_cons.mp member with rfl | later
      · rw [if_neg unnamed] at hit
        cases hit
      · exact List.mem_cons_of_mem _ later

theorem answered_keeps (own : OnlyOwn app file)
    (index : StorageIndex) (error : FsError) (fileData : Option δ) (data : φ) {place : StorageIndex}
    {record : StorageFile κ δ} (member : record ∈ (app.storage place).files) (another : record.file ≠ file) :
    record ∈ ((app.answered index file error fileData data).storage place).files := by
  by_cases same : place = index
  · subst same
    have unnamed : app.fileId record.file ≠ app.fileId file :=
      fun names => another (own place record member names)
    suffices record ∈ (storageSetStorageFileData app.fileId file fileData (app.storage place)).files by
      simpa [StorageApp.answered, StorageApp.setError, StorageApp.setStorage] using this
    exact mem_setStorageFileData member unnamed
  · simpa [StorageApp.answered, StorageApp.setError, StorageApp.setStorage, same] using member

theorem access_keeps (api : StorageIndex → FsApi φ δ) (own : OnlyOwn app file) (now : BitVec 32) (access : FileAccess) :
    let next := (storageProcessFileAccess api app now file access).2
    (∀ place, ∀ record ∈ (app.storage place).files, record.file ≠ file → record ∈ (next.storage place).files) ∧
    (getStorageByFile app file = none → next.storage = app.storage) := by
  have every (stamp : Option (BitVec 32)) (nothing : SaReturn) (access : FileAccess) :
      let next := (storageProcessAccess api app file access stamp nothing).2
      (∀ place, ∀ record ∈ (app.storage place).files, record.file ≠ file → record ∈ (next.storage place).files) ∧
      (getStorageByFile app file = none → next.storage = app.storage) := by
    unfold storageProcessAccess
    cases found : getStorageByFile app file with
    | none => exact ⟨fun _ _ member _ => member, fun _ => rfl⟩
    | some index =>
      refine ⟨fun place record member another => ?_, fun missing => nomatch missing⟩
      have stamped (place : StorageIndex) :
          ((app.setStorage index ((app.storage index).stamped stamp)).storage place).files =
            (app.storage place).files := by
        by_cases same : place = index
        · subst same
          simp [StorageApp.setStorage]
        · simp [StorageApp.setStorage, same]
      refine answered_keeps (fun place record member => ?_) _ _ _ _ (by rwa [stamped]) another
      rw [stamped] at member
      exact own place record member
  cases access <;> exact every _ _ _

theorem close_keeps (own : OnlyOwn app file)
    (event : StorageEventType) (call : StorageIndex → φ → Option δ → Bool × FsError × Option δ × φ) :
    let next := (storageProcessClose app file event call).2
    (∀ place, ∀ record ∈ (app.storage place).files, record.file ≠ file → record ∈ (next.storage place).files) ∧
    (getStorageByFile app file = none → next.storage = app.storage) := by
  unfold storageProcessClose
  cases found : getStorageByFile app file with
  | none => exact ⟨fun _ _ member _ => member, fun _ => rfl⟩
  | some index =>
    dsimp only
    refine ⟨fun place record member another => ?_, fun missing => nomatch missing⟩
    rcases call index (app.storage index).data
      (storageGetStorageFileData app.fileId file (app.storage index)) with ⟨ret, error, fileData, data⟩
    have kept := answered_keeps own index error fileData data member another
    by_cases same : place = index
    · subst same
      have unnamed : ¬ app.fileId record.file = app.fileId file :=
        fun names => another (own place record member names)
      simpa [StorageApp.setStorage, storagePopStorageFile, unnamed, StorageApp.answered,
        StorageApp.setError] using kept
    · simpa [StorageApp.setStorage, same] using kept

variable {fs : StorageIndex → FileSystem φ δ ν} {card image : MediumApi φ}

omit [DecidableEq κ] in
theorem change_keeps (app : StorageApp κ φ δ) (index : StorageIndex) (now : BitVec 32)
    {call : φ → FsError × φ} {place : StorageIndex} {path : Path}
    (kept : place = index → (fs place).lookup (call (app.storage place).data).2 path =
      (fs place).lookup (app.storage place).data path) :
    (fs place).lookup ((app.change index now call).2.storage place).data path =
      (fs place).lookup (app.storage place).data path := by
  by_cases same : place = index
  · subst same
    simpa [StorageApp.change, StorageApp.setStorage, storageDataTimestamp] using kept rfl
  · simp [StorageApp.change, StorageApp.setStorage, same]

omit [DecidableEq κ] in
theorem remove_keeps (fs : StorageIndex → FileSystem φ δ ν) (app : StorageApp κ φ δ) (now : BitVec 32)
    (path : Path) {place : StorageIndex} {spot : Path}
    (clear : ∀ path', storageGetData app path = .ok (place, path') →
      ¬ storagePathAlreadyOpen path' (app.storage place) →
      (fs place).reaches (cstrPathWithoutVfsPrefix path') spot = false) :
    (fs place).lookup ((storageProcessCommonRemove (drivers fs) app now path).2.storage place).data spot =
      (fs place).lookup (app.storage place).data spot := by
  rw [storageProcessCommonRemove]
  rcases data : storageGetData app path with error | ⟨index, path'⟩
  · rfl
  · dsimp only
    split
    · rfl
    · rename_i shut
      refine change_keeps app index now ?_
      rintro rfl
      exact (fs place).remove_elsewhere _ _ _ (clear path' data shut)

omit [DecidableEq κ] in
theorem rename_keeps (fs : StorageIndex → FileSystem φ δ ν) (app : StorageApp κ φ δ) (now : BitVec 32)
    (old new : Path) {place : StorageIndex} {spot : Path}
    (clear : ∀ old', storageGetData app old = .ok (place, old') →
      ¬ (storageGetTypeByPath old ≠ storageGetTypeByPath new ∨ storagePathAlreadyOpen old' (app.storage place)) →
      (fs place).reaches (cstrPathWithoutVfsPrefix old') spot = false ∧
        (fs place).reaches (cstrPathWithoutVfsPrefix new) spot = false) :
    (fs place).lookup ((storageProcessCommonRename (drivers fs) app now old new).2.storage place).data spot =
      (fs place).lookup (app.storage place).data spot := by
  rw [storageProcessCommonRename]
  split
  · rfl
  · rename_i types
    rcases data : storageGetData app old with error | ⟨index, old'⟩
    · rfl
    · dsimp only
      split
      · rfl
      · rename_i shut
        refine change_keeps app index now ?_
        rintro rfl
        obtain ⟨away, away'⟩ := clear old' data (not_or.mpr ⟨types, shut⟩)
        exact (fs place).rename_elsewhere _ _ _ _ away away'

/-- A request through a file keeps the records of others, and all storages if it is not open. -/
theorem service_used {message : StorageMessage κ} (owned : session.Owned)
    (used : file ∈ message.command.used) (stale : Unmistaken session file) :
    let next := (service fs card image session message).2
    (∀ index, ∀ record ∈ (session.app.storage index).files, record.file ≠ file →
      record ∈ (next.app.storage index).files) ∧
    (session.isOpen file = false → next.app.storage = session.app.storage) := by
  have own := onlyOwn_of_owned owned stale
  have unfound := unfound_of_closed owned stale
  rcases message with ⟨command, now, address⟩
  cases command with
  | fileClose =>
    cases used
    obtain ⟨records, missing⟩ := close_keeps own .fileClose fun index => (fs index).fileClose
    exact ⟨records, fun closed => missing (unfound closed)⟩
  | dirClose =>
    cases used
    obtain ⟨records, missing⟩ := close_keeps own .dirClose fun index => (fs index).dirClose
    exact ⟨records, fun closed => missing (unfound closed)⟩
  | fileAccess _ access =>
    cases used
    obtain ⟨records, missing⟩ := access_keeps (drivers fs) own now access
    exact ⟨records, fun closed => missing (unfound closed)⟩
  | _ => cases used

/-- Every request of careful clients keeps what it should. -/
theorem service_kept {message : StorageMessage κ} (owned : session.Owned)
    (careful : Careful fs session message) : Kept fs card image session message := by
  refine ⟨fun file used => service_used owned used (careful.1 file used), ?_⟩
  have clear := careful.2
  rcases message with ⟨command, now, address⟩
  cases command with
  | commonRemove path appId =>
    intro index entry listed
    have plain := alias_keeps (drivers fs) session.app now path appId
    have kept := remove_keeps fs session.app now
      (storageProcessAlias (drivers fs) session.app now path appId false).1
      fun path' data shut => clear (index, path') (by simp [targets, data, shut]) entry listed
    rw [← kept]
    exact congrArg (fun app => (fs index).lookup ((storageProcessCommonRemove
      (drivers fs) app now _).2.storage index).data _) plain
  | commonRename old new =>
    intro index entry listed
    have plain := alias_keeps (drivers fs) session.app now old systemAppId
    have plain' := alias_keeps (drivers fs) session.app now new systemAppId
    have kept := rename_keeps fs session.app now
      (storageProcessAlias (drivers fs) session.app now old systemAppId false).1
      (storageProcessAlias (drivers fs) session.app now new systemAppId false).1
      fun old' data shut => ⟨clear (index, old') (by simp [targets, data, if_neg shut]) entry listed,
        clear (index, _) (by simp [targets, data, if_neg shut]) entry listed⟩
    have shape : (service fs card image session ⟨.commonRename old new, now, address⟩).2.app =
        (storageProcessCommonRename (drivers fs) session.app now
          (storageProcessAlias (drivers fs) session.app now old systemAppId false).1
          (storageProcessAlias (drivers fs) session.app now new systemAppId false).1).2 := by
      change (storageProcessCommonRename (drivers fs) (storageProcessAlias (drivers fs)
          (storageProcessAlias (drivers fs) session.app now old systemAppId false).2
          now new systemAppId false).2 now
        (storageProcessAlias (drivers fs) session.app now old systemAppId false).1
        (storageProcessAlias (drivers fs) (storageProcessAlias (drivers fs) session.app now old systemAppId false).2
          now new systemAppId false).1).2 = _
      rw [plain, plain']
    exact (congrArg (fun app => (fs index).lookup (app.storage index).data _) shape).trans kept
  | _ => trivial

/-- **Open files stay whole.** -/
theorem open_files_stay (fs : StorageIndex → FileSystem φ δ ν) (card image : MediumApi φ)
    (start : Session κ φ δ) (fresh : start.Fresh) (messages : List (StorageMessage κ))
    (meets : Machine.RunMeets (service fs card image)
      (fun session message => Disciplined session message ∧ Careful fs session message) start messages) :
    Machine.Throughout (service fs card image) Sound start messages ∧
      Machine.RunMeets (service fs card image) (Kept fs card image) start messages := by
  have step (session : Session κ φ δ) (message : StorageMessage κ) (owned : session.Owned)
      (meets : Disciplined session message ∧ Careful fs session message) :
      (service fs card image session message).2.Owned := service_owned owned meets.1 meets.2
  have owned := owned_of_fresh fresh
  exact ⟨(Machine.throughout_of_step step owned meets).imp fun _ => sound_of_owned,
    Machine.runMeets_of_step step (fun _ _ owned meets => service_kept owned meets.2) owned meets⟩

end

/-! ## Two runs on a medium of plain files -/

instance (property : StorageIndex → Prop) [DecidablePred property] :
    Decidable (∀ index, property index) :=
  decidable_of_iff (property .ext ∧ property .int ∧ property .mnt)
    ⟨fun ⟨ext, int, mnt⟩ index => by cases index <;> assumption, fun all => ⟨all _, all _, all _⟩⟩

instance (session : Session κ φ δ) (message : StorageMessage κ) :
    Decidable (Disciplined session message) :=
  inferInstanceAs (Decidable ((∀ index, ∀ entry ∈ session.app.entries index,
    entry.address ≠ message.address) ∧ ∀ file ∈ message.command.opened, session.isOpen file = false))

instance (fs : StorageIndex → FileSystem φ δ ν) (session : Session κ φ δ) (message : StorageMessage κ) :
    Decidable (Careful fs session message) :=
  inferInstanceAs (Decidable ((∀ file ∈ message.command.used, session.isOpen file = false →
      ∀ index, ∀ entry ∈ session.app.entries index, entry.address ≠ session.app.fileId file) ∧
    ∀ place ∈ targets (drivers fs) session.app message, ∀ entry ∈ session.app.entries place.1,
      (fs place.1).reaches (cstrPathWithoutVfsPrefix place.2) (cstrPathWithoutVfsPrefix entry.path) = false))

/-- The names of a medium with their contents. -/
abbrev PlainMedium := List (Path × List (BitVec 8))

def PlainMedium.lookup (data : PlainMedium) (path : Path) : Option (List (BitVec 8)) :=
  (data.find? fun file => file.1 = path).map Prod.snd

/-- All but what is at the given names. -/
def PlainMedium.without (data : PlainMedium) (paths : List Path) : PlainMedium :=
  data.filter fun file => file.1 ∉ paths

theorem lookup_without {data : PlainMedium} {paths : List Path} {path : Path} (other : path ∉ paths) :
    (data.without paths).lookup path = data.lookup path := by
  unfold PlainMedium.lookup PlainMedium.without
  rw [List.find?_filter]
  congr 2
  funext file
  by_cases same : file.1 = path
  · simp [same, other]
  · simp [same]

theorem lookup_cons {data : PlainMedium} {file : Path × List (BitVec 8)} {path : Path}
    (other : file.1 ≠ path) : PlainMedium.lookup (file :: data) path = data.lookup path := by
  simp [PlainMedium.lookup, other]

/-- A driver of plain files in one directory. As on internal storage, a rename replaces what has
the new name. A file that is read or written is at its start. -/
def plainFileSystem : FileSystem PlainMedium Path (List (BitVec 8)) where
  fileOpen data path _ openMode :=
    if (data.lookup path).isSome then (true, .ok, some path, data)
    else if openMode = .openExisting then (false, .notExist, some path, data)
    else (true, .ok, some path, (path, []) :: data)
  fileClose data _ := (true, .ok, none, data)
  dirOpen data path := (true, .ok, some path, data)
  dirClose data _ := (true, .ok, none, data)
  access data fileData
    | .read bytesToRead =>
      let bytes := ((fileData.bind data.lookup).getD []).take bytesToRead.toNat
      (.uint16Value bytes.length bytes, .ok, fileData, data)
    | .write bytes =>
      (.uint16Value bytes.length [], .ok, fileData,
        match fileData with
        | some path => (path, bytes) :: data.without [path]
        | none => data)
    | _ => (.boolValue false, .notImplemented, fileData, data)
  stat data path := (if (data.lookup path).isSome then .ok else .notExist, ⟨0, 0⟩)
  remove data path :=
    if (data.lookup path).isSome then (.ok, data.without [path]) else (.notExist, data)
  mkdir data _ := (.exist, data)
  fsInfo _ _ := (.ok, 0, 0)
  equivalentPath path₁ path₂ := path₁ = path₂
  rename data old new :=
    match data.lookup old with
    | some bytes => (.ok, (new, bytes) :: data.without [old, new])
    | none => (.notExist, data)
  lookup := PlainMedium.lookup
  reaches path place := path = place
  remove_elsewhere data path place away := by
    split
    · exact lookup_without (by simpa [eq_comm] using away)
    · rfl
  rename_elsewhere data old new place away away' := by
    have other : place ≠ old := fun same => by simp [same] at away
    have other' : new ≠ place := by simpa using away'
    split
    · rw [lookup_cons other']
      exact lookup_without (by simp [other, other'.symm])
    · rfl

def plainMediumApi : MediumApi PlainMedium where
  format _ := (.ok, .ok, [])
  mount _ data := (.ok, data)
  unmount data := (.ok, data)
  info _ := .ok

/-- The service with a card that nobody has used. -/
def unused : Session Nat PlainMedium Path where
  app :=
    { storage := fun _ => ⟨[], .ok, [], 0⟩
      fileId := fun _ => 0
      errorId := fun _ => .ok
      published := []
      sdWasPresent := false
      mntImage := none
      mntMounted := false }
  isOpen := fun _ => false

def plainService : Machine (Session Nat PlainMedium Path) (StorageMessage Nat) SaReturn :=
  service (fun _ => plainFileSystem) plainMediumApi plainMediumApi

theorem unused_fresh : unused.Fresh := ⟨fun _ => rfl, fun _ => rfl⟩

def readWrite : FsAccessMode := ⟨true, true⟩

/-- Two clients: the one writes `/any/a` while the other cannot open, rename or remove it. Then
the file gets another name and the other reads it, from a record at the first one's address. -/
def sharedRun : List (StorageMessage Nat) :=
  [⟨.fileOpen 1 ['/', 'a', 'n', 'y', '/', 'a'] readWrite .createNew [], 1, 0x20⟩,
    ⟨.fileOpen 2 ['/', 'e', 'x', 't', '/', 'a'] readWrite .openExisting [], 2, 0x40⟩,
    ⟨.fileAccess 1 (.write [7, 9]), 3, 0x40⟩,
    ⟨.commonRename ['/', 'e', 'x', 't', '/', 'a'] ['/', 'e', 'x', 't', '/', 'b'], 4, 0x40⟩,
    ⟨.commonRemove ['/', 'e', 'x', 't', '/', 'a'] [], 5, 0x40⟩,
    ⟨.fileClose 1, 6, 0x40⟩,
    ⟨.commonRename ['/', 'e', 'x', 't', '/', 'a'] ['/', 'e', 'x', 't', '/', 'b'], 7, 0x20⟩,
    ⟨.fileOpen 2 ['/', 'e', 'x', 't', '/', 'b'] readWrite .openExisting [], 8, 0x20⟩,
    ⟨.fileAccess 2 (.read 4), 9, 0x40⟩]

example : (plainService.run unused sharedRun).1 =
    [.boolValue true, .boolValue false, .uint16Value 2 [], .errorValue .alreadyOpen,
      .errorValue .alreadyOpen, .boolValue true, .errorValue .ok, .boolValue true,
      .uint16Value 2 [7, 9]] := by
  decide +kernel

theorem sharedRun_stays : plainService.RunMeets (fun session message =>
      Disciplined session message ∧ Careful (fun _ => plainFileSystem) session message) unused sharedRun ∧
    plainService.Throughout Sound unused sharedRun ∧
    plainService.RunMeets (Kept (fun _ => plainFileSystem) plainMediumApi plainMediumApi) unused sharedRun := by
  have meets : plainService.RunMeets (fun session message => Disciplined session message ∧
      Careful (fun _ => plainFileSystem) session message) unused sharedRun := by decide +kernel
  exact ⟨meets, open_files_stay (fun _ => plainFileSystem) plainMediumApi plainMediumApi unused
    unused_fresh sharedRun meets⟩

/-- A file is closed twice. In between its record's address went to another file's record. -/
def closedTwice : List (StorageMessage Nat) :=
  [⟨.fileOpen 1 ['/', 'i', 'n', 't', '/', 'a'] readWrite .createNew [], 1, 0x20⟩, ⟨.fileClose 1, 2, 0x40⟩,
    ⟨.fileOpen 2 ['/', 'i', 'n', 't', '/', 'b'] readWrite .createNew [], 3, 0x20⟩,
    ⟨.fileClose 1, 4, 0x40⟩]

/-- A file is renamed to the path of an open one. -/
def renamedOver : List (StorageMessage Nat) :=
  [⟨.fileOpen 1 ['/', 'i', 'n', 't', '/', 'a'] readWrite .createNew [], 1, 0x20⟩,
    ⟨.fileAccess 1 (.write [7]), 2, 0x40⟩,
    ⟨.fileClose 1, 3, 0x40⟩,
    ⟨.fileOpen 2 ['/', 'i', 'n', 't', '/', 'b'] readWrite .createNew [], 4, 0x40⟩,
    ⟨.commonRename ['/', 'i', 'n', 't', '/', 'a'] ['/', 'i', 'n', 't', '/', 'b'], 5, 0x60⟩]

/-- Disciplined clients can take the record from an open file, and the file from its place. -/
theorem open_files_are_lost : (plainService.RunMeets Disciplined unused closedTwice ∧
      ¬ plainService.Throughout Sound unused closedTwice ∧
      ¬ plainService.RunMeets (Kept (fun _ => plainFileSystem) plainMediumApi plainMediumApi) unused closedTwice) ∧
    plainService.RunMeets Disciplined unused renamedOver ∧
      ¬ plainService.RunMeets (Kept (fun _ => plainFileSystem) plainMediumApi plainMediumApi)
        unused renamedOver := by
  refine ⟨⟨by decide +kernel, ?_, ?_⟩, by decide +kernel, ?_⟩
  · rintro ⟨-, -, -, -, sound⟩
    obtain ⟨⟨index, entry⟩, ⟨listed, -⟩, -⟩ := sound.single 2 (by decide +kernel)
    have gone : ∀ index, (plainService.run unused closedTwice).2.app.entries index = [] := by
      decide +kernel
    exact List.not_mem_nil (gone index ▸ listed)
  · rintro ⟨-, -, -, ⟨kept, -⟩, -⟩
    have stays := (kept 1 rfl).1 .int ⟨0x20, 2, some ['/', 'b'], ['/', 'i', 'n', 't', '/', 'b']⟩
    revert stays
    decide +kernel
  · rintro ⟨-, -, -, -, ⟨-, kept⟩, -⟩
    have stays := kept .int ⟨0x40, 2, ['/', 'i', 'n', 't', '/', 'b']⟩
    revert stays
    decide +kernel

end Xtreme.Storage
