import Xtreme.Storage.StorageProcessing

/-! The books of the storage service: which file has which record, under which path. A request
does one of three things to them: it leaves them alone, it enters a record for a file, or it
strikes the record that a file's id names. -/
namespace Xtreme.Storage
open Library

variable {κ φ δ : Type*}

/-- A record without the driver's data. -/
@[ext] structure Entry (κ : Type*) where
  address : BitVec 32
  file : κ
  path : Path
  deriving DecidableEq, Repr

def StorageFile.entry (storageFile : StorageFile κ δ) : Entry κ :=
  ⟨storageFile.address, storageFile.file, storageFile.path⟩

/-- The records of a storage. -/
def StorageApp.entries (app : StorageApp κ φ δ) (index : StorageIndex) : List (Entry κ) :=
  (app.storage index).files.map StorageFile.entry

def Names (ids : FileIds κ) (file : κ) (entry : Entry κ) : Prop := ids entry.file = ids file

instance (ids : FileIds κ) (file : κ) (entry : Entry κ) :
    Decidable (Names ids file entry) :=
  inferInstanceAs (Decidable (ids entry.file = ids file))

structure SameBooks (app next : StorageApp κ φ δ) : Prop where
  entries : next.entries = app.entries
  ids : next.fileId = app.fileId

theorem SameBooks.refl (app : StorageApp κ φ δ) : SameBooks app app := ⟨rfl, rfl⟩

theorem SameBooks.trans {app middle next : StorageApp κ φ δ} (first : SameBooks app middle)
    (second : SameBooks middle next) : SameBooks app next :=
  ⟨second.entries.trans first.entries, second.ids.trans first.ids⟩

theorem setStorage_entries (app : StorageApp κ φ δ) (index : StorageIndex) (storage : StorageData κ φ δ) :
    (app.setStorage index storage).entries =
      Function.update app.entries index (storage.files.map StorageFile.entry) := by
  funext other
  by_cases same : other = index
  · subst same
    simp [StorageApp.entries, StorageApp.setStorage]
  · simp [StorageApp.entries, StorageApp.setStorage, same]

theorem setStorage_books {app : StorageApp κ φ δ} {index : StorageIndex} {storage : StorageData κ φ δ}
    (same : storage.files.map StorageFile.entry = app.entries index) :
    SameBooks app (app.setStorage index storage) := by
  refine ⟨?_, rfl⟩
  rw [setStorage_entries, same, Function.update_eq_self]

theorem alias_keeps (api : StorageIndex → FsApi φ δ) (app : StorageApp κ φ δ) (now : BitVec 32)
    (path appId : Path) : (storageProcessAlias api app now path appId false).2 = app := by
  rw [storageProcessAlias]
  split
  · rfl
  · split
    · rfl
    · split <;> rfl

theorem change_books (app : StorageApp κ φ δ) (index : StorageIndex) (now : BitVec 32)
    (call : φ → FsError × φ) : SameBooks app (app.change index now call).2 :=
  setStorage_books rfl

variable (api : StorageIndex → FsApi φ δ)

theorem mkdir_books (app : StorageApp κ φ δ) (now : BitVec 32) (path : Path) :
    SameBooks app (storageProcessCommonMkdir api app now path).2 := by
  rw [storageProcessCommonMkdir]
  split
  · exact .refl app
  · exact change_books app _ now _

theorem alias_books (app : StorageApp κ φ δ) (now : BitVec 32) (path appId : Path) (createFolders : Bool) :
    SameBooks app (storageProcessAlias api app now path appId createFolders).2 := by
  rw [storageProcessAlias]
  split
  · dsimp only
    split
    · exact (mkdir_books api app now _).trans (mkdir_books api _ now _)
    · exact .refl app
  · split
    · exact .refl app
    · split
      · split
        · exact mkdir_books api app now _
        · exact .refl app
      · exact .refl app

theorem remove_books (app : StorageApp κ φ δ) (now : BitVec 32) (path : Path) :
    SameBooks app (storageProcessCommonRemove api app now path).2 := by
  rw [storageProcessCommonRemove]
  split
  · exact .refl app
  · split
    · exact .refl app
    · exact change_books app _ now _

theorem rename_books (app : StorageApp κ φ δ) (now : BitVec 32) (old new : Path) :
    SameBooks app (storageProcessCommonRename api app now old new).2 := by
  rw [storageProcessCommonRename]
  split
  · exact .refl app
  · split
    · exact .refl app
    · split
      · exact .refl app
      · exact change_books app _ now _

variable (card image : MediumApi φ)

theorem sdFormat_books (app : StorageApp κ φ δ) (now : BitVec 32) :
    SameBooks app (storageProcessSdFormat card app now).2 := by
  rw [storageProcessSdFormat]
  split
  · exact .refl app
  · exact setStorage_books rfl

theorem sdUnmount_books (app : StorageApp κ φ δ) (now : BitVec 32) :
    SameBooks app (storageProcessSdUnmount card app now).2 := by
  rw [storageProcessSdUnmount]
  split
  · exact .refl app
  · split
    · exact .refl app
    · exact setStorage_books rfl

theorem sdMount_books (app : StorageApp κ φ δ) (now : BitVec 32) :
    SameBooks app (storageProcessSdMount card app now).2 := by
  rw [storageProcessSdMount]
  split
  · exact .refl app
  · exact setStorage_books rfl

theorem tick_books (app : StorageApp κ φ δ) (present stillPresent : Bool) :
    SameBooks app (storageExtTick card app present stillPresent) := by
  have mounted (storage : StorageData κ φ δ) :
      (sdMountCard card storage).2.files = storage.files := rfl
  have taken (storage : StorageData κ φ δ) : (sdUnmountCard card storage).files = storage.files := rfl
  rw [storageExtTick]
  split
  · split
    · split
      · exact .trans (setStorage_books (by rfl)) ⟨rfl, rfl⟩
      · exact setStorage_books (by rfl)
    · exact .refl app
  · split
    · exact .refl app
    · exact .trans (setStorage_books (by rfl)) ⟨rfl, rfl⟩

theorem virtualUnmount_books (app : StorageApp κ φ δ) :
    SameBooks app (storageProcessVirtualUnmount image app).2 := by
  rw [storageProcessVirtualUnmount]
  split
  · exact .refl app
  · dsimp only
    have set : SameBooks app (app.setStorage .mnt
      { app.storage .mnt with data := (image.unmount (app.storage .mnt).data).2 }) :=
      setStorage_books rfl
    split
    · exact set
    · exact ⟨set.entries, set.ids⟩

theorem virtualInit_books (app : StorageApp κ φ δ) (file : κ) :
    SameBooks app (storageProcessVirtualInit app file).2 := by
  rw [storageProcessVirtualInit]
  split
  · exact .refl app
  · exact ⟨rfl, rfl⟩

theorem virtualFormat_books (app : StorageApp κ φ δ) :
    SameBooks app (storageProcessVirtualFormat image app).2 := by
  rw [storageProcessVirtualFormat]
  split
  · exact .refl app
  · exact setStorage_books rfl

theorem virtualMount_books (app : StorageApp κ φ δ) :
    SameBooks app (storageProcessVirtualMount image app).2 := by
  rw [storageProcessVirtualMount]
  split
  · exact .refl app
  · have set : SameBooks app (app.setStorage .mnt
      { app.storage .mnt with data := (image.mount .ok (app.storage .mnt).data).2 }) :=
      setStorage_books rfl
    dsimp only
    split
    · exact set
    · split
      · exact set
      · exact ⟨set.entries, set.ids⟩

theorem virtualQuit_books (app : StorageApp κ φ δ) :
    SameBooks app (storageProcessVirtualQuit image app).2 := by
  rw [storageProcessVirtualQuit]
  split
  · exact .refl app
  · have unmounted := virtualUnmount_books image app
    split
    · exact ⟨unmounted.entries, unmounted.ids⟩
    · exact ⟨rfl, rfl⟩

variable [DecidableEq κ]

theorem setError_books (app : StorageApp κ φ δ) (file : κ) (error : FsError) :
    SameBooks app (app.setError file error) := ⟨rfl, rfl⟩

theorem answered_books (app : StorageApp κ φ δ) (index : StorageIndex) (file : κ) (error : FsError)
    (fileData : Option δ) (data : φ) :
    SameBooks app (app.answered index file error fileData data) := by
  refine SameBooks.trans (setStorage_books ?_) (setError_books _ file error)
  refine List.lookmap_map_eq _ StorageFile.entry ?_ _
  intro storageFile changed found
  rw [Option.mem_def, Option.ite_none_right_eq_some] at found
  obtain ⟨-, ⟨⟩⟩ := found
  rfl

theorem access_books (app : StorageApp κ φ δ) (now : BitVec 32) (file : κ) (access : FileAccess) :
    SameBooks app (storageProcessFileAccess api app now file access).2 := by
  have every (stamp : Option (BitVec 32)) (nothing : SaReturn) (access : FileAccess) :
      SameBooks app (storageProcessAccess api app file access stamp nothing).2 := by
    rw [storageProcessAccess]
    split
    · exact setError_books app file _
    · refine SameBooks.trans (setStorage_books ?_) (answered_books _ _ file _ _ _)
      rw [stamped_files]
      rfl
  cases access <;> exact every _ _ _

/-- A record for `file` was entered, under a path that had none. -/
structure Entered (app next : StorageApp κ φ δ) (address : BitVec 32) (file : κ)
    (index : StorageIndex) (path : Path) : Prop where
  unused : ∀ entry ∈ app.entries index, entry.path ≠ path
  entries : next.entries = Function.update app.entries index (⟨address, file, path⟩ :: app.entries index)
  ids : next.fileId = Function.update app.fileId file address

theorem open_cases (app : StorageApp κ φ δ) (address : BitVec 32) (file : κ) (path : Path)
    (stamp : Option (BitVec 32)) (call : StorageIndex → φ → Path → Bool × FsError × Option δ × φ) :
    SameBooks app (storageProcessOpen app address file path stamp call).2 ∨
      ∃ index path', Entered app (storageProcessOpen app address file path stamp call).2
        address file index path' := by
  rw [storageProcessOpen]
  rcases storageGetData app path with error | ⟨index, path'⟩
  · exact .inl (setError_books app file error)
  · dsimp only
    split
    · exact .inl ⟨rfl, rfl⟩
    · rename_i free
      refine .inr ⟨index, path', ?_, ?_, ?_⟩
      · intro entry listed same
        obtain ⟨storageFile, member, rfl⟩ := List.mem_map.mp listed
        exact free (List.any_eq_true.mpr ⟨storageFile, member, decide_eq_true same⟩)
      · rw [(answered_books _ index file _ _ _).entries]
        refine (setStorage_entries _ index _).trans ?_
        rw [storagePushStorageFile, stamped_files]
        rfl
      · exact (answered_books _ index file _ _ _).ids

omit [DecidableEq κ] in
theorem hasFile_iff {app : StorageApp κ φ δ} {file : κ} {index : StorageIndex} :
    storageHasFile app.fileId file (app.storage index) = true ↔
      ∃ entry ∈ app.entries index, Names app.fileId file entry := by
  unfold storageHasFile storageGetFile StorageApp.entries
  rw [List.find?_isSome]
  constructor
  · rintro ⟨storageFile, member, named⟩
    exact ⟨storageFile.entry, List.mem_map_of_mem member, of_decide_eq_true named⟩
  · rintro ⟨entry, listed, named⟩
    obtain ⟨storageFile, member, rfl⟩ := List.mem_map.mp listed
    exact ⟨storageFile, member, decide_eq_true named⟩

omit [DecidableEq κ] in
theorem getStorageByFile_some {app : StorageApp κ φ δ} {file : κ} {index : StorageIndex}
    (found : getStorageByFile app file = some index) :
    ∃ entry ∈ app.entries index, Names app.fileId file entry := by
  rw [← hasFile_iff]
  simp only [getStorageByFile, List.foldl_cons, List.foldl_nil] at found
  grind

omit [DecidableEq κ] in
theorem getStorageByFile_none {app : StorageApp κ φ δ} {file : κ}
    (missing : getStorageByFile app file = none) (index : StorageIndex) :
    ∀ entry ∈ app.entries index, ¬ Names app.fileId file entry := by
  intro entry listed named
  have held : storageHasFile app.fileId file (app.storage index) = true :=
    hasFile_iff.mpr ⟨entry, listed, named⟩
  simp only [getStorageByFile, List.foldl_cons, List.foldl_nil] at missing
  cases index <;> grind

/-- A close without a record changes no storage. With one, the first that the id names is struck. -/
theorem close_cases (app : StorageApp κ φ δ) (file : κ) (event : StorageEventType)
    (call : StorageIndex → φ → Option δ → Bool × FsError × Option δ × φ) :
    let next := (storageProcessClose app file event call).2
    next.fileId = app.fileId ∧ (getStorageByFile app file = none ∧ next.storage = app.storage ∨
        ∃ index, getStorageByFile app file = some index ∧
          next.entries = Function.update app.entries index
            ((app.entries index).eraseP (Names app.fileId file ·))) := by
  intro next
  rw [show next = (storageProcessClose app file event call).2 from rfl, storageProcessClose]
  cases found : getStorageByFile app file with
  | none => exact ⟨rfl, .inl ⟨rfl, rfl⟩⟩
  | some index =>
    dsimp only
    rcases call index (app.storage index).data
      (storageGetStorageFileData app.fileId file (app.storage index)) with ⟨ret, error, fileData, data⟩
    have answered := answered_books app index file error fileData data
    refine ⟨answered.ids, .inr ⟨index, rfl, ?_⟩⟩
    refine (setStorage_entries _ index _).trans ?_
    rw [answered.entries]
    rw [storagePopStorageFile]
    rw [← answered.entries, StorageApp.entries, List.eraseP_map]
    rfl

end Xtreme.Storage
