import Xtreme.Storage.StorageGlue
import Xtreme.Storage.OpenFiles
import Mathlib.Data.List.Infix

/-! The paths of requests and what they name. A client sends its path and its thread in a member of
the union `SAData` (`storage_message.h`), and the service reads the thread from the member it takes
for the client's. Each path is resolved by its prefix, with the folders of the thread's application. What lies below a folder has its name at the front, with a
slash behind it. -/
namespace Xtreme.Storage

def Below (folder path : Path) : Prop := folder <+: path ∧ ∀ c ∈ (path.drop folder.length).head?, c = '/'

instance (folder path : Path) : Decidable (Below folder path) :=
  have : Decidable (∀ c ∈ (path.drop folder.length).head?, c = '/') := Option.decidableForallMem _
  inferInstanceAs (Decidable (folder <+: path ∧ ∀ c ∈ (path.drop folder.length).head?, c = '/'))

theorem below_append {folder rest : Path} : Below folder (folder ++ rest) ↔ ∀ c ∈ rest.head?, c = '/' := by
  rw [Below, List.drop_left]
  exact and_iff_right (List.prefix_append folder rest)

theorem prefixes_apart {path front other : Path} (differ : ¬front <+: other) (differ' : ¬other <+: front)
    (starts : front <+: path) : ¬other <+: path := fun also =>
  (List.prefix_or_prefix_of_prefix starts also).elim differ differ'

variable {κ φ δ τ : Type*}

/-- An application's id, the name of its folders. -/
structure AppId where
  name : Path
  noSlash : '/' ∉ name

theorem AppId.eq_of_name {appId other : AppId} (same : appId.name = other.name) : appId = other := by
  cases appId
  cases same
  rfl

theorem systemAppId_noSlash : '/' ∉ systemAppId := by decide

def AppId.system : AppId := ⟨systemAppId, systemAppId_noSlash⟩

def furiThreadGetAppid (appIds : τ → AppId) : Option τ → AppId
  | some thread => appIds thread
  | none => AppId.system

/-- The commands that take paths, with what else their clients send. -/
inductive PathRequest (κ : Type*)
  | fileOpen (file : κ) (path : Path) (accessMode : FsAccessMode) (openMode : FsOpenMode)
  | dirOpen (file : κ) (path : Path)
  | commonTimestamp (path : Path)
  | commonStat (path : Path)
  | commonRemove (path : Path)
  | commonRename (old new : Path)
  | commonMkDir (path : Path)
  | commonFsInfo (path : Path)
  | commonResolvePath (path : Path)
  | commonEquivalentPath (path₁ path₂ : Path) (truncate : Bool)

inductive SaWord (τ : Type*)
  | path (path : Path)
  | threadId (thread : τ)
  | value

/-- The record of a request, as its client fills it. The modes of an open share a word, and the
words behind a record are zero. -/
def PathRequest.data (thread : τ) : PathRequest κ → List (SaWord τ)
  | .fileOpen _ path _ _ => [.value, .path path, .value, .threadId thread]
  | .dirOpen _ path => [.value, .path path, .threadId thread]
  | .commonTimestamp path => [.path path, .value, .threadId thread]
  | .commonStat path => [.path path, .value, .threadId thread]
  | .commonRemove path => [.path path, .threadId thread]
  | .commonRename old new => [.path old, .path new, .threadId thread]
  | .commonMkDir path => [.path path, .threadId thread]
  | .commonFsInfo path => [.path path, .value, .value, .threadId thread]
  | .commonResolvePath path => [.path path, .threadId thread]
  | .commonEquivalentPath path₁ path₂ _ => [.path path₁, .path path₂, .value, .threadId thread]

def fopenThreadId : Nat := 3
def dopenThreadId : Nat := 2
def ctimestampThreadId : Nat := 2
def cstatThreadId : Nat := 2
def cfsinfoThreadId : Nat := 3
def cresolvepathThreadId : Nat := 1
def cequivpathThreadId : Nat := 3
def pathThreadId : Nat := 1

def PathRequest.threadIdPlace : PathRequest κ → Nat
  | .fileOpen .. => fopenThreadId
  | .dirOpen .. => dopenThreadId
  | .commonTimestamp .. => ctimestampThreadId
  | .commonStat .. => cstatThreadId
  | .commonRemove .. => pathThreadId
  | .commonRename .. => cequivpathThreadId
  | .commonMkDir .. => pathThreadId
  | .commonFsInfo .. => cfsinfoThreadId
  | .commonResolvePath .. => cresolvepathThreadId
  | .commonEquivalentPath .. => cequivpathThreadId

def threadIdAt (data : List (SaWord τ)) (place : Nat) : Option τ :=
  match data[place]? with
  | some (.threadId thread) => some thread
  | _ => none

/-- The application that the service resolves a request's paths for. -/
def PathRequest.appId (appIds : τ → AppId) (thread : τ) (request : PathRequest κ) : AppId :=
  furiThreadGetAppid appIds (threadIdAt (request.data thread) request.threadIdPlace)

def PathRequest.isRename : PathRequest κ → Bool
  | .commonRename .. => true
  | _ => false

theorem appId_of_rename {request : PathRequest κ} (rename : request.isRename = true) (appIds : τ → AppId) (thread : τ) :
    request.appId appIds thread = AppId.system := by
  cases request with
  | commonRename old new => rfl
  | _ => cases rename

theorem appId_of_other {request : PathRequest κ} (other : request.isRename = false) (appIds : τ → AppId) (thread : τ) :
    request.appId appIds thread = appIds thread := by
  cases request with
  | commonRename old new => cases other
  | _ => rfl

/-- The paths that a request has resolved. Slashes at the end are cut before two are compared. -/
def PathRequest.paths : PathRequest κ → List Path
  | .fileOpen _ path _ _ | .dirOpen _ path => [path]
  | .commonTimestamp path | .commonStat path | .commonRemove path | .commonMkDir path => [path]
  | .commonFsInfo path | .commonResolvePath path => [path]
  | .commonRename old new => [old, new]
  | .commonEquivalentPath path₁ path₂ _ => [storagePathTrimTrailingSlashes path₁, storagePathTrimTrailingSlashes path₂]

def PathRequest.createFolders : PathRequest κ → Bool
  | .fileOpen .. | .dirOpen .. | .commonMkDir .. | .commonResolvePath .. => true
  | _ => false

variable [DecidableEq κ] (api : StorageIndex → FsApi φ δ) (appIds : τ → AppId) (thread : τ) (now : BitVec 32)

/-- What the service takes for a path. -/
def PathRequest.resolve (app : StorageApp κ φ δ) (request : PathRequest κ) (path : Path) : Path :=
  (storageProcessAlias api app now path (request.appId appIds thread).name request.createFolders).1

theorem name_unique {name other rest more : Path} (slash : '/' ∉ name) (otherSlash : '/' ∉ other)
    (behind : ∀ c ∈ rest.head?, c = '/') (behindOther : ∀ c ∈ more.head?, c = '/')
    (same : name ++ rest = other ++ more) : name = other := by
  have cut {name rest : Path} (slash : '/' ∉ name) (behind : ∀ c ∈ rest.head?, c = '/') :
      (name ++ rest).takeWhile (· ≠ '/') = name := by
    have all : ∀ c ∈ name, decide (c ≠ '/') = true := fun c member =>
      decide_eq_true fun equal => slash (equal ▸ member)
    rw [List.takeWhile_append_of_pos all]
    cases rest with
    | nil => exact List.append_nil name
    | cons c rest =>
      have stop : (c :: rest).takeWhile (· ≠ '/') = [] :=
        List.takeWhile_cons_of_neg fun differs => of_decide_eq_true differs (behind c rfl)
      rw [stop, List.append_nil]
  rw [← cut slash behind, same, cut otherSlash behindOther]

def appDataFolder (appId : AppId) : Path := appsDataPath ++ '/' :: appId.name

def appAssetsFolder (appId : AppId) : Path := appsAssetsPath ++ '/' :: appId.name

/-- What a path stands for: `/data` and `/assets` for folders of the application. -/
def realPath (appId : AppId) (path : Path) : Path :=
  if Below storageAppDataPathPrefix path then
    appDataFolder appId ++ path.drop storageAppDataPathPrefix.length
  else if Below storageAppAssetsPathPrefix path then
    appAssetsFolder appId ++ path.drop storageAppAssetsPathPrefix.length
  else path

def IsAlias (path : Path) : Prop := Below storageAppDataPathPrefix path ∨ Below storageAppAssetsPathPrefix path

/-- No path with a longer first name: `/database` is none of `/data`. -/
def WholeNames (path : Path) : Prop :=
  (storageAppDataPathPrefix <+: path → Below storageAppDataPathPrefix path) ∧
    (storageAppAssetsPathPrefix <+: path → Below storageAppAssetsPathPrefix path)

omit [DecidableEq κ] in
theorem alias_path (app : StorageApp κ φ δ) (path appId : Path) (createFolders : Bool) :
    (storageProcessAlias api app now path appId createFolders).1 =
      if storageAppDataPathPrefix <+: path then
        appsDataPath ++ '/' :: appId ++ path.drop storageAppDataPathPrefix.length
      else if storageAppAssetsPathPrefix <+: path then
        appsAssetsPath ++ '/' :: appId ++ path.drop storageAppAssetsPathPrefix.length
      else path := by
  rw [storageProcessAlias]
  split
  · rfl
  · split
    · rfl
    · split <;> rfl

theorem prefix_resolves_iff {folders start path : Path} {appId other : AppId} (starts : start <+: path)
    (ext : storageExtPathPrefix <+: folders) (differ : ¬start <+: storageExtPathPrefix)
    (differ' : ¬storageExtPathPrefix <+: start) :
    folders ++ '/' :: other.name ++ path.drop start.length =
        (if Below start path then folders ++ '/' :: appId.name ++ path.drop start.length else path) ↔
      Below start path ∧ other = appId := by
  by_cases below : Below start path
  · rw [if_pos below, List.append_left_inj, List.append_right_inj, List.cons_inj_right]
    exact ⟨fun same => ⟨below, AppId.eq_of_name same⟩, fun right => congrArg AppId.name right.2⟩
  · rw [if_neg below]
    refine ⟨fun same => absurd ?_ (prefixes_apart differ differ' starts), fun right => absurd right.1 below⟩
    rw [← same, List.append_assoc]
    exact ext.trans (List.prefix_append _ _)

omit [DecidableEq κ] in
theorem alias_eq_realPath_iff (app : StorageApp κ φ δ) (path : Path) (appId other : AppId) (createFolders : Bool) :
    (storageProcessAlias api app now path other.name createFolders).1 = realPath appId path ↔
      WholeNames path ∧ (IsAlias path → other = appId) := by
  rw [alias_path, realPath]
  by_cases data : storageAppDataPathPrefix <+: path
  · have assets : ¬storageAppAssetsPathPrefix <+: path := prefixes_apart (by decide) (by decide) data
    have noAssets : ¬Below storageAppAssetsPathPrefix path := fun below => assets below.1
    rw [if_pos data, if_neg noAssets]
    refine (prefix_resolves_iff data (by decide) (by decide) (by decide)).trans ?_
    refine ⟨fun right => ⟨⟨fun _ => right.1, fun starts => absurd starts assets⟩, fun _ => right.2⟩, fun right => ?_⟩
    exact ⟨right.1.1 data, right.2 (.inl (right.1.1 data))⟩
  · have noData : ¬Below storageAppDataPathPrefix path := fun below => data below.1
    rw [if_neg data, if_neg noData]
    by_cases assets : storageAppAssetsPathPrefix <+: path
    · rw [if_pos assets]
      refine (prefix_resolves_iff assets (by decide) (by decide) (by decide)).trans ?_
      refine ⟨fun right => ⟨⟨fun starts => absurd starts data, fun _ => right.1⟩, fun _ => right.2⟩, fun right => ?_⟩
      exact ⟨right.1.2 assets, right.2 (.inr (right.1.2 assets))⟩
    · have noAssets : ¬Below storageAppAssetsPathPrefix path := fun below => assets below.1
      rw [if_neg assets, if_neg noAssets]
      refine iff_of_true rfl ⟨⟨fun starts => absurd starts data, fun starts => absurd starts assets⟩, fun isAlias => ?_⟩
      exact isAlias.elim (fun below => absurd below noData) (fun below => absurd below noAssets)

theorem below_own {folders rest : Path} {appId other : AppId} (behind : ∀ c ∈ rest.head?, c = '/')
    (below : Below (folders ++ '/' :: other.name) (folders ++ '/' :: appId.name ++ rest)) : other = appId := by
  obtain ⟨more, split⟩ := below.1
  have after : ∀ c ∈ more.head?, c = '/' := by
    rw [← split] at below
    exact below_append.mp below
  rw [List.append_assoc, List.append_assoc, List.append_right_inj, List.cons_append, List.cons_append,
    List.cons_inj_right] at split
  exact AppId.eq_of_name (name_unique other.noSlash appId.noSlash after behind split)

/-- The folders of data are none of assets. -/
theorem not_below_other {folders others rest : Path} {appId other : AppId} (differ : ¬folders <+: others)
    (differ' : ¬others <+: folders) : ¬Below (others ++ '/' :: other.name) (folders ++ '/' :: appId.name ++ rest) := by
  intro below
  have starts : folders <+: folders ++ '/' :: appId.name ++ rest := by
    rw [List.append_assoc]
    exact List.prefix_append _ _
  exact prefixes_apart differ differ' starts ((List.prefix_append _ _).trans below.1)

/-- A path that is resolved to what it stands for, and if it is an alias to no place in another
application's folders. -/
structure ResolvedFor (appId : AppId) (path resolved : Path) : Prop where
  real : resolved = realPath appId path
  own : IsAlias path → ∀ other : AppId, other ≠ appId →
    ¬Below (appDataFolder other) resolved ∧ ¬Below (appAssetsFolder other) resolved

theorem realPath_own {appId other : AppId} {path : Path} (isAlias : IsAlias path) (differs : other ≠ appId) :
    ¬Below (appDataFolder other) (realPath appId path) ∧ ¬Below (appAssetsFolder other) (realPath appId path) := by
  rw [realPath]
  by_cases data : Below storageAppDataPathPrefix path
  · rw [if_pos data]
    exact ⟨fun below => differs (below_own data.2 below), not_below_other (by decide) (by decide)⟩
  · have assets : Below storageAppAssetsPathPrefix path := isAlias.resolve_left data
    rw [if_neg data, if_pos assets]
    exact ⟨not_below_other (by decide) (by decide), fun below => differs (below_own assets.2 below)⟩

theorem foo_noSlash : '/' ∉ ['f', 'o', 'o'] := by decide

theorem foobase_noSlash : '/' ∉ ['f', 'o', 'o', 'b', 'a', 's', 'e'] := by decide

end Xtreme.Storage
