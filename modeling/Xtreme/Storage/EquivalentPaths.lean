import Xtreme.Storage.AliasRequests
import Xtreme.Toolbox.PathParts

/-! Which paths the service takes for the same, or for one below the other: it compares their
strings with a slash behind them, the second cut to the length of the first. -/
namespace Xtreme.Storage
open Xtreme.Toolbox

/-- `storage_ext_common_equivalent_path`, by `strcasecmp`. -/
def storageExtCommonEquivalentPath (path₁ path₂ : Path) : Bool := path₁.map Char.toLower = path₂.map Char.toLower

def storageIntCommonEquivalentPath (path₁ path₂ : Path) : Bool := path₁ = path₂

/-- The drivers of the card and the internal memory, whatever else they do. -/
def comparing {φ δ : Type*} (api : StorageIndex → FsApi φ δ) : StorageIndex → FsApi φ δ
  | .ext => { api .ext with equivalentPath := storageExtCommonEquivalentPath }
  | .int => { api .int with equivalentPath := storageIntCommonEquivalentPath }
  | .mnt => api .mnt

/-- A path on the card or on the internal memory, by its names. -/
structure StoredPath where
  onCard : Bool
  names : List Path
  proper : ∀ name ∈ names, ProperComponent name

def joined (names : List Path) : Path := names.flatMap fun name => '/' :: name

def storagePrefix (onCard : Bool) : Path := if onCard then storageExtPathPrefix else storageIntPathPrefix

/-- The path as it is written, with some slashes at its end. -/
def StoredPath.text (path : StoredPath) (slashes : Nat) : Path :=
  storagePrefix path.onCard ++ joined path.names ++ List.replicate slashes '/'

/-- What the driver tells a name by. -/
def nameKey (onCard : Bool) (name : Path) : Path := if onCard then name.map Char.toLower else name

def StoredPath.keys (path : StoredPath) : List Path := path.names.map (nameKey path.onCard)

/-- The second is the first or lies below it. -/
def StoredPath.Holds (path other : StoredPath) : Prop := path.onCard = other.onCard ∧ path.keys <+: other.keys

def StoredPath.Same (path other : StoredPath) : Prop := path.onCard = other.onCard ∧ path.keys = other.keys

instance (path other : StoredPath) : Decidable (path.Holds other) :=
  inferInstanceAs (Decidable (_ ∧ path.keys <+: other.keys))

instance (path other : StoredPath) : Decidable (path.Same other) := inferInstanceAs (Decidable (_ ∧ _))

theorem toLower_eq_slash {c : Char} : c.toLower = '/' ↔ c = '/' := by
  unfold Char.toLower
  split
  · rename_i upper
    refine iff_of_false (fun same => ?_) ?_
    · have value := congrArg (fun c : Char => c.val.toNat) same
      have low : 65 ≤ c.val.toNat := upper.1
      have high : c.val.toNat ≤ 90 := upper.2
      have sum : (c.val + ('a'.val - 'A'.val)).toNat = c.val.toNat + 32 := by
        exact Nat.mod_eq_of_lt (by omega : c.val.toNat + 32 < 4294967296)
      have slash : c.val.toNat + 32 = 47 := sum.symm.trans value
      omega
    · rintro rfl
      exact absurd upper (by decide)
  · rfl

theorem nameKey_noSlash {onCard : Bool} {name : Path} (slash : '/' ∉ name) : '/' ∉ nameKey onCard name := by
  cases onCard with
  | false => exact slash
  | true =>
    intro member
    obtain ⟨c, inside, same⟩ := List.mem_map.mp member
    exact slash (toLower_eq_slash.mp same ▸ inside)

theorem map_joined (names : List Path) : (joined names).map Char.toLower = joined (names.map (nameKey true)) := by
  rw [joined, joined, List.map_flatMap, List.flatMap_map]
  rfl

theorem joined_head (names : List Path) : ∀ c ∈ (joined names ++ ['/']).head?, c = '/' := by
  cases names <;> exact fun c first => (Option.some.inj first).symm

/-- One string goes on another only where its names do. -/
theorem prefix_joined_iff {names more : List Path} (slashes : ∀ name ∈ names, '/' ∉ name)
    (slashes' : ∀ name ∈ more, '/' ∉ name) :
    joined names ++ ['/'] <+: joined more ++ ['/'] ↔ names <+: more := by
  induction names generalizing more with
  | nil =>
    refine iff_of_true ?_ (List.nil_prefix)
    cases more with
    | nil => exact List.prefix_rfl
    | cons name more => exact ⟨name ++ joined more ++ ['/'], rfl⟩
  | cons name names ih =>
    cases more with
    | nil =>
      refine iff_of_false (fun starts => ?_) (fun starts => absurd (List.prefix_nil.mp starts) (List.cons_ne_nil _ _))
      have longer := starts.length_le
      rw [List.length_append, joined, List.flatMap_cons, List.length_append, List.length_cons, List.length_append] at longer
      have short : (joined []).length = 0 := rfl
      omega
    | cons other more =>
      have unfolded (name : Path) (names : List Path) :
          joined (name :: names) ++ ['/'] = '/' :: (name ++ (joined names ++ ['/'])) := by
        rw [joined, List.flatMap_cons, List.cons_append, List.cons_append, List.append_assoc, joined]
      have rest := ih (fun name member => slashes name (List.mem_cons_of_mem _ member))
        (fun name member => slashes' name (List.mem_cons_of_mem _ member))
      rw [unfolded, unfolded, List.cons_prefix_cons, and_iff_right rfl, List.cons_prefix_cons, ← rest]
      constructor
      · rintro ⟨behind, whole⟩
        rw [List.append_assoc] at whole
        have behindFirst : ∀ c ∈ (joined names ++ ['/'] ++ behind).head?, c = '/' := by
          cases names <;> exact fun c first => (Option.some.inj first).symm
        obtain rfl := name_unique (slashes name List.mem_cons_self) (slashes' other List.mem_cons_self) behindFirst
          (joined_head more) whole
        exact ⟨rfl, behind, List.append_cancel_left whole⟩
      · rintro ⟨rfl, starts⟩
        exact (List.prefix_append_right_inj name).mpr starts

theorem joined_injective {names more : List Path} (slashes : ∀ name ∈ names, '/' ∉ name)
    (slashes' : ∀ name ∈ more, '/' ∉ name) : joined names ++ ['/'] = joined more ++ ['/'] ↔ names = more := by
  refine ⟨fun same => ?_, fun same => by rw [same]⟩
  have starts : names <+: more := (prefix_joined_iff slashes slashes').mp (by rw [same])
  have starts' : more <+: names := (prefix_joined_iff slashes' slashes).mp (by rw [same])
  exact starts.eq_of_length_le starts'.length_le

variable {κ φ δ : Type*} (path other : StoredPath)

theorem keys_noSlash : ∀ name ∈ path.keys, '/' ∉ name := by
  intro name member
  obtain ⟨plain, inside, rfl⟩ := List.mem_map.mp member
  exact nameKey_noSlash (path.proper plain inside).2

theorem trim_text (slashes : Nat) :
    storagePathTrimTrailingSlashes (path.text slashes) = storagePrefix path.onCard ++ joined path.names := by
  have last : ∃ front c, storagePrefix path.onCard ++ joined path.names = front ++ [c] ∧ c ≠ '/' := by
    rcases List.eq_nil_or_concat' path.names with none | ⟨names, name, named⟩
    · rw [none]
      cases path.onCard
      · exact ⟨['/', 'i', 'n'], 't', rfl, by decide⟩
      · exact ⟨['/', 'e', 'x'], 't', rfl, by decide⟩
    · have proper := path.proper name (by rw [named]; exact List.mem_concat_self)
      rcases List.eq_nil_or_concat' name with empty | ⟨start, c, rfl⟩
      · exact absurd empty proper.1
      · refine ⟨storagePrefix path.onCard ++ (joined names ++ '/' :: start), c, ?_, fun slash => proper.2 ?_⟩
        · simp only [named, joined, List.flatMap_append, List.flatMap_singleton, List.append_assoc, List.cons_append]
        · rw [slash]
          exact List.mem_concat_self
  obtain ⟨front, c, body, differs⟩ := last
  have slash : ∀ c ∈ List.replicate slashes '/', decide (c = '/') = true := fun c member =>
    decide_eq_true (List.eq_of_mem_replicate member)
  rw [storagePathTrimTrailingSlashes, StoredPath.text, List.reverse_append, List.reverse_replicate,
    List.dropWhile_append_of_pos slash, body, List.reverse_append, List.reverse_singleton, List.singleton_append,
    List.dropWhile_cons_of_neg (by rwa [decide_eq_true_eq]), List.reverse_cons, List.reverse_reverse]

theorem typeByPath_prefix (onCard : Bool) {rest : Path} (first : ∀ c ∈ rest.head?, c = '/') :
    storageGetTypeByPath (storagePrefix onCard ++ rest) = .real (if onCard then .ext else .int) := by
  have slash : ¬(storagePathPrefixLen < (storagePrefix onCard ++ rest).length ∧
      (storagePrefix onCard ++ rest)[storagePathPrefixLen]? ≠ some '/') := by
    rintro ⟨longer, differs⟩
    cases rest with
    | nil => cases onCard <;> exact absurd longer (by decide)
    | cons c rest =>
      obtain rfl := first c rfl
      cases onCard <;> exact differs rfl
  rw [storageGetTypeByPath, if_neg slash]
  cases onCard with
  | true => exact if_pos (List.prefix_append _ _)
  | false =>
    have other : ¬storageExtPathPrefix <+: storagePrefix false ++ rest :=
      @prefixes_apart _ storageIntPathPrefix _ (by decide) (by decide) (List.prefix_append _ _)
    rw [if_neg other]
    exact if_pos (List.prefix_append _ _)

theorem alias_stored (api : StorageIndex → FsApi φ δ) (app : StorageApp κ φ δ) (now : BitVec 32) (appId : Path)
    (onCard : Bool) (rest : Path) :
    storageProcessAlias api app now (storagePrefix onCard ++ rest) appId false = (storagePrefix onCard ++ rest, app) := by
  have apart {start : Path} (differ : ∀ onCard, ¬storagePrefix onCard <+: start)
      (differ' : ∀ onCard, ¬start <+: storagePrefix onCard) :
      ¬start <+: storagePrefix onCard ++ rest :=
    prefixes_apart (differ onCard) (differ' onCard) (List.prefix_append _ _)
  rw [storageProcessAlias, if_neg (apart (by decide) (by decide)), if_neg (apart (by decide) (by decide))]
  split <;> rfl

theorem equivalent_stored (api : StorageIndex → FsApi φ δ) (app : StorageApp κ φ δ) (onCard onCard' : Bool)
    {rest rest' : Path} (first : ∀ c ∈ rest.head?, c = '/') (first' : ∀ c ∈ rest'.head?, c = '/') :
    storageProcessCommonEquivalentPath (comparing api) app (storagePrefix onCard ++ rest) (storagePrefix onCard' ++ rest') =
      decide (onCard = onCard' ∧ nameKey onCard rest = nameKey onCard rest') := by
  rw [storageProcessCommonEquivalentPath, typeByPath_prefix onCard' first', storageGetData,
    typeByPath_prefix onCard first]
  cases onCard <;> cases onCard'
  · have same : storagePrefix false ++ rest = storagePrefix false ++ rest' ↔ rest = rest' := List.append_right_inj _
    exact decide_eq_decide.mpr (same.trans (and_iff_right rfl).symm)
  · exact (decide_eq_false fun both => Bool.false_ne_true both.1).symm
  · exact (decide_eq_false fun both => Bool.false_ne_true both.1.symm).symm
  · have same : (storagePrefix true ++ rest).map Char.toLower = (storagePrefix true ++ rest').map Char.toLower ↔
        rest.map Char.toLower = rest'.map Char.toLower := by
      rw [List.map_append, List.map_append, List.append_right_inj]
    exact decide_eq_decide.mpr (same.trans (and_iff_right rfl).symm)

theorem nameKey_joined (onCard : Bool) (names : List Path) :
    nameKey onCard (joined names ++ ['/']) = joined (names.map (nameKey onCard)) ++ ['/'] := by
  cases onCard with
  | false =>
    have plain : nameKey false = id := rfl
    rw [plain, List.map_id]
    rfl
  | true => exact (List.map_append).trans (congrArg (· ++ ['/']) (map_joined names))

theorem nameKey_take (onCard : Bool) (rest : Path) (count : Nat) :
    nameKey onCard (rest.take count) = (nameKey onCard rest).take count := by
  cases onCard with
  | false => rfl
  | true => exact List.map_take

theorem length_nameKey (onCard : Bool) (rest : Path) : (nameKey onCard rest).length = rest.length := by
  cases onCard with
  | false => rfl
  | true => exact List.length_map _

/-- `storage_common_equivalent_path` of two paths, whatever slashes are at their ends. -/
theorem equivalentPath_iff [DecidableEq κ] (api : StorageIndex → FsApi φ δ) (card image : MediumApi φ)
    (app : StorageApp κ φ δ) (now address : BitVec 32) (slashes slashes' : Nat) (truncate : Bool) (appId : Path) :
    (storageProcessMessage (comparing api) card image app
      ⟨.commonEquivalentPath (path.text slashes) (other.text slashes') truncate appId, now, address⟩).1 =
        .boolValue (if truncate then decide (path.Holds other) else decide (path.Same other)) := by
  have first := joined_head path.names
  have first' := joined_head other.names
  have keys (stored : StoredPath) : nameKey stored.onCard (joined stored.names ++ ['/']) = joined stored.keys ++ ['/'] :=
    nameKey_joined _ _
  rw [storageProcessMessage]
  dsimp only
  rw [trim_text, trim_text, alias_stored, alias_stored]
  rw [List.append_assoc, List.append_assoc]
  refine congrArg SaReturn.boolValue ?_
  cases truncate with
  | false =>
    rw [if_neg Bool.false_ne_true, equivalent_stored api app _ _ first first']
    refine decide_eq_decide.mpr (and_congr_right fun same => ?_)
    rw [keys path, same, keys other]
    exact joined_injective (keys_noSlash path) (keys_noSlash other)
  | true =>
    have prefixes : (storagePrefix path.onCard).length = (storagePrefix other.onCard).length := by
      cases path.onCard <;> cases other.onCard <;> rfl
    have cut : (storagePrefix other.onCard ++ (joined other.names ++ ['/'])).take
        (storagePrefix path.onCard ++ (joined path.names ++ ['/'])).length =
          storagePrefix other.onCard ++ (joined other.names ++ ['/']).take (joined path.names ++ ['/']).length := by
      rw [List.length_append, prefixes, List.take_length_add_append]
    have firstCut : ∀ c ∈ ((joined other.names ++ ['/']).take (joined path.names ++ ['/']).length).head?, c = '/' := by
      intro c member
      rw [List.head?_take, if_neg] at member
      · exact first' c member
      · rw [List.length_append]
        exact Nat.succ_ne_zero _
    rw [if_pos rfl, cut, equivalent_stored api app _ _ first firstCut]
    refine decide_eq_decide.mpr (and_congr_right fun same => ?_)
    rw [nameKey_take, ← length_nameKey path.onCard, ← List.prefix_iff_eq_take, keys path, same, keys other]
    exact prefix_joined_iff (keys_noSlash path) (keys_noSlash other)

end Xtreme.Storage
