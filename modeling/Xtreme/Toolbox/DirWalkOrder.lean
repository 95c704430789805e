import Mathlib.Algebra.GroupWithZero.Nat
import Xtreme.Library.Forest
import Xtreme.Toolbox.DirWalk

/-! The order in which a walk reads a tree of directories that stays as it is: that of a
depth-first visit, with each entry that passes the filter once, if names and directories
fit their buffers and counters (`dirWalk_reads`). -/
namespace Xtreme.Toolbox
open Xtreme.Storage Xtreme.Library

section
variable {σ : Type}

def entryPath (here : Path) (entry : DirEntry) : Path := slashed here entry.name

/-- Whether the directory is gone into. -/
def enters (recursive : Bool) (recurseFilter : List Path) (here : Path) (entry : DirEntry) : Bool :=
  recursive && !recurseFilter.contains (entryPath here entry)

def passes (filterCb : Option (DirWalkFilterCb σ)) (entry : DirEntry) (context : σ) : Bool × σ :=
  match filterCb with
  | some filterCb => filterCb entry.name entry.info context
  | none => (true, context)

def passing (filterCb : Option (DirWalkFilterCb σ)) : σ → List (Path × DirEntry) → List (Path × FileInfo)
  | _, [] => []
  | context, (here, entry) :: rest =>
    if (passes filterCb entry context).1 then
      (entryPath here entry, entry.info) :: passing filterCb (passes filterCb entry context).2 rest
    else passing filterCb (passes filterCb entry context).2 rest

/-- A name as it can be read: without a slash, and with room for it and its terminator. -/
structure ProperName (name : Path) : Prop where
  noSlash : '/' ∉ name
  fits : name.length < maxNameLen

/-- A tree whose names can be read, and whose directories can be counted. -/
def ProperTree (forest : Forest DirEntry) : Prop :=
  forest.All (fun entries => entries.length < 2 ^ 32)
    (fun entry => ProperName entry.name ∧ fileInfoIsDir entry.info = false)
    fun entry => ProperName entry.name ∧ fileInfoIsDir entry.info = true

inductive Reads (directories : Directories) : DirWalk σ → List (Path × FileInfo) → Prop
  | last {walk after : DirWalk σ} (ends : Settles (fun fuel => dirWalkRead directories fuel walk) ⟨.last, none, after⟩) :
      Reads directories walk []
  | next {walk middle : DirWalk σ} {entry : Path × FileInfo} {rest : List (Path × FileInfo)}
      (gives : Settles (fun fuel => dirWalkRead directories fuel walk) ⟨.ok, some entry, middle⟩)
      (more : Reads directories middle rest) : Reads directories walk (entry :: rest)

variable {directories : Directories} {here : Path} {done more : List DirEntry} {entry : DirEntry}

/-- A walk with some entries of an open directory behind it. -/
def walkAt (settings : DirWalk σ) (here : Path) (count : Nat) (outer : List (BitVec 32)) (context : σ) : DirWalk σ :=
  { settings with
    file := ⟨some (here, count), .ok⟩
    path := here
    indexList := outer
    currentIndex := BitVec.ofNat 32 count
    filterContext := context }

theorem Reads.goOn {walk next : DirWalk σ} {found : List (Path × FileInfo)} (reads : Reads directories next found)
    (turn : ∀ answer, Settles (fun fuel => dirWalkIter directories fuel next) answer →
      Settles (fun fuel => dirWalkIter directories fuel walk) answer) : Reads directories walk found := by
  cases reads with
  | last ends => exact .last (turn _ ends)
  | next gives more => exact .next (turn _ gives) more

theorem storageDirRead_entry (shown : directories here = some (done ++ entry :: more)) (error : FsError) :
    storageDirRead directories ⟨some (here, done.length), error⟩ maxNameLen =
      (some ⟨entry.name.take 253, entry.info⟩, ⟨some (here, done.length + 1), .ok⟩) := by
  have found : ((directories here).getD [])[done.length]? = some entry := by
    rw [shown, Option.getD_some, List.getElem?_append_right (Nat.le_refl _), Nat.sub_self]
    rfl
  rw [storageDirRead]
  dsimp only
  rw [found]
  rfl

theorem storageDirRead_end (shown : directories here = some done) (error : FsError) :
    storageDirRead directories ⟨some (here, done.length), error⟩ maxNameLen =
      (none, ⟨some (here, done.length), .notExist⟩) := by
  have none : ((directories here).getD [])[done.length]? = none := by
    rw [shown]
    exact List.getElem?_eq_none (Nat.le_refl _)
  rw [storageDirRead]
  dsimp only
  rw [none]

theorem dirWalkFilter_eq (entry : DirEntry) (walk : DirWalk σ) :
    dirWalkFilter entry walk = ((passes walk.filterCb entry walk.filterContext).1,
      { walk with filterContext := (passes walk.filterCb entry walk.filterContext).2 }) := by
  obtain ⟨file, path, indexList, currentIndex, recursive, filterCb, context, recurseFilter⟩ := walk
  cases filterCb <;> rfl

theorem pathLeft_slashed {name : Path} (noSlash : '/' ∉ name) : pathLeft (slashed here name) = here := by
  rw [pathLeft, slashed, furiStringSearchRchar_append here noSlash]
  exact List.take_left

variable {settings : DirWalk σ} {outer : List (BitVec 32)} {context : σ}

theorem ofNat_succ (count : Nat) : BitVec.ofNat 32 count + 1 = BitVec.ofNat 32 (count + 1) :=
  (BitVec.ofNat_add count 1).symm

theorem dirWalkIter_entry (shown : directories here = some (done ++ entry :: more)) (proper : ProperName entry.name)
    (fuel : Nat) :
    dirWalkIter directories (fuel + 1) (walkAt settings here done.length outer context) =
      let after := walkAt settings here (done.length + 1) outer (passes settings.filterCb entry context).2
      let next :=
        if fileInfoIsDir entry.info ∧ settings.recursive then stepInto directories entry.name after else after
      if (passes settings.filterCb entry context).1 then some ⟨.ok, some (entryPath here entry, entry.info), next⟩
      else dirWalkIter directories fuel next := by
  have name : entry.name.take 253 = entry.name := List.take_of_length_le (Nat.le_of_lt_succ proper.fits)
  have read := storageDirRead_entry shown .ok
  rw [name] at read
  have start : storageDirRead directories (walkAt settings here done.length outer context).file maxNameLen =
      (some entry, ⟨some (here, done.length + 1), .ok⟩) := read
  rw [dirWalkIter, start]
  dsimp only
  rw [dirWalkFilter_eq]
  simp only [walkAt, ofNat_succ, entryPath]

theorem Reads.afterEntry {rest : List (Path × DirEntry)} (shown : directories here = some (done ++ entry :: more))
    (proper : ProperName entry.name) (next : σ → DirWalk σ)
    (turn : ∀ context, (if fileInfoIsDir entry.info ∧ settings.recursive then
      stepInto directories entry.name (walkAt settings here (done.length + 1) outer context)
      else walkAt settings here (done.length + 1) outer context) = next context)
    (reads : ∀ context, Reads directories (next context) (passing settings.filterCb context rest)) :
    Reads directories (walkAt settings here done.length outer context)
      (passing settings.filterCb context ((here, entry) :: rest)) := by
  have start (fuel : Nat) : dirWalkIter directories (fuel + 1) (walkAt settings here done.length outer context) =
      if (passes settings.filterCb entry context).1 then
        some ⟨.ok, some (entryPath here entry, entry.info), next (passes settings.filterCb entry context).2⟩
      else dirWalkIter directories fuel (next (passes settings.filterCb entry context).2) := by
    rw [dirWalkIter_entry shown proper]
    dsimp only
    rw [turn]
  rw [passing]
  split
  · rename_i yes
    refine .next (Settles.last_round fun fuel => ?_) (reads _)
    rw [dirWalkRead, start, if_pos yes]
  · rename_i no
    refine (reads _).goOn fun answer ends => Settles.round (fun fuel => ?_) ends
    rw [start, if_neg no]

/-- The end of a directory: as many entries of the one above are read again as were read before. -/
theorem rewindLoop_settles (shown : directories here = some (done ++ more)) (small : done.length < 2 ^ 32)
    {count : Nat} (behind : count ≤ done.length) :
    Settles (fun fuel => rewindLoop directories (BitVec.ofNat 32 done.length) fuel
      (walkAt settings here count outer context)) (true, walkAt settings here done.length outer context) := by
  obtain ⟨left, sum⟩ := Nat.exists_eq_add_of_le behind
  induction left generalizing count with
  | zero =>
    obtain rfl : done.length = count := sum
    exact Settles.last_round fun fuel => if_pos rfl
  | succ left next =>
    refine Settles.round (fun fuel => ?_) (next (by omega) (by omega : done.length = count + 1 + left))
    have other : ¬BitVec.ofNat 32 done.length = (walkAt settings here count outer context).currentIndex := by
      intro same
      have same : BitVec.ofNat 32 done.length = BitVec.ofNat 32 count := same
      have values := congrArg BitVec.toNat same
      rw [BitVec.toNat_ofNat, BitVec.toNat_ofNat] at values
      omega
    obtain ⟨front, entry, back, parts, length⟩ :
        ∃ front entry back, done = front ++ entry :: back ∧ front.length = count := by
      have inside : count < done.length := by omega
      exact ⟨done.take count, done[count], done.drop (count + 1), by
        rw [← List.drop_eq_getElem_cons inside, List.take_append_drop], List.length_take_of_le behind⟩
    have read : storageDirRead directories (walkAt settings here count outer context).file maxNameLen =
        (some ⟨entry.name.take 253, entry.info⟩, ⟨some (here, count + 1), .ok⟩) := by
      rw [parts, List.append_assoc] at shown
      have first := storageDirRead_entry shown .ok
      rwa [length] at first
    rw [rewindLoop, if_neg other, read]
    simp only [walkAt, ofNat_succ]

theorem stepInto_filtered {walk : DirWalk σ} {name : Path} (noSlash : '/' ∉ name)
    (filtered : walk.recurseFilter.contains (slashed walk.path name) = true) : stepInto directories name walk = walk := by
  rw [stepInto, if_pos filtered, pathLeft_slashed noSlash]

theorem stepInto_entered {inside : List DirEntry} {count : Nat}
    (wanted : ¬settings.recurseFilter.contains (entryPath here entry) = true)
    (shown : directories (entryPath here entry) = some inside) :
    stepInto directories entry.name (walkAt settings here count outer context) =
      walkAt settings (entryPath here entry) 0 (BitVec.ofNat 32 count :: outer) context := by
  have opened : storageDirOpen directories (slashed here entry.name) = (true, ⟨some (entryPath here entry, 0), .ok⟩) := by
    rw [storageDirOpen, ← entryPath, shown]
  refine (if_neg wanted).trans ?_
  simp only [walkAt, opened]
  rfl

/-- From the end of a directory, a turn goes back to the place behind it. -/
theorem Reads.stepOut {inside : List DirEntry} {found : List (Path × FileInfo)} (name : '/' ∉ entry.name)
    (ended : directories (entryPath here entry) = some inside) (shown : directories here = some (done ++ more))
    (small : done.length < 2 ^ 32) (reads : Reads directories (walkAt settings here done.length outer context) found) :
    Reads directories
      (walkAt settings (entryPath here entry) inside.length (BitVec.ofNat 32 done.length :: outer) context) found := by
  refine reads.goOn fun answer ends => ?_
  have read : storageDirRead directories
      (walkAt settings (entryPath here entry) inside.length (BitVec.ofNat 32 done.length :: outer) context).file maxNameLen =
      (none, ⟨some (entryPath here entry, inside.length), .notExist⟩) := storageDirRead_end ended .ok
  have above : storageDirOpen directories (pathLeft (entryPath here entry)) = (true, ⟨some (here, 0), .ok⟩) := by
    rw [entryPath, pathLeft_slashed name, storageDirOpen, shown]
  have rewinds := @rewindLoop_settles σ directories here done more settings outer context shown small 0 (Nat.zero_le _)
  have again : Settles (fun fuel => (rewindLoop directories (BitVec.ofNat 32 done.length) fuel
      (walkAt settings here 0 outer context)).bind fun rewound =>
        if rewound.1 then dirWalkIter directories fuel rewound.2 else some ⟨.error, none, rewound.2⟩) answer :=
    rewinds.bind (ends.congr fun fuel => if_pos rfl)
  refine Settles.round (fun fuel => ?_) again
  rw [dirWalkIter, read]
  simp only [walkAt, Toolbox.stepOut, above]
  rw [entryPath, pathLeft_slashed name]
  rfl

theorem enters_iff {recursive : Bool} {recurseFilter : List Path} :
    enters recursive recurseFilter here entry = true ↔
      recursive = true ∧ ¬recurseFilter.contains (entryPath here entry) = true := by
  rw [enters, Bool.and_eq_true, Bool.not_eq_true', Bool.not_eq_true]

theorem reads_forest {forest : Forest DirEntry} (later : List (Path × DirEntry))
    (shown : directories here = some (done ++ forest.entries)) (small : (done ++ forest.entries).length < 2 ^ 32)
    (below : forest.BelowShown directories entryPath here)
    (proper : forest.BelowAll (fun entries => entries.length < 2 ^ 32)
      (fun entry => ProperName entry.name ∧ fileInfoIsDir entry.info = false)
      fun entry => ProperName entry.name ∧ fileInfoIsDir entry.info = true)
    (ends : ∀ context, Reads directories (walkAt settings here (done ++ forest.entries).length outer context)
      (passing settings.filterCb context later)) :
    Reads directories (walkAt settings here done.length outer context) (passing settings.filterCb context
        (forest.visits (enters settings.recursive settings.recurseFilter) entryPath here ++ later)) := by
  induction forest generalizing here done outer context later with
  | nil =>
    rw [Forest.entries, List.append_nil] at ends
    exact ends context
  | leaf entry rest next =>
    obtain ⟨⟨name, file⟩, properRest⟩ := proper
    have length : (done ++ [entry]).length = done.length + 1 := List.length_append
    have shownRest := shown
    rw [Forest.entries, List.append_cons] at ends shownRest small
    have goes (context : σ) := @next here (done ++ [entry]) outer context later shownRest small below properRest ends
    rw [length] at goes
    refine Reads.afterEntry shown name _ (fun context => if_neg fun both => ?_) goes
    rw [file] at both
    exact Bool.false_ne_true both.1
  | node entry inside rest nextInside nextRest =>
    obtain ⟨⟨name, dir⟩, smallInside, properInside, properRest⟩ := proper
    obtain ⟨shownInside, belowInside, belowRest⟩ := below
    have length : (done ++ [entry]).length = done.length + 1 := List.length_append
    have shownRest := shown
    rw [Forest.entries, List.append_cons] at ends shownRest small
    have goes (context : σ) :=
      @nextRest here (done ++ [entry]) outer context later shownRest small belowRest properRest ends
    rw [length] at goes
    rw [Forest.visits, List.cons_append, List.append_assoc]
    by_cases wanted : enters settings.recursive settings.recurseFilter here entry = true
    · obtain ⟨recursive, entered⟩ := enters_iff.mp wanted
      have back (context : σ) := Reads.stepOut name.noSlash shownInside shownRest
        (by rw [List.length_append] at small; omega) (by rw [length]; exact goes context)
      rw [length] at back
      have gone (context : σ) := @nextInside (entryPath here entry) [] (BitVec.ofNat 32 (done.length + 1) :: outer) context
        (rest.visits (enters settings.recursive settings.recurseFilter) entryPath here ++ later) shownInside smallInside
        belowInside properInside back
      rw [if_pos wanted]
      refine Reads.afterEntry shown name _ (fun context => ?_) gone
      rw [if_pos ⟨dir, recursive⟩]
      exact stepInto_entered entered shownInside
    · rw [if_neg wanted]
      refine Reads.afterEntry shown name _ (fun context => ?_) goes
      by_cases recursive : settings.recursive = true
      · have filtered : settings.recurseFilter.contains (entryPath here entry) = true := by
          by_contra other
          exact wanted (enters_iff.mpr ⟨recursive, other⟩)
        rw [if_pos ⟨dir, recursive⟩]
        exact stepInto_filtered name.noSlash filtered
      · exact if_neg fun both => recursive both.2

/-- From an opened directory on, a walk reads its tree in the order of a visit. -/
theorem dirWalk_reads {root : Path} {forest : Forest DirEntry} (shown : forest.Shown directories entryPath root)
    (proper : ProperTree forest) (walk : DirWalk σ) (closed : walk.indexList = []) :
    (dirWalkOpen directories root walk).1 = true ∧ Reads directories (dirWalkOpen directories root walk).2
        (passing walk.filterCb walk.filterContext
          (forest.visits (enters walk.recursive walk.recurseFilter) entryPath root)) := by
  have opened : storageDirOpen directories root = (true, ⟨some (root, 0), .ok⟩) := by
    rw [storageDirOpen, shown.top]
  have start : dirWalkOpen directories root walk = (true, walkAt walk root 0 [] walk.filterContext) := by
    obtain ⟨file, path, indexList, currentIndex, recursive, filterCb, context, recurseFilter⟩ := walk
    rw [dirWalkOpen, opened, closed]
    rfl
  rw [start]
  refine ⟨rfl, ?_⟩
  have reads := @reads_forest σ directories root [] walk [] walk.filterContext forest [] shown.top proper.top shown.below
    proper.below fun context => ?_
  · rwa [List.append_nil] at reads
  · have read : storageDirRead directories (walkAt walk root forest.entries.length [] context).file maxNameLen =
        (none, ⟨some (root, forest.entries.length), .notExist⟩) := storageDirRead_end shown.top .ok
    have ended (fuel : Nat) : dirWalkRead directories (fuel + 1) (walkAt walk root forest.entries.length [] context) =
        some ⟨.last, none, { walkAt walk root forest.entries.length [] context with
          file := ⟨some (root, forest.entries.length), .notExist⟩ }⟩ := by
      rw [dirWalkRead, dirWalkIter, read]
      rfl
    exact .last (Settles.last_round ended)

end

/-- A file and a directory with another file in it. -/
def smallDirectories : Directories := fun path =>
  if path = ['/', 'd'] then some [⟨['a'], ⟨0, 3⟩⟩, ⟨['b'], ⟨1, 0⟩⟩]
  else if path = ['/', 'd', '/', 'b'] then some [⟨['c'], ⟨0, 5⟩⟩]
  else none

theorem dirWalk_reads_small : (dirWalkOpen smallDirectories ['/', 'd'] (dirWalkAlloc ())).1 = true ∧
      Reads smallDirectories (dirWalkOpen smallDirectories ['/', 'd'] (dirWalkAlloc ())).2
        [(['/', 'd', '/', 'a'], ⟨0, 3⟩), (['/', 'd', '/', 'b'], ⟨1, 0⟩), (['/', 'd', '/', 'b', '/', 'c'], ⟨0, 5⟩)] :=
  @dirWalk_reads Unit smallDirectories ['/', 'd']
    (.leaf ⟨['a'], ⟨0, 3⟩⟩ (.node ⟨['b'], ⟨1, 0⟩⟩ (.leaf ⟨['c'], ⟨0, 5⟩⟩ .nil) .nil))
    ⟨rfl, rfl, trivial, trivial⟩
    ⟨by decide, ⟨⟨by decide, by decide⟩, rfl⟩, ⟨⟨by decide, by decide⟩, rfl⟩, by decide,
      ⟨⟨⟨by decide, by decide⟩, rfl⟩, trivial⟩, trivial⟩ (dirWalkAlloc ()) rfl

/-- A directory with one file, whose name has 254 characters. -/
def longDirectories : Directories := fun path =>
  if path = ['/', 'd'] then some [⟨List.replicate 254 'a', ⟨0, 0⟩⟩] else none

/-- The walk does not give the full path of a name that is too long for its buffer. -/
theorem dirWalk_cuts_name :
    (Forest.leaf ⟨List.replicate 254 'a', ⟨0, 0⟩⟩ .nil).Shown longDirectories entryPath ['/', 'd'] ∧
      ¬Reads longDirectories (dirWalkOpen longDirectories ['/', 'd'] (dirWalkAlloc ())).2
        [(slashed ['/', 'd'] (List.replicate 254 'a'), ⟨0, 0⟩)] := by
  refine ⟨⟨rfl, trivial⟩, fun reads => ?_⟩
  have given (fuel : Nat) :
      dirWalkRead longDirectories (fuel + 1) (dirWalkOpen longDirectories ['/', 'd'] (dirWalkAlloc ())).2 =
        some ⟨.ok, some (slashed ['/', 'd'] ((List.replicate 254 'a').take 253), ⟨0, 0⟩), _⟩ := rfl
  cases reads with
  | next gives more =>
    have same := (Settles.last_round given).unique gives
    have paths := congrArg Prod.fst (Option.some.inj (congrArg DirWalkAnswer.found same))
    have names := (List.cons.inj (List.append_cancel_left paths)).2
    have lengths := congrArg List.length names
    rw [List.length_take, List.length_replicate] at lengths
    exact absurd lengths (by decide)

end Xtreme.Toolbox
