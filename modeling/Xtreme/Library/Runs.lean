import Mathlib.Data.List.Chain

/-! A list as its runs: how often each item stands next to itself. Neighbouring
runs are of different items, and none is empty. -/
namespace Xtreme.Library

variable {α : Type*}

def expandRuns (runs : List (α × Nat)) : List α := runs.flatMap fun run => List.replicate run.2 run.1

def prependRun [DecidableEq α] (item : α) : List (α × Nat) → List (α × Nat)
  | [] => [(item, 1)]
  | run :: rest => if item = run.1 then (item, run.2 + 1) :: rest else (item, 1) :: run :: rest

def runsOf [DecidableEq α] (items : List α) : List (α × Nat) := items.foldr prependRun []

structure ProperRuns (runs : List (α × Nat)) : Prop where
  positive : ∀ run ∈ runs, 0 < run.2
  distinct : runs.IsChain fun run next => run.1 ≠ next.1

theorem ProperRuns.tail {run : α × Nat} {runs : List (α × Nat)} (proper : ProperRuns (run :: runs)) :
    ProperRuns runs :=
  ⟨fun other member => proper.positive other (List.mem_cons_of_mem _ member), proper.distinct.tail⟩

theorem ProperRuns.ne {run next : α × Nat} {runs : List (α × Nat)} (proper : ProperRuns (run :: next :: runs)) :
    run.1 ≠ next.1 :=
  (List.isChain_cons_cons.mp proper.distinct).1

variable [DecidableEq α]

theorem expandRuns_prependRun (item : α) (runs : List (α × Nat)) :
    expandRuns (prependRun item runs) = item :: expandRuns runs := by
  cases runs with
  | nil => rfl
  | cons run rest =>
    rw [prependRun]
    split
    · rename_i same
      simp only [expandRuns, List.flatMap_cons, List.replicate_succ, List.cons_append, same]
    · simp only [expandRuns, List.flatMap_cons, List.replicate_one, List.singleton_append]

theorem expandRuns_runsOf (items : List α) : expandRuns (runsOf items) = items := by
  induction items with
  | nil => rfl
  | cons item items ih => rw [runsOf, List.foldr_cons, expandRuns_prependRun, ← runsOf, ih]

theorem ProperRuns.prependRun (item : α) {runs : List (α × Nat)} (proper : ProperRuns runs) :
    ProperRuns (prependRun item runs) := by
  cases runs with
  | nil =>
    refine ⟨fun run member => ?_, List.isChain_singleton _⟩
    rw [List.mem_singleton.mp member]
    exact Nat.one_pos
  | cons run rest =>
    rw [Library.prependRun]
    split
    · rename_i same
      refine ⟨fun other member => ?_, ?_⟩
      · rcases List.mem_cons.mp member with rfl | later
        · exact Nat.succ_pos _
        · exact proper.positive other (List.mem_cons_of_mem _ later)
      · cases rest with
        | nil => exact List.isChain_singleton _
        | cons next rest =>
          rw [List.isChain_cons_cons]
          exact ⟨same ▸ proper.ne, proper.tail.distinct⟩
    · rename_i other
      refine ⟨fun other member => ?_, List.isChain_cons_cons.mpr ⟨other, proper.distinct⟩⟩
      rcases List.mem_cons.mp member with rfl | later
      · exact Nat.one_pos
      · exact proper.positive _ later

theorem properRuns_runsOf (items : List α) : ProperRuns (runsOf items) := by
  induction items with
  | nil => exact ⟨fun run member => absurd member List.not_mem_nil, List.isChain_nil⟩
  | cons item items ih => exact ih.prependRun item

/-- Some of one item in front of runs that begin with another. -/
theorem foldr_prependRun_replicate {item : α} {rest : List (α × Nat)} (other : ∀ run ∈ rest.head?, item ≠ run.1)
    (length : Nat) :
    (List.replicate (length + 1) item).foldr prependRun rest = (item, length + 1) :: rest := by
  induction length with
  | zero =>
    cases rest with
    | nil => rfl
    | cons run rest => exact if_neg (other run rfl)
  | succ length ih => rw [List.replicate_succ, List.foldr_cons, ih, prependRun, if_pos rfl]

theorem length_runsOf_pos (item : α) (items : List α) : 0 < (runsOf (item :: items)).length := by
  refine List.length_pos_of_ne_nil fun none => ?_
  have expanded := expandRuns_runsOf (item :: items)
  rw [none] at expanded
  cases expanded

theorem runsOf_head (item : α) (items : List α) : ∀ run ∈ (runsOf (item :: items)).head?, run.1 = item := by
  intro run first
  rw [runsOf, List.foldr_cons] at first
  cases rest : items.foldr prependRun [] with
  | nil =>
    rw [rest] at first
    cases first
    rfl
  | cons next more =>
    rw [rest, prependRun] at first
    split at first
    · cases first
      rfl
    · cases first
      rfl

theorem runsOf_replicate_cons {item next : α} (other : item ≠ next) (length : Nat) (items : List α) :
    runsOf (List.replicate (length + 1) item ++ next :: items) = (item, length + 1) :: runsOf (next :: items) := by
  rw [runsOf, List.foldr_append]
  exact foldr_prependRun_replicate (fun run first => (runsOf_head next items run first).symm ▸ other) length

theorem runsOf_replicate (item : α) (length : Nat) :
    runsOf (List.replicate (length + 1) item) = [(item, length + 1)] :=
  foldr_prependRun_replicate (fun _ first => by cases first) length

/-- Where no two neighbours are alike, each item is a run. -/
theorem length_runsOf_of_isChain {items : List α} (unlike : items.IsChain (· ≠ ·)) :
    (runsOf items).length = items.length := by
  induction items with
  | nil => rfl
  | cons item items ih =>
    cases items with
    | nil => rfl
    | cons next items =>
      obtain ⟨other, rest⟩ := List.isChain_cons_cons.mp unlike
      rw [← List.singleton_append, ← List.replicate_one, runsOf_replicate_cons other 0, List.length_cons, ih rest]
      rfl

theorem runsOf_expandRuns {runs : List (α × Nat)} (proper : ProperRuns runs) : runsOf (expandRuns runs) = runs := by
  induction runs with
  | nil => rfl
  | cons run rest ih =>
    obtain ⟨length, shape⟩ : ∃ length, run.2 = length + 1 :=
      ⟨run.2 - 1, by have := proper.positive run List.mem_cons_self; omega⟩
    have other : ∀ next ∈ rest.head?, run.1 ≠ next.1 := by
      intro next head
      cases rest with
      | nil => cases head
      | cons first rest =>
        cases head
        exact proper.ne
    rw [expandRuns, List.flatMap_cons, ← expandRuns, runsOf, List.foldr_append, ← runsOf, ih proper.tail, shape,
      foldr_prependRun_replicate other, ← shape]

end Xtreme.Library
