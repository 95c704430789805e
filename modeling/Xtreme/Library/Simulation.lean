import Mathlib.Tactic.TypeStar

/-! Deterministic machines that answer each operation, and the one induction
behind every "same calls, same answers" theorem: a relation between the states
of two machines that every guarded step keeps, and under which the two steps
answer alike, makes whole runs answer alike. An invariant of one machine is
carried through its runs in the same way. -/
namespace Xtreme.Library

/-- A machine takes an operation to an answer and its next state. -/
abbrev Machine (σ ι ω : Type*) := σ → ι → ω × σ

namespace Machine
variable {σ τ ι ω : Type*}

/-- The answers of a sequence of operations, and the state it ends in. -/
def run (m : Machine σ ι ω) : σ → List ι → List ω × σ
  | s, [] => ([], s)
  | s, op :: ops =>
    let (answer, next) := m s op
    let (answers, final) := run m next ops
    (answer :: answers, final)

theorem run_thrice (m : Machine σ ι ω) (s : σ) (first second third : ι) : (run m s [first, second, third]).1 =
      [(m s first).1, (m (m s first).2 second).1, (m (m (m s first).2 second).2 third).1] :=
  rfl

theorem run_append (m : Machine σ ι ω) (s : σ) (ops ops' : List ι) : run m s (ops ++ ops') =
      ((run m s ops).1 ++ (run m (run m s ops).2 ops').1, (run m (run m s ops).2 ops').2) := by
  induction ops generalizing s with
  | nil => rfl
  | cons op ops ih => simp only [List.cons_append, run, ih]

/-- Every operation of the run meets its condition in the state it starts from. -/
def RunMeets (m : Machine σ ι ω) (guard : σ → ι → Prop) : σ → List ι → Prop
  | _, [] => True
  | s, op :: ops => guard s op ∧ RunMeets m guard (m s op).2 ops

instance decidableRunMeets (m : Machine σ ι ω) (guard : σ → ι → Prop)
    [∀ s op, Decidable (guard s op)] : ∀ s ops, Decidable (RunMeets m guard s ops)
  | _, [] => isTrue trivial
  | s, op :: ops =>
    have := decidableRunMeets m guard (m s op).2 ops
    inferInstanceAs (Decidable (guard s op ∧ RunMeets m guard (m s op).2 ops))

theorem RunMeets.imp {m : Machine σ ι ω} {guard guard' : σ → ι → Prop}
    (implies : ∀ s op, guard s op → guard' s op) {s : σ} {ops : List ι}
    (meets : RunMeets m guard s ops) : RunMeets m guard' s ops := by
  induction ops generalizing s with
  | nil => trivial
  | cons op ops ih => exact ⟨implies s op meets.1, ih meets.2⟩

variable {m : Machine σ ι ω} {n : Machine τ ι ω} {guard : σ → ι → Prop} {R : σ → τ → Prop}

/-- One guarded step of either machine answers alike and keeps the relation. -/
def StepAgrees (m : Machine σ ι ω) (n : Machine τ ι ω) (guard : σ → ι → Prop)
    (R : σ → τ → Prop) : Prop :=
  ∀ s t op, R s t → guard s op → (m s op).1 = (n t op).1 ∧ R (m s op).2 (n t op).2

/-- Runs of related machines answer alike and end related. -/
theorem run_agrees (step : StepAgrees m n guard R) {s : σ} {t : τ} (related : R s t)
    {ops : List ι} (meets : RunMeets m guard s ops) :
    (run m s ops).1 = (run n t ops).1 ∧ R (run m s ops).2 (run n t ops).2 := by
  induction ops generalizing s t with
  | nil => exact ⟨rfl, related⟩
  | cons op ops ih =>
    obtain ⟨guarded, rest⟩ := meets
    obtain ⟨same, kept⟩ := step s t op related guarded
    obtain ⟨answers, final⟩ := ih kept rest
    exact ⟨by simp only [run, same, answers], by simpa only [run] using final⟩

/-- A property of the state holds at the start and after every operation of the run. -/
def Throughout (m : Machine σ ι ω) (P : σ → Prop) : σ → List ι → Prop
  | s, [] => P s
  | s, op :: ops => P s ∧ Throughout m P (m s op).2 ops

instance decidableThroughout (m : Machine σ ι ω) (P : σ → Prop) [DecidablePred P] :
    ∀ s ops, Decidable (Throughout m P s ops)
  | s, [] => inferInstanceAs (Decidable (P s))
  | s, op :: ops =>
    have := decidableThroughout m P (m s op).2 ops
    inferInstanceAs (Decidable (P s ∧ Throughout m P (m s op).2 ops))

theorem throughout_of_step {P : σ → Prop} (step : ∀ s op, P s → guard s op → P (m s op).2) {s : σ}
    (start : P s) {ops : List ι} (meets : RunMeets m guard s ops) : Throughout m P s ops := by
  induction ops generalizing s with
  | nil => exact start
  | cons op ops ih => exact ⟨start, ih (step s op start meets.1) meets.2⟩

theorem final_of_step {P : σ → Prop} (step : ∀ s op, P s → guard s op → P (m s op).2) {s : σ}
    (start : P s) {ops : List ι} (meets : RunMeets m guard s ops) : P (run m s ops).2 := by
  induction ops generalizing s with
  | nil => exact start
  | cons op ops ih => exact ih (step s op start meets.1) meets.2

theorem runMeets_of_step {P : σ → Prop} {more : σ → ι → Prop}
    (step : ∀ s op, P s → guard s op → P (m s op).2) (meets : ∀ s op, P s → guard s op → more s op)
    {s : σ} (start : P s) {ops : List ι} (guarded : RunMeets m guard s ops) : RunMeets m more s ops := by
  induction ops generalizing s with
  | nil => trivial
  | cons op ops ih =>
    exact ⟨meets s op start guarded.1, ih (step s op start guarded.1) guarded.2⟩

theorem Throughout.imp {P Q : σ → Prop} (implies : ∀ s, P s → Q s) {s : σ} {ops : List ι}
    (holds : Throughout m P s ops) : Throughout m Q s ops := by
  induction ops generalizing s with
  | nil => exact implies s holds
  | cons op ops ih => exact ⟨implies s holds.1, ih holds.2⟩

end Machine
end Xtreme.Library
