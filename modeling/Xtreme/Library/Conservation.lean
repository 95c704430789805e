import Mathlib.Algebra.Group.Basic
import Xtreme.Library.Simulation

/-! Laws of conservation for machines: what a step gives out and what is held behind it make
up what was held before it and what the step brings in. So it is for a whole run. -/
namespace Xtreme.Library.Machine
variable {σ ι ω α M : Type*} [AddCommMonoid M]

/-- What the steps of a run come to. -/
def runSum (m : Machine σ ι ω) (amount : σ → ι → M) : σ → List ι → M
  | _, [] => 0
  | s, op :: ops => amount s op + runSum m amount (m s op).2 ops

variable {m : Machine σ ι ω} {guard : σ → ι → Prop}

theorem runSum_zero (m : Machine σ ι ω) (s : σ) (ops : List ι) : runSum m (fun _ _ => (0 : M)) s ops = 0 := by
  induction ops generalizing s with
  | nil => rfl
  | cons op ops ih => rw [runSum, ih, add_zero]

theorem run_conserves (out into : σ → ι → M) (held : σ → M)
    (step : ∀ s op, guard s op → out s op + held (m s op).2 = held s + into s op) {s : σ} {ops : List ι}
    (meets : RunMeets m guard s ops) :
    runSum m out s ops + held (run m s ops).2 = held s + runSum m into s ops := by
  induction ops generalizing s with
  | nil => exact (zero_add _).trans (add_zero _).symm
  | cons op ops ih =>
    have later := ih meets.2
    calc runSum m out s (op :: ops) + held (run m s (op :: ops)).2
        = out s op + (runSum m out (m s op).2 ops + held (run m (m s op).2 ops).2) := add_assoc _ _ _
      _ = out s op + held (m s op).2 + runSum m into (m s op).2 ops := by rw [later, add_assoc]
      _ = held s + runSum m into s (op :: ops) := by rw [step s op meets.1, add_assoc]; rfl

theorem runMeets_of_forall (meets : ∀ s op, guard s op) (s : σ) (ops : List ι) : RunMeets m guard s ops := by
  induction ops generalizing s with
  | nil => trivial
  | cons op ops ih => exact ⟨meets s op, ih _⟩

theorem measure_run (m : Machine σ ι (List α)) (measure : List α → M) (nil : measure [] = 0)
    (append : ∀ first second, measure (first ++ second) = measure first + measure second) (s : σ) (ops : List ι) :
    measure (run m s ops).1.flatten = runSum m (fun s op => measure (m s op).1) s ops := by
  induction ops generalizing s with
  | nil => exact nil
  | cons op ops ih =>
    have split : (run m s (op :: ops)).1.flatten = (m s op).1 ++ (run m (m s op).2 ops).1.flatten := rfl
    rw [split, append, ih]
    rfl

end Xtreme.Library.Machine
