import Mathlib.Init

/-! Programs that change a state and may stop with a fault. The state is kept
when a program faults: it is what memory holds at that moment.

`Preserves` is the judgement for an invariant of the state, `Ensures` that for what
the answers have in common, and `Yields` that for the answer of one run. `AgreeAt` compares two programs in two states, for
properties of two runs; `Relates` is the judgement for it, and `Local` the one
for a program that notes in a log what it depends on. `Reaches` is the
run of a machine that takes one input after the other, each under a guard, and
`reaches_preserves` and `reaches_related` are its induction rules. -/
namespace Xtreme.Library

def Effect (ε σ α : Type) : Type := σ → Except ε α × σ

namespace Effect
variable {ε σ α β ι : Type}

instance : Monad (Effect ε σ) where
  pure answer := fun state => (.ok answer, state)
  bind program next := fun state =>
    match program state with
    | (.ok answer, after) => next answer after
    | (.error error, after) => (.error error, after)

def fault (error : ε) : Effect ε σ α := fun state => (.error error, state)

def observe (view : σ → α) : Effect ε σ α := fun state => (.ok (view state), state)

def update (change : σ → σ) : Effect ε σ Unit := fun state => (.ok (), change state)

/-- The answer of a program, or nothing where it faults: the caller goes on. -/
def tried {ε' : Type} (program : Effect ε' σ α) : Effect ε σ (Option α) := fun state =>
  match program state with
  | (.ok answer, after) => (.ok (some answer), after)
  | (.error _, after) => (.ok none, after)

@[simp] theorem pure_run (answer : α) (state : σ) :
    (pure answer : Effect ε σ α) state = (.ok answer, state) := rfl

@[simp] theorem fault_run (error : ε) (state : σ) :
    (fault error : Effect ε σ α) state = (.error error, state) := rfl

@[simp] theorem observe_run (view : σ → α) (state : σ) :
    (observe view : Effect ε σ α) state = (.ok (view state), state) := rfl

@[simp] theorem update_run (change : σ → σ) (state : σ) :
    (update change : Effect ε σ Unit) state = (.ok (), change state) := rfl

theorem bind_run (program : Effect ε σ α) (next : α → Effect ε σ β) (state : σ) : (program >>= next) state =
      match program state with
      | (.ok answer, after) => next answer after
      | (.error error, after) => (.error error, after) := rfl

theorem bind_of_ok {program : Effect ε σ α} {next : α → Effect ε σ β} {state after : σ} {answer : α}
    (ran : program state = (.ok answer, after)) : (program >>= next) state = next answer after := by
  rw [bind_run, ran]

@[simp] theorem observe_bind (view : σ → α) (next : α → Effect ε σ β) (state : σ) :
    (observe view >>= next) state = next (view state) state := rfl

@[simp] theorem update_bind (change : σ → σ) (next : Unit → Effect ε σ β) (state : σ) :
    (update change >>= next) state = next () (change state) := rfl

@[simp] theorem pure_bind_run (answer : α) (next : α → Effect ε σ β) (state : σ) :
    (pure answer >>= next) state = next answer state := rfl

@[simp] theorem fault_bind (error : ε) (next : α → Effect ε σ β) (state : σ) :
    (fault error >>= next) state = (.error error, state) := rfl

theorem bind_assoc {γ : Type} (program : Effect ε σ α) (next : α → Effect ε σ β) (last : β → Effect ε σ γ) :
    program >>= next >>= last = program >>= fun answer => next answer >>= last := by
  funext state
  simp only [bind_run]
  rcases program state with ⟨outcome, after⟩
  cases outcome <;> rfl

theorem bind_pure (program : Effect ε σ α) : program >>= Pure.pure = program := by
  funext state
  rw [bind_run]
  rcases program state with ⟨outcome, after⟩
  cases outcome <;> rfl

/-- Not an instance: `simp` would write programs differently with it. -/
theorem lawful : LawfulMonad (Effect ε σ) := LawfulMonad.mk' (Effect ε σ) bind_pure (fun _ _ => rfl) bind_assoc

theorem bind_ok {program : Effect ε σ α} {next : α → Effect ε σ β} {state : σ} {answer : β}
    (ran : ((program >>= next) state).1 = .ok answer) :
    ∃ first after, program state = (.ok first, after) ∧ (next first after).1 = .ok answer := by
  rw [bind_run] at ran
  rcases started : program state with ⟨outcome, after⟩
  rw [started] at ran
  cases outcome with
  | ok first => exact ⟨first, after, rfl, ran⟩
  | error error => cases ran

theorem foldlM_ok {holds : β → Prop} {round : β → α → Effect ε σ β}
    (kept : ∀ value item state answer, holds value → (round value item state).1 = .ok answer → holds answer)
    {items : List α} {value answer : β} {state : σ} (initially : holds value)
    (ran : (items.foldlM round value state).1 = .ok answer) : holds answer := by
  induction items generalizing value state with
  | nil =>
    cases ran
    exact initially
  | cons item rest next =>
    obtain ⟨first, after, done, left⟩ := bind_ok ran
    exact next (kept value item state first initially (congrArg Prod.fst done)) left

theorem pure_bind (answer : α) (next : α → Effect ε σ β) : pure answer >>= next = next answer := rfl

/-- `program` stays in `holds`, and its faults are among `allowed`. -/
def Preserves (holds : σ → Prop) (allowed : ε → Prop) (program : Effect ε σ α) : Prop :=
  ∀ state, holds state → holds (program state).2 ∧ ∀ error, (program state).1 = .error error → allowed error

namespace Preserves
variable {holds : σ → Prop} {allowed : ε → Prop}

theorem pure (answer : α) : Preserves holds allowed (Pure.pure answer : Effect ε σ α) :=
  fun _ start => ⟨start, fun _ failed => nomatch failed⟩

theorem fault {error : ε} (allows : allowed error) :
    Preserves holds allowed (Effect.fault error : Effect ε σ α) := by
  refine fun _ start => ⟨start, ?_⟩
  rintro _ ⟨⟩
  exact allows

theorem observe (view : σ → α) : Preserves holds allowed (Effect.observe view : Effect ε σ α) :=
  fun _ start => ⟨start, fun _ failed => nomatch failed⟩

theorem update {change : σ → σ} (kept : ∀ state, holds state → holds (change state)) :
    Preserves holds allowed (Effect.update change : Effect ε σ Unit) :=
  fun state start => ⟨kept state start, fun _ failed => nomatch failed⟩

variable {next : α → Effect ε σ β}

theorem bind {program : Effect ε σ α}
    (first : Preserves holds allowed program) (second : ∀ answer, Preserves holds allowed (next answer)) :
    Preserves holds allowed (program >>= next) := by
  intro state start
  have ends := first state start
  rw [bind_run]
  rcases ran : program state with ⟨outcome, after⟩
  rw [ran] at ends
  cases outcome with
  | ok answer => exact second answer after ends.1
  | error error => exact ⟨ends.1, fun _ failed => by cases failed; exact ends.2 error rfl⟩

/-- A first program whose answers are known to satisfy `answers`, in the states
that it is run in. -/
theorem bind_answers {program : Effect ε σ α} (answers : α → Prop) (first : Preserves holds allowed program)
    (known : ∀ state answer, holds state → (program state).1 = .ok answer → answers answer)
    (second : ∀ answer, answers answer → Preserves holds allowed (next answer)) :
    Preserves holds allowed (program >>= next) := by
  intro state start
  have ends := first state start
  have answered := fun answer => known state answer start
  rw [bind_run]
  rcases ran : program state with ⟨outcome, after⟩
  rw [ran] at ends answered
  cases outcome with
  | ok answer => exact second answer (answered answer rfl) after ends.1
  | error error => exact ⟨ends.1, fun _ failed => by cases failed; exact ends.2 error rfl⟩

theorem observe_bind {view : σ → α} (continues : ∀ state, holds state → Preserves holds allowed (next (view state))) :
    Preserves holds allowed (Effect.observe view >>= next) :=
  fun state start => continues state start state start

theorem bind_of_run {program : Effect ε σ α}
    (ran : ∀ state, holds state → ∃ answer after, program state = (.ok answer, after) ∧ holds after ∧
      Preserves holds allowed (next answer)) : Preserves holds allowed (program >>= next) := by
  intro state start
  obtain ⟨answer, after, run, kept, continues⟩ := ran state start
  rw [bind_of_ok run]
  exact continues after kept

theorem forM {program : β → Effect ε σ Unit} {items : List β}
    (each : ∀ item ∈ items, Preserves holds allowed (program item)) :
    Preserves holds allowed (items.forM program) := by
  induction items with
  | nil => exact pure ()
  | cons item rest next =>
    exact bind (each item List.mem_cons_self) fun _ => next fun other member => each other (List.mem_cons_of_mem _ member)

theorem ite {condition : Prop} [Decidable condition] {yes no : Effect ε σ α}
    (whenTrue : condition → Preserves holds allowed yes)
    (whenFalse : ¬ condition → Preserves holds allowed no) :
    Preserves holds allowed (if condition then yes else no) := by
  by_cases decided : condition
  · rw [if_pos decided]
    exact whenTrue decided
  · rw [if_neg decided]
    exact whenFalse decided

end Preserves

/-- From `holds` on, an answer satisfies `post` and leaves a state in `holds`. -/
def Ensures (holds : σ → Prop) (post : α → Prop) (program : Effect ε σ α) : Prop :=
  ∀ state answer, holds state → (program state).1 = .ok answer → holds (program state).2 ∧ post answer

namespace Ensures
variable {holds : σ → Prop} {post : α → Prop}

theorem pure {answer : α} (told : post answer) : Ensures holds post (Pure.pure answer : Effect ε σ α) := by
  rintro state _ start ⟨⟩
  exact ⟨start, told⟩

theorem fault (error : ε) : Ensures holds post (Effect.fault error : Effect ε σ α) :=
  fun _ _ _ ran => nomatch ran

theorem update {change : σ → σ} {post : Unit → Prop} (kept : ∀ state, holds state → holds (change state))
    (told : post ()) : Ensures holds post (Effect.update change : Effect ε σ Unit) :=
  fun state _ start _ => ⟨kept state start, told⟩

theorem mono {program : Effect ε σ α} {weaker : α → Prop} (ensures : Ensures holds post program)
    (weakens : ∀ answer, post answer → weaker answer) : Ensures holds weaker program :=
  fun state answer start ran =>
    ⟨(ensures state answer start ran).1, weakens answer (ensures state answer start ran).2⟩

theorem bind {first : α → Prop} {post : β → Prop} {program : Effect ε σ α} {next : α → Effect ε σ β}
    (starts : Ensures holds first program) (continues : ∀ answer, first answer → Ensures holds post (next answer)) :
    Ensures holds post (program >>= next) := by
  intro state answer start ran
  obtain ⟨middle, after, done, left⟩ := bind_ok ran
  obtain ⟨kept, known⟩ := starts state middle start (congrArg Prod.fst done)
  rw [bind_of_ok done]
  rw [done] at kept
  exact continues middle known after answer kept left

theorem observe_bind {view : σ → β} {next : β → Effect ε σ α}
    (continues : ∀ state, holds state → Ensures holds post (next (view state))) :
    Ensures holds post (Effect.observe view >>= next) :=
  fun state answer start ran => continues state start state answer start ran

theorem ite {condition : Prop} [Decidable condition] {yes no : Effect ε σ α}
    (whenTrue : condition → Ensures holds post yes) (whenFalse : ¬ condition → Ensures holds post no) :
    Ensures holds post (if condition then yes else no) := by
  by_cases decided : condition
  · rw [if_pos decided]
    exact whenTrue decided
  · rw [if_neg decided]
    exact whenFalse decided

end Ensures

/-- `program` answers in `state`, and `post` holds of the answer and of the state
it leaves. -/
def Yields (program : Effect ε σ α) (post : α → σ → Prop) (state : σ) : Prop :=
  match program state with
  | (.ok answer, after) => post answer after
  | (.error _, _) => False

namespace Yields
variable {post : α → σ → Prop} {state : σ} {program : Effect ε σ α}

theorem iff_of_ok {answer : α} {after : σ} (ran : program state = (.ok answer, after)) :
    Yields program post state ↔ post answer after := by
  rw [Yields, ran]

theorem of_ok {answer : α} (ran : (program state).1 = .ok answer) :
    Yields program (fun given after => given = answer ∧ program state = (.ok answer, after)) state := by
  unfold Yields
  rcases run : program state with ⟨outcome, after⟩
  rw [run] at ran
  cases ran
  exact ⟨rfl, rfl⟩

@[simp] theorem pure_iff (answer : α) :
    Yields (Pure.pure answer : Effect ε σ α) post state ↔ post answer state := Iff.rfl

@[simp] theorem fault_iff (error : ε) : Yields (Effect.fault error : Effect ε σ α) post state ↔ False := Iff.rfl

@[simp] theorem observe_iff (view : σ → α) :
    Yields (Effect.observe view : Effect ε σ α) post state ↔ post (view state) state := Iff.rfl

@[simp] theorem update_iff {post : Unit → σ → Prop} (change : σ → σ) :
    Yields (Effect.update change : Effect ε σ Unit) post state ↔ post () (change state) := Iff.rfl

@[simp] theorem bind_iff {post : β → σ → Prop} (program : Effect ε σ α) (next : α → Effect ε σ β) :
    Yields (program >>= next) post state ↔ Yields program (fun answer => Yields (next answer) post) state := by
  unfold Yields
  rw [bind_run]
  rcases program state with ⟨outcome, after⟩
  cases outcome <;> rfl

@[simp] theorem map_iff {post : β → σ → Prop} (change : α → β) (program : Effect ε σ α) :
    Yields (change <$> program) post state ↔ Yields program (fun answer => post (change answer)) state :=
  bind_iff program fun answer => Pure.pure (change answer)

theorem ite_iff {condition : Prop} [Decidable condition] {yes no : Effect ε σ α} :
    Yields (if condition then yes else no) post state ↔
      if condition then Yields yes post state else Yields no post state := by
  split <;> rfl

theorem mono {weaker : α → σ → Prop} (yields : Yields program post state)
    (weakens : ∀ answer after, post answer after → weaker answer after) : Yields program weaker state := by
  unfold Yields at yields ⊢
  rcases ran : program state with ⟨outcome, after⟩
  rw [ran] at yields
  cases outcome with
  | ok answer => exact weakens answer after yields
  | error error => exact yields

theorem run {answer : α} {after : σ} (yields : Yields program (fun given left => given = answer ∧ left = after) state) :
    program state = (.ok answer, after) := by
  unfold Yields at yields
  rcases ran : program state with ⟨outcome, left⟩
  rw [ran] at yields
  cases outcome with
  | ok given =>
    obtain ⟨rfl, rfl⟩ := yields
    rfl
  | error error => exact yields.elim

theorem iff_of_known {known : α → σ → Prop} {holds : Prop} (yields : Yields program known state)
    (decides : ∀ answer after, known answer after → (post answer after ↔ holds)) :
    Yields program post state ↔ holds := by
  unfold Yields at yields ⊢
  rcases ran : program state with ⟨outcome, after⟩
  rw [ran] at yields
  cases outcome with
  | ok answer => exact decides answer after yields
  | error error => exact yields.elim

theorem bind {next : α → Effect ε σ β} {first : α → σ → Prop} {post : β → σ → Prop} (yields : Yields program first state)
    (continues : ∀ answer after, first answer after → Yields (next answer) post after) :
    Yields (program >>= next) post state :=
  (bind_iff program next).mpr (yields.mono continues)

theorem tried {ε' : Type} {program : Effect ε' σ α} (yields : Yields program post state) :
    Yields (Effect.tried program : Effect ε σ (Option α))
      (fun answer after => ∃ given, answer = some given ∧ post given after) state := by
  unfold Yields Effect.tried at *
  rcases ran : program state with ⟨outcome, after⟩
  rw [ran] at yields
  cases outcome with
  | ok answer => exact ⟨answer, rfl, yields⟩
  | error error => exact yields.elim

theorem tried_answers {ε' : Type} (program : Effect ε' σ α) (state : σ) :
    Yields (Effect.tried program : Effect ε σ (Option α)) (fun _ _ => True) state := by
  unfold Yields Effect.tried
  rcases program state with ⟨outcome, after⟩
  cases outcome <;> exact trivial

instance decidable [∀ answer after, Decidable (post answer after)] (program : Effect ε σ α) :
    Decidable (Yields program post state) :=
  match ran : program state with
  | (.ok answer, after) => decidable_of_iff (post answer after) (iff_of_ok ran).symm
  | (.error _, _) => isFalse fun yields => by rwa [Yields, ran] at yields

theorem congr {post' : α → σ → Prop}
    (same : ∀ answer after, program state = (.ok answer, after) → (post answer after ↔ post' answer after)) :
    Yields program post state ↔ Yields program post' state := by
  unfold Yields
  rcases ran : program state with ⟨outcome, after⟩
  cases outcome with
  | ok answer => exact same answer after ran
  | error error => exact Iff.rfl

end Yields

/-! ## Two runs -/

/-- In two states that `related` relates, the programs answer or fault alike
and end in related states. -/
def AgreeAt {τ : Type} (related : σ → τ → Prop) (left : Effect ε σ α) (right : Effect ε τ α)
    (state : σ) (other : τ) : Prop :=
  (left state).1 = (right other).1 ∧ related (left state).2 (right other).2

/-- The programs agree in all related states. -/
def Relates {τ : Type} (related : σ → τ → Prop) (left : Effect ε σ α) (right : Effect ε τ α) : Prop :=
  ∀ state other, related state other → AgreeAt related left right state other

namespace Relates
variable {τ : Type} {related : σ → τ → Prop}

theorem pure (answer : α) :
    Relates related (Pure.pure answer : Effect ε σ α) (Pure.pure answer : Effect ε τ α) :=
  fun _ _ alike => ⟨rfl, alike⟩

theorem fault (error : ε) :
    Relates related (Effect.fault error : Effect ε σ α) (Effect.fault error : Effect ε τ α) :=
  fun _ _ alike => ⟨rfl, alike⟩

theorem update {change : σ → σ} {change' : τ → τ}
    (kept : ∀ state other, related state other → related (change state) (change' other)) :
    Relates related (Effect.update change : Effect ε σ Unit) (Effect.update change') :=
  fun state other alike => ⟨rfl, kept state other alike⟩

/-- The two programs may see different things, as long as they go on alike. -/
theorem observe_bind {β' : Type} {view : σ → β} {view' : τ → β'} {next : β → Effect ε σ α}
    {next' : β' → Effect ε τ α}
    (continues : ∀ state other, related state other → Relates related (next (view state)) (next' (view' other))) :
    Relates related (Effect.observe view >>= next) (Effect.observe view' >>= next') :=
  fun state other alike => continues state other alike state other alike

theorem bind_answers {program : Effect ε σ α} {program' : Effect ε τ α} {next : α → Effect ε σ β}
    {next' : α → Effect ε τ β} (answers : α → Prop) (first : Relates related program program')
    (known : ∀ state other answer, related state other → (program state).1 = .ok answer → answers answer)
    (second : ∀ answer, answers answer → Relates related (next answer) (next' answer)) :
    Relates related (program >>= next) (program' >>= next') := by
  intro state other alike
  have agreed := first state other alike
  have answered := fun answer => known state other answer alike
  unfold AgreeAt at agreed ⊢
  rw [bind_run, bind_run]
  rcases ran : program state with ⟨outcome, after⟩
  rcases ran' : program' other with ⟨outcome', after'⟩
  rw [ran, ran'] at agreed
  rw [ran] at answered
  obtain ⟨same, still⟩ := agreed
  cases same
  cases outcome with
  | ok answer => exact second answer (answered answer rfl) after after' still
  | error error => exact ⟨rfl, still⟩

theorem bind {program : Effect ε σ α} {program' : Effect ε τ α} {next : α → Effect ε σ β}
    {next' : α → Effect ε τ β} (first : Relates related program program')
    (second : ∀ answer, Relates related (next answer) (next' answer)) :
    Relates related (program >>= next) (program' >>= next') :=
  bind_answers (fun _ => True) first (fun _ _ _ _ _ => trivial) fun answer _ => second answer

theorem forM {program : β → Effect ε σ Unit} {program' : β → Effect ε τ Unit} {items : List β}
    (each : ∀ item ∈ items, Relates related (program item) (program' item)) :
    Relates related (items.forM program) (items.forM program') := by
  induction items with
  | nil => exact pure ()
  | cons item rest next =>
    exact bind (each item List.mem_cons_self) fun _ =>
      next fun other member => each other (List.mem_cons_of_mem _ member)

/-- The two programs may test different conditions, as long as these come out alike. -/
theorem ite_of_iff {condition condition' : Prop} [Decidable condition] [Decidable condition']
    {yes no : Effect ε σ α} {yes' no' : Effect ε τ α} (same : condition ↔ condition')
    (whenTrue : condition → Relates related yes yes') (whenFalse : ¬ condition → Relates related no no') :
    Relates related (if condition then yes else no) (if condition' then yes' else no') := by
  by_cases decided : condition
  · rw [if_pos decided, if_pos (same.mp decided)]
    exact whenTrue decided
  · rw [if_neg decided, if_neg fun other => decided (same.mpr other)]
    exact whenFalse decided

theorem ite {condition : Prop} [Decidable condition] {yes no : Effect ε σ α} {yes' no' : Effect ε τ α}
    (whenTrue : condition → Relates related yes yes') (whenFalse : ¬ condition → Relates related no no') :
    Relates related (if condition then yes else no) (if condition then yes' else no') :=
  ite_of_iff Iff.rfl whenTrue whenFalse

end Relates

/-- `program` only adds to the log that `log` finds in the state, and agrees
with itself in related states if every entry of the log is `harmless`: what it
depends on beyond the relation it logs. -/
structure Local {entry : Type} (log : σ → List entry) (harmless : entry → Prop) (related : σ → σ → Prop)
    (program : Effect ε σ α) : Prop where
  grows : ∀ state, log state <+: log (program state).2
  agrees : ∀ state other, related state other → (∀ logged ∈ log (program state).2, harmless logged) →
    AgreeAt related program program state other

namespace Local
variable {entry : Type} {log : σ → List entry} {harmless : entry → Prop} {related : σ → σ → Prop}

theorem pure (answer : α) : Local log harmless related (Pure.pure answer : Effect ε σ α) :=
  ⟨fun _ => List.prefix_rfl, fun _ _ alike _ => ⟨rfl, alike⟩⟩

theorem fault (error : ε) : Local log harmless related (Effect.fault error : Effect ε σ α) :=
  ⟨fun _ => List.prefix_rfl, fun _ _ alike _ => ⟨rfl, alike⟩⟩

theorem observe {view : σ → α} (same : ∀ state other, related state other → view state = view other) :
    Local log harmless related (Effect.observe view : Effect ε σ α) :=
  ⟨fun _ => List.prefix_rfl, fun state other alike _ => ⟨congrArg Except.ok (same state other alike), alike⟩⟩

theorem update {change : σ → σ} (grows : ∀ state, log state <+: log (change state))
    (kept : ∀ state other, related state other → related (change state) (change other)) :
    Local log harmless related (Effect.update change : Effect ε σ Unit) :=
  ⟨grows, fun state other alike _ => ⟨rfl, kept state other alike⟩⟩

/-- The log of a first part is part of the whole log, so what is harmless of
the whole is harmless of the first part. -/
theorem bind {program : Effect ε σ α} {next : α → Effect ε σ β} (first : Local log harmless related program)
    (second : ∀ answer, Local log harmless related (next answer)) :
    Local log harmless related (program >>= next) := by
  constructor
  · intro state
    have before := first.grows state
    rw [bind_run]
    rcases ran : program state with ⟨outcome, after⟩
    rw [ran] at before
    cases outcome with
    | ok answer => exact before.trans ((second answer).grows after)
    | error error => exact before
  · intro state other alike clean
    have whole := clean
    have agreed := first.agrees state other alike
    unfold AgreeAt at agreed ⊢
    rw [bind_run] at whole ⊢
    rw [bind_run]
    rcases ran : program state with ⟨outcome, after⟩
    rcases ran' : program other with ⟨outcome', after'⟩
    rw [ran, ran'] at agreed
    rw [ran] at whole
    cases outcome with
    | ok answer =>
      have earlier := ((second answer).grows after).subset
      obtain ⟨same, related⟩ := agreed fun logged member => whole logged (earlier member)
      cases same
      exact (second answer).agrees after after' related whole
    | error error =>
      obtain ⟨same, related⟩ := agreed whole
      cases same
      exact ⟨rfl, related⟩

theorem ite {condition : Prop} [Decidable condition] {yes no : Effect ε σ α}
    (whenTrue : condition → Local log harmless related yes)
    (whenFalse : ¬ condition → Local log harmless related no) :
    Local log harmless related (if condition then yes else no) := by
  by_cases decided : condition
  · rw [if_pos decided]
    exact whenTrue decided
  · rw [if_neg decided]
    exact whenFalse decided

end Local

/-- The machine has taken `inputs` one by one, none of them with a fault, and
every one in a state where `guard` admits it. -/
inductive Reaches (step : ι → Effect ε σ α) (guard : ι → σ → Prop) (start : σ) : List ι → σ → Prop
  | start : Reaches step guard start [] start
  | step {inputs : List ι} {state : σ} {input : ι} {answer : α}
      (reached : Reaches step guard start inputs state) (admitted : guard input state)
      (answered : (step input state).1 = .ok answer) :
      Reaches step guard start (inputs ++ [input]) (step input state).2

section
variable {step : ι → Effect ε σ α} {guard : ι → σ → Prop} {start : σ} {inputs : List ι} {state : σ}

/-- An invariant of the admitted steps holds wherever they lead. -/
theorem reaches_preserves {holds : σ → Prop} (run : Reaches step guard start inputs state) (initially : holds start)
    (preserved : ∀ input state, guard input state → holds state → holds (step input state).2) :
    holds state := by
  induction run with
  | start => exact initially
  | step reached admitted answered kept => exact preserved _ _ admitted kept

/-- Runs of two machines from related states keep pace: what the one does on
`inputs` the other does as well. -/
theorem reaches_related {related : σ → σ → Prop} {other : σ}
    (run : Reaches step guard start inputs state) (initially : related start other)
    (agrees : ∀ input state other, guard input state → related state other →
      AgreeAt related (step input) (step input) state other) :
    ∃ state', Reaches step (fun _ _ => True) other inputs state' ∧ related state state' := by
  induction run with
  | start => exact ⟨other, .start, initially⟩
  | step reached admitted answered found =>
    obtain ⟨state', reached', alike⟩ := found
    obtain ⟨same, after⟩ := agrees _ _ _ admitted alike
    exact ⟨_, .step reached' trivial (same ▸ answered), after⟩

end

end Effect
end Xtreme.Library
