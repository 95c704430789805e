import Mathlib.Data.List.Infix

/-! Coders that take a stream in pieces (`sink`) and give another one in pieces (`poll`), as
compression libraries have them. `Streams` says what such a coder is known to do: after some
items it has `ready` of them, and `total` once it was told that they are all. How much is
taken at once, and what a poll answers that is asked for just what is there, is left open.
`plainCoder` is a coder for any two such functions. -/
namespace Xtreme.Library

inductive SinkRes
  | ok
  | full
  | error
  deriving DecidableEq, Repr

inductive PollRes
  | empty
  | more
  | error
  deriving DecidableEq, Repr

inductive FinishRes
  | done
  | more
  | error
  deriving DecidableEq, Repr

structure Coder (σ α : Type) where
  reset : σ → σ
  /-- Of the items that are offered, how many are taken. -/
  sink : σ → List α → SinkRes × Nat × σ
  /-- What is given where there is room for so many items. -/
  poll : σ → Nat → PollRes × List α × σ
  finish : σ → FinishRes × σ

/-- What a coder has taken and given so far, whether it was told that this is all, and
whether nothing is left to give. -/
structure Progress (α : Type) where
  taken : List α
  given : List α
  finishing : Bool
  drained : Bool

/-- The functions of a coder: with more items there is only more to give. -/
structure Streamable {α : Type} (ready total : List α → List α) : Prop where
  nil : ready [] = []
  grows : ∀ taken more, ready taken <+: ready (taken ++ more)
  behind : ∀ taken, ready taken <+: total taken

/-- What can be had of some items. -/
def Progress.source {α : Type} (ready total : List α → List α) (progress : Progress α) : List α :=
  if progress.finishing then total progress.taken else ready progress.taken

structure Streams {σ α : Type} (coder : Coder σ α) (ready total : List α → List α)
    (stands : σ → Progress α → Prop) : Prop where
  reset : ∀ state, stands (coder.reset state) ⟨[], [], false, true⟩
  within : ∀ {state progress}, stands state progress → progress.given <+: progress.source ready total
  sink : ∀ {state taken given offered}, stands state ⟨taken, given, false, true⟩ → offered ≠ [] →
    ∃ count next, coder.sink state offered = (.ok, count, next) ∧ 0 < count ∧ count ≤ offered.length ∧
      stands next ⟨taken ++ offered.take count, given, false, false⟩
  poll : ∀ {state progress room rest}, stands state progress → 0 < room →
    progress.given ++ rest = progress.source ready total →
    (rest.length ≤ room ∧ ∃ next, coder.poll state room = (.empty, rest, next) ∧
      stands next { progress with given := progress.given ++ rest, drained := true }) ∨
    (room ≤ rest.length ∧ ∃ next, coder.poll state room = (.more, rest.take room, next) ∧
      stands next { progress with given := progress.given ++ rest.take room, drained := false })
  /-- A poll without room is a misuse. -/
  misuse : ∀ {state progress}, stands state progress → coder.poll state 0 = (.error, [], state)
  finish : ∀ {state progress}, stands state progress →
    ∃ answer drained next, coder.finish state = (answer, next) ∧ answer ≠ .error ∧
      (answer = .done → progress.given = total progress.taken) ∧
      (progress.drained = true → progress.given = total progress.taken → answer = .done ∧ drained = true) ∧
      stands next { progress with finishing := true, drained }

/-- A poll answers that there is more only where there is. -/
def Strict {σ α : Type} (coder : Coder σ α) (total : List α → List α) (stands : σ → Progress α → Prop) : Prop :=
  ∀ {state progress room written next}, stands state progress → coder.poll state room = (.more, written, next) →
    progress.given ++ written ≠ total progress.taken

section
variable {α : Type} [DecidableEq α] {ready total : List α → List α}

/-- All that is offered is taken, and what is there is given. -/
def plainCoder (ready total : List α → List α) : Coder (Progress α) α where
  reset _ := ⟨[], [], false, true⟩
  sink progress offered :=
    (.ok, offered.length, { progress with taken := progress.taken ++ offered, drained := false })
  poll progress room :=
    let rest := (progress.source ready total).drop progress.given.length
    if room = 0 then (.error, [], progress)
    else if rest.length ≤ room then
      (.empty, rest, { progress with given := progress.given ++ rest, drained := true })
    else (.more, rest.take room, { progress with given := progress.given ++ rest.take room, drained := false })
  finish progress :=
    (if progress.given = total progress.taken then .done else .more,
      { progress with finishing := true, drained := progress.given = total progress.taken })

def Plainly (ready total : List α → List α) (state progress : Progress α) : Prop :=
  state = progress ∧ progress.given <+: progress.source ready total

omit [DecidableEq α] in
theorem drop_of_append {given rest source : List α} (parts : given ++ rest = source) :
    source.drop given.length = rest := by
  rw [← parts, List.drop_left]

theorem plainCoder_streams (streamable : Streamable ready total) :
    Streams (plainCoder ready total) ready total (Plainly ready total) := by
  constructor
  · intro state
    exact ⟨rfl, List.nil_prefix⟩
  · intro state progress stands
    exact stands.2
  · rintro state taken given offered ⟨rfl, within⟩ filled
    refine ⟨offered.length, _, rfl, List.length_pos_iff.mpr filled, Nat.le_refl _, ?_, ?_⟩
    · rw [List.take_length]
    · rw [List.take_length]
      exact within.trans (streamable.grows taken offered)
  · rintro state progress room rest ⟨rfl, within⟩ positive parts
    have left := drop_of_append parts
    by_cases fits : rest.length ≤ room
    · refine .inl ⟨fits, _, ?_, rfl, ?_⟩
      · rw [plainCoder]
        dsimp only
        rw [left, if_neg (Nat.ne_of_gt positive), if_pos fits]
      · exact ⟨[], (List.append_nil _).trans parts⟩
    · refine .inr ⟨Nat.le_of_not_le fits, _, ?_, rfl, ?_⟩
      · rw [plainCoder]
        dsimp only
        rw [left, if_neg (Nat.ne_of_gt positive), if_neg fits]
      · have more : state.given ++ rest.take room <+: state.given ++ rest :=
          (List.prefix_append_right_inj _).mpr (List.take_prefix room rest)
        rw [parts] at more
        exact more
  · rintro state progress ⟨rfl, -⟩
    rfl
  · rintro state progress ⟨rfl, within⟩
    by_cases all : state.given = total state.taken
    · refine ⟨.done, true, { state with finishing := true, drained := true }, ?_, (fun same => by cases same),
        fun _ => all, fun _ _ => ⟨rfl, rfl⟩, rfl, ⟨[], (List.append_nil _).trans all⟩⟩
      rw [plainCoder]
      dsimp only
      rw [if_pos all, decide_eq_true all]
    · refine ⟨.more, false, { state with finishing := true, drained := false }, ?_, (fun same => by cases same),
        (fun same => by cases same), fun _ same => absurd same all, rfl, ?_⟩
      · rw [plainCoder]
        dsimp only
        rw [if_neg all, decide_eq_false all]
      · rw [Progress.source] at within
        split at within
        · exact within
        · exact within.trans (streamable.behind _)

theorem plainCoder_strict (streamable : Streamable ready total) :
    Strict (plainCoder ready total) total (Plainly ready total) := by
  rintro state progress room written next ⟨rfl, within⟩ polled all
  obtain ⟨rest, parts⟩ := within
  have left := drop_of_append parts
  rw [plainCoder] at polled
  dsimp only at polled
  rw [left] at polled
  split at polled
  · cases polled
  · split at polled
    · cases polled
    · obtain ⟨-, same⟩ := Prod.mk.inj polled
      obtain ⟨rfl, -⟩ := Prod.mk.inj same
      have shorter := congrArg List.length all
      have whole : (state.given ++ rest).length ≤ (total state.taken).length := by
        rw [parts, Progress.source]
        split
        · exact Nat.le_refl _
        · exact (streamable.behind _).length_le
      rw [List.length_append, List.length_take] at shorter
      rw [List.length_append] at whole
      omega

end
end Xtreme.Library
