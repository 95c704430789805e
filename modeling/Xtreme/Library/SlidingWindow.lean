import Mathlib.Tactic.ByContra

/-! A reader that looks for frames in a stream of bits. It has no mark of where
a frame starts: every bit moves its register up by one place, and it looks at
the register after each. A window it accepts it takes apart in place, so that
the register holds something else than the stream's last bits until enough of
them have come in.

`Synchronised` collects what a format has to show about single windows, those
seen from the start and those seen from behind an accepted one. From it,
`run_reports` says what every run reports. -/
namespace Xtreme.Library

/-- A register as it shows after `count` bits of a stream: what is left of its
old content, then the stream. -/
def slid (old stream : Nat → Bool) (size count place : Nat) : Bool :=
  if place + count < size then old (place + count) else stream (place + count - size)

/-- A register after one more bit. -/
def pushed (window : Nat → Bool) (size : Nat) (bit : Bool) (place : Nat) : Bool :=
  if place + 1 < size then window (place + 1) else bit

theorem slid_late (old stream : Nat → Bool) {size count : Nat} (late : size ≤ count) (place : Nat) :
    slid old stream size count place = stream (place + count - size) :=
  if_neg (by omega)

theorem pushed_slid {window old stream : Nat → Bool} {size count : Nat}
    (same : ∀ place < size, window place = slid old stream size count place) {place : Nat}
    (inside : place < size) :
    pushed window size (stream count) place = slid old stream size (count + 1) place := by
  unfold pushed
  by_cases inner : place + 1 < size
  · rw [if_pos inner, same _ inner, slid, slid, show place + 1 + count = place + (count + 1) by omega]
  · rw [if_neg inner, slid, if_neg (by omega)]
    congr 1
    omega

/-- What a reader of frames of `size` bits does with a bit: it answers whether
the new window is accepted, and keeps the window or what `leaves` makes of it. -/
structure WindowReader (σ : Type*) (size : Nat) where
  register : σ → Nat → Bool
  feed : σ → Bool → Bool × σ
  Accepts : (Nat → Bool) → Prop
  leaves : (Nat → Bool) → Nat → Bool
  accepts_congr : ∀ {first second : Nat → Bool}, (∀ place < size, first place = second place) →
    Accepts first → Accepts second
  leaves_congr : ∀ {first second : Nat → Bool}, (∀ place < size, first place = second place) →
    ∀ place < size, leaves first place = leaves second place
  feed_reports : ∀ state bit, (feed state bit).1 = true ↔ Accepts (pushed (register state) size bit)
  feed_rejected : ∀ state bit, (feed state bit).1 = false → ∀ place < size,
    register (feed state bit).2 place = pushed (register state) size bit place
  feed_accepted : ∀ state bit, (feed state bit).1 = true → ∀ place < size,
    register (feed state bit).2 place = leaves (pushed (register state) size bit) place

namespace WindowReader
variable {σ : Type*} {size : Nat} (reader : WindowReader σ size)

def run (state : σ) (stream : Nat → Bool) : Nat → σ
  | 0 => state
  | count + 1 => (reader.feed (run state stream count) (stream count)).2

/-- The answer to bit `count` of the stream. -/
def reports (state : σ) (stream : Nat → Bool) (count : Nat) : Bool :=
  (reader.feed (reader.run state stream count) (stream count)).1

/-- The window the reader sees when bit `count` has come in. -/
def window (state : σ) (stream : Nat → Bool) (count : Nat) : Nat → Bool :=
  pushed (reader.register (reader.run state stream count)) size (stream count)

/-- What makes a reader keep in step with a stream: from the start, and again
from behind each accepted window, it accepts at `Good` places of the stream
only, and what it sees there is always the same frame. -/
structure Synchronised (cleared stream : Nat → Bool) (frame : Nat → Bool) (Good : Nat → Prop) : Prop where
  first : ∀ count, reader.Accepts (slid cleared stream size (count + 1)) →
    Good (count + 1) ∧ ∀ place < size, slid cleared stream size (count + 1) place = frame place
  next : ∀ start, Good start → ∀ count,
    reader.Accepts (slid (reader.leaves frame) (fun i => stream (start + i)) size (count + 1)) →
    Good (start + (count + 1)) ∧ ∀ place < size,
      slid (reader.leaves frame) (fun i => stream (start + i)) size (count + 1) place = frame place

variable {reader} {cleared stream frame : Nat → Bool} {Good : Nat → Prop} {state : σ}

/-- What a register can show: the stream since the start, or since the last
accepted window over what that one left behind. -/
def Shows (reader : WindowReader σ size) (cleared stream frame : Nat → Bool) (Good : Nat → Prop)
    (count : Nat) (window : Nat → Bool) : Prop :=
  (∀ place < size, window place = slid cleared stream size count place) ∨
    ∃ start since, count = start + since ∧ Good start ∧ ∀ place < size,
      window place = slid (reader.leaves frame) (fun i => stream (start + i)) size since place

theorem Shows.push {window : Nat → Bool} {count : Nat}
    (shows : reader.Shows cleared stream frame Good count window) :
    reader.Shows cleared stream frame Good (count + 1) (pushed window size (stream count)) := by
  rcases shows with same | ⟨start, since, rfl, good, same⟩
  · exact .inl fun place inside => pushed_slid same inside
  · exact .inr ⟨start, since + 1, rfl, good, fun place inside => pushed_slid same inside⟩

theorem Shows.accepted {window : Nat → Bool} {count : Nat}
    (synchronised : reader.Synchronised cleared stream frame Good)
    (shows : reader.Shows cleared stream frame Good count window)
    (accepted : reader.Accepts (pushed window size (stream count))) :
    Good (count + 1) ∧ ∀ place < size, pushed window size (stream count) place = frame place := by
  rcases shows with same | ⟨start, since, rfl, good, same⟩
  · have moved (place : Nat) (inside : place < size) := @pushed_slid window cleared stream size count same
      place inside
    obtain ⟨good, whole⟩ := synchronised.first count (reader.accepts_congr moved accepted)
    exact ⟨good, fun place inside => (moved place inside).trans (whole place inside)⟩
  · have moved (place : Nat) (inside : place < size) := @pushed_slid window (reader.leaves frame)
      (fun i => stream (start + i)) size since same place inside
    obtain ⟨good', whole⟩ := synchronised.next start good since (reader.accepts_congr moved accepted)
    exact ⟨good', fun place inside => (moved place inside).trans (whole place inside)⟩

theorem run_shows (synchronised : reader.Synchronised cleared stream frame Good)
    (starts : ∀ place < size, reader.register state place = cleared place) (count : Nat) :
    reader.Shows cleared stream frame Good count (reader.register (reader.run state stream count)) := by
  induction count with
  | zero =>
    refine .inl fun place inside => ?_
    rw [run, starts place inside, slid, if_pos (by omega), Nat.add_zero]
  | succ count ih =>
    rw [run]
    cases answer : (reader.feed (reader.run state stream count) (stream count)).1 with
    | false =>
      have kept := reader.feed_rejected _ _ answer
      rcases ih.push with same | ⟨start, since, whole, good, same⟩
      · exact .inl fun place inside => (kept place inside).trans (same place inside)
      · exact .inr ⟨start, since, whole, good, fun place inside =>
          (kept place inside).trans (same place inside)⟩
    | true =>
      obtain ⟨good, whole⟩ := ih.accepted synchronised ((reader.feed_reports _ _).mp answer)
      refine .inr ⟨count + 1, 0, rfl, good, fun place inside => ?_⟩
      rw [reader.feed_accepted _ _ answer place inside, reader.leaves_congr whole place inside, slid,
        if_pos (by omega), Nat.add_zero]

/-- **Every report is of a frame.** -/
theorem run_reports (synchronised : reader.Synchronised cleared stream frame Good)
    (starts : ∀ place < size, reader.register state place = cleared place) {count : Nat}
    (reported : reader.reports state stream count = true) :
    Good (count + 1) ∧ ∀ place < size, reader.window state stream count place = frame place :=
  (run_shows synchronised starts count).accepted synchronised ((reader.feed_reports _ _).mp reported)

/-- A window that would be accepted in an untouched register is reported,
unless an earlier one was. -/
theorem reports_by (starts : ∀ place < size, reader.register state place = cleared place) {count : Nat}
    (accepted : reader.Accepts (slid cleared stream size (count + 1))) :
    ∃ early, early ≤ count ∧ reader.reports state stream early = true := by
  by_contra silent
  simp only [not_exists, not_and, Bool.not_eq_true] at silent
  have untouched : ∀ early ≤ count, ∀ place < size,
      reader.register (reader.run state stream early) place = slid cleared stream size early place := by
    intro early
    induction early with
    | zero =>
      intro _ place inside
      rw [run, starts place inside, slid, if_pos (by omega), Nat.add_zero]
    | succ early ih =>
      intro before place inside
      rw [run, reader.feed_rejected _ _ (silent early (by omega)) place inside]
      exact pushed_slid (ih (by omega)) inside
  have reported := (reader.feed_reports (reader.run state stream count) (stream count)).mpr
    (reader.accepts_congr (fun _ inside => (pushed_slid (untouched count (Nat.le_refl _)) inside).symm) accepted)
  have unreported := silent count (Nat.le_refl _)
  rw [reports, reported] at unreported
  exact Bool.noConfusion unreported

end WindowReader
end Xtreme.Library
