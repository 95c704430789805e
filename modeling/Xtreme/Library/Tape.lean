import Mathlib.Data.List.Basic

/-! A tape is a finite text with a cursor in it. It says what any byte stream
is for, with nothing of how the stream keeps its bytes. -/
namespace Xtreme.Library

/-- A text cut in two by the cursor. -/
structure Tape (α : Type*) where
  before : List α
  after : List α
  deriving DecidableEq, Repr

namespace Tape
variable {α : Type*} (t : Tape α)

/-- The whole text, the cursor forgotten. -/
def text : List α := t.before ++ t.after

@[simp] theorem text_mk (before after : List α) : text ⟨before, after⟩ = before ++ after := rfl

end Tape
end Xtreme.Library
