import Mathlib.Data.Nat.Notation

/-! Trees as they are listed: the entries of one place one after the other, each a leaf or
with entries of its own below it. A visit goes through them in the order of a depth-first
walk, and `Shown` says that the entries of every place are what some reader of places finds. -/
namespace Xtreme.Library

inductive Forest (α : Type)
  | nil
  | leaf (entry : α) (rest : Forest α)
  | node (entry : α) (below rest : Forest α)

namespace Forest
variable {α κ : Type}

def entries : Forest α → List α
  | nil => []
  | leaf entry rest => entry :: rest.entries
  | node entry _ rest => entry :: rest.entries

/-- All entries with the places that they are at, each in front of what is below it;
`enters` says where not to go. -/
def visits (enters : κ → α → Bool) (place : κ → α → κ) (here : κ) : Forest α → List (κ × α)
  | nil => []
  | leaf entry rest => (here, entry) :: rest.visits enters place here
  | node entry below rest =>
    (here, entry) :: ((if enters here entry then below.visits enters place (place here entry) else []) ++
      rest.visits enters place here)

def BelowAll (list : List α → Prop) (leaf' node' : α → Prop) : Forest α → Prop
  | nil => True
  | leaf entry rest => leaf' entry ∧ rest.BelowAll list leaf' node'
  | node entry below rest =>
    node' entry ∧ list below.entries ∧ below.BelowAll list leaf' node' ∧ rest.BelowAll list leaf' node'

/-- What holds of the list of entries of every place, also of the first one. -/
structure All (list : List α → Prop) (leaf' node' : α → Prop) (forest : Forest α) : Prop where
  top : list forest.entries
  below : forest.BelowAll list leaf' node'

def BelowShown (read : κ → Option (List α)) (place : κ → α → κ) (here : κ) : Forest α → Prop
  | nil => True
  | leaf _ rest => rest.BelowShown read place here
  | node entry below rest =>
    read (place here entry) = some below.entries ∧ below.BelowShown read place (place here entry) ∧
      rest.BelowShown read place here

structure Shown (read : κ → Option (List α)) (place : κ → α → κ) (here : κ) (forest : Forest α) : Prop where
  top : read here = some forest.entries
  below : forest.BelowShown read place here

end Forest
end Xtreme.Library
