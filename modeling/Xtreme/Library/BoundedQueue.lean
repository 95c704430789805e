import Mathlib.Init

/-! A queue of bounded size between a writer and a reader. What its users rely on is given
by what it contains: a writer appends as much as there is room for, and a reader takes
from the front as much as there is. -/
namespace Xtreme.Library

structure BoundedQueue (α : Type) where
  State : Type
  alloc : Nat → State
  send : List α → State → Nat × State
  receive : Nat → State → List α × State
  size : State → Nat
  contents : State → List α
  size_alloc : ∀ count, size (alloc count) = count
  contents_alloc : ∀ count, contents (alloc count) = []
  sent : ∀ items state, (send items state).1 = min items.length (size state - (contents state).length)
  size_send : ∀ items state, size (send items state).2 = size state
  contents_send : ∀ items state,
    contents (send items state).2 = contents state ++ items.take (size state - (contents state).length)
  received : ∀ count state, (receive count state).1 = (contents state).take count
  size_receive : ∀ count state, size (receive count state).2 = size state
  contents_receive : ∀ count state, contents (receive count state).2 = (contents state).drop count

namespace BoundedQueue
variable {α : Type}

def ofList (α : Type) : BoundedQueue α where
  State := Nat × List α
  alloc count := (count, [])
  send items state := (min items.length (state.1 - state.2.length),
    state.1, state.2 ++ items.take (state.1 - state.2.length))
  receive count state := (state.2.take count, state.1, state.2.drop count)
  size := Prod.fst
  contents := Prod.snd
  size_alloc _ := rfl
  contents_alloc _ := rfl
  sent _ _ := rfl
  size_send _ _ := rfl
  contents_send _ _ := rfl
  received _ _ := rfl
  size_receive _ _ := rfl
  contents_receive _ _ := rfl

variable (queue : BoundedQueue α) {state : queue.State}

theorem contents_send_one (item : α) (room : (queue.contents state).length < queue.size state) :
    queue.contents (queue.send [item] state).2 = queue.contents state ++ [item] := by
  rw [queue.contents_send, List.take_of_length_le (by rw [List.length_singleton]; omega)]

theorem contents_send_full (items : List α) (full : queue.size state ≤ (queue.contents state).length) :
    queue.contents (queue.send items state).2 = queue.contents state := by
  rw [queue.contents_send, Nat.sub_eq_zero_of_le full, List.take_zero, List.append_nil]

end BoundedQueue
end Xtreme.Library
