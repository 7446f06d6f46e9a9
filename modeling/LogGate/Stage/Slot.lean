/-!
# Slots

A slot is a part of a larger state: one can look at it and put something else there. What is put
into it is what it then holds, putting back what it holds changes nothing, and of two values put
after each other the second counts. `Slot.run` runs an action on the part within the whole.
-/

namespace LogGate

/-- A part of a state. -/
structure Slot (σ α : Type) where
  get : σ → α
  set : α → σ → σ
  get_set : ∀ (a : α) (s : σ), get (set a s) = a
  set_get : ∀ s : σ, set (get s) s = s
  set_set : ∀ (a b : α) (s : σ), set b (set a s) = set b s

/-- Runs an action on a part of the state. -/
def Slot.run {σ α β : Type} (slot : Slot σ α) (action : StateM α β) : StateM σ β := fun s =>
  let (b, a) := action (slot.get s)
  (b, slot.set a s)

end LogGate
