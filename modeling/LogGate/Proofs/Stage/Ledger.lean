import LogGate.Stage.Basic

/-!
# Ledgers of calls

To say how often a stage is called, and with what, its state is kept together with a ledger. The
stage `P.kept` acts as `P` does and enters every call in the ledger (`Ledger.enter`); an action that
is no call on the stage leaves the ledger alone (`Ledger.quiet`).
-/

namespace LogGate.Stage

/-- A call on a stage, with what it is called with. -/
inductive Call where
  | emit (ctx : Context) (r : Record)
  | enabled (ctx : Context) (q : Query)
  | shutdown (ctx : Context)
  | flush (ctx : Context)
  | filters

/-- A state with the calls that were made in it, in order. -/
structure Ledger (σ : Type) where
  state : σ
  calls : List Call

namespace Ledger

section
variable {σ α β : Type}

/-- Runs an action and enters nothing. -/
def quiet (x : StateM σ α) : StateM (Ledger σ) α := fun l =>
  ((x l.state).1, { l with state := (x l.state).2 })

/-- Runs the action of a call and enters the call. -/
def enter (call : Call) (x : StateM σ α) : StateM (Ledger σ) α := fun l =>
  ((x l.state).1, ⟨(x l.state).2, l.calls ++ [call]⟩)

@[simp] theorem quiet_bind (x : StateM σ α) (f : α → StateM σ β) :
    quiet (x >>= f) = (do quiet (f (← quiet x))) := rfl

end

end Ledger

/-- The stage that acts as another one does and enters its calls. -/
def kept {σ : Type} (P : Stage σ) : Stage (Ledger σ) where
  emit ctx r := Ledger.enter (.emit ctx r) (P.emit ctx r)
  enabled ctx q := Ledger.enter (.enabled ctx q) (P.enabled ctx q)
  shutdown ctx := Ledger.enter (.shutdown ctx) (P.shutdown ctx)
  flush ctx := Ledger.enter (.flush ctx) (P.flush ctx)
  filters := Ledger.enter .filters P.filters

end LogGate.Stage
