import LogGate.Diagnostic.Basic

/-!
# Telling

Actions that may fail and that tell diagnostics on their way, whether they fail or not.
-/

namespace LogGate

/-- An action that tells diagnostics and may fail. -/
abbrev Telling (ε α : Type) := ExceptT ε (StateM (List Diagnostic)) α

namespace Telling

variable {ε ε' α : Type}

/-- Tells a diagnostic. -/
def tell (d : Diagnostic) : Telling ε Unit := modify fun told => told ++ [d]

/-- Gives another account of a failure. -/
def mapError (f : ε → ε') (action : Telling ε α) : Telling ε' α :=
  ExceptT.mk do
    match ← action.run with
    | .ok a => return .ok a
    | .error e => return .error (f e)

/-- A failure is given another account, and what is told is the same. -/
theorem run_mapError (f : ε → ε') (action : Telling ε α) (told : List Diagnostic) :
    (mapError f action).run.run told =
      ((action.run.run told).1.mapError f, (action.run.run told).2) := by
  simp only [mapError, ExceptT.run_mk, StateT.run_bind]
  cases action.run.run told with
  | mk result t => cases result <;> rfl

/-- What an action comes to, and what it tells. -/
def finish (action : Telling ε α) : Except ε α × List Diagnostic := action.run.run []

end Telling

end LogGate
