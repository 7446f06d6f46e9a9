import LogGate.Context
import LogGate.Diagnostic.Basic
import LogGate.Record.Basic

/-!
# Stages

Records pass through stages. A stage is handed a record and may change it, can be asked whether it
would process one, and is shut down and flushed. Stages have no state of their own: their calls are
actions on a state `σ` in which they run, so that several stages can share a part of it. A call is
done, fails for a reason, or breaks off.
-/

namespace LogGate

/-- Why a stage did not do what it was called for. -/
inductive Failure where
  /-- The stage has been shut down. -/
  | closed
  /-- The deadline of the context is over. -/
  | deadlineExceeded
  /-- Input or output did not succeed. -/
  | io (reason : String)
  /-- Anything else. -/
  | other (reason : String)
  deriving DecidableEq, Repr

/-- The text of a failure. -/
def Failure.message : Failure → String
  | closed => "The processor has already been shut down"
  | deadlineExceeded => "The context deadline passed before the operation completed"
  | io reason => "An IO error occured. " ++ reason
  | other reason => "Processor failed. " ++ reason

/-- The texts of what caused a failure. -/
def Failure.causes : Failure → List String
  | io reason => [reason]
  | closed | deadlineExceeded | other _ => []

/-- What became of a call. -/
inductive Outcome where
  | done
  | failed (failure : Failure)
  /-- The call broke off with a message. -/
  | crashed (message : String)
  deriving DecidableEq, Repr

/-- What stages use of the state that they run in: a clock, the time of day, and a place for
diagnostics. -/
structure Host (σ : Type) where
  now : σ → Moment
  time : σ → Time.Instant
  note : Diagnostic → σ → σ

/-- A stage that records pass through, in a state. -/
structure Stage (σ : Type) where
  /-- Hands a record to the stage, and gives what it has made of it. -/
  emit : Context → Record → StateM σ (Outcome × Record)
  /-- Asks whether the stage would process a record. -/
  enabled : Context → Query → StateM σ Bool
  /-- Shuts the stage down. -/
  shutdown : Context → StateM σ Outcome
  /-- Asks the stage to pass on what it holds back. -/
  flush : Context → StateM σ Outcome
  /-- Whether the answers of `enabled` are a decision on records, and not only a sign of life. -/
  filters : StateM σ Bool

/-- The stage that discards every record and says so beforehand. -/
def Stage.silent {σ : Type} : Stage σ where
  emit _ r := pure (.done, r)
  enabled _ _ := pure false
  shutdown _ := pure .done
  flush _ := pure .done
  filters := pure true

end LogGate
