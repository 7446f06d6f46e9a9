import LogGate.Bench.Floor

/-!
# Recorders

A recorder is a stage that enters its calls in the journal of the floor, and answers them as it is
told to. It can change the records that it is handed, also when it fails.
-/

namespace LogGate.Bench

/-- How a recorder answers its calls. -/
structure Recorder where
  name : String
  filters : Bool := false
  enabled : Bool := false
  /-- An attribute that it gives every record. -/
  tag : Option (String × String) := none
  /-- A severity that it gives every record. -/
  severity : Option Severity := none
  emitFailure : Option Failure := none
  flushFailure : Option Failure := none
  shutdownFailure : Option Failure := none
  deriving DecidableEq, Repr

namespace Recorder

variable {ω : Type}

/-- The failure that a word stands for; a word that stands for none is a reason. -/
def failure : String → Failure
  | "shutdown" => .closed
  | "deadline" => .deadlineExceeded
  | "io" => .io "recorder io"
  | reason => .other reason

/-- What a recorder makes of a record. -/
def revise (recorder : Recorder) (r : Record) : Record :=
  let tagged := match recorder.tag with
    | some (key, value) => r.withAttribute key value
    | none => r
  { tagged with severity := recorder.severity.getD tagged.severity }

/-- The outcome of a call that may fail. -/
def outcome : Option Failure → Outcome
  | some failure => .failed failure
  | none => .done

/-- Enters a call in the journal. -/
def enter (recorder : Recorder) (ctx : Context) (call : Call) : StateM (Floor ω) Unit :=
  modify (Floor.enter (.called recorder.name (ctx.standing Floor.now) call))

/-- The stage of a recorder. -/
def stage (recorder : Recorder) : Stage (Floor ω) where
  emit ctx r := do
    recorder.enter ctx (.emit r)
    return (outcome recorder.emitFailure, recorder.revise r)
  enabled ctx q := do
    recorder.enter ctx (.enabled q)
    return recorder.enabled
  shutdown ctx := do
    recorder.enter ctx .shutdown
    return outcome recorder.shutdownFailure
  flush ctx := do
    recorder.enter ctx .flush
    return outcome recorder.flushFailure
  filters := do
    modify (Floor.enter (.asked recorder.name))
    return recorder.filters

end Recorder

end LogGate.Bench
