import LogGate.Stage.Basic
import LogGate.Stage.Slot
import LogGate.Text.Utf8
import LogGate.Writer

/-!
# Consoles

A console writes each record as a line. It is open until it is shut down, and never opens again.
A writer that crashes leaves the console broken: from then on everything that needs the writer
fails. The calls on a console are actions on its state; `Console.stage` makes a stage of a console
that is part of a larger state.
-/

namespace LogGate

/-- A console and the state of its writer. -/
structure Console (ω : Type) where
  writer : ω
  /-- Whether the console has been shut down. -/
  closed : Bool := false
  /-- Whether the writer has crashed. -/
  broken : Bool := false
  deriving DecidableEq, Repr

namespace Console

/-- The part of the program that consoles' diagnostics come from. -/
def origin : String := "logger::processors::console"

/-- What a console tells when it is shut down. -/
def closing : Diagnostic := ⟨.debug, origin, "console processor shut down", []⟩

/-- What comes of a need for the writer of a broken console. -/
def unusable : Failure := .other "console writer mutex poisoned"

variable {ω : Type}

/-- What comes of a writer's trouble. -/
def outcome : Option Trouble → Outcome
  | none => .done
  | some (.refused reason) => .failed (.io reason)
  | some (.crashed message) => .crashed message

/-- Uses the writer, unless it has crashed before. -/
def use (action : ω → Option Trouble × ω) : StateM (Console ω) Outcome := fun c =>
  if c.broken then (.failed unusable, c)
  else match action c.writer with
    | (some (.crashed message), s) => (.crashed message, { c with writer := s, broken := true })
    | (trouble, s) => (outcome trouble, { c with writer := s })

/-- Writes a line and then its end. -/
def print (w : Writer ω) (line : String) (s : ω) : Option Trouble × ω :=
  match w.writeAll (Utf8.encode line) s with
  | (none, s') => w.writeAll (Utf8.encode "\n") s'
  | stopped => stopped

/-- Writes the line of a record, on a console that is open. -/
def emit (w : Writer ω) (r : Record) : StateM (Console ω) Outcome := do
  if (← get).closed then return .failed .closed
  use (print w r.line)

/-- Flushes the writer, whether the console is open or not. -/
def flush (w : Writer ω) (expired : Bool) : StateM (Console ω) Outcome := do
  if expired then return .failed .deadlineExceeded
  use w.flush

/-- Closes a console that is open, and flushes its writer. -/
def shutdown (w : Writer ω) (expired : Bool) : StateM (Console ω) Outcome := do
  if expired then return .failed .deadlineExceeded
  if (← get).closed then return .failed .closed
  modify fun c => { c with closed := true }
  use w.flush

/-- The stage of a console that is part of a state. -/
def stage {σ : Type} (host : Host σ) (w : Writer ω) (slot : Slot σ (Console ω)) : Stage σ where
  emit _ r := do return (← slot.run (emit w r), r)
  enabled _ _ := do return !(slot.get (← get)).closed
  shutdown ctx := do
    let expired := ctx.isExpired (host.now (← get))
    unless expired || (slot.get (← get)).closed do modify (host.note closing)
    slot.run (shutdown w expired)
  flush ctx := do slot.run (flush w (ctx.isExpired (host.now (← get))))
  filters := pure false

end Console

end LogGate
