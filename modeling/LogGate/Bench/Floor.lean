import LogGate.Console
import LogGate.Threshold

/-!
# The floor of a bench

The state that the stages of a bench run in: thresholds, scripts and consoles, each under a number
of its own, and a journal of what happens. A script is a sequence of severities that are read one
after the other, staying on the last. The consoles have writers of any kind, and the flushes of
those are entered in the journal. The clock of a floor stands still.
-/

namespace LogGate.Bench

/-- A call that is entered in the journal. -/
inductive Call where
  | emit (record : Record)
  | enabled (query : Query)
  | shutdown
  | flush
  deriving DecidableEq, Repr

/-- What happens on a floor. -/
inductive Event where
  /-- A recorder was called, with a context that stood so. -/
  | called (recorder : String) (standing : Context.Standing) (call : Call)
  /-- A recorder was asked whether its answers are a decision on records. -/
  | asked (recorder : String)
  /-- A script gave a severity. -/
  | gave (script : String) (severity : Severity)
  /-- The writer of a console was flushed. -/
  | flushed (console : String)
  | noted (diagnostic : Diagnostic)
  deriving DecidableEq, Repr

/-- Severities that are read one after the other. -/
structure Script where
  name : String
  next : Severity := .default
  rest : List Severity := []
  deriving DecidableEq, Repr

/-- The script after its next severity has been read. -/
def Script.advance (script : Script) : Script :=
  match script.rest with
  | [] => script
  | s :: rest => { script with next := s, rest }

/-- The state that the stages of a bench run in. -/
structure Floor (ω : Type) where
  thresholds : Nat → Threshold := fun _ => .default
  scripts : Nat → Script := fun _ => { name := "" }
  consoles : Nat → Console ω
  /-- What has happened, in order. -/
  journal : List Event := []

/-- A function with another value at one argument. -/
def update {α : Type} (f : Nat → α) (i : Nat) (a : α) : Nat → α :=
  fun j => if j = i then a else f j

/-- The other value is at that argument. -/
theorem update_same {α : Type} (f : Nat → α) (i : Nat) (a : α) : update f i a i = a := if_pos rfl

/-- At any other argument the value is as it was. -/
theorem update_of_ne {α : Type} (f : Nat → α) {i j : Nat} (a : α) (h : j ≠ i) :
    update f i a j = f j := if_neg h

/-- The value at the argument where it is already changes nothing. -/
theorem update_self {α : Type} (f : Nat → α) (i : Nat) : update f i (f i) = f := by
  funext j
  by_cases h : j = i <;> simp [update, h]

/-- Of two values at one argument the second counts. -/
theorem update_update {α : Type} (f : Nat → α) (i : Nat) (a b : α) :
    update (update f i a) i b = update f i b := by
  funext j
  by_cases h : j = i <;> simp [update, h]

namespace Floor

/-- The moment at which the clock of a floor stands: 1000 seconds after its start. -/
def now : Moment := 1000 * Moment.second

variable {ω : Type}

/-- Enters an event in the journal. -/
def enter (event : Event) (floor : Floor ω) : Floor ω :=
  { floor with journal := floor.journal ++ [event] }

/-- What stages use of a floor. Diagnostics are entered in the journal. -/
def host : Host (Floor ω) where
  now _ := now
  time _ := .epoch
  note d := enter (.noted d)

/-- The console of a number, whose writer reaches the journal. -/
def consoleSlot (i : Nat) : Slot (Floor ω) (Console (ω × List Event)) where
  get floor :=
    let c := floor.consoles i
    ⟨(c.writer, floor.journal), c.closed, c.broken⟩
  set c floor :=
    { floor with
      consoles := update floor.consoles i ⟨c.writer.1, c.closed, c.broken⟩
      journal := c.writer.2 }
  get_set c floor := by simp [update]
  set_get floor := by simp [update_self]
  set_set c d floor := by simp [update_update]

/-- A writer that enters its flushes in the journal. -/
def journaling (w : Writer ω) (name : String) : Writer (ω × List Event) where
  write bytes s := ((w.write bytes s.1).1, ((w.write bytes s.1).2, s.2))
  flush s := ((w.flush s.1).1, ((w.flush s.1).2, s.2 ++ [.flushed name]))
  patience s := w.patience s.1
  patience_lt h := w.patience_lt h

/-- The stage of a console with a name. -/
def console (w : Writer ω) (name : String) (i : Nat) : Stage (Floor ω) :=
  Console.stage host (journaling w name) (consoleSlot i)

/-- Where a gate on a floor reads its minimum. -/
inductive Source where
  | fixed (severity : Severity)
  | threshold (number : Nat)
  | script (number : Nat)
  deriving DecidableEq, Repr

/-- Reads a severity. Reading a script is entered in the journal. -/
def Source.read : Source → StateM (Floor ω) Severity
  | .fixed severity => return severity
  | .threshold i => return ((← get).thresholds i).severity
  | .script i => do
    let script := (← get).scripts i
    modify fun floor =>
      enter (.gave script.name script.next)
        { floor with scripts := update floor.scripts i script.advance }
    return script.next

end Floor

end LogGate.Bench
