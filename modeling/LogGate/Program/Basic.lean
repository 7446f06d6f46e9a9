import LogGate.CommandLine.Parse
import LogGate.Config.Resolve
import LogGate.Console
import LogGate.Diagnostic.Filter
import LogGate.Program.Report
import LogGate.Sample
import LogGate.Text.Plain
import LogGate.Threshold

/-!
# The program

The program prints the sample on a console, through a gate whose minimum comes from the
configuration. If it is asked to, it then raises the minimum and prints the sample again. At last it
shuts the console down, and gives it five seconds for that. All that it does is a function of how it
is invoked and of what it finds, the files, the answers to requests and the clock: `Program.run`
gives what it writes and how it ends.

Time goes on while the program runs. What the clock and the time of day are is given for each number
of calls that have been made on the console, and each call takes it further (`State.lasting`). So
the records of the sample may all have other times, and the deadline for shutting down may have
passed when the console looks at it.
-/

namespace LogGate.Program

/-- The name and number of the program's version. -/
def version : String := "minsev 0.1.0"

/-- How the program is invoked, and what it finds. -/
structure Invocation where
  arguments : List String
  /-- The environment variable for the minimum severity, if it is set. -/
  environment : Option String := none
  /-- The filter of diagnostics, if one is set. -/
  filter : Option String := none
  sources : Sources
  /-- The moment on the clock after so many calls on the console. -/
  now : Nat → Moment
  /-- The time of day after so many calls on the console. -/
  time : Nat → Time.Instant
  /-- The time of day as each diagnostic shows it, by its place in their order. -/
  stamp : Nat → String

/-- What the program writes, and the number that it ends with. -/
structure Result where
  exit : Nat
  output : List UInt8 := []
  errors : String := ""
  deriving DecidableEq, Repr

/-- What changes while the program runs. -/
structure State where
  minimum : Threshold
  /-- The console, whose writer takes everything. -/
  console : Console (List UInt8)
  told : List Diagnostic := []
  /-- The number of calls on the console that there have been. -/
  elapsed : Nat := 0
  deriving DecidableEq, Repr

namespace State

/-- What the stages of the program use of its state. -/
def host (now : Nat → Moment) (time : Nat → Time.Instant) : Host State where
  now s := now s.elapsed
  time s := time s.elapsed
  note d s := { s with told := s.told ++ [d] }

/-- Time goes on. -/
def advance (s : State) : State := { s with elapsed := s.elapsed + 1 }

/-- The stage whose calls take time: when it looks at the clock, that has gone on since its caller
has looked. -/
def lasting (S : Stage State) : Stage State where
  emit ctx r := do
    modify advance
    S.emit ctx r
  enabled ctx q := do
    modify advance
    S.enabled ctx q
  shutdown ctx := do
    modify advance
    S.shutdown ctx
  flush ctx := do
    modify advance
    S.flush ctx
  filters := S.filters

/-- The console in the state. -/
def consoleSlot : Slot State (Console (List UInt8)) where
  get := console
  set console s := { s with console }
  get_set _ _ := rfl
  set_get _ := rfl
  set_set _ _ _ := rfl

end State

/-- The writer that takes everything. -/
def output : Writer (List UInt8) where
  write bytes written := (.took bytes.length, written ++ bytes)
  flush written := (none, written)
  patience _ := 0
  patience_lt h := by cases h

/-- What is told when the minimum is known. -/
def starting (s : Severity) : Diagnostic :=
  ⟨.info, "minsev", "starting", [("min_severity", s.name)]⟩

/-- What is told when the minimum is raised. -/
def raised (s : Severity) : Diagnostic :=
  ⟨.info, "minsev", "minimum raised", [("min_severity", s.name)]⟩

/-- How long the console may take to shut down. -/
def patience : Nat := 5 * Moment.second

/-- An action of the program, which may end it with an outcome. -/
abbrev Action (α : Type) := ExceptT Outcome (StateM State) α

/-- Goes on only if an outcome is that something was done. -/
def proceed (action : StateM State Outcome) : Action Unit := do
  let outcome ← (action : StateM State Outcome)
  unless outcome = .done do throw outcome

/-- Raises the minimum, to whatever level it is, and prints the sample again. -/
def raise (host : Host State) (gate : Gate State) (level : Severity) : Action Unit := do
  modify fun s => { s with minimum := s.minimum.set level }
  modify (host.note (raised level))
  proceed (Sample.emit host gate .background)

/-- Shuts down what is behind a gate, with a deadline. -/
def close (host : Host State) (gate : Gate State) : Action Unit := do
  match Context.background.withTimeout (host.now (← get)) patience with
  | .ok ctx => proceed (gate.stage.shutdown ctx)
  | .error e => throw (.crashed e.message)

/-- Prints the sample, perhaps twice, and shuts the console down. -/
def perform (now : Nat → Moment) (time : Nat → Time.Instant) (raiseTo : Option Severity) :
    Action Unit := do
  let host := State.host now time
  let console := State.lasting (Console.stage host output State.consoleSlot)
  let minimum : StateM State Severity := do return (← get).minimum.severity
  let gate ← (Gate.build host (some console) (some minimum) : StateM State (Gate State))
  proceed (Sample.emit host gate .background)
  if let some level := raiseTo then raise host gate level
  close host gate

/-- The diagnostics that a filter shows, each on a line. -/
def showTold (inv : Invocation) (told : List Diagnostic) : String :=
  let filter := Filter.parse (inv.filter.getD "")
  String.join ((told.zipIdx.filter fun (d, _) => filter.shows d).map fun (d, i) =>
    d.line (inv.stamp i) ++ "\n")

/-- How the program ends after its work, and what it then reports. -/
def ending : Except Outcome Unit → Nat × String
  | .ok () | .error .done => (0, "")
  | .error (.failed failure) => (1, report failure.message failure.causes)
  | .error (.crashed message) => (101, message ++ "\n")

/-- The state in which the program starts to print. -/
def start (config : Config) (told : List Diagnostic) : State where
  minimum := .ofSeverity config.minSeverity
  console := { writer := [] }
  told := told ++ [starting config.minSeverity]

/-- What the program has written when it has come to its end in a state. -/
def conclude (inv : Invocation) (result : Except Outcome Unit) (s : State) : Result where
  exit := (ending result).1
  output := s.console.writer
  errors := showTold inv s.told ++ (ending result).2

/-- The number that the program ends with does not depend on the state. -/
@[simp] theorem exit_conclude (inv : Invocation) (result : Except Outcome Unit) (s : State) :
    (conclude inv result s).exit = (ending result).1 := rfl

/-- And its output not on how it has come to its end. -/
@[simp] theorem output_conclude (inv : Invocation) (result : Except Outcome Unit) (s : State) :
    (conclude inv result s).output = s.console.writer := rfl

/-- Does the program's work with its arguments. -/
def work (inv : Invocation) (arguments : CommandLine.Arguments) : Result :=
  let resolved := Config.resolve inv.sources arguments.config arguments.configUrl
    arguments.minSeverity
  match resolved.finish with
  | (.error e, told) => { exit := 1, errors := showTold inv told ++ report e.message e.causes }
  | (.ok config, told) =>
    let (result, s) := (perform inv.now inv.time arguments.raiseTo).run.run (start config told)
    conclude inv result s

/-- Does what the program was asked for. -/
def respond (inv : Invocation) : Result :=
  match CommandLine.parse inv.environment inv.arguments with
  | .error e => { exit := 2, errors := Text.plain e.report }
  | .ok .version => { exit := 0, output := Utf8.encode (version ++ "\n") }
  | .ok (.run arguments) => work inv arguments

/-- Runs the program, which first warns of what it does not understand in the filter. -/
def run (inv : Invocation) : Result :=
  let warnings := (Filter.warnings (inv.filter.getD "")).map (· ++ "\n")
  let result := respond inv
  { result with errors := String.join warnings ++ result.errors }

end LogGate.Program
