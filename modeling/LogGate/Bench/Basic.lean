import LogGate.Bench.Recorder
import LogGate.Bench.Roll
import LogGate.Sample

/-!
# Benches

A bench is a place to build stages and to try them. Stages, thresholds and scripts have names on it.
What is built under a name that is taken replaces what the name stands for; a gate that was built on
it keeps what it was built on. `Bench.step` takes one step, and tells its answer, what happened
meanwhile and what the consoles printed. What a step names and is not there is answered as missing.
-/

namespace LogGate

namespace Bench

/-- The floor whose consoles print on rolls. -/
abbrev Hall := Floor Roll

/-- The floor before anything was built on it. -/
def Hall.empty : Hall := { consoles := fun _ => { writer := { name := "" } } }

end Bench

/-- Stages, thresholds and scripts by name, on a floor. -/
structure Bench where
  floor : Bench.Hall := .empty
  stages : List (String × (Gate Bench.Hall ⊕ Stage Bench.Hall)) := []
  thresholds : List (String × Nat) := []
  scripts : List (String × Nat) := []
  /-- The number that the next threshold, script or console is given. -/
  next : Nat := 0

namespace Bench

/-- What a step reads a minimum from. -/
inductive Minimum where
  | fixed (severity : Severity)
  | threshold (name : String)
  | script (name : String)
  deriving DecidableEq, Repr

/-- One choice in building a gate. A later choice of the same kind counts. -/
inductive Choice where
  | downstream (stage : String)
  | minimum (minimum : Minimum)
  deriving DecidableEq, Repr

/-- One step on a bench. The first group builds something under a name. -/
inductive Step where
  | addThreshold (name : String) (threshold : Threshold)
  | addScript (name : String) (levels : List Severity)
  | addRecorder (recorder : Recorder)
  | addConsole (roll : Roll)
  | addSilent (name : String)
  | addGate (name : String) (choices : List Choice)
  | set (threshold : String) (severity : Severity)
  | read (threshold : String)
  | minimum (gate : String)
  | filters (stage : String)
  | emit (stage : String) (settings : List Context.Setting) (record : Record)
  | enabled (stage : String) (settings : List Context.Setting) (query : Query) (asFilter : Bool)
  | shutdown (stage : String) (settings : List Context.Setting)
  | flush (stage : String) (settings : List Context.Setting)
  | sample (gate : String) (settings : List Context.Setting)

/-- The answer to a step. -/
inductive Answer where
  /-- Something was built. -/
  | built
  /-- A threshold or a gate is at a severity. -/
  | level (severity : Severity)
  /-- A threshold is at a severity that has a value. -/
  | reading (severity : Severity) (value : UInt8)
  | holds (answer : Bool)
  /-- The stage does not decide on records. -/
  | noFilter
  /-- A record was handed over, and was changed to another one if one is given. -/
  | emitted (outcome : Outcome) (revised : Option Record)
  /-- Another call was made. -/
  | called (outcome : Outcome)
  /-- There is nothing with this name. -/
  | missing (name : String)
  deriving DecidableEq, Repr

/-- What a step gave: its answer, what happened, and what was printed by the consoles of a name. -/
structure Report where
  answer : Answer
  events : List Event
  printed : List (String × List UInt8)
  deriving Repr

variable {α : Type}

/-- What a name stands for, or the answer that it stands for nothing. -/
def find (name : String) (entries : List (String × α)) : ExceptT Answer (StateM Bench) α :=
  match entries.lookup name with
  | some entry => return entry
  | none => throw (.missing name)

/-- Runs an action on the floor. -/
def onFloor (action : StateM Hall α) : ExceptT Answer (StateM Bench) α :=
  modifyGet fun bench =>
    let (a, floor) := action bench.floor
    (a, { bench with floor })

/-- Gives a stage a name. -/
def nameStage (name : String) (stage : Gate Hall ⊕ Stage Hall) :
    ExceptT Answer (StateM Bench) Answer := do
  modify fun bench => { bench with stages := (name, stage) :: bench.stages }
  return .built

/-- The stage with a name. -/
def stageOf (name : String) : ExceptT Answer (StateM Bench) (Stage Hall) := do
  match ← find name (← get).stages with
  | .inl gate => return gate.stage
  | .inr stage => return stage

/-- The gate with a name. -/
def gateOf (name : String) : ExceptT Answer (StateM Bench) (Gate Hall) := do
  match ← find name (← get).stages with
  | .inl gate => return gate
  | .inr _ => throw (.missing name)

/-- Where a minimum is read on the floor. -/
def sourceOf : Minimum → ExceptT Answer (StateM Bench) Floor.Source
  | .fixed severity => return .fixed severity
  | .threshold name => return .threshold (← find name (← get).thresholds)
  | .script name => return .script (← find name (← get).scripts)

/-- The context of settings that are all made at the moment of the floor. A timeout that leads off
the clock breaks the step off. -/
def contextOf (settings : List Context.Setting) : ExceptT Answer (StateM Bench) Context :=
  match Context.build (settings.map fun s => (Floor.now, s)) with
  | .ok ctx => return ctx
  | .error e => throw (.called (.crashed e.message))

/-- What choices come to: the stage behind a gate, and where its minimum is read. -/
def chosen (choices : List Choice) :
    ExceptT Answer (StateM Bench) (Option (Stage Hall) × Option Floor.Source) :=
  choices.foldlM (fun (stage, source) choice => do
    match choice with
    | .downstream name => return (some (← stageOf name), source)
    | .minimum minimum => return (stage, some (← sourceOf minimum))) (none, none)

/-- Takes a step and gives its answer. -/
def answer : Step → ExceptT Answer (StateM Bench) Answer
  | .addThreshold name threshold => do
    modify fun bench =>
      { bench with
        floor.thresholds := update bench.floor.thresholds bench.next threshold
        thresholds := (name, bench.next) :: bench.thresholds
        next := bench.next + 1 }
    return .level threshold.severity
  | .addScript name levels => do
    let script := match levels with
      | [] => { name }
      | s :: rest => { name, next := s, rest }
    modify fun bench =>
      { bench with
        floor.scripts := update bench.floor.scripts bench.next script
        scripts := (name, bench.next) :: bench.scripts
        next := bench.next + 1 }
    return .built
  | .addRecorder recorder => nameStage recorder.name (.inr recorder.stage)
  | .addConsole roll => do
    let number := (← get).next
    modify fun bench =>
      { bench with
        floor.consoles := update bench.floor.consoles number { writer := roll }
        next := number + 1 }
    nameStage roll.name (.inr (Floor.console Roll.writer roll.name number))
  | .addSilent name => nameStage name (.inr .silent)
  | .addGate name choices => do
    let (stage, source) ← chosen choices
    nameStage name (.inl (← onFloor (Gate.build Floor.host stage (source.map Floor.Source.read))))
  | .set name severity => do
    let i ← find name (← get).thresholds
    let threshold := ((← get).floor.thresholds i).set severity
    modify fun bench =>
      { bench with floor.thresholds := update bench.floor.thresholds i threshold }
    return .level threshold.severity
  | .read name => do
    let threshold := (← get).floor.thresholds (← find name (← get).thresholds)
    return .reading threshold.severity (UInt8.ofNat threshold.severity.value)
  | .minimum name => return .level (← onFloor (← gateOf name).minimum)
  | .filters name => return .holds (← onFloor (← stageOf name).filters)
  | .emit name settings record => do
    let stage ← stageOf name
    let (outcome, revised) ← onFloor (stage.emit (← contextOf settings) record)
    return .emitted outcome (if revised = record then none else some revised)
  | .enabled name settings query asFilter => do
    let stage ← stageOf name
    let ctx ← contextOf settings
    if asFilter then
      unless ← onFloor stage.filters do return .noFilter
    return .holds (← onFloor (stage.enabled ctx query))
  | .shutdown name settings => do
    let stage ← stageOf name
    return .called (← onFloor (stage.shutdown (← contextOf settings)))
  | .flush name settings => do
    let stage ← stageOf name
    return .called (← onFloor (stage.flush (← contextOf settings)))
  | .sample name settings => do
    let gate ← gateOf name
    return .called (← onFloor (Sample.emit Floor.host gate (← contextOf settings)))

/-- What a console has printed between two floors, by its name. -/
def printedBetween (before after : Hall) (number : Nat) : Option (String × List UInt8) :=
  let roll := (after.consoles number).writer
  let fresh := roll.printed.drop (before.consoles number).writer.printed.length
  if fresh.isEmpty then none else some (roll.name, fresh)

/-- Takes a step. -/
def step (bench : Bench) (s : Step) : Report × Bench :=
  let (result, bench') := (answer s).run bench
  let answer := match result with
    | .ok a => a
    | .error a => a
  let report : Report := {
    answer
    events := bench'.floor.journal.drop bench.floor.journal.length
    printed := (List.range bench'.next).filterMap (printedBetween bench.floor bench'.floor) }
  (report, bench')

/-- Takes steps in order. -/
def run (steps : List Step) : List Report × Bench :=
  steps.foldl (fun (reports, bench) s =>
    let (report, bench') := bench.step s
    (reports ++ [report], bench')) ([], {})

end Bench

end LogGate
