import LogGate.Bench.Floor
import LogGate.Gate
import Mathlib.Data.Fin.Tuple.Basic

/-!
# Arrangements of stages

An arrangement is any finite number of stages on a floor, each of them a console, a silent stage or
a gate. They are built one after the other, and a gate stands in front of nothing or of a stage that
was built before it, so several gates may share what is behind them, and several may read one
threshold (`Arrangement.build`). `Arrangement.chain` follows a stage down to its end: the minima
that it passes, the outermost first, and the console that it comes to, if it comes to one.

An `Operation` is a call on one of the stages or the setting of a threshold. What a run of
operations has to print on a console is stated by `Arrangement.lines`, from the operations alone:
the line of each record that reaches the console (`Arrangement.line?`).
-/

namespace LogGate.Bench

/-! ## Building -/

/-- What a gate of an arrangement has its minimum from. -/
inductive Level where
  | fixed (severity : Severity)
  | threshold (number : Nat)
  deriving DecidableEq, Repr

/-- Where a level is read on a floor. -/
def Level.source : Level → Floor.Source
  | fixed severity => .fixed severity
  | threshold number => .threshold number

/-- One stage of an arrangement, behind which stand `n` others. -/
inductive Part (n : Nat) where
  | console (name : String)
  | silent
  | gate (downstream : Option (Fin n)) (minimum : Option Level)
  deriving DecidableEq, Repr

/-- So many stages, built one after the other. -/
inductive Arrangement : Nat → Type where
  | nothing : Arrangement 0
  | add {n : Nat} (a : Arrangement n) (part : Part n) : Arrangement (n + 1)

section
variable {ω : Type}

/-- Builds a stage when others have been built. A console is number `n` of the floor. -/
def Part.build (w : Writer ω) {n : Nat} (stages : Fin n → Stage (Floor ω)) :
    Part n → StateM (Floor ω) (Stage (Floor ω))
  | .console name => return Floor.console w name n
  | .silent => return .silent
  | .gate downstream minimum => do
    let gate ← Gate.build Floor.host (downstream.map stages)
      (minimum.map fun level => level.source.read)
    return gate.stage

/-- Builds the stages of an arrangement. -/
def Arrangement.build (w : Writer ω) : {n : Nat} → Arrangement n →
    StateM (Floor ω) (Fin n → Stage (Floor ω))
  | _, .nothing => return Fin.elim0
  | _, .add a part => do
    let stages ← a.build w
    let stage ← part.build w stages
    return Fin.snoc (α := fun _ => Stage (Floor ω)) stages stage

/-! ## Chains -/

/-- What is between a stage and the end of the arrangement behind it. -/
structure Chain where
  /-- The minima that are passed, the outermost first. -/
  minima : List Level
  /-- The number of the console at the end, if there is one there. -/
  console : Option Nat
  deriving DecidableEq, Repr

/-- The chain of a stage, from those of the stages built before. -/
def Part.chain {n : Nat} (chains : Fin n → Chain) : Part n → Chain
  | .console _ => ⟨[], some n⟩
  | .silent => ⟨[], none⟩
  | .gate downstream minimum =>
    let behind := (downstream.map chains).getD ⟨[], none⟩
    ⟨minimum.getD (.fixed .default) :: behind.minima, behind.console⟩

/-- The chains of the stages of an arrangement. -/
def Arrangement.chain : {n : Nat} → Arrangement n → Fin n → Chain
  | _, .nothing => Fin.elim0
  | _, .add a part => Fin.snoc (α := fun _ => Chain) a.chain (part.chain a.chain)

/-! ## Operations -/

/-- A call on a stage of an arrangement, or the setting of a threshold. -/
inductive Operation (n : Nat) where
  | emit (stage : Fin n) (ctx : Context) (r : Record)
  | enabled (stage : Fin n) (ctx : Context) (q : Query)
  | flush (stage : Fin n) (ctx : Context)
  | shutdown (stage : Fin n) (ctx : Context)
  | set (number : Nat) (severity : Severity)

variable {n : Nat}

/-- Performs an operation on stages, whatever it answers. -/
def Operation.perform (stages : Fin n → Stage (Floor ω)) : Operation n → StateM (Floor ω) Unit
  | .emit stage ctx r => discard ((stages stage).emit ctx r)
  | .enabled stage ctx q => discard ((stages stage).enabled ctx q)
  | .flush stage ctx => discard ((stages stage).flush ctx)
  | .shutdown stage ctx => discard ((stages stage).shutdown ctx)
  | .set number severity => modify fun floor =>
      { floor with
        thresholds := update floor.thresholds number ((floor.thresholds number).set severity) }

/-- Builds an arrangement and performs operations on it. -/
def Arrangement.run (w : Writer ω) (a : Arrangement n) (operations : List (Operation n)) :
    StateM (Floor ω) Unit := do
  let stages ← a.build w
  operations.forM fun operation => operation.perform stages

/-- A floor with open consoles on writers and with thresholds at severities. -/
def Floor.opened (writers : Nat → ω) (levels : Nat → Severity) : Floor ω where
  thresholds number := .ofSeverity (levels number)
  consoles number := { writer := writers number }

end

/-! ## What has to be printed -/

/-- The line of a record, piece by piece: the time between parentheses, the severity, the body
behind a colon, each attribute behind a space with an equals sign in it, and the end of the line. -/
def linePieces (r : Record) : List String :=
  ["(", r.time.clock, ") ", r.severity.name, " : ", r.body] ++
    r.attributes.entries.flatMap (fun entry => [" ", entry.1, "=", entry.2]) ++ ["\n"]

/-- The severity that a level stands for while thresholds are at severities. -/
def Level.severity (levels : Nat → Severity) : Level → Severity
  | fixed severity => severity
  | threshold number => levels number

namespace Arrangement

section
variable {n : Nat}

/-- The severities that thresholds are at after operations: those they were last set to. -/
def levelsAfter (levels : Nat → Severity) (before : List (Operation n)) : Nat → Severity :=
  before.foldl (fun levels operation =>
    match operation with
    | .set number severity => update levels number severity
    | _ => levels) levels

/-- Whether operations have shut a console down: one of them did so in time, on a stage whose chain
ends in that console. -/
def isShut (a : Arrangement n) (console : Nat) (before : List (Operation n)) : Bool :=
  before.any fun operation =>
    match operation with
    | .shutdown stage ctx => (a.chain stage).console == some console && !ctx.isExpired Floor.now
    | _ => false

/-- What an operation has to print on a console after other operations: the line of a record, if the
chain of the stage that gets it ends in that console, the record is at least as severe as all minima
of the chain are then, and the console has not been shut down. -/
def line? (a : Arrangement n) (levels : Nat → Severity) (console : Nat)
    (before : List (Operation n)) : Operation n → Option String
  | .emit stage _ r =>
    if (a.chain stage).console = some console ∧
        (∀ m ∈ (a.chain stage).minima, m.severity (levelsAfter levels before) ≤ r.severity) ∧
        a.isShut console before = false then
      some (String.join (linePieces r))
    else none
  | _ => none

/-- What operations have to print on a console after others. -/
def linesFrom (a : Arrangement n) (levels : Nat → Severity) (console : Nat) :
    List (Operation n) → List (Operation n) → List String
  | _, [] => []
  | before, operation :: operations =>
    (a.line? levels console before operation).toList ++
      a.linesFrom levels console (before ++ [operation]) operations

/-- What operations have to print on a console, line by line. -/
def lines (a : Arrangement n) (levels : Nat → Severity) (console : Nat)
    (operations : List (Operation n)) : List String :=
  a.linesFrom levels console [] operations

end

end Arrangement

end LogGate.Bench
