/-!
# Diagnostics

What the program tells about itself, apart from the records that it processes: a level, the part it
comes from, a message, and details that are written behind the message.
-/

namespace LogGate

/-- The levels of diagnostics. -/
inductive Level where
  | trace
  | debug
  | info
  | warn
  | error
  deriving DecidableEq, Repr

namespace Level

/-- The place of a level among the others, counted from the least severe. -/
def rank : Level → Nat
  | trace => 0
  | debug => 1
  | info => 2
  | warn => 3
  | error => 4

/-- The name of a level, in capitals. -/
def name : Level → String
  | trace => "TRACE"
  | debug => "DEBUG"
  | info => "INFO"
  | warn => "WARN"
  | error => "ERROR"

end Level

/-- Something that the program tells about itself. -/
structure Diagnostic where
  level : Level
  /-- The part of the program that it comes from. -/
  origin : String
  message : String
  /-- Further values by name, as they are written. -/
  details : List (String × String) := []
  deriving DecidableEq, Repr

/-- The line of a diagnostic that was made at a time. Levels are aligned to the right. -/
def Diagnostic.line (time : String) (d : Diagnostic) : String :=
  let level := "".pushn ' ' (5 - d.level.name.length) ++ d.level.name
  let details := d.details.map fun (name, value) => " " ++ name ++ "=" ++ value
  time ++ " " ++ level ++ " " ++ d.origin ++ ": " ++ d.message ++ String.join details

end LogGate
