import LogGate.Severity.Parse
import LogGate.Text.Style

/-!
# The command line

What the program can be asked for on its command line, and what can be wrong with it. Each option
takes a value and may be given once. Reports of errors are drawn with the styles of a terminal.
-/

namespace LogGate.CommandLine

open Text.Style (alarm literal refused)

/-- The options that take a value. -/
inductive Key where
  | minSeverity
  | config
  | configUrl
  | raiseTo
  deriving DecidableEq, Repr

namespace Key

/-- The name of an option, without the dashes before it. -/
def name : Key → String
  | minSeverity => "min-severity"
  | config => "config"
  | configUrl => "config-url"
  | raiseTo => "raise-to"

/-- The option of a name. -/
def ofName? : String → Option Key
  | "min-severity" => some minSeverity
  | "config" => some config
  | "config-url" => some configUrl
  | "raise-to" => some raiseTo
  | _ => none

/-- The word that stands for the value of an option. -/
def placeholder : Key → String
  | minSeverity => "MIN_SEVERITY"
  | config => "CONFIG"
  | configUrl => "CONFIG_URL"
  | raiseTo => "RAISE_TO"

/-- An option as messages show it, with the word for its value. -/
def usage (key : Key) : String := "--" ++ key.name ++ " <" ++ key.placeholder ++ ">"

end Key

/-- What the program was asked to do its work with. -/
structure Arguments where
  minSeverity : Option Severity := none
  config : Option String := none
  configUrl : Option String := none
  raiseTo : Option Severity := none
  deriving DecidableEq, Repr

/-- What the program was asked for. -/
inductive Request where
  | version
  | run (arguments : Arguments)
  deriving DecidableEq, Repr

/-- Why a command line cannot be understood. -/
inductive UsageError where
  | invalidValue (key : Key) (value : String) (cause : Severity.ParseError)
  | missingValue (key : Key)
  | repeated (key : Key)
  /-- The version was asked for with a value. -/
  | needlessValue (value : String)
  | unexpected (argument : String)
  deriving DecidableEq, Repr

/-- The text of an error, drawn for a terminal. -/
def UsageError.message : UsageError → String
  | invalidValue key value cause =>
    "invalid value '" ++ refused.draw value ++ "' for '" ++ literal.draw key.usage ++ "': " ++
      cause.message
  | missingValue key =>
    "a value is required for '" ++ refused.draw key.usage ++ "' but none was supplied"
  | repeated key =>
    "the argument '" ++ refused.draw key.usage ++ "' cannot be used multiple times"
  | needlessValue value =>
    "unexpected value '" ++ refused.draw value ++ "' for '" ++ literal.draw "--version" ++
      "' found; no more were expected"
  | unexpected argument => "unexpected argument '" ++ refused.draw argument ++ "' found"

/-- The report of an error, drawn for a terminal: its text, and where to find help. -/
def UsageError.report (e : UsageError) : String :=
  alarm.draw "error:" ++ " " ++ e.message ++ "\n\nFor more information, try '" ++
    literal.draw "--help" ++ "'.\n"

end LogGate.CommandLine
