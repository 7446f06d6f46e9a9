import LogGate.Record.Attributes
import LogGate.Severity.Basic
import LogGate.Time.Instant

/-!
# Records

A log record: when something happened, how severe it was, a text, perhaps the name of an event, and
attributes. A `Query` describes a record before there is one, to ask whether it would be processed.
`Record.line` is what a console prints of a record.
-/

namespace LogGate

/-- A log record. -/
structure Record where
  time : Time.Instant
  severity : Severity
  body : String
  eventName : Option String := none
  attributes : Attributes := ∅
  deriving DecidableEq, Repr

/-- What is known of a record before it is made. -/
structure Query where
  severity : Severity := .default
  eventName : Option String := none
  deriving DecidableEq, Repr

namespace Record

/-- A record with one attribute more, or with another value of it. -/
def withAttribute (r : Record) (key value : String) : Record :=
  { r with attributes := r.attributes.insert key value }

/-- What a record shows of itself in a query. -/
def query (r : Record) : Query := ⟨r.severity, r.eventName⟩

/-- The line of a record: its time on a clock, severity and body, and each attribute behind them. -/
def line (r : Record) : String :=
  "(" ++ r.time.clock ++ ") " ++ r.severity.name ++ " : " ++ r.body ++
    String.join (r.attributes.entries.map fun (key, value) => " " ++ key ++ "=" ++ value)

end Record

end LogGate
