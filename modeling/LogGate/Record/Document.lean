import LogGate.Json.Reader
import LogGate.Record.Basic
import LogGate.Severity.Parse
import LogGate.Time.Reading

/-!
# Records as documents

A severity is a text in a document, and a record an object with the members `time`, `severity`,
`body`, `event_name` and `attributes`. `Record.write` writes them in this order and without space.
`Record.reader` takes them in any order, or as a list in this order; it passes over members it does
not know and refuses those that occur twice. Only `event_name` may be missing from an object.
-/

namespace LogGate

open Json

/-- Reads a severity. A text that is none is complained about where the bracket around it ends. -/
def Severity.reader : Reader Severity :=
  .refineLate Severity.ParseError.message Severity.parse (.text "a string")

/-- Writes a severity: its name as a text. -/
def Severity.write (s : Severity) : String := Literal.write s.name

/-- Reads an instant. A text that is none is complained about right behind it. -/
def Time.Instant.reader : Reader Time.Instant :=
  .refine Time.TimeError.message Time.Instant.parse
    (.text "an RFC 3339 formatted date and time string")

namespace Attributes

/-- Reads attributes: an object of texts. A key that occurs again replaces the value. -/
def reader : Reader Attributes :=
  .bracketed "a map" none <| some <| .members ∅ fun key a => do
    Reader.colon
    return a.insert key (← Reader.text "a string")

/-- Writes attributes: an object of texts, in the order of their keys. -/
def write (a : Attributes) : String :=
  let members := a.entries.map fun (key, value) => Literal.write key ++ ":" ++ Literal.write value
  "\x7b" ++ ",".intercalate members ++ "\x7d"

end Attributes

namespace Record

/-- The members of a record that have been read. -/
structure Draft where
  time : Option Time.Instant := none
  severity : Option Severity := none
  body : Option String := none
  eventName : Option (Option String) := none
  attributes : Option Attributes := none

namespace Draft

/-- Reads the member with a key. -/
def step (key : String) (p : Draft) : Reader Draft := do
  match key with
  | "time" => return { p with time := ← .once key p.time Time.Instant.reader }
  | "severity" => return { p with severity := ← .once key p.severity Severity.reader }
  | "body" => return { p with body := ← .once key p.body (.text "a string") }
  | "event_name" =>
    return { p with eventName := ← .once key p.eventName (.optionalText "a string") }
  | "attributes" => return { p with attributes := ← .once key p.attributes Attributes.reader }
  | _ => Reader.unknown; return p

/-- The record that members make, if none is missing. -/
def finish (p : Draft) : Reader Record := do
  let time ← .required "time" p.time
  let severity ← .required "severity" p.severity
  let body ← .required "body" p.body
  let attributes ← .required "attributes" p.attributes
  return ⟨time, severity, body, p.eventName.getD none, attributes⟩

end Draft

/-- Reads the item of a list that has so many before it, of which five make a record. -/
def item {α : Type} (before : Nat) (value : Reader α) : Reader α := do
  if ← Reader.nextItem (before == 0) then value
  else Reader.complain (.floating (.wrongLength before "struct LogRecord with 5 elements"))

/-- Reads the items of a list as the members of a record. -/
def listReader : Reader Record := do
  let time ← item 0 Time.Instant.reader
  let severity ← item 1 Severity.reader
  let body ← item 2 (.text "a string")
  let eventName ← item 3 (.optionalText "a string")
  let attributes ← item 4 Attributes.reader
  return ⟨time, severity, body, eventName, attributes⟩

/-- Reads a record. -/
def reader : Reader Record :=
  .bracketed "struct LogRecord" (some listReader)
    (some do (← Reader.members {} Draft.step).finish)

/-- Writes a record. -/
def write (r : Record) : String :=
  let eventName := match r.eventName with
    | some name => Literal.write name
    | none => "null"
  "\x7b\"time\":" ++ Literal.write r.time.render ++
    ",\"severity\":" ++ r.severity.write ++
    ",\"body\":" ++ Literal.write r.body ++
    ",\"event_name\":" ++ eventName ++
    ",\"attributes\":" ++ r.attributes.write ++ "\x7d"

end Record

end LogGate
