import LogGate.Record.Document

/-!
# Configuration documents

A configuration is a minimum severity. Its document is an object with the member `min_severity`,
which may be missing and then is the default severity, or a list of at most that one item.
-/

namespace LogGate

open Json

/-- A configuration. -/
structure Config where
  minSeverity : Severity := .default
  deriving DecidableEq, Repr

namespace Config

/-- The configuration without any source. -/
def default : Config := {}

/-- Reads the members of a configuration. -/
def objectReader : Reader Config := do
  let minSeverity ← Reader.members none fun key before =>
    if key = "min_severity" then .once key before Severity.reader
    else do Reader.unknown; return before
  return ⟨minSeverity.getD .default⟩

/-- Reads the items of a list as a configuration. -/
def listReader : Reader Config := do
  if ← Reader.nextItem true then return ⟨← Severity.reader⟩ else return default

/-- Reads a configuration. -/
def reader : Reader Config := .bracketed "struct Config" (some listReader) (some objectReader)

/-- Reads a configuration from a whole document. -/
def parse (document : String) : Except Json.Error Config := reader.decode document

end Config

end LogGate
