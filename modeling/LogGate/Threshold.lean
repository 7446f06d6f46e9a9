import LogGate.Severity.Parse

/-!
# Thresholds

A threshold is a severity that can be changed while others look at it. It is kept as one byte, the
value of the severity. Whatever a threshold was last set to is what everyone reads from it; a byte
that is no severity's value would be read as the default severity.
-/

namespace LogGate

/-- A severity that can be changed, kept as its value in one byte. -/
structure Threshold where
  byte : UInt8
  deriving DecidableEq, Repr

namespace Threshold

/-- The threshold at a severity. -/
def ofSeverity (s : Severity) : Threshold := ⟨UInt8.ofNat s.value⟩

/-- The threshold at the default severity. -/
def default : Threshold := ofSeverity .default

instance : Inhabited Threshold := ⟨default⟩

/-- Reads a threshold as a severity is read. -/
def parse (text : String) : Except Severity.ParseError Threshold :=
  (Severity.parse text).map ofSeverity

/-- The severity that a threshold is at. -/
def severity (t : Threshold) : Severity := (Severity.ofValue? t.byte.toNat).getD .default

/-- A threshold is shown as the name of its severity. -/
def name (t : Threshold) : String := t.severity.name

/-- The threshold after it is set to a severity. -/
def set (_ : Threshold) (s : Severity) : Threshold := ofSeverity s

/-- A threshold is at the severity that it was made from. -/
theorem severity_ofSeverity (s : Severity) : (ofSeverity s).severity = s := by
  obtain ⟨family, step⟩ := s
  revert step
  cases family <;> decide

end Threshold

end LogGate
