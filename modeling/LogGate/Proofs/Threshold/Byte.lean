import LogGate.Proofs.Severity.Scale

/-!
# The byte of a threshold

A threshold is made at a severity that is given, at the default one, or at the one that a text says:
its `Origin`. Its byte is then the value of that severity, a number from 1 to 24, and so it is found
on the scale again. What the byte of a threshold would be read as if it were no severity's value is
therefore never needed.
-/

namespace LogGate.Threshold

/-- A way to make a threshold. -/
inductive Origin where
  /-- At a severity. -/
  | severity (s : Severity)
  /-- At the severity that is used where none is given. -/
  | default
  /-- At the severity that a text says. -/
  | text (text : String)
  deriving DecidableEq, Repr

/-- Makes a threshold, unless a text says no severity. -/
def Origin.make : Origin → Except Severity.ParseError Threshold
  | severity s => .ok (ofSeverity s)
  | default => .ok .default
  | text t => Threshold.parse t

/-- The severity that a threshold is made at. -/
def Origin.level : Origin → Except Severity.ParseError Severity
  | severity s => .ok s
  | default => .ok (.base .info)
  | text t => Severity.parse t

section
variable {origin : Origin} {t : Threshold}

/-- The byte is the value of the severity: none is too large for a byte. -/
theorem toNat_byte (s : Severity) : (ofSeverity s).byte.toNat = s.value :=
  UInt8.toNat_ofNat_of_lt (Nat.lt_of_le_of_lt s.value_le (by decide))

/-- The byte is on the scale. -/
theorem bounds_byte (s : Severity) :
    1 ≤ (ofSeverity s).byte.toNat ∧ (ofSeverity s).byte.toNat ≤ 24 := by
  rw [toNat_byte]
  exact ⟨s.one_le_value, s.value_le⟩

/-- The severity is found under the byte. -/
theorem ofValue?_byte (s : Severity) : Severity.ofValue? (ofSeverity s).byte.toNat = some s := by
  rw [toNat_byte]
  exact Severity.ofValue?_value s

/-- What is made is the threshold at the severity of its origin. -/
theorem Origin.make_eq (origin : Origin) : origin.make = origin.level.map ofSeverity := by
  cases origin <;> rfl

/-- A threshold that was made was made at a severity. -/
theorem Origin.level_of_make (h : origin.make = .ok t) :
    ∃ s, origin.level = .ok s ∧ t = ofSeverity s := by
  rw [origin.make_eq] at h
  cases hlevel : origin.level with
  | error e =>
    rw [hlevel] at h
    cases h
  | ok s =>
    rw [hlevel] at h
    cases h
    exact ⟨s, rfl, rfl⟩

end

end LogGate.Threshold
