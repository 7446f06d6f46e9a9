/-!
# The severity scale

A severity is a family and one of its four steps, from `TRACE`, `TRACE2`, `TRACE3`, `TRACE4` up to
`FATAL4`. Its value on the scale runs from 1 to 24, and severities are ordered by that value: a
higher one is more severe. `Severity.ofValue?` is the inverse of `Severity.value`.
-/

namespace LogGate

/-- The six families of severities, from the least to the most severe. -/
inductive Family where
  | trace
  | debug
  | info
  | warn
  | error
  | fatal
  deriving DecidableEq, Repr

namespace Family

/-- The place of a family on the scale, counted from zero. -/
def rank : Family → Nat
  | trace => 0
  | debug => 1
  | info => 2
  | warn => 3
  | error => 4
  | fatal => 5

/-- The name of a family, in capitals. -/
def name : Family → String
  | trace => "TRACE"
  | debug => "DEBUG"
  | info => "INFO"
  | warn => "WARN"
  | error => "ERROR"
  | fatal => "FATAL"

/-- The family that has a rank, for the ranks 0 to 5. -/
def ofRank? : Nat → Option Family
  | 0 => some trace
  | 1 => some debug
  | 2 => some info
  | 3 => some warn
  | 4 => some error
  | 5 => some fatal
  | _ => none

end Family

/-- A severity: a step within a family. Step 0 is the family's base level. -/
structure Severity where
  family : Family
  step : Fin 4
  deriving DecidableEq, Repr

namespace Severity

/-- The base level of a family. -/
def base (family : Family) : Severity := ⟨family, 0⟩

/-- The severity that is used where none is given: `INFO`. -/
def default : Severity := base .info

instance : Inhabited Severity := ⟨default⟩

/-- The value of a severity on the scale, from 1 to 24. -/
def value (s : Severity) : Nat := 4 * s.family.rank + s.step + 1

/-- The severity that has a value, for the values 1 to 24. -/
def ofValue? (n : Int) : Option Severity :=
  if 1 ≤ n then
    let k := n.toNat - 1
    (Family.ofRank? (k / 4)).map fun family => ⟨family, Fin.ofNat 4 k⟩
  else none

/-- The name of a severity: its family's, followed by 2, 3 or 4 above the base level. -/
def name (s : Severity) : String :=
  if s.step = 0 then s.family.name else s.family.name ++ Nat.repr (s.step + 1)

/-- Severities are ordered by value. -/
instance : LE Severity := ⟨fun a b => a.value ≤ b.value⟩

/-- Severities are ordered by value. -/
instance : LT Severity := ⟨fun a b => a.value < b.value⟩

instance (a b : Severity) : Decidable (a ≤ b) := inferInstanceAs (Decidable (a.value ≤ b.value))

instance (a b : Severity) : Decidable (a < b) := inferInstanceAs (Decidable (a.value < b.value))

instance : Max Severity := maxOfLe

instance : Min Severity := minOfLe

instance : Ord Severity := ⟨fun a b => compare a.value b.value⟩

/-- Every severity is found again under its value. -/
theorem ofValue?_value (s : Severity) : ofValue? s.value = some s := by
  obtain ⟨family, step⟩ := s
  revert step
  cases family <;> decide

end Severity

end LogGate
