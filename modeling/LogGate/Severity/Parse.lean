import LogGate.Severity.Basic
import LogGate.Text.Blank
import LogGate.Text.Integer

/-!
# Reading a severity

A severity is written as a name, in any case and with white space around it, and then nothing, a
step from 1 to 4 (`info3`), or a signed offset from the base level on the whole scale (`error-1`).
`warning` is another name of `warn`. `Severity.parse` refuses everything else, and
`Severity.ParseError` says why: the name is not known, what follows the name is no step and no
offset, or the offset leads off the scale. Steps and offsets are signed 64-bit numbers, and so is
the sum of a base level and an offset.
-/

namespace LogGate

/-- The family that a name in small letters stands for. -/
def Family.ofName? : String → Option Family
  | "trace" => some .trace
  | "debug" => some .debug
  | "info" => some .info
  | "warn" => some .warn
  | "warning" => some .warn
  | "error" => some .error
  | "fatal" => some .fatal
  | _ => none

namespace Severity

/-- Why a text is not a severity. The texts are kept as they were given. -/
inductive ParseError where
  /-- The offset leads to this value, which is not on the scale. -/
  | outOfRange (value : Int)
  /-- The letters that the text starts with are no name. -/
  | unknownName (text : String)
  /-- What follows the name is neither a step nor an offset, or does not fit its word. -/
  | invalidOffset (text : String)
  deriving DecidableEq, Repr

/-- The text of an error. -/
def ParseError.message : ParseError → String
  | outOfRange value => "Severity value " ++ Int.repr value ++ " is outside the range 1..=24"
  | unknownName text => "Unknown severity name \"" ++ text ++ "\""
  | invalidOffset text => "Invalid severity offset in \"" ++ text ++ "\""

/-- What may follow a name. -/
inductive Suffix where
  /-- Nothing: the base level. -/
  | bare
  /-- A signed distance on the scale from the base level. -/
  | offset (distance : Int)
  /-- A step of the family. -/
  | step (step : Fin 4)
  deriving DecidableEq, Repr

theorem Suffix.pred_lt_four {k : Nat} (h : 1 ≤ k ∧ k ≤ 4) : k - 1 < 4 := by omega

/-- Reads what follows a name: nothing, a sign and digits, or digits of value 1 to 4. -/
def Suffix.parse? : List Char → Option Suffix
  | [] => some .bare
  | c :: s =>
    if c = '+' ∨ c = '-' then
      ((Text.integer? (c :: s)).filter Text.fitsWord).map .offset
    else
      (Text.natural? (c :: s)).bind fun k =>
        if h : 1 ≤ k ∧ k ≤ 4 then some (.step ⟨k - 1, pred_lt_four h⟩) else none

/-- The severity at a value, or the error that it is off the scale. -/
def ofValue (n : Int) : Except ParseError Severity :=
  match ofValue? n with
  | some s => .ok s
  | none => .error (.outOfRange n)

/-- Reads a severity. The errors quote the text as it was given, with its white space. -/
def parse (text : String) : Except ParseError Severity :=
  let folded := (Text.trim text.toList).map Char.toLower
  match Family.ofName? (String.ofList (folded.takeWhile Char.isAlpha)) with
  | none => .error (.unknownName text)
  | some family =>
    match Suffix.parse? (folded.dropWhile Char.isAlpha) with
    | none => .error (.invalidOffset text)
    | some .bare => .ok (base family)
    | some (.step k) => .ok ⟨family, k⟩
    | some (.offset distance) =>
      let n := (base family).value + distance
      if Text.fitsWord n then ofValue n else .error (.invalidOffset text)

end Severity

end LogGate
