import LogGate.Decimal.Shortest
import LogGate.Json.Literal
import LogGate.Text.Integer

/-!
# Numbers in a document

A numeral is an optional minus sign, a whole part without needless zeros, and optionally a fraction
and an exponent. No document has a number where one is wanted, so a number is only ever passed over
or named in a complaint. `Numeral.read` reads its form. `Numeral.found` says what a complaint shows:
the integer, if it has the form of one and fits 64 bits, and else the nearest floating-point number
that a fixed way of computing finds. That way keeps as many leading digits as fit 64 bits and scales
them by one power of ten, so it may be off in the last place.
-/

namespace LogGate.Json

/-- A number as it is written, without its sign. -/
structure Numeral where
  whole : List Char
  fraction : Option (List Char)
  /-- Whether the exponent is negative, and its digits. -/
  exponent : Option (Bool × List Char)
  deriving DecidableEq, Repr

namespace Numeral

/-- The complaint about a number that the document breaks off in. A number that is passed over
does not tell this from a wrong character. -/
def brokenOff : Scrutiny → Fault
  | .full => .ends .value
  | .form => ⟨.invalidNumber, .fixed 0⟩

/-- Takes the digits that come next. -/
def run (s : List Char) : List Char × List Char :=
  (s.takeWhile Char.isDigit, s.dropWhile Char.isDigit)

/-- Reads a whole part: a zero, or digits that start with none. -/
def readWhole (how : Scrutiny) : List Char → Except Fault (List Char × List Char)
  | [] => .error (brokenOff how)
  | c :: s =>
    if c = '0' then
      if (run s).1.isEmpty then .ok (['0'], s) else .error (.next .invalidNumber s)
    else if c.isDigit then .ok (run (c :: s))
    else .error (.next .invalidNumber (c :: s))

/-- Reads the digits of a fraction or an exponent, at least one. -/
def readDigits (how : Scrutiny) (s : List Char) : Except Fault (List Char × List Char) :=
  if (run s).1.isEmpty then
    .error (if s.isEmpty then brokenOff how else .next .invalidNumber s)
  else .ok (run s)

/-- Reads a fraction, if there is one. -/
def readFraction (how : Scrutiny) : List Char → Except Fault (Option (List Char) × List Char)
  | '.' :: s => (readDigits how s).map fun (digits, r) => (some digits, r)
  | s => .ok (none, s)

/-- Reads an exponent, if there is one. -/
def readExponent (how : Scrutiny) : List Char → Except Fault (Option (Bool × List Char) × List Char)
  | [] => .ok (none, [])
  | c :: s =>
    if c = 'e' ∨ c = 'E' then
      let (negative, s) := match s with
        | '-' :: r => (true, r)
        | '+' :: r => (false, r)
        | r => (false, r)
      (readDigits how s).map fun (digits, r) => (some (negative, digits), r)
    else .ok (none, c :: s)

/-- Reads a number after its sign. -/
def read (how : Scrutiny) (s : List Char) : Except Fault (Numeral × List Char) := do
  let (whole, s) ← readWhole how s
  let (fraction, s) ← readFraction how s
  let (exponent, s) ← readExponent how s
  pure (⟨whole, fraction, exponent⟩, s)

/-! ## Reading goes forward -/

theorem run_length_le (s : List Char) : (run s).2.length ≤ s.length :=
  (List.dropWhile_suffix Char.isDigit).length_le

/-- A whole part has at least one digit. -/
theorem readWhole_length_lt {how : Scrutiny} {s a r : List Char}
    (h : readWhole how s = .ok (a, r)) : r.length < s.length := by
  cases s with
  | nil => cases h
  | cons c s =>
    simp only [readWhole] at h
    split at h
    · split at h
      · cases h; exact Nat.lt_succ_self _
      · cases h
    · split at h
      · rename_i hc
        cases h
        simp only [List.dropWhile_cons, hc, if_true]
        exact Nat.lt_succ_of_le (run_length_le s)
      · cases h

theorem readDigits_length_le {how : Scrutiny} {s a r : List Char}
    (h : readDigits how s = .ok (a, r)) : r.length ≤ s.length := by
  unfold readDigits at h
  split at h
  · cases h
  · cases h; exact run_length_le s

theorem readFraction_length_le {how : Scrutiny} {s r : List Char} {a : Option (List Char)}
    (h : readFraction how s = .ok (a, r)) : r.length ≤ s.length := by
  unfold readFraction at h
  split at h
  · cases hd : readDigits how _ with
    | error => rw [hd] at h; cases h
    | ok p => rw [hd] at h; cases h; exact Nat.le_succ_of_le (readDigits_length_le hd)
  · cases h; exact Nat.le_refl _

theorem readExponent_length_le {how : Scrutiny} {s r : List Char} {a : Option (Bool × List Char)}
    (h : readExponent how s = .ok (a, r)) : r.length ≤ s.length := by
  cases s with
  | nil => cases h; exact Nat.le_refl _
  | cons c s =>
    simp only [readExponent] at h
    split at h
    · split at h <;>
      · cases hd : readDigits how _ with
        | error => rw [hd] at h; cases h
        | ok p =>
          rw [hd] at h; cases h
          have := readDigits_length_le hd
          simp only [List.length_cons] at this ⊢
          omega
    · cases h; exact Nat.le_refl _

/-- A number has at least one digit. -/
theorem read_length_lt {how : Scrutiny} {s r : List Char} {n : Numeral}
    (h : read how s = .ok (n, r)) : r.length < s.length := by
  unfold read at h
  cases hw : readWhole how s with
  | error => rw [hw] at h; cases h
  | ok w =>
    rw [hw] at h
    have h1 := readWhole_length_lt hw
    cases hf : readFraction how w.2 with
    | error => simp [bind, Except.bind, hf] at h
    | ok f =>
      have h2 := readFraction_length_le hf
      cases he : readExponent how f.2 with
      | error => simp [bind, Except.bind, hf, he] at h
      | ok e =>
        have h3 := readExponent_length_le he
        simp [bind, Except.bind, hf, he, pure, Except.pure] at h
        obtain ⟨-, rfl⟩ := h
        omega

/-! ## What a number shows -/

/-- The significand that digits add up to on top of a given one, as far as it fits 64 bits, and the
number of digits that are left over. -/
def absorb : Nat → List Char → Nat × Nat
  | n, [] => (n, 0)
  | n, c :: s =>
    let next := 10 * n + Text.digitsValue [c]
    if next < 18_446_744_073_709_551_616 then absorb next s else (n, s.length + 1)

/-- The number of digits after which an exponent no longer fits a signed 32-bit word. -/
def overflowsAfter (digits : List Char) : Option Nat :=
  (List.range (digits.length + 1)).find? fun k => 2_147_483_648 ≤ Text.digitsValue (digits.take k)

/-- A power of ten. -/
def powerOfTen (k : Nat) : Float := Float.ofScientific 1 false k

/-- A floating-point number times a power of ten, unless that is too large. -/
def scale (f : Float) (e : Int) : Option Float :=
  if e.natAbs ≤ 308 then
    if 0 ≤ e then
      let g := f * powerOfTen e.natAbs
      if g.isInf then none else some g
    else some (f / powerOfTen e.natAbs)
  else if f == 0 then some f
  else if 0 ≤ e then none
  else scale (f / powerOfTen 308) (e + 308)
termination_by (-e).toNat

/-- How a floating-point number is shown: plainly from 10^-5 and below 10^16. -/
def layout : Decimal.Layout := ⟨-5, 16⟩

/-- Shows a finite floating-point number. -/
def showFloat (negative : Bool) (f : Float) : String :=
  (if negative then "-" else "") ++
    if f == 0 then "0.0" else (Decimal.Binary.ofFloat f).shortest.render layout

/-- The significand of a number, and the power of ten to scale it by without the exponent. -/
def significand (n : Numeral) : Nat × Int :=
  let (m, excess) := absorb 0 n.whole
  match n.fraction with
  | none => (m, excess)
  | some digits =>
    let (m, rest) := absorb m digits
    (m, (excess : Int) - ((digits.length : Int) - rest))

/-- Shows a number that is no integer of 64 bits; `rest` is what follows it. -/
def foundReal (negative : Bool) (n : Numeral) (rest : List Char) : Except Fault Found :=
  let (m, e) := n.significand
  let shown (power : Int) : Except Fault Found :=
    match scale m.toUInt64.toFloat power with
    | some f => .ok (.real (showFloat negative f))
    | none => .error (.here .numberOutOfRange rest)
  match n.exponent with
  | none => shown e
  | some (down, digits) =>
    match overflowsAfter digits with
    | none => shown (if down then e - Text.digitsValue digits else e + Text.digitsValue digits)
    | some k =>
      if m = 0 ∨ down then .ok (.real (showFloat negative 0))
      else .error (.here .numberOutOfRange (digits.drop k ++ rest))

/-- What a complaint shows of a number. Zero with a minus sign is no integer. -/
def found (negative : Bool) (n : Numeral) (rest : List Char) : Except Fault Found :=
  match n.fraction, n.exponent, absorb 0 n.whole with
  | none, none, (m, 0) =>
    if negative then
      if 0 < m ∧ m ≤ 9_223_372_036_854_775_808 then .ok (.integer (-(m : Int)))
      else foundReal negative n rest
    else .ok (.integer m)
  | _, _, _ => foundReal negative n rest

end Numeral

end LogGate.Json
