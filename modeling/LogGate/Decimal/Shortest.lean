/-!
# The shortest decimal that reads back

A binary floating-point number `m · 2^q` stands for every real that rounds to it: the interval that
reaches half way to its two neighbours, ends included when `m` is even. Among the decimals
`digits · 10^exponent` in that interval, `shortest` gives one with the fewest digits, and among
those the one nearest to the number. It looks at the decimal grids from the coarsest down; on each
grid only the two points around the number can be in the interval. `Decimal.Layout` then says how a
decimal is written out.
-/

namespace LogGate

/-- The positive number `digits · 10^exponent`. -/
structure Decimal where
  digits : Nat
  exponent : Int
  deriving DecidableEq, Repr

namespace Decimal

/-- A positive binary number `m · 2^q`. The gap to the neighbour below is half as wide as the one
above where `narrowBelow` holds, at the powers of two. -/
structure Binary where
  m : Nat
  q : Int
  narrowBelow : Bool

namespace Binary

/-- The binary number as a fraction over the grid of a decimal exponent: `numerator / denominator`
counts steps of `10^e`. -/
def onGrid (x : Binary) (e : Int) : Nat × Nat :=
  (x.m * Nat.pow 2 x.q.toNat * Nat.pow 10 (-e).toNat,
    Nat.pow 2 (-x.q).toNat * Nat.pow 10 e.toNat)

/-- Whether `k` steps of `10^e` round to the number. The interval is taken in quarters of the gap
above it. -/
def covers (x : Binary) (e : Int) (k : Nat) : Bool :=
  let scale := Nat.pow 2 x.q.toNat * Nat.pow 10 (-e).toNat
  let point := 4 * k * (x.onGrid e).2
  let low := (4 * x.m - (if x.narrowBelow then 1 else 2)) * scale
  let high := (4 * x.m + 2) * scale
  if x.m % 2 = 0 then low ≤ point && point ≤ high else low < point && point < high

/-- The point of a grid that rounds to the number, if there is one: the nearer one if there are
two, and the even one if both are as near. -/
def onGrid? (x : Binary) (e : Int) : Option Nat :=
  let (num, den) := x.onGrid e
  let below := num / den
  match x.covers e below, x.covers e (below + 1) with
  | false, false => none
  | true, false => some below
  | false, true => some (below + 1)
  | true, true =>
    match compare (2 * (num % den)) den with
    | .lt => some below
    | .gt => some (below + 1)
    | .eq => some (if below % 2 = 0 then below else below + 1)

/-- The first grid with a point that rounds to the number, among `count` grids from `10^e` down. -/
def firstGrid (x : Binary) : Nat → Int → Option Decimal
  | 0, _ => none
  | count + 1, e =>
    match x.onGrid? e with
    | some k => some ⟨k, e⟩
    | none => x.firstGrid count (e - 1)

/-- A grid that is no finer than the leading digit of the number. -/
def coarsest (x : Binary) : Int :=
  let (num, den) := x.onGrid 0
  ((Nat.toDigits 10 num).length : Int) - (Nat.toDigits 10 den).length

/-- The shortest decimal that rounds to the number. Seventeen digits always do for a number of 53
bits, so nineteen grids are enough. -/
def shortest (x : Binary) : Decimal :=
  (x.firstGrid 19 x.coarsest).getD ⟨x.m, 0⟩

/-- The bit of a significand of 53 bits that is not stored. -/
def hidden : Nat := 4_503_599_627_370_496

/-- The absolute value of a finite 64-bit floating-point number that is not zero. -/
def ofFloat (f : Float) : Binary :=
  let bits : Nat := f.toBits.toNat
  let fraction : Nat := bits % hidden
  let exponent : Nat := bits / hidden % 2048
  if exponent = 0 then ⟨fraction, -1074, false⟩
  else ⟨hidden + fraction, (exponent : Int) - 1075, fraction == 0 && 1 < exponent⟩

end Binary

/-- Where a decimal is written plainly: from `10^low` and below `10^high`. Elsewhere it has an
exponent, with a sign. -/
structure Layout where
  low : Int
  high : Int

/-- The digits of a decimal without the zeros at its end, and the exponent of its first digit. -/
def normal (d : Decimal) : List Char × Int :=
  let digits := Nat.toDigits 10 d.digits
  (((digits.reverse.dropWhile (· == '0')).reverse), d.exponent + digits.length - 1)

/-- Writes a decimal. A plain one has at least one digit on each side of its point. -/
def render (layout : Layout) (d : Decimal) : String :=
  let (digits, lead) := d.normal
  if layout.low ≤ lead ∧ lead < layout.high then
    if lead < 0 then
      "0." ++ String.ofList (List.replicate (-lead - 1).toNat '0' ++ digits)
    else
      let width := lead.toNat + 1
      let whole := digits.take width
      let fraction := digits.drop width
      String.ofList (whole ++ List.replicate (width - whole.length) '0') ++ "." ++
        (if fraction.isEmpty then "0" else String.ofList fraction)
  else
    let mantissa := match digits with
      | first :: rest@(_ :: _) => first :: '.' :: rest
      | short => short
    String.ofList mantissa ++ "e" ++ (if lead < 0 then "-" else "+") ++ Nat.repr lead.natAbs

end Decimal

end LogGate
