/-!
# Integers in decimal

An integer is written as one optional sign and one or more ASCII digits, with any number of leading
zeros. `natural?` and `integer?` read the whole of a text that way and are unbounded; a reader that
keeps its numbers in a signed 64-bit word asks `fitsWord` afterwards. `padded` writes a natural
number with at least a given number of digits.
-/

namespace LogGate.Text

/-- The number that a row of decimal digits denotes, most significant digit first. -/
def digitsValue (digits : List Char) : Nat :=
  digits.foldl (fun n c => 10 * n + (c.toNat - '0'.toNat)) 0

/-- The natural number that a text of one or more digits denotes. -/
def natural? (s : List Char) : Option Nat :=
  if !s.isEmpty && s.all Char.isDigit then some (digitsValue s) else none

/-- The integer that a text of one optional sign and one or more digits denotes. -/
def integer? : List Char → Option Int
  | '+' :: s => (natural? s).map Int.ofNat
  | '-' :: s => (natural? s).map fun n => -Int.ofNat n
  | s => (natural? s).map Int.ofNat

/-- Whether an integer lies in the range of signed 64-bit words. -/
def fitsWord (n : Int) : Bool :=
  -9_223_372_036_854_775_808 <= n && n < 9_223_372_036_854_775_808

/-- The digits of a natural number, with zeros put before them up to `width` digits. -/
def padded (width n : Nat) : String :=
  let digits := Nat.toDigits 10 n
  String.ofList (List.replicate (width - digits.length) '0' ++ digits)

end LogGate.Text
