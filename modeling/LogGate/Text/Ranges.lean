/-!
# Ranges of characters

A property of characters is given by the ranges of the code points that have it.
-/

namespace LogGate.Text

/-- Whether a character lies in one of some ranges, each with its first and last code point. -/
def liesIn (ranges : Array (Nat × Nat)) (c : Char) : Bool :=
  ranges.any fun (first, last) => first <= c.toNat && c.toNat <= last

end LogGate.Text
