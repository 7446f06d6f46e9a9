/-!
# White space at the ends of a text

The characters with Unicode's `White_Space` property (`isBlank`), a text without those it starts
with (`dropBlanks`), and a text without those it starts or ends with (`trim`).
-/

namespace LogGate.Text

/-- The characters that have the Unicode property `White_Space`: 25 of them, in ten ranges. -/
def isBlank (c : Char) : Bool :=
  let n := c.toNat
  (0x09 <= n && n <= 0x0D) || n == 0x20 || n == 0x85 || n == 0xA0 || n == 0x1680 ||
    (0x2000 <= n && n <= 0x200A) || (0x2028 <= n && n <= 0x2029) || n == 0x202F || n == 0x205F ||
    n == 0x3000

/-- What is left of a text after the white space it starts with. -/
def dropBlanks (s : List Char) : List Char := s.dropWhile isBlank

/-- A text without the white space at its two ends. -/
def trim (s : List Char) : List Char := (dropBlanks (dropBlanks s).reverse).reverse

end LogGate.Text
