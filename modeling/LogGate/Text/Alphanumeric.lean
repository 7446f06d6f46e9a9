import LogGate.Text.Alphabetic
import LogGate.Text.Numeric

/-!
# Letters and numbers

The characters that belong to words or to numbers.
-/

namespace LogGate.Text

/-- Whether a character is a letter, a number or the digit of one. -/
def isAlphanumeric (c : Char) : Bool := isAlphabetic c || isNumeric c

end LogGate.Text
