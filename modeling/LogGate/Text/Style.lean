/-!
# Styles of text on a terminal

A part of a text is drawn in a style by control sequences around it: those that start the style, and
one that ends all styles.
-/

namespace LogGate.Text

/-- How a part of a text looks on a terminal. -/
inductive Style where
  /-- Bold, for what is to be typed as it stands. -/
  | literal
  /-- Yellow, for what cannot be accepted. -/
  | refused
  /-- Bold and red, for the word that announces an error. -/
  | alarm
  deriving DecidableEq, Repr

/-- The control sequences that start a style. -/
def Style.start : Style → String
  | literal => "\x1b[1m"
  | refused => "\x1b[33m"
  | alarm => "\x1b[1m\x1b[31m"

/-- A text in a style, which ends behind the text. -/
def Style.draw (style : Style) (s : String) : String := style.start ++ s ++ "\x1b[0m"

end LogGate.Text
