import LogGate.Pattern.Reader

/-!
# Patterns that cannot be used

Not every pattern can be used. It must not be nested too deep (`nestingLimit`), and each of its
pieces has to make sense under the flags where it stands (`Piece.isSound`). Patterns know nothing
about characters beyond their code points: there are no digits, blanks or words of all scripts, and
no lower and upper case of them. But they only ever match whole characters: bytes have to be ASCII.

The ends of words of all scripts are no fault in themselves, but nothing is found by them. This is
only said of patterns that have no other fault (`fault?`).
-/

namespace LogGate.Pattern

/-- What the flags at a place say about characters. -/
structure Mode where
  /-- Whether they match in either case. -/
  ignoreCase : Bool := false
  /-- Whether they are those of all scripts, and not bytes. -/
  unicode : Bool := true
  deriving DecidableEq, Repr

/-- The mode behind flags. -/
def Mode.turn (mode : Mode) (flags : Flags) : Mode where
  ignoreCase := flags.turn .ignoreCase mode.ignoreCase
  unicode := flags.turn .unicode mode.unicode

/-! ## Pieces -/

/-- Whether a character is one of ASCII. -/
def Literal.isAscii (l : Literal) : Bool := l.char < '\x80'

mutual

/-- Whether a class can be used. A class of bytes that is negated would hold bytes that are not
ASCII. -/
def CharSet.isSound (mode : Mode) : CharSet → Bool
  | .literal l => if mode.unicode then !mode.ignoreCase else l.isAscii
  | .range first last =>
    if mode.unicode then !mode.ignoreCase else first.isAscii && last.isAscii
  | .shorthand negated => !mode.unicode && !negated
  | .named negated => if mode.unicode then !mode.ignoreCase else !negated
  | .bracketed negated set => (mode.unicode || !negated) && set.isSound mode
  | .union sets => CharSet.areSound mode sets
  | .combined left right => left.isSound mode && right.isSound mode

/-- Whether some classes can be used. -/
def CharSet.areSound (mode : Mode) : List CharSet → Bool
  | [] => true
  | set :: sets => set.isSound mode && CharSet.areSound mode sets

end

/-- Whether a piece can be used. -/
def Piece.isSound (mode : Mode) : Piece → Bool
  | .literal l => if mode.unicode then !mode.ignoreCase else !l.isByte || l.isAscii
  | .any => mode.unicode
  | .boundary | .wordBoundary => true
  | .shorthand negated => !mode.unicode && !negated
  | .oneOf set => set.isSound mode

mutual

/-- The pieces of a pattern, each with its mode, and the mode behind the pattern. -/
def pieces (mode : Mode) : Pattern → List (Mode × Piece) × Mode
  | .piece p => ([(mode, p)], mode)
  | .turn flags => ([], mode.turn flags)
  | .group flags p => ((p.pieces (mode.turn flags)).1, mode)
  | .repeated p => p.pieces mode
  | .sequence ps => piecesOfList mode ps
  | .choice ps => piecesOfList mode ps

/-- The pieces of some patterns that follow each other, and the mode behind them. -/
def piecesOfList (mode : Mode) : List Pattern → List (Mode × Piece) × Mode
  | [] => ([], mode)
  | p :: ps =>
    let (first, mode) := p.pieces mode
    let (others, mode) := piecesOfList mode ps
    (first ++ others, mode)

end

/-! ## Faults -/

/-- How deep a pattern can be nested. -/
def nestingLimit : Nat := 250

/-- Why a text cannot be used as a pattern. -/
inductive Fault where
  /-- It is not a pattern, or has pieces that cannot be used. -/
  | unusable
  /-- It asks for the ends of words of all scripts. -/
  | wordBoundary
  deriving DecidableEq, Repr

/-- The text of a fault. -/
def Fault.message : Fault → String
  | unusable => "error building NFA"
  | wordBoundary => "unsupported regex feature for DFAs: cannot build DFAs for regexes with " ++
      "Unicode word boundaries; switch to ASCII word boundaries, or heuristically enable " ++
      "Unicode word boundaries or use a different regex engine"

/-- Whether a piece is the end of a word of any script. -/
def Piece.isUnicodeBoundary (mode : Mode) : Piece → Bool
  | .wordBoundary => mode.unicode
  | _ => false

/-- Why a text cannot be used as a pattern, if it cannot. -/
def fault? (text : String) : Option Fault :=
  match ofText? text with
  | none => some .unusable
  | some pattern =>
    let (pieces, _) := pattern.pieces {}
    if nestingLimit < pattern.nesting then some .unusable
    else if !pieces.all fun (mode, p) => p.isSound mode then some .unusable
    else if pieces.any fun (mode, p) => p.isUnicodeBoundary mode then some .wordBoundary
    else none

end LogGate.Pattern
