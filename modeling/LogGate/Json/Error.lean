import LogGate.Text.Quoted
import LogGate.Text.Utf8

/-!
# What can be wrong with a document

A reader of documents meets a `Complaint` at some place. It names the place by the number of bytes
that are left of the document there, so it needs no count of what it has read; or it leaves the
place open, and then the list or object that the complaint leaves first fixes it (`Fault.settle`).
`Fault.locate` turns the place into a line and a column: a line begins after each line feed, and a
column counts bytes.
-/

namespace LogGate.Json

/-- What a document was in the middle of when it ended. -/
inductive Construct where
  | value
  | list
  | object
  | text
  deriving DecidableEq, Repr

/-- A value of a type that was not expected. -/
inductive Found where
  | null
  | boolean (value : Bool)
  | integer (value : Int)
  /-- A number that is not an integer, or none of 64 bits, as it is shown. -/
  | real (shown : String)
  | text (value : String)
  | sequence
  | map
  deriving DecidableEq, Repr

/-- What a reader may complain about. -/
inductive Complaint where
  /-- The document ends too early. -/
  | endsIn (construct : Construct)
  | expectedValue
  /-- A word that starts like `null`, `true` or `false` goes on differently. -/
  | expectedWord
  | expectedColon
  | expectedCommaOrListEnd
  | expectedCommaOrObjectEnd
  | trailingComma
  | trailingCharacters
  | keyMustBeText
  | invalidNumber
  | numberOutOfRange
  | invalidEscape
  /-- A surrogate that is not the first half of a pair, or a first half without its second. -/
  | loneSurrogate
  /-- The first half of a surrogate pair that no escape follows. -/
  | unfinishedPair
  | controlCharacter
  | wrongType (found : Found) (expected : String)
  | wrongLength (length : Nat) (expected : String)
  | missingField (name : String)
  | duplicateField (name : String)
  /-- A text that is well-formed and of the right type, and that its reader refuses. -/
  | refused (reason : String)
  deriving DecidableEq, Repr

/-- The three kinds of complaint: the document is malformed, it ends too early, or it is
well-formed as far as it was read and does not suit. -/
inductive Category where
  | malformed
  | truncated
  | unsuitable
  deriving DecidableEq, Repr

/-- How a message names a construct. -/
def Construct.name : Construct → String
  | value => "a value"
  | list => "a list"
  | object => "an object"
  | text => "a string"

/-- How a message names a value of the wrong type. -/
def Found.name : Found → String
  | null => "null"
  | boolean true => "boolean `true`"
  | boolean false => "boolean `false`"
  | integer n => "integer `" ++ Int.repr n ++ "`"
  | real shown => "floating point `" ++ shown ++ "`"
  | text s => "string " ++ Text.quote s
  | sequence => "sequence"
  | map => "map"

namespace Complaint

/-- The kind of a complaint. -/
def category : Complaint → Category
  | endsIn _ => .truncated
  | wrongType .. | wrongLength .. | missingField _ | duplicateField _ | refused _ => .unsuitable
  | _ => .malformed

/-- The text of a complaint, without its place. -/
def message : Complaint → String
  | endsIn construct => "EOF while parsing " ++ construct.name
  | expectedValue => "expected value"
  | expectedWord => "expected ident"
  | expectedColon => "expected `:`"
  | expectedCommaOrListEnd => "expected `,` or `]`"
  | expectedCommaOrObjectEnd => "expected `,` or `\x7d`"
  | trailingComma => "trailing comma"
  | trailingCharacters => "trailing characters"
  | keyMustBeText => "key must be a string"
  | invalidNumber => "invalid number"
  | numberOutOfRange => "number out of range"
  | invalidEscape => "invalid escape"
  | loneSurrogate => "lone leading surrogate in hex escape"
  | unfinishedPair => "unexpected end of hex escape"
  | controlCharacter => "control character (\\u0000-\\u001F) found while parsing a string"
  | wrongType found expected => "invalid type: " ++ found.name ++ ", expected " ++ expected
  | wrongLength length expected =>
    "invalid length " ++ Nat.repr length ++ ", expected " ++ expected
  | missingField name => "missing field `" ++ name ++ "`"
  | duplicateField name => "duplicate field `" ++ name ++ "`"
  | refused reason => reason

end Complaint

/-- The place of a complaint while the document is being read. -/
inductive Place where
  /-- So many bytes before the end of the document. -/
  | fixed (left : Nat)
  /-- Not fixed yet. This is what was left to read when the complaint arose. -/
  | floating (rest : List Char)
  deriving DecidableEq, Repr

/-- A complaint and its place. -/
structure Fault where
  complaint : Complaint
  place : Place
  deriving DecidableEq, Repr

/-- A position in a document. Lines count from one, columns from zero. -/
structure Position where
  line : Nat
  column : Nat
  deriving DecidableEq, Repr

/-- What is wrong with a whole document. A complaint that no list or object surrounded has no
position. -/
structure Error where
  complaint : Complaint
  position : Option Position
  deriving DecidableEq, Repr

/-- The text of an error. -/
def Error.message (e : Error) : String :=
  match e.position with
  | none => e.complaint.message
  | some p =>
    e.complaint.message ++ " at line " ++ Nat.repr p.line ++ " column " ++ Nat.repr p.column

/-- The kind of an error. -/
def Error.category (e : Error) : Category := e.complaint.category

/-- The position so many bytes into a text, when the text begins at a given position. -/
def Position.advance (p : Position) : List Char → Nat → Position
  | [], _ => p
  | _ :: _, 0 => p
  | c :: s, n + 1 =>
    if c = '\n' then Position.advance ⟨p.line + 1, 0⟩ s n
    else if n + 1 < c.utf8Size then ⟨p.line, p.column + (n + 1)⟩
    else Position.advance ⟨p.line, p.column + c.utf8Size⟩ s (n + 1 - c.utf8Size)

/-- The error that a fault is in a document. -/
def Fault.locate (f : Fault) (document : List Char) : Error where
  complaint := f.complaint
  position := match f.place with
    | .floating _ => none
    | .fixed left => some (Position.advance ⟨1, 0⟩ document (Utf8.size document - left))

/-- The complaint that something is wrong just before what is left. -/
def Fault.here (c : Complaint) (rest : List Char) : Fault := ⟨c, .fixed (Utf8.size rest)⟩

/-- The complaint that the next byte is wrong. The place is behind that byte, or at the end of the
document. -/
def Fault.next (c : Complaint) (rest : List Char) : Fault := ⟨c, .fixed (Utf8.size rest - 1)⟩

/-- The complaint that the document ends within a construct. -/
def Fault.ends (construct : Construct) : Fault := ⟨.endsIn construct, .fixed 0⟩

/-- A complaint whose place is fixed later. -/
def Fault.floating (c : Complaint) (rest : List Char) : Fault := ⟨c, .floating rest⟩

end LogGate.Json
