import LogGate.Diagnostic.Basic
import LogGate.Pattern.Fault
import LogGate.Text.Alphanumeric
import LogGate.Text.Blank
import LogGate.Text.Integer
import LogGate.Text.Utf8

/-!
# Directives

A directive says down to which level diagnostics are shown. Its form is `origin[span{field}]=level`,
with each part optional, or a level alone: it is about diagnostics whose origin begins like that and
which have the field, among their details or as their message. A field may be asked to have a value,
or one that fits a pattern. Directives that name a span, or the value of a field, are about spans of
time in which diagnostics are told. There are no such spans here, so these directives are read and
then show nothing.

White space around a directive does not count where its parts are looked for, but they are cut out
of the text with that white space, at the same numbers of bytes. Therefore white space before a
directive shifts its parts, and behind a directive it belongs to the last part.
-/

namespace LogGate

/-- The level that a text names or numbers; none where nothing is to be shown. -/
def Level.ofText? (text : List Char) : Option (Option Level) :=
  let number? := Text.natural? (if text.head? = some '+' then text.drop 1 else text)
  match number?, String.ofList (text.map Char.toLower) with
  | some 0, _ | _, "off" => some none
  | some 1, _ | _, "error" => some (some .error)
  | some 2, _ | _, "warn" => some (some .warn)
  | some 3, _ | _, "info" => some (some .info)
  | some 4, _ | _, "debug" => some (some .debug)
  | some 5, _ | _, "trace" => some (some .trace)
  | _, _ => none

/-- What a field has to be. -/
structure Field where
  name : String
  /-- The value that it has to have, or the pattern that its value has to fit. -/
  value : Option String := none
  deriving DecidableEq, Repr

/-- A part of a filter. -/
structure Directive where
  /-- How the origin of a diagnostic has to begin. -/
  beginning : Option String := none
  span : Option String := none
  field : Option Field := none
  /-- The least severe level that is shown; without one, nothing is. -/
  level : Option Level := some .trace
  deriving DecidableEq, Repr

namespace Directive

/-- Why a text is not a directive. -/
inductive ParseError where
  | malformed
  | unknownLevel
  /-- The value of a field is neither a number nor a pattern that can be used. -/
  | badPattern (fault : Pattern.Fault)
  deriving DecidableEq, Repr

/-- The text of an error. -/
def ParseError.message : ParseError → String
  | malformed => "invalid filter directive"
  | unknownLevel => "error parsing level filter: expected one of \"off\", \"error\", \"warn\", " ++
      "\"info\", \"debug\", \"trace\", or a number 0-5"
  | badPattern fault => "invalid field filter: " ++ fault.message

/-- Whether a text is a decimal number, with or without a fraction and an exponent, or the name of
an infinite number or of none. -/
def isNumber (text : List Char) : Bool :=
  let text := if text.head? = some '+' ∨ text.head? = some '-' then text.drop 1 else text
  let whole := text.takeWhile Char.isDigit
  let rest := text.dropWhile Char.isDigit
  let fraction := if rest.head? = some '.' then (rest.drop 1).takeWhile Char.isDigit else []
  let rest := if rest.head? = some '.' then (rest.drop 1).dropWhile Char.isDigit else rest
  ["inf", "infinity", "nan"].contains (String.ofList (text.map Char.toLower)) ||
    (!whole.isEmpty || !fraction.isEmpty) && match rest with
      | [] => true
      | e :: exponent => e.toLower == 'e' && (Text.integer? exponent).isSome

/-- Reads a field, with its value behind `=`. What is behind a second one is passed over. -/
def parseField (text : List Char) : Except ParseError Field :=
  let name := String.ofList (text.takeWhile (· ≠ '='))
  match text.dropWhile (· ≠ '=') with
  | [] => .ok { name }
  | _ :: rest =>
    let value := rest.takeWhile (· ≠ '=')
    let fault? := if isNumber value then none else Pattern.fault? (String.ofList value)
    match fault? with
    | none => .ok { name, value := some (String.ofList value) }
    | some fault => .error (.badPattern fault)

/-- Where a reader stands in a directive. Parts of the directive that it is within have the number
of the byte with which they start. -/
inductive Spot where
  | start
  /-- In a level or an origin. -/
  | head (first : Nat)
  | span (first : Nat)
  | field (first : Nat)
  /-- Behind a field, before the bracket that closes. -/
  | fieldEnd
  /-- Behind the bracket that closes. -/
  | spanEnd
  | level (first : Nat)
  deriving DecidableEq, Repr

/-- A part of a directive. It must not fall into a character. -/
def part (text : List Char) (first last : Nat) : Except ParseError (List Char) :=
  ((Utf8.cut? first last text).map .ok).getD (.error .malformed)

/-- Whether a character can be the first of a level or an origin. -/
def isInitial (c : Char) : Bool := c == '-' || c == ':' || c == '_' || Text.isAlphanumeric c

/-- Reads on over the character at a byte of a text. -/
def step (text : List Char) (spot : Spot) (d : Directive) (byte : Nat) (c : Char) :
    Except ParseError (Spot × Directive) :=
  match spot with
  | .start =>
    if c = '[' then .ok (.span (byte + 1), d)
    else if isInitial c then .ok (.head byte, d)
    else .error .malformed
  | .head first =>
    if c = '=' ∨ c = '[' then do
      let beginning := String.ofList (← part text first byte)
      return (if c = '=' then .level (byte + 1) else .span (byte + 1), { d with beginning })
    else .ok (spot, d)
  | .span first =>
    if c = ']' then do
      return (.spanEnd, { d with span := String.ofList (← part text first byte) })
    else if c = '\x7b' then do
      let span ← part text first byte
      return (.field (byte + 1),
        { d with span := if span.isEmpty then none else some (String.ofList span) })
    else .ok (spot, d)
  | .field first =>
    if c = '\x7d' then do
      let field ← part text first byte
      if field.isEmpty then throw .malformed
      return (.fieldEnd, { d with field := ← parseField field })
    else .ok (spot, d)
  | .fieldEnd => if c = ']' then .ok (.spanEnd, d) else .error .malformed
  | .spanEnd => if c = '=' then .ok (.level (byte + 1), d) else .error .malformed
  | .level _ => .ok (spot, d)

/-- Reads the rest of a directive, which starts at a byte of a text. -/
def parseFrom (text : List Char) (spot : Spot) (d : Directive) (byte : Nat) :
    List Char → Except ParseError Directive
  | c :: cs => do
    let (spot, d) ← step text spot d byte c
    parseFrom text spot d (byte + c.utf8Size) cs
  | [] =>
    match spot with
    | .head first => do
      let head ← part text first (Utf8.size text)
      match Level.ofText? head with
      | some level => return { d with level }
      | none => return { d with beginning := String.ofList head }
    | .level first => do
      let name ← part text first (Utf8.size text)
      if name.isEmpty then return d
      match Level.ofText? name with
      | some level => return { d with level }
      | none => throw .unknownLevel
    | .spanEnd => .ok d
    | _ => .error .malformed

/-- Reads a directive. -/
def parse (text : String) : Except ParseError Directive :=
  parseFrom text.toList .start {} 0 (Text.trim text.toList)

/-- Whether a directive is about diagnostics outside of spans. -/
def isStatic (directive : Directive) : Bool :=
  directive.span.isNone && directive.field.all (·.value.isNone)

/-- Whether a directive is about a diagnostic. -/
def fits (directive : Directive) (d : Diagnostic) : Bool :=
  directive.isStatic && directive.beginning.all (d.origin.startsWith ·) &&
    directive.field.all fun field => field.name == "message" || (d.details.lookup field.name).isSome

/-- How much a directive says about the origins that it is about. -/
def weight (directive : Directive) : Nat :=
  match directive.beginning with
  | none => 0
  | some b => b.length + 1

/-- Whether another directive decides in place of one, if both are about the same diagnostic: if it
says more about the origin; if it says as much and asks for a field where this one does not, or for
one that is not before this one's in the alphabet; also if it is the same but for the level. -/
def yieldsTo (directive other : Directive) : Bool :=
  directive.weight < other.weight || directive.weight == other.weight &&
    match directive.field, other.field with
    | none, _ => true
    | some _, none => false
    | some a, some b => decide (a.name ≤ b.name)

/-- Whether a directive shows a level. -/
def shows (directive : Directive) (level : Level) : Bool :=
  directive.level.any fun l => l.rank ≤ level.rank

end Directive

end LogGate
