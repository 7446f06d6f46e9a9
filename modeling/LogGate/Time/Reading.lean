import LogGate.Text.Blank
import LogGate.Time.Instant

/-!
# Reading an instant

A date and time is read in the form `2024-05-06T07:08:09.5+01:00`, with some freedom: white space
may stand before every number and every mark; `T` may be small or one white space; a year has up to
four digits, or a sign and any number of digits, and the other numbers one or two; the fraction has
any number of digits, of which nine count; and the offset may be `Z`, `UTC` in any case, or a sign
and two numbers of two digits each.

Reading happens in two steps. `Stamp.read` reads the fields, and refuses a field that is out of
range on its own as soon as it has read it. `Stamp.instant` then takes the offset off and finds the
instant, if the calendar has the date. Second 60 is accepted in every minute.
-/

namespace LogGate.Time

/-- Why a text is not a date and time. -/
inductive TimeError where
  /-- The text ends before its last field does. -/
  | tooShort
  /-- A character stands where it cannot stand. -/
  | invalid
  /-- A field, the date or the offset is out of range. -/
  | outOfRange
  /-- Something follows the offset. -/
  | tooLong
  /-- The date is in range, but the offset leads out of the range of instants. -/
  | impossible
  deriving DecidableEq, Repr

/-- The text of an error. -/
def TimeError.message : TimeError → String
  | tooShort => "premature end of input"
  | invalid => "input contains invalid characters"
  | outOfRange => "input is out of range"
  | tooLong => "trailing input"
  | impossible => "no possible date and time matching input"

/-- The fields of a date and time as it is written. -/
structure Stamp where
  date : Date
  hour : Nat
  minute : Nat
  second : Nat
  nano : Nat
  /-- The offset from universal time, in seconds east. -/
  offset : Int
  deriving DecidableEq, Repr

namespace Stamp

/-- A step of reading takes something from the front of a text. -/
abbrev Step (α : Type) := StateT (List Char) (Except TimeError) α

/-- Passes over white space. -/
def blanks : Step Unit := modify Text.dropBlanks

/-- Reads one character, which has to be the given one. -/
def mark (c : Char) : Step Unit := fun s =>
  match s with
  | [] => .error .tooShort
  | d :: r => if d = c then .ok ((), r) else .error .invalid

/-- Reads the digits that come next, at least one. More digits than `most` are left, where a most
is given. -/
def digits (most : Option Nat) : Step (List Char) := fun s =>
  let run := (match most with | some k => s.take k | none => s).takeWhile Char.isDigit
  match s, run with
  | [], _ => .error .tooShort
  | _, [] => .error .invalid
  | _, _ => .ok (run, s.drop run.length)

/-- Reads a number of at most two digits that lies between two bounds, after white space. -/
def field (low high : Nat) : Step Nat := do
  blanks
  let n := Text.digitsValue (← digits (some 2))
  if low ≤ n ∧ n ≤ high then pure n else throw .outOfRange

/-- The first and the last year that fit a signed 32-bit word. A year outside is refused before
anything after it is read. -/
def fitsYear (year : Int) : Bool := -2_147_483_648 <= year && year < 2_147_483_648

/-- Reads a year, after white space. -/
def yearField : Step Int := do
  blanks
  let n ← match (← get) with
    | '-' :: r => do set r; pure (-(Text.digitsValue (← digits none) : Int))
    | '+' :: r => do set r; pure (Text.digitsValue (← digits none) : Int)
    | _ => do pure (Text.digitsValue (← digits (some 4)) : Int)
  if fitsYear n then pure n else throw .outOfRange

/-- Reads the mark between date and time: `T`, `t` or a single space. -/
def separator : Step Unit := fun s =>
  match s with
  | [] => .error .tooShort
  | c :: r => if c = 'T' ∨ c = 't' ∨ c = ' ' then .ok ((), r) else .error .invalid

/-- Reads a fraction of a second, if there is one, as nanoseconds. Digits from the tenth on are
passed over. -/
def fraction : Step Nat := do
  match (← get) with
  | '.' :: r =>
    set r
    let run ← digits (some 9)
    modify (List.dropWhile Char.isDigit)
    pure (Text.digitsValue run * Nat.pow 10 (9 - run.length))
  | _ => pure 0

/-- Reads exactly two digits. Where fewer than two bytes are left the text is too short. -/
def twoDigits : Step Nat := fun s =>
  match s with
  | a :: b :: r =>
    if a.isDigit ∧ b.isDigit then .ok (Text.digitsValue [a, b], r) else .error .invalid
  | [a] => if a.utf8Size < 2 then .error .tooShort else .error .invalid
  | [] => .error .tooShort

/-- Passes over colons and white space. -/
def colons : Step Unit := modify (List.dropWhile fun c => c = ':' || Text.isBlank c)

/-- Reads the hours and minutes of an offset after its sign, as seconds. -/
def offsetAmount : Step Nat := do
  let hours ← twoDigits
  colons
  let minutes ← twoDigits
  if minutes < 60 then pure (3600 * hours + 60 * minutes) else throw .outOfRange

/-- Reads an offset from universal time, as seconds east. -/
def zone : Step Int := do
  match (← get) with
  | a :: b :: c :: r =>
    if [a, b, c].map Char.toUpper = ['U', 'T', 'C'] then set r; return 0
  | _ => pure ()
  match (← get) with
  | [] => throw .tooShort
  | c :: r =>
    set r
    if c = 'Z' ∨ c = 'z' then pure 0
    else if c = '+' then pure ((← offsetAmount) : Int)
    else if c = '-' ∨ c = '\u2212' then pure (-((← offsetAmount) : Int))
    else throw .invalid

/-- Reads a date. -/
def dateFields : Step Date := do
  let y ← yearField
  blanks; mark '-'
  let m ← field 1 12
  blanks; mark '-'
  let d ← field 1 31
  pure ⟨y, m, d⟩

/-- Reads the fields of a date and time, to the end of the text. -/
def fields : Step Stamp := do
  let date ← dateFields
  separator
  let hour ← field 0 23
  blanks; mark ':'
  let minute ← field 0 59
  blanks; mark ':'
  let second ← field 0 60
  let nano ← fraction
  blanks
  let east ← zone
  if (Text.dropBlanks (← get)).isEmpty then pure ⟨date, hour, minute, second, nano, east⟩
  else throw .tooLong

/-- Reads the fields of a date and time from a whole text. -/
def read (text : List Char) : Except TimeError Stamp := (fields.run text).map Prod.fst

/-- The instant that a stamp stands for. Second 60 becomes the nanoseconds past second 59. -/
def instant (t : Stamp) : Except TimeError Instant :=
  if !t.date.isValid || t.date.dayNumber < firstDay || lastDay < t.date.dayNumber then
    .error .outOfRange
  else if t.offset ≤ -86400 ∨ 86400 ≤ t.offset then .error .outOfRange
  else
    let second := if t.second = 60 then 59 else t.second
    let nano := if t.second = 60 then t.nano + 1_000_000_000 else t.nano
    let seconds := (3600 * t.hour + 60 * t.minute + second : Nat) - t.offset
    match Instant.of? (t.date.dayNumber + seconds / 86400) (seconds % 86400).toNat nano with
    | some i => .ok i
    | none => .error .impossible

end Stamp

/-- Reads an instant. -/
def Instant.parse (text : String) : Except TimeError Instant := do
  (← Stamp.read text.toList).instant

end LogGate.Time
