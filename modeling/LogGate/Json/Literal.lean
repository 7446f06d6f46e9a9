import LogGate.Json.Error

/-!
# Texts in a document

A text is written between double quotes. Quotes, backslashes and the characters below U+0020 need
an escape; any other character may have one, in hexadecimal UTF-16 units. `Literal.scan` reads what
follows the opening quote, one character after the other, and `Literal.write` writes a text with
short escapes where there are any and no needless ones.

A value that is passed over is held to less: the hexadecimal units in it need not be halves of
pairs. `Scrutiny` tells the two apart.
-/

namespace LogGate.Json

/-- How closely a value is looked at. -/
inductive Scrutiny where
  /-- The value is wanted. -/
  | full
  /-- The value is passed over, and only its form matters. -/
  | form
  deriving DecidableEq, Repr

namespace Literal

/-- What a scan knows between two characters of a text. -/
inductive Phase where
  /-- The next character stands for itself, starts an escape, or ends the text. -/
  | plain
  /-- A backslash came before. -/
  | escape
  /-- Some hexadecimal digits of a unit came before, of this value. If the unit has to be the
  second half of a surrogate pair, this is the first half. -/
  | unit (digits : Nat) (value : Nat) (first : Option Nat)
  /-- The first half of a surrogate pair came before, and a backslash has to follow. -/
  | pair (first : Nat)
  /-- The first half of a surrogate pair and a backslash came before, and `u` has to follow. -/
  | pairEscape (first : Nat)
  deriving DecidableEq, Repr

/-- The character that a short escape stands for. -/
def shortEscape? : Char → Option Char
  | '"' => some '"'
  | '\\' => some '\\'
  | '/' => some '/'
  | 'b' => some '\x08'
  | 'f' => some '\x0c'
  | 'n' => some '\n'
  | 'r' => some '\r'
  | 't' => some '\t'
  | _ => none

/-- The value of a hexadecimal digit, in either case. -/
def hexValue? (c : Char) : Option Nat :=
  let n := c.toNat
  if c.isDigit then some (n - '0'.toNat)
  else if 'a'.toNat ≤ n ∧ n ≤ 'f'.toNat then some (n - 'a'.toNat + 10)
  else if 'A'.toNat ≤ n ∧ n ≤ 'F'.toNat then some (n - 'A'.toNat + 10)
  else none

/-- Whether a UTF-16 unit is the first half of a surrogate pair. -/
def isFirstHalf (unit : Nat) : Bool := 0xD800 <= unit && unit <= 0xDBFF

/-- Whether a UTF-16 unit is the second half of a surrogate pair. -/
def isSecondHalf (unit : Nat) : Bool := 0xDC00 <= unit && unit <= 0xDFFF

/-- The character that a surrogate pair stands for. -/
def joined (first second : Nat) : Char :=
  Char.ofNat (0x10000 + (first - 0xD800) * 0x400 + (second - 0xDC00))

/-- What to do with a whole unit: go on with a character or without one in another phase, or
complain. -/
def finishUnit (unit : Nat) (first : Option Nat) : Option (Option Char × Phase) :=
  match first with
  | some h => if isSecondHalf unit then some (some (joined h unit), .plain) else none
  | none =>
    if isSecondHalf unit then none
    else if isFirstHalf unit then some (none, .pair unit)
    else some (some (Char.ofNat unit), .plain)

/-- The complaint about a character that is no hexadecimal digit, after `digits` of them. Four
bytes are taken at once, so the place is behind the fourth, and the document has ended if there are
not as many. -/
def notHex (digits : Nat) (rest : List Char) : Fault :=
  let left := Utf8.size rest + digits
  if left < 4 then .ends .text else ⟨.invalidEscape, .fixed (left - 4)⟩

/-- Reads a text up to and with its closing quote. The characters read so far come in reverse. -/
def scan (how : Scrutiny) : Phase → List Char → List Char → Except Fault (List Char × List Char)
  | _, _, [] => .error (.ends .text)
  | .plain, acc, c :: s =>
    if c = '"' then .ok (acc.reverse, s)
    else if c = '\\' then scan how .escape acc s
    else if c.toNat < 0x20 then
      .error (match how with
        | .full => .here .controlCharacter s
        | .form => .here .controlCharacter (c :: s))
    else scan how .plain (c :: acc) s
  | .escape, acc, c :: s =>
    if c = 'u' then scan how (.unit 0 0 none) acc s
    else match shortEscape? c with
      | some d => scan how .plain (d :: acc) s
      | none => .error (.next .invalidEscape (c :: s))
  | .unit digits value first, acc, c :: s =>
    match hexValue? c with
    | none => .error (notHex digits (c :: s))
    | some d =>
      if digits < 3 then scan how (.unit (digits + 1) (16 * value + d) first) acc s
      else match how with
        | .form => scan how .plain acc s
        | .full =>
          match finishUnit (16 * value + d) first with
          | none => .error (.here .loneSurrogate s)
          | some (read, phase) => scan how phase (read.toList ++ acc) s
  | .pair first, acc, c :: s =>
    if c = '\\' then scan how (.pairEscape first) acc s
    else .error (.next .unfinishedPair (c :: s))
  | .pairEscape first, acc, c :: s =>
    if c = 'u' then scan how (.unit 0 0 (some first)) acc s
    else .error (.next .unfinishedPair (c :: s))

/-- A scan reads at least the closing quote. -/
theorem scan_length_lt {how : Scrutiny} {s : List Char} :
    ∀ {phase : Phase} {acc a r : List Char},
      scan how phase acc s = .ok (a, r) → r.length < s.length := by
  induction s with
  | nil => intro phase acc a r h; cases phase <;> simp [scan] at h
  | cons c s ih =>
    intro phase acc a r h
    have go : ∀ {phase : Phase} {acc : List Char},
        scan how phase acc s = .ok (a, r) → r.length < (c :: s).length := fun h =>
      Nat.lt_succ_of_lt (ih h)
    cases phase with
    | plain =>
      simp only [scan] at h
      split at h
      · cases h; exact Nat.lt_succ_self _
      · split at h
        · exact go h
        · split at h
          · cases h
          · exact go h
    | escape =>
      simp only [scan] at h
      split at h
      · exact go h
      · split at h
        · exact go h
        · cases h
    | unit digits value first =>
      simp only [scan] at h
      split at h
      · cases h
      · split at h
        · exact go h
        · split at h
          · exact go h
          · split at h
            · cases h
            · exact go h
    | pair first =>
      simp only [scan] at h
      split at h
      · exact go h
      · cases h
    | pairEscape first =>
      simp only [scan] at h
      split at h
      · exact go h
      · cases h

/-- The escape of a control character that has no short one: four hexadecimal digits. -/
def hexEscape (c : Char) : List Char :=
  ['\\', 'u', '0', '0'] ++ [Nat.digitChar (c.toNat / 16), Nat.digitChar (c.toNat % 16)]

/-- How a character is written within a text. -/
def writeChar (c : Char) : List Char :=
  if c = '"' then ['\\', '"']
  else if c = '\\' then ['\\', '\\']
  else if c = '\x08' then ['\\', 'b']
  else if c = '\x0c' then ['\\', 'f']
  else if c = '\n' then ['\\', 'n']
  else if c = '\r' then ['\\', 'r']
  else if c = '\t' then ['\\', 't']
  else if c.toNat < 0x20 then hexEscape c
  else [c]

/-- Writes a text, with its quotes. -/
def write (s : String) : String := String.ofList ('"' :: s.toList.flatMap writeChar ++ ['"'])

end Literal

end LogGate.Json
