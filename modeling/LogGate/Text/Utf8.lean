/-!
# Bytes and characters

`encode` writes characters as UTF-8 bytes, `size` counts those bytes, and `cut?` takes out the part
of a text that lies between two numbers of bytes. In the other direction a row of bytes falls into
pieces: well-formed characters, and maximal parts of a character that broke off or never could
become one (`pieces`). `decode?` accepts only rows without broken pieces, and `decodeLossy` shows
U+FFFD for each of them. A byte order mark is a character like any other.
-/

namespace LogGate.Utf8

/-- The number of bytes that characters take. -/
def size (s : List Char) : Nat := s.foldr (fun c n => c.utf8Size + n) 0

/-- What is left of characters behind a number of bytes; nothing if that is within a character. -/
def drop? : Nat → List Char → Option (List Char)
  | 0, s => some s
  | _ + 1, [] => none
  | n + 1, c :: s => if c.utf8Size ≤ n + 1 then drop? (n + 1 - c.utf8Size) s else none

/-- The characters of the first bytes; nothing if those end within a character. -/
def take? : Nat → List Char → Option (List Char)
  | 0, _ => some []
  | _ + 1, [] => none
  | n + 1, c :: s =>
    if c.utf8Size ≤ n + 1 then (take? (n + 1 - c.utf8Size) s).map (c :: ·) else none

/-- The characters from one byte to another. -/
def cut? (first last : Nat) (s : List Char) : Option (List Char) :=
  (drop? first s).bind (take? (last - first))

/-- The bytes of a text. -/
def encode (s : String) : List UInt8 := s.toUTF8.toList

/-- What a decoder knows between two bytes. -/
inductive State where
  /-- The next byte starts a character. -/
  | ready
  /-- `needed + 1` more bytes are due. The next one has to lie between `low` and `high`; `bits` is
  the code point as far as it is known. -/
  | within (needed : Nat) (bits : Nat) (low high : UInt8)
  deriving DecidableEq, Repr

/-- What a byte does that starts a character: it is one on its own, or more bytes are due, or (no
character and no state) it starts none. The bounds keep out overlong forms, surrogates and code
points above U+10FFFF. -/
def start (b : UInt8) : Option Char ⊕ State :=
  let n := b.toNat
  if n < 0x80 then .inl (some (Char.ofNat n))
  else if 0xC2 ≤ n ∧ n ≤ 0xDF then .inr (.within 0 (n % 0x20) 0x80 0xBF)
  else if n = 0xE0 then .inr (.within 1 0 0xA0 0xBF)
  else if n = 0xED then .inr (.within 1 0xD 0x80 0x9F)
  else if 0xE1 ≤ n ∧ n ≤ 0xEF then .inr (.within 1 (n % 0x10) 0x80 0xBF)
  else if n = 0xF0 then .inr (.within 2 0 0x90 0xBF)
  else if 0xF1 ≤ n ∧ n ≤ 0xF3 then .inr (.within 2 (n % 8) 0x80 0xBF)
  else if n = 0xF4 then .inr (.within 2 4 0x80 0x8F)
  else .inl none

/-- The pieces of a row of bytes: characters, and `none` for each maximal part that is broken. A
byte that cannot go on with a character breaks it off and then starts the next piece. -/
def piecesFrom : State → List UInt8 → List (Option Char)
  | .ready, [] => []
  | .within .., [] => [none]
  | .ready, b :: bs =>
    match start b with
    | .inl piece => piece :: piecesFrom .ready bs
    | .inr state => piecesFrom state bs
  | .within needed bits low high, b :: bs =>
    if low ≤ b ∧ b ≤ high then
      let bits := 0x40 * bits + b.toNat % 0x40
      match needed with
      | 0 => some (Char.ofNat bits) :: piecesFrom .ready bs
      | needed + 1 => piecesFrom (.within needed bits 0x80 0xBF) bs
    else
      match start b with
      | .inl piece => none :: piece :: piecesFrom .ready bs
      | .inr state => none :: piecesFrom state bs

/-- The pieces of a row of bytes. -/
def pieces (bytes : List UInt8) : List (Option Char) := piecesFrom .ready bytes

/-- The text that bytes encode, if no piece of them is broken. -/
def decode? (bytes : List UInt8) : Option String :=
  ((pieces bytes).mapM id).map String.ofList

/-- The text that bytes encode, with U+FFFD for each broken piece. -/
def decodeLossy (bytes : List UInt8) : String :=
  String.ofList ((pieces bytes).map (·.getD '\uFFFD'))

end LogGate.Utf8
