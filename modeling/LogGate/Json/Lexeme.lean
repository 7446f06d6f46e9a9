import LogGate.Json.Error

/-!
# Brackets, words and space

The marks of a document that stand for no text and no number: the brackets of lists and objects, the
words `null`, `true` and `false`, and the space between the other parts, which is only ever one of
four characters.
-/

namespace LogGate.Json

/-- The two kinds of bracket. -/
inductive Bracket where
  | list
  | object
  deriving DecidableEq, Repr

/-- The closing half of a bracket. -/
def Bracket.close : Bracket → Char
  | list => ']'
  | object => '\x7d'

/-- The complaint that a document ends within a bracket. -/
def Bracket.ends : Bracket → Fault
  | list => .ends .list
  | object => .ends .object

/-- The complaint that neither a comma nor the closing half follows. -/
def Bracket.expectedComma : Bracket → Complaint
  | list => .expectedCommaOrListEnd
  | object => .expectedCommaOrObjectEnd

/-- The four characters that may stand between the parts of a document. -/
def isSpace (c : Char) : Bool := c == ' ' || c == '\t' || c == '\n' || c == '\r'

/-- Passes over the space that comes next. -/
def dropSpace (s : List Char) : List Char := s.dropWhile isSpace

theorem length_dropSpace_le (s : List Char) : (dropSpace s).length ≤ s.length :=
  (List.dropWhile_suffix isSpace).length_le

theorem length_lt_of_dropSpace {s r : List Char} {c : Char} (h : dropSpace s = c :: r) :
    r.length < s.length := by
  have := length_dropSpace_le s
  rw [h] at this
  exact this

/-- Reads the rest of a word of which the first letter has been read. -/
def word : List Char → List Char → Except Fault (List Char)
  | [], s => .ok s
  | _ :: _, [] => .error (.ends .value)
  | c :: w, d :: s => if d = c then word w s else .error (.next .expectedWord (d :: s))

theorem word_length_le : ∀ {w s r : List Char}, word w s = .ok r → r.length ≤ s.length
  | [], _, _, h => by cases h; exact Nat.le_refl _
  | _ :: _, [], _, h => nomatch h
  | c :: w, d :: s, r, h => by
    simp only [word] at h
    split at h
    · exact Nat.le_succ_of_le (word_length_le h)
    · cases h

end LogGate.Json
