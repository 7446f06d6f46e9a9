import LogGate.Pattern.Basic
import LogGate.Text.Blank

/-!
# Escapes

What may stand anywhere in a pattern: white space and comments, which are passed over where a
pattern is verbose (`skip`), and what a backslash begins (`escape?`). What is left is never longer
than what there was.
-/

namespace LogGate.Pattern

/-- What is left behind white space and comments. A comment starts with `#`, and goes up to the end
of its line. -/
def dropComments (inComment : Bool) : List Char → List Char
  | [] => []
  | c :: cs =>
    if inComment then dropComments (c ≠ '\n') cs
    else if Text.isBlank c then dropComments false cs
    else if c = '#' then dropComments true cs
    else c :: cs

/-- What is left behind that which is passed over. -/
def skip (verbose : Bool) (cs : List Char) : List Char :=
  if verbose then dropComments false cs else cs

theorem length_dropComments_le (inComment : Bool) (cs : List Char) :
    (dropComments inComment cs).length ≤ cs.length := by
  induction cs generalizing inComment with
  | nil => exact Nat.le_refl _
  | cons c cs ih =>
    simp only [dropComments, List.length_cons]
    split
    · exact Nat.le_succ_of_le (ih _)
    · split
      · exact Nat.le_succ_of_le (ih _)
      · split
        · exact Nat.le_succ_of_le (ih _)
        · exact Nat.le_refl _

theorem length_skip_le (verbose : Bool) (cs : List Char) :
    (skip verbose cs).length ≤ cs.length := by
  unfold skip
  split
  · exact length_dropComments_le false cs
  · exact Nat.le_refl _

/-! ## Hexadecimal digits -/

/-- The value of a hexadecimal digit. -/
def hexDigit? (c : Char) : Option Nat :=
  if c.isDigit then some (c.toNat - '0'.toNat)
  else if 'a' ≤ c ∧ c ≤ 'f' then some (c.toNat - 'a'.toNat + 10)
  else if 'A' ≤ c ∧ c ≤ 'F' then some (c.toNat - 'A'.toNat + 10)
  else none

/-- Reads on in a number, by some hexadecimal digits. -/
def hexNumber? (verbose : Bool) (number : Nat) : Nat → List Char → Option (Nat × List Char)
  | 0, cs => some (number, cs)
  | digits + 1, cs =>
    match skip verbose cs with
    | [] => none
    | c :: rest =>
      match hexDigit? c with
      | none => none
      | some digit => hexNumber? verbose (16 * number + digit) digits rest

theorem length_hexNumber?_le {verbose : Bool} {number digits : Nat} {cs : List Char}
    {p : Nat × List Char} (h : hexNumber? verbose number digits cs = some p) :
    p.2.length ≤ cs.length := by
  induction digits generalizing number cs with
  | zero => cases h; exact Nat.le_refl _
  | succ digits ih =>
    have hle := length_skip_le verbose cs
    simp only [hexNumber?] at h
    split at h
    · cases h
    · rename_i hs
      rw [hs, List.length_cons] at hle
      split at h
      · cases h
      · have := ih h
        omega

/-- How many hexadecimal digits there are behind a letter. -/
def hexLength? (c : Char) : Option Nat :=
  if c = 'x' then some 2 else if c = 'u' then some 4 else if c = 'U' then some 8 else none

/-! ## Escapes -/

/-- What a character means behind a backslash, if that is settled by the character. Properties of
characters, which would start with `p` or `P`, are not known, and neither are references to groups,
which would start with a digit. -/
def escaped? (c : Char) : Option Piece :=
  if c = 'd' ∨ c = 's' ∨ c = 'w' then some (.shorthand false)
  else if c = 'D' ∨ c = 'S' ∨ c = 'W' then some (.shorthand true)
  else if c = 'A' ∨ c = 'z' then some .boundary
  else if c = 'b' ∨ c = 'B' ∨ c = '<' ∨ c = '>' then some .wordBoundary
  else if c = 'a' then some (.literal ⟨'\x07', false⟩)
  else if c = 'f' then some (.literal ⟨'\x0c', false⟩)
  else if c = 't' then some (.literal ⟨'\t', false⟩)
  else if c = 'n' then some (.literal ⟨'\n', false⟩)
  else if c = 'r' then some (.literal ⟨'\r', false⟩)
  else if c = 'v' then some (.literal ⟨'\x0b', false⟩)
  else if c < '\x80' ∧ !c.isAlphanum then some (.literal ⟨c, false⟩)
  else none

/-- Reads what is behind a backslash. -/
def escape? (verbose : Bool) : List Char → Option (Piece × List Char)
  | [] => none
  | c :: cs =>
    match hexLength? c with
    | none => (escaped? c).map (·, cs)
    | some digits =>
      match hexNumber? verbose 0 digits cs with
      | none => none
      | some (number, rest) =>
        if number.isValidChar then some (.literal ⟨Char.ofNat number, c = 'x'⟩, rest) else none

theorem length_escape?_lt {verbose : Bool} {cs : List Char} {p : Piece × List Char}
    (h : escape? verbose cs = some p) : p.2.length < cs.length := by
  cases cs with
  | nil => cases h
  | cons c cs =>
    simp only [escape?] at h
    split at h
    · obtain ⟨_, _, rfl⟩ := Option.map_eq_some_iff.1 h
      exact Nat.lt_succ_self _
    · split at h
      · cases h
      · rename_i hn
        split at h
        · cases h
          exact Nat.lt_succ_of_le (length_hexNumber?_le hn)
        · cases h

end LogGate.Pattern
