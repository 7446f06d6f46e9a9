import LogGate.Json.Lexeme
import LogGate.Json.Numeral

/-!
# Passing over a value

The values of unknown members of an object are passed over. Only their form is looked at, to any
depth: `skip` keeps the brackets that are open in a list and goes through the document once.
-/

namespace LogGate.Json

/-- Passes over a value that is no list and no object. -/
def skipScalar : List Char → Except Fault (List Char)
  | [] => .error (.ends .value)
  | c :: s =>
    if c = 'n' then word ['u', 'l', 'l'] s
    else if c = 't' then word ['r', 'u', 'e'] s
    else if c = 'f' then word ['a', 'l', 's', 'e'] s
    else if c = '"' then (Literal.scan .form .plain [] s).map Prod.snd
    else if c = '-' then (Numeral.read .form s).map Prod.snd
    else if c.isDigit then (Numeral.read .form (c :: s)).map Prod.snd
    else .error (.next .expectedValue (c :: s))

/-- Passes over the key of a member and the colon behind it. -/
def skipKey (s : List Char) : Except Fault (List Char) :=
  match dropSpace s with
  | [] => .error (.ends .object)
  | c :: s =>
    if c = '"' then do
      let s := dropSpace (← Literal.scan .form .plain [] s).2
      match s with
      | [] => .error (.ends .object)
      | d :: r => if d = ':' then .ok r else .error (.next .expectedColon (d :: r))
    else .error (.next .keyMustBeText (c :: s))

/-- What comes next while values are passed over. -/
inductive Due where
  /-- A value. -/
  | value
  /-- A member of the innermost object. -/
  | member
  /-- The first item of the innermost bracket, or its closing half. -/
  | first
  /-- A comma, or the closing half of the innermost bracket. -/
  | next
  deriving DecidableEq, Repr

/-- What is due where an item of a bracket begins. -/
def Bracket.item : Bracket → Due
  | list => .value
  | object => .member

/-- Something may be due that is settled without reading on, and then something else is. -/
def Due.rank : Due → Nat
  | first => 1
  | value | member | next => 0

theorem Bracket.rank_item (b : Bracket) : b.item.rank = 0 := by cases b <;> rfl

/-- Reading on brings the end nearer, whatever is due before and after. -/
theorem Due.measure_lt (a b : Due) {r s : List Char} (h : r.length < s.length) :
    2 * r.length + a.rank < 2 * s.length + b.rank := by
  have : a.rank ≤ 1 := by cases a <;> decide
  omega

theorem skipScalar_length_lt {s r : List Char} (h : skipScalar s = .ok r) :
    r.length < s.length := by
  cases s with
  | nil => cases h
  | cons c s =>
    have scalar : ∀ {α : Type} {x : Except Fault (α × List Char)},
        x.map Prod.snd = .ok r → ∃ a, x = .ok (a, r) := by
      intro α x hx
      cases x with
      | error => cases hx
      | ok p => cases hx; exact ⟨p.1, rfl⟩
    simp only [skipScalar] at h
    split at h
    · exact Nat.lt_succ_of_le (word_length_le h)
    split at h
    · exact Nat.lt_succ_of_le (word_length_le h)
    split at h
    · exact Nat.lt_succ_of_le (word_length_le h)
    split at h
    · obtain ⟨a, h⟩ := scalar h
      exact Nat.lt_succ_of_lt (Literal.scan_length_lt h)
    split at h
    · obtain ⟨a, h⟩ := scalar h
      exact Nat.lt_succ_of_lt (Numeral.read_length_lt h)
    split at h
    · obtain ⟨a, h⟩ := scalar h
      exact Numeral.read_length_lt h
    · cases h

theorem skipKey_length_lt {s r : List Char} (h : skipKey s = .ok r) : r.length < s.length := by
  have hle := length_dropSpace_le s
  unfold skipKey at h
  split at h
  · cases h
  · rename_i c t hs
    rw [hs, List.length_cons] at hle
    split at h
    · cases hk : Literal.scan .form .plain [] t with
      | error => rw [hk] at h; cases h
      | ok k =>
        have h1 := Literal.scan_length_lt hk
        have h2 := length_dropSpace_le k.2
        simp only [hk, bind, Except.bind] at h
        split at h
        · cases h
        · rename_i d u hu
          rw [hu, List.length_cons] at h2
          split at h
          · cases h; omega
          · cases h
    · cases h

/-- Passes over what is due, and then over everything up to the end of the outermost bracket that
is open. The brackets that are open stand innermost first. -/
def skipDue (due : Due) (opened : List Bracket) (s : List Char) : Except Fault (List Char) :=
  match due, opened with
  | .value, opened =>
    match _hs : dropSpace s with
    | '[' :: r => skipDue .first (.list :: opened) r
    | '\x7b' :: r => skipDue .first (.object :: opened) r
    | r =>
      match _hr : skipScalar r with
      | .error f => .error f
      | .ok r' => skipDue .next opened r'
  | .member, opened =>
    match _hs : skipKey s with
    | .error f => .error f
    | .ok r => skipDue .value opened r
  | .first, [] | .next, [] => .ok s
  | .first, bracket :: opened =>
    match _hs : dropSpace s with
    | [] => .error bracket.ends
    | c :: r =>
      if c = bracket.close then skipDue .next opened r
      else skipDue bracket.item (bracket :: opened) (c :: r)
  | .next, bracket :: opened =>
    match _hs : dropSpace s with
    | [] => .error bracket.ends
    | c :: r =>
      if c = bracket.close then skipDue .next opened r
      else if c = ',' then skipDue bracket.item (bracket :: opened) r
      else .error (.next bracket.expectedComma (c :: r))
termination_by 2 * s.length + due.rank
decreasing_by
  · exact Due.measure_lt _ _ (length_lt_of_dropSpace _hs)
  · exact Due.measure_lt _ _ (length_lt_of_dropSpace _hs)
  · exact Due.measure_lt _ _
      (Nat.lt_of_lt_of_le (skipScalar_length_lt _hr) (_hs ▸ length_dropSpace_le s))
  · exact Due.measure_lt _ _ (skipKey_length_lt _hs)
  · exact Due.measure_lt _ _ (length_lt_of_dropSpace _hs)
  · have := length_lt_of_dropSpace _hs
    rw [bracket.rank_item, List.length_cons, Due.rank]
    omega
  · exact Due.measure_lt _ _ (length_lt_of_dropSpace _hs)
  · exact Due.measure_lt _ _ (length_lt_of_dropSpace _hs)

/-- Passing over something never lengthens what is left. -/
theorem skipDue_length_le {due : Due} {opened : List Bracket} {s r : List Char}
    (h : skipDue due opened s = .ok r) : r.length ≤ s.length := by
  fun_induction skipDue due opened s with
  | case1 s opened t hs ih | case2 s opened t hs ih | case10 s _ opened t hs ih
  | case13 s _ opened t hs ih | case14 s _ opened t hs _ ih =>
    exact Nat.le_trans (ih h) (Nat.le_of_lt (length_lt_of_dropSpace hs))
  | case4 s opened t _ _ hr ih =>
    exact Nat.le_trans (ih h) (Nat.le_trans (Nat.le_of_lt (skipScalar_length_lt hr))
      (length_dropSpace_le s))
  | case6 s opened t hr ih => exact Nat.le_trans (ih h) (Nat.le_of_lt (skipKey_length_lt hr))
  | case7 | case8 => cases h; exact Nat.le_refl _
  | case11 s _ opened c t hs _ ih =>
    exact Nat.le_trans (ih h) (length_lt_of_dropSpace hs)
  | case3 | case5 | case9 | case12 | case15 => cases h

/-- Passes over one value. -/
def skip (s : List Char) : Except Fault (List Char) := skipDue .value [] s

end LogGate.Json
