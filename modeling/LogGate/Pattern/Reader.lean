import LogGate.Pattern.Bracket
import LogGate.Pattern.Opening

/-!
# Reading patterns

A pattern is read part by part, with the groups in mind that are open at each place (`Reading`).
`Pattern.ofText?` reads a whole one: groups and classes have to be closed, ranges go up, names are
given once, and what is repeated has to be there. There are no counted repetitions, because patterns
cannot have closing braces.
-/

namespace LogGate.Pattern

/-- A group of which the end has not been read, or the whole pattern. -/
structure Scope where
  flags : Flags := {}
  /-- Whether white space and comments are passed over. -/
  verbose : Bool := false
  /-- What there is since the last bar, from last to first. -/
  items : List Pattern := []
  /-- What there is between bars, from last to first. -/
  choices : List Pattern := []

namespace Scope

/-- A group with one pattern more in it. -/
def push (s : Scope) (p : Pattern) : Scope := { s with items := p :: s.items }

/-- A group behind a bar. -/
def branch (s : Scope) : Scope :=
  { s with items := [], choices := Pattern.ofList s.items.reverse :: s.choices }

/-- What there is in a group. -/
def content (s : Scope) : Pattern :=
  let last := Pattern.ofList s.items.reverse
  match s.choices with
  | [] => last
  | choices => .choice (last :: choices).reverse

/-- A group of which the last part is repeated. Flags cannot be repeated. -/
def repeat? (s : Scope) : Option Scope :=
  match s.items with
  | [] => none
  | .turn _ :: _ => none
  | p :: items => some { s with items := .repeated p :: items }

end Scope

/-- What has been read of a pattern. -/
structure Reading where
  /-- The innermost group that is open. -/
  scope : Scope := {}
  /-- The groups around it, from the inner to the outer. -/
  outer : List Scope := []
  /-- The names of groups. -/
  names : List (List Char) := []

namespace Reading

/-- A pattern with one part more in its innermost group. -/
def push (r : Reading) (p : Pattern) : Reading := { r with scope := r.scope.push p }

/-- A pattern in which a group has been opened, whose name must be new, or flags have been set. -/
def open? (r : Reading) : Opening → Option Reading
  | .group name flags =>
    if name.any r.names.contains then none
    else some {
      scope := { flags, verbose := flags.turn .verbose r.scope.verbose }
      outer := r.scope :: r.outer
      names := name.toList ++ r.names }
  | .turn flags => some { r with
      scope := { r.scope.push (.turn flags) with
        verbose := flags.turn .verbose r.scope.verbose } }

/-- A pattern in which the innermost group has been closed. -/
def close? (r : Reading) : Option Reading :=
  match r.outer with
  | [] => none
  | around :: outer =>
    some { r with scope := around.push (.group r.scope.flags r.scope.content), outer }

/-- What is left behind the mark for as few repetitions as possible. -/
def dropLazy : List Char → List Char
  | '?' :: cs => cs
  | cs => cs

theorem length_dropLazy_le (cs : List Char) : (dropLazy cs).length ≤ cs.length := by
  unfold dropLazy
  split <;> simp

/-- Reads the next part of a pattern, from its first character. -/
def step? (r : Reading) (c : Char) (cs : List Char) : Option (Reading × List Char) :=
  if c = '(' then
    match opening? (skip r.scope.verbose cs) with
    | none => none
    | some (o, rest) => (r.open? o).map (·, rest)
  else if c = ')' then r.close?.map (·, cs)
  else if c = '|' then some ({ r with scope := r.scope.branch }, cs)
  else if c = '[' then
    (class? r.scope.verbose cs).map fun (set, rest) => (r.push (.piece (.oneOf set)), rest)
  else if c = '*' ∨ c = '+' ∨ c = '?' then
    r.scope.repeat?.map fun scope => ({ r with scope }, dropLazy cs)
  else if c = '\x7b' then none
  else if c = '\\' then
    (escape? r.scope.verbose cs).map fun (p, rest) => (r.push (.piece p), rest)
  else if c = '.' then some (r.push (.piece .any), cs)
  else if c = '^' ∨ c = '$' then some (r.push (.piece .boundary), cs)
  else some (r.push (.piece (.literal ⟨c, false⟩)), cs)

theorem length_step?_le {r : Reading} {c : Char} {cs : List Char} {p : Reading × List Char}
    (h : r.step? c cs = some p) : p.2.length ≤ cs.length := by
  have hskip := length_skip_le r.scope.verbose cs
  have hlazy := length_dropLazy_le cs
  unfold step? at h
  split at h
  · split at h
    · cases h
    · rename_i ho
      obtain ⟨_, _, rfl⟩ := Option.map_eq_some_iff.1 h
      exact Nat.le_trans (length_opening?_le ho) hskip
  · split at h
    · obtain ⟨_, _, rfl⟩ := Option.map_eq_some_iff.1 h
      exact Nat.le_refl _
    · split at h
      · cases h
        exact Nat.le_refl _
      · split at h
        · obtain ⟨_, hc, rfl⟩ := Option.map_eq_some_iff.1 h
          exact Nat.le_of_lt (length_class?_lt hc)
        · split at h
          · obtain ⟨_, _, rfl⟩ := Option.map_eq_some_iff.1 h
            exact hlazy
          · split at h
            · cases h
            · split at h
              · obtain ⟨_, he, rfl⟩ := Option.map_eq_some_iff.1 h
                exact Nat.le_of_lt (length_escape?_lt he)
              · grind

/-- Reads what is left of a pattern. -/
def finish? (r : Reading) (cs : List Char) : Option Pattern :=
  match hs : skip r.scope.verbose cs with
  | [] => if r.outer.isEmpty then some r.scope.content else none
  | c :: rest =>
    match h : r.step? c rest with
    | none => none
    | some (r', rest') =>
      have : rest'.length < cs.length := by
        have hle := length_skip_le r.scope.verbose cs
        rw [hs, List.length_cons] at hle
        exact Nat.lt_of_le_of_lt (length_step?_le h) hle
      r'.finish? rest'
termination_by cs.length

end Reading

/-- The pattern that a text is. -/
def ofText? (text : String) : Option Pattern := Reading.finish? {} text.toList

end LogGate.Pattern
