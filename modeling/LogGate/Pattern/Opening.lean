import LogGate.Pattern.Basic
import LogGate.Text.Alphanumeric

/-!
# What opens groups

Behind its parenthesis a group may have a name or flags. Flags in parentheses of their own open
nothing, but are for what is left of the group around them. Either is read by `opening?`, which does
not lengthen what is left.
-/

namespace LogGate.Pattern

/-- What stands between the parenthesis of a group and what is in the group. -/
inductive Opening where
  /-- A group that may have a name. -/
  | group (name : Option (List Char)) (flags : Flags)
  /-- Flags in parentheses of their own. -/
  | turn (flags : Flags)
  deriving DecidableEq, Repr

/-- Whether characters are the name of a group. -/
def isName : List Char → Bool
  | [] => false
  | c :: cs => (c == '_' || Text.isAlphabetic c) &&
    cs.all fun c => c == '_' || c == '.' || c == '[' || c == ']' || Text.isAlphanumeric c

/-- The flags that characters set, and behind a dash those that they take back. No flag is there
twice, and behind a dash there are flags. -/
def Flags.ofChars? (cs : List Char) : Option Flags := do
  let set ← (cs.takeWhile (· ≠ '-')).mapM Flag.ofChar?
  let cleared ← ((cs.dropWhile (· ≠ '-')).drop 1).mapM Flag.ofChar?
  if (set ++ cleared).Nodup ∧ cs.getLast? ≠ some '-' then some { set, cleared } else none

/-- Reads the name of a group, up to the bracket behind it. -/
def named? (cs : List Char) : Option (Opening × List Char) :=
  match cs.dropWhile (· ≠ '>') with
  | [] => none
  | _ :: rest =>
    let name := cs.takeWhile (· ≠ '>')
    if isName name then some (.group (some name) {}, rest) else none

/-- Whether a character is not one that ends flags. -/
def isWithinFlags (c : Char) : Bool := c != ':' && c != ')'

/-- Reads flags, up to the colon before what is in their group, or to the parenthesis that closes
them. -/
def flagged? (cs : List Char) : Option (Opening × List Char) :=
  match Flags.ofChars? (cs.takeWhile isWithinFlags), cs.dropWhile isWithinFlags with
  | some flags, ':' :: rest => some (.group none flags, rest)
  | some flags, _ :: rest => if flags = {} then none else some (.turn flags, rest)
  | _, _ => none

/-- Reads what is behind the parenthesis of a group. -/
def opening? : List Char → Option (Opening × List Char)
  | '?' :: 'P' :: '<' :: cs => named? cs
  | '?' :: '<' :: cs => named? cs
  | '?' :: cs => flagged? cs
  | cs => some (.group none {}, cs)

theorem length_named?_le {cs : List Char} {p : Opening × List Char} (h : named? cs = some p) :
    p.2.length ≤ cs.length := by
  have := (List.dropWhile_suffix (l := cs) (· ≠ '>')).length_le
  unfold named? at h
  split at h <;> grind

theorem length_flagged?_le {cs : List Char} {p : Opening × List Char} (h : flagged? cs = some p) :
    p.2.length ≤ cs.length := by
  have := (List.dropWhile_suffix (l := cs) isWithinFlags).length_le
  unfold flagged? at h
  split at h <;> grind

theorem length_opening?_le {cs : List Char} {p : Opening × List Char} (h : opening? cs = some p) :
    p.2.length ≤ cs.length := by
  unfold opening? at h
  split at h
  · have := length_named?_le h
    grind
  · have := length_named?_le h
    grind
  · have := length_flagged?_le h
    grind
  · cases h
    exact Nat.le_refl _

end LogGate.Pattern
