import LogGate.Pattern.Escape

/-!
# Classes

A class is a set of characters in brackets. Besides characters and ranges of them there may be
classes in it, and pairs of sets that are combined by `&&`, `--` or `~~`. A class is read from
within (`Bracket.read?`), and what is left behind it is shorter than what was left within it
(`Bracket.length_read?_lt`).
-/

namespace LogGate.Pattern

/-- A class of which the end has not been read. -/
structure Bracket where
  negated : Bool := false
  /-- The set before the last sign that combines two sets. -/
  left : Option CharSet := none
  /-- The sets behind that sign, from last to first. -/
  items : List CharSet := []

namespace Bracket

/-- A class with one set more in it. -/
def push (b : Bracket) (set : CharSet) : Bracket := { b with items := set :: b.items }

/-- What there is in a class. -/
def content (b : Bracket) : CharSet :=
  let last := CharSet.ofList b.items.reverse
  match b.left with
  | none => last
  | some left => .combined left last

/-- A class behind a sign that combines what there is in it with what follows. -/
def combine (b : Bracket) : Bracket := { b with left := some b.content, items := [] }

/-- The set of a class that is closed. -/
def close (b : Bracket) : CharSet := .bracketed b.negated b.content

/-! ## What is at the head of a class -/

/-- The dashes that a class starts with, which stand for themselves, and what is left then. -/
def leadingDashes (verbose : Bool) (cs : List Char) : List CharSet × List Char :=
  match h : skip verbose cs with
  | '-' :: rest =>
    have : rest.length < cs.length := by
      have := length_skip_le verbose cs
      rw [h, List.length_cons] at this
      omega
    let (dashes, rest) := leadingDashes verbose rest
    (.literal ⟨'-', false⟩ :: dashes, rest)
  | rest => ([], rest)
termination_by cs.length

theorem length_leadingDashes_le (verbose : Bool) (cs : List Char) :
    (leadingDashes verbose cs).2.length ≤ cs.length := by
  fun_induction leadingDashes verbose cs with
  | case1 => grind
  | case2 cs => exact length_skip_le verbose cs

/-- What there is of a class behind its first bracket, and what is left then. A closing bracket at
the head of a class stands for itself. -/
def openBody (negated verbose : Bool) (cs : List Char) : Bracket × List Char :=
  match leadingDashes verbose cs with
  | ([], ']' :: rest) => ({ negated, items := [.literal ⟨']', false⟩] }, rest)
  | (dashes, rest) => ({ negated, items := dashes }, rest)

/-- Reads what a class starts with behind its first bracket. -/
def opened (verbose : Bool) (cs : List Char) : Bracket × List Char :=
  match skip verbose cs with
  | '^' :: rest => openBody true verbose rest
  | rest => openBody false verbose rest

theorem length_openBody_le (negated verbose : Bool) (cs : List Char) :
    (openBody negated verbose cs).2.length ≤ cs.length := by
  have := length_leadingDashes_le verbose cs
  unfold openBody
  split <;> grind

theorem length_opened_le (verbose : Bool) (cs : List Char) :
    (opened verbose cs).2.length ≤ cs.length := by
  have := length_skip_le verbose cs
  unfold opened
  split
  · rename_i rest h
    have := length_openBody_le true verbose rest
    grind
  · exact Nat.le_trans (length_openBody_le ..) this

/-! ## What is in a class -/

/-- The names of classes. -/
def names : List String :=
  ["alnum", "alpha", "ascii", "blank", "cntrl", "digit", "graph", "lower", "print", "punct",
    "space", "upper", "word", "xdigit"]

/-- What is left behind the name of a class and the signs that close it. -/
def dropName? (cs : List Char) : Option (List Char) :=
  if names.contains (String.ofList (cs.takeWhile (· ≠ ':'))) then
    match cs.dropWhile (· ≠ ':') with
    | ':' :: ']' :: rest => some rest
    | _ => none
  else none

/-- Reads a named class behind its first bracket, and whether it is negated. -/
def named? : List Char → Option (Bool × List Char)
  | ':' :: '^' :: cs => (dropName? cs).map (true, ·)
  | ':' :: cs => (dropName? cs).map (false, ·)
  | _ => none

theorem length_dropName?_le {cs rest : List Char} (h : dropName? cs = some rest) :
    rest.length ≤ cs.length := by
  have := (List.dropWhile_suffix (l := cs) (· ≠ ':')).length_le
  unfold dropName? at h
  split at h
  · split at h <;> grind
  · cases h

theorem length_named?_le {cs : List Char} {p : Bool × List Char} (h : named? cs = some p) :
    p.2.length ≤ cs.length := by
  unfold named? at h
  split at h
  · obtain ⟨_, hd, rfl⟩ := Option.map_eq_some_iff.1 h
    have := length_dropName?_le hd
    grind
  · obtain ⟨_, hd, rfl⟩ := Option.map_eq_some_iff.1 h
    have := length_dropName?_le hd
    grind
  · cases h

/-- Reads a character or an escape. -/
def piece? (verbose : Bool) : List Char → Option (Piece × List Char)
  | [] => none
  | '\\' :: cs => escape? verbose cs
  | c :: cs => some (.literal ⟨c, false⟩, cs)

/-- The set of a piece. Boundaries are not sets of characters. -/
def set? : Piece → Option CharSet
  | .literal l => some (.literal l)
  | .shorthand negated => some (.shorthand negated)
  | _ => none

/-- The range between two pieces, which are to be characters, the first not behind the last. -/
def range? : Piece → Piece → Option CharSet
  | .literal first, .literal last =>
    if first.char ≤ last.char then some (.range first last) else none
  | _, _ => none

/-- What follows behind a dash. Of comments only the sign that they start with is passed over. -/
def peek (verbose : Bool) (cs : List Char) : Option Char :=
  if verbose then
    match Text.dropBlanks cs with
    | '#' :: rest => (Text.dropBlanks rest).head?
    | rest => rest.head?
  else cs.head?

/-- What is left behind the dash of a range. A dash before another one, or at the end of a class, is
not the dash of a range. -/
def dropRangeDash? (verbose : Bool) : List Char → Option (List Char)
  | '-' :: rest =>
    if peek verbose rest = some ']' ∨ peek verbose rest = some '-' then none
    else some (skip verbose rest)
  | _ => none

/-- Reads a character, an escape or a range. -/
def item? (verbose : Bool) (cs : List Char) : Option (CharSet × List Char) :=
  match piece? verbose cs with
  | none => none
  | some (first, rest) =>
    match dropRangeDash? verbose (skip verbose rest) with
    | none => (set? first).map (·, rest)
    | some behind =>
      match piece? verbose behind with
      | none => none
      | some (last, rest) => (range? first last).map (·, rest)

theorem length_piece?_lt {verbose : Bool} {cs : List Char} {p : Piece × List Char}
    (h : piece? verbose cs = some p) : p.2.length < cs.length := by
  unfold piece? at h
  split at h
  · cases h
  · exact Nat.lt_succ_of_lt (length_escape?_lt h)
  · cases h
    exact Nat.lt_succ_self _

theorem length_dropRangeDash?_lt {verbose : Bool} {cs rest : List Char}
    (h : dropRangeDash? verbose cs = some rest) : rest.length < cs.length := by
  unfold dropRangeDash? at h
  split at h
  · split at h
    · cases h
    · cases h
      exact Nat.lt_succ_of_le (length_skip_le ..)
  · cases h

theorem length_item?_lt {verbose : Bool} {cs : List Char} {p : CharSet × List Char}
    (h : item? verbose cs = some p) : p.2.length < cs.length := by
  unfold item? at h
  split at h
  · cases h
  · rename_i first rest hfirst
    have := length_piece?_lt hfirst
    have := length_skip_le verbose rest
    split at h
    · obtain ⟨_, _, rfl⟩ := Option.map_eq_some_iff.1 h
      assumption
    · rename_i behind hdash
      have := length_dropRangeDash?_lt hdash
      split at h
      · cases h
      · rename_i last rest' hlast
        have := length_piece?_lt hlast
        obtain ⟨_, _, rfl⟩ := Option.map_eq_some_iff.1 h
        grind

/-! ## Reading a class -/

/-- How far the reading of a class has come. -/
inductive Progress where
  /-- It is within a class, which is within others, from the inner to the outer. -/
  | within (b : Bracket) (outer : List Bracket)
  /-- It is behind the class. -/
  | done (set : CharSet)

/-- Reads the next part of a class. -/
def step? (verbose : Bool) (b : Bracket) (outer : List Bracket) (cs : List Char) :
    Option (Progress × List Char) :=
  match skip verbose cs with
  | [] => none
  | ']' :: rest =>
    match outer with
    | [] => some (.done b.close, rest)
    | around :: outer => some (.within (around.push b.close) outer, rest)
  | '[' :: rest =>
    match named? rest with
    | some (negated, rest) => some (.within (b.push (.named negated)) outer, rest)
    | none =>
      let (inner, rest) := opened verbose rest
      some (.within inner (b :: outer), rest)
  | '&' :: '&' :: rest => some (.within b.combine outer, rest)
  | '-' :: '-' :: rest => some (.within b.combine outer, rest)
  | '~' :: '~' :: rest => some (.within b.combine outer, rest)
  | c :: rest =>
    (item? verbose (c :: rest)).map fun (set, rest) => (.within (b.push set) outer, rest)

theorem length_step?_lt {verbose : Bool} {b : Bracket} {outer : List Bracket} {cs : List Char}
    {p : Progress × List Char} (h : step? verbose b outer cs = some p) :
    p.2.length < cs.length := by
  have hle := length_skip_le verbose cs
  unfold step? at h
  split at h
  · cases h
  · split at h <;> grind
  · rename_i rest _
    split at h
    · rename_i hn
      have := length_named?_le hn
      grind
    · have := length_opened_le verbose rest
      grind
  · grind
  · grind
  · grind
  · obtain ⟨q, hq, rfl⟩ := Option.map_eq_some_iff.1 h
    have := length_item?_lt hq
    grind

/-- Reads a class from within it. -/
def read? (verbose : Bool) (b : Bracket) (outer : List Bracket) (cs : List Char) :
    Option (CharSet × List Char) :=
  match h : step? verbose b outer cs with
  | none => none
  | some (.done set, rest) => some (set, rest)
  | some (.within b outer, rest) =>
    have := length_step?_lt h
    read? verbose b outer rest
termination_by cs.length

theorem length_read?_lt {verbose : Bool} {b : Bracket} {outer : List Bracket} {cs : List Char}
    {p : CharSet × List Char} (h : read? verbose b outer cs = some p) :
    p.2.length < cs.length := by
  fun_induction read? verbose b outer cs with
  | case1 => cases h
  | case2 _ _ _ _ _ hs => cases h; exact length_step?_lt hs
  | case3 _ _ _ _ _ _ hs _ ih => exact Nat.lt_trans (ih h) (length_step?_lt hs)

end Bracket

/-- Reads a class behind its first bracket. -/
def class? (verbose : Bool) (cs : List Char) : Option (CharSet × List Char) :=
  let (b, rest) := Bracket.opened verbose cs
  b.read? verbose [] rest

theorem length_class?_lt {verbose : Bool} {cs : List Char} {p : CharSet × List Char}
    (h : class? verbose cs = some p) : p.2.length < cs.length :=
  Nat.lt_of_lt_of_le (Bracket.length_read?_lt h) (Bracket.length_opened_le verbose cs)

end LogGate.Pattern
