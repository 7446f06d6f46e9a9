/-!
# Patterns

A pattern is a regular expression. Nothing is looked for with patterns here: they are only asked
whether they can be used. So of a pattern (`Pattern`) is kept what decides that: the characters that
it is made of, what is in its classes, where its flags are set, and how deep it is nested
(`Pattern.nesting`). Left out is how often something is repeated, and what a group is called.
-/

namespace LogGate

namespace Pattern

/-- What a flag changes. -/
inductive Flag where
  /-- Letters match in either case. -/
  | ignoreCase
  /-- Lines have a beginning and an end. -/
  | multiLine
  /-- A dot also matches the end of a line. -/
  | dotAll
  /-- Repetitions are lazy where they are not marked as such. -/
  | swapGreed
  /-- Characters are those of all scripts, and not bytes. -/
  | unicode
  /-- Lines may end in two characters. -/
  | crlf
  /-- White space and comments are passed over. -/
  | verbose
  deriving DecidableEq, Repr

/-- The flag of a letter. -/
def Flag.ofChar? (c : Char) : Option Flag :=
  if c = 'i' then some ignoreCase
  else if c = 'm' then some multiLine
  else if c = 's' then some dotAll
  else if c = 'U' then some swapGreed
  else if c = 'u' then some unicode
  else if c = 'R' then some crlf
  else if c = 'x' then some verbose
  else none

/-- The flags that are set and those that are taken back. -/
structure Flags where
  set : List Flag := []
  cleared : List Flag := []
  deriving DecidableEq, Repr

/-- Whether a flag holds behind flags, where it is known whether it held before. -/
def Flags.turn (flags : Flags) (flag : Flag) (before : Bool) : Bool :=
  flags.set.contains flag || before && !flags.cleared.contains flag

/-- A character that is asked for. -/
structure Literal where
  char : Char
  /-- Whether it is written as a byte, in two digits. -/
  isByte : Bool := false
  deriving DecidableEq, Repr

/-- A set of characters, as it is put together in a class. -/
inductive CharSet where
  | literal (l : Literal)
  | range (first last : Literal)
  /-- The digits, the blanks or the characters of words, or all the others. -/
  | shorthand (negated : Bool)
  /-- The characters of a named class, or all the others. -/
  | named (negated : Bool)
  /-- What is in brackets, or all the others. -/
  | bracketed (negated : Bool) (set : CharSet)
  | union (sets : List CharSet)
  /-- What two sets have in common, or do not have in common. -/
  | combined (left right : CharSet)
  deriving Repr

/-- The set of what is in one of some sets. -/
def CharSet.ofList : List CharSet → CharSet
  | [set] => set
  | sets => union sets

/-- What is looked for at one place. -/
inductive Piece where
  | literal (l : Literal)
  /-- Any character. -/
  | any
  /-- The beginning or the end of a text or a line. -/
  | boundary
  /-- The beginning or the end of a word, or any other place. -/
  | wordBoundary
  /-- The digits, the blanks or the characters of words, or all the others. -/
  | shorthand (negated : Bool)
  /-- The characters of a class. -/
  | oneOf (set : CharSet)
  deriving Repr

end Pattern

/-- A pattern. -/
inductive Pattern where
  | piece (p : Pattern.Piece)
  /-- Flags for what is left of the group that they are in. -/
  | turn (flags : Pattern.Flags)
  /-- A group, with the flags that are for it alone. -/
  | group (flags : Pattern.Flags) (p : Pattern)
  | repeated (p : Pattern)
  | sequence (ps : List Pattern)
  /-- One of some patterns. -/
  | choice (ps : List Pattern)
  deriving Repr

namespace Pattern

/-- The pattern of some patterns one behind the other. -/
def ofList : List Pattern → Pattern
  | [p] => p
  | ps => sequence ps

/-! ## Nesting -/

mutual

/-- How deep the parts of a set are nested. -/
def CharSet.nesting : CharSet → Nat
  | .bracketed _ set => set.nesting + 1
  | .union [] => 0
  | .union (set :: sets) => max set.nesting (CharSet.nestingOfList sets) + 1
  | .combined left right => max left.nesting right.nesting + 1
  | .literal _ | .range _ _ | .shorthand _ | .named _ => 0

/-- How deep the parts of some sets are nested. -/
def CharSet.nestingOfList : List CharSet → Nat
  | [] => 0
  | set :: sets => max set.nesting (CharSet.nestingOfList sets)

end

/-- How deep the parts of a piece are nested. -/
def Piece.nesting : Piece → Nat
  | .oneOf set => set.nesting
  | _ => 0

mutual

/-- How deep the parts of a pattern are nested. -/
def nesting : Pattern → Nat
  | .piece p => p.nesting
  | .turn _ => 0
  | .group _ p => p.nesting + 1
  | .repeated p => p.nesting + 1
  | .sequence [] => 0
  | .sequence (p :: ps) => max p.nesting (nestingOfList ps) + 1
  | .choice ps => nestingOfList ps + 1

/-- How deep the parts of some patterns are nested. -/
def nestingOfList : List Pattern → Nat
  | [] => 0
  | p :: ps => max p.nesting (nestingOfList ps)

end

end Pattern

end LogGate
