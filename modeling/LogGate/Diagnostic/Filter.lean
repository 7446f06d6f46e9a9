import LogGate.Diagnostic.Directive

/-!
# Diagnostic filters

A filter says which diagnostics are shown. It is a list of directives with commas between them. Of
those that are about a diagnostic, the one that says most decides, of equal ones the last: what is
at least as severe as its level is shown. Texts that are no directives are passed over with a
warning, and without any directive only errors are shown.
-/

namespace LogGate

/-- A filter of diagnostics. -/
structure Filter where
  directives : List Directive
  deriving DecidableEq, Repr

namespace Filter

/-- The parts of a filter, which are to be directives. -/
def parts (text : String) : List String := (text.splitOn ",").filter (· ≠ "")

/-- Reads a filter. -/
def parse (text : String) : Filter :=
  match (parts text).filterMap fun part => (Directive.parse part).toOption with
  | [] => ⟨[{ level := some .error }]⟩
  | directives => ⟨directives⟩

/-- What is said about a part of a filter that is not a directive. -/
def warning? (part : String) : Option String :=
  match Directive.parse part with
  | .ok _ => none
  | .error e => some ("ignoring `" ++ part ++ "`: " ++ e.message)

/-- What is said about the parts of a filter that are not directives. -/
def warnings (text : String) : List String := (parts text).filterMap warning?

/-- The directive that decides about a diagnostic. -/
def decisive? (filter : Filter) (d : Diagnostic) : Option Directive :=
  (filter.directives.filter (·.fits d)).foldl (fun best other =>
    match best with
    | none => some other
    | some best => if best.yieldsTo other then some other else some best) none

/-- Whether a diagnostic is shown. -/
def shows (filter : Filter) (d : Diagnostic) : Bool :=
  (filter.decisive? d).any (·.shows d.level)

end Filter

end LogGate
