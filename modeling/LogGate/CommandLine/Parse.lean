import LogGate.CommandLine.Basic

/-!
# Reading the command line

Arguments are read in order. An option has its value behind `=` or as the argument that follows it.
In the second case the option stays open until the next option, the request for the version or the
end of the line settles it: only then it is checked that it has a value, that it was not given
before, and that the value is good. An argument that is not understood is reported at once, even if
an open option would not have been good. Behind `--` there are no more options.

A level that is not given on the command line may come from an environment variable, which is not
looked at otherwise.
-/

namespace LogGate.CommandLine

/-- Reads the severity that is the value of an option. -/
def severityOf (key : Key) (value : String) : Except UsageError Severity :=
  match Severity.parse value with
  | .ok s => .ok s
  | .error e => .error (.invalidValue key value e)

namespace Arguments

/-- Whether an option has been given. -/
def has (a : Arguments) : Key → Bool
  | .minSeverity => a.minSeverity.isSome
  | .config => a.config.isSome
  | .configUrl => a.configUrl.isSome
  | .raiseTo => a.raiseTo.isSome

/-- Gives an option a value, which has to be the first and a good one. A path must not be empty. -/
def give (a : Arguments) (key : Key) (value : String) : Except UsageError Arguments := do
  if a.has key then throw (.repeated key)
  match key with
  | .minSeverity => return { a with minSeverity := ← severityOf key value }
  | .config =>
    if value = "" then throw (.missingValue key)
    return { a with config := value }
  | .configUrl => return { a with configUrl := value }
  | .raiseTo => return { a with raiseTo := ← severityOf key value }

end Arguments

/-- An option that is not settled yet, with its value if that has come. -/
structure Open where
  key : Key
  value : Option String := none
  deriving DecidableEq, Repr

/-- Settles the open option, if there is one. -/
def settle (a : Arguments) : Option Open → Except UsageError Arguments
  | none => .ok a
  | some ⟨key, none⟩ => .error (.missingValue key)
  | some ⟨key, some value⟩ => a.give key value

/-- What an argument looks like. -/
inductive Shape where
  /-- Two dashes alone. -/
  | escape
  /-- Two dashes, a name, and perhaps a value behind `=`. -/
  | long (name : String) (value : Option String)
  /-- One dash and a letter, with or without more behind it. -/
  | short (letter : Char)
  /-- Anything else, also a dash alone. -/
  | word
  deriving DecidableEq, Repr

/-- What an argument looks like. -/
def shape (argument : String) : Shape :=
  match argument.toList with
  | ['-', '-'] => .escape
  | '-' :: '-' :: cs =>
    let name := String.ofList (cs.takeWhile (· ≠ '='))
    match cs.dropWhile (· ≠ '=') with
    | [] => .long name none
    | _ :: value => .long name (some (String.ofList value))
  | '-' :: c :: _ => .short c
  | _ => .word

/-- Reads arguments behind others, of which one may be open. -/
def parseFrom (a : Arguments) (pending : Option Open) : List String → Except UsageError Request
  | [] => return .run (← settle a pending)
  | argument :: rest => do
    match shape argument with
    | .escape =>
      match rest with
      | [] => return .run (← settle a pending)
      | word :: _ => throw (.unexpected word)
    | .long name value =>
      match Key.ofName? name, value with
      | some key, some value => parseFrom (← (← settle a pending).give key value) none rest
      | some key, none => parseFrom (← settle a pending) (some { key }) rest
      | none, value =>
        if name ≠ "version" then throw (.unexpected ("--" ++ name))
        if let some value := value then throw (.needlessValue value)
        let _ ← settle a pending
        return .version
    | .short letter =>
      if letter ≠ 'V' then throw (.unexpected (String.ofList ['-', letter]))
      let _ ← settle a pending
      return .version
    | .word =>
      match pending with
      | some ⟨key, none⟩ => parseFrom a (some { key, value := argument }) rest
      | _ => throw (.unexpected argument)

/-- Reads a command line, with the value of the environment variable for the minimum severity. -/
def parse (environment : Option String) (arguments : List String) : Except UsageError Request := do
  match ← parseFrom {} none arguments with
  | .version => return .version
  | .run a =>
    match a.minSeverity, environment with
    | none, some value => return .run { a with minSeverity := ← severityOf .minSeverity value }
    | _, _ => return .run a

end LogGate.CommandLine
