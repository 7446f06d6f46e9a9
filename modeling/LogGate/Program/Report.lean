/-!
# Reports of failure

A failure is reported as the text of what failed, and below it the texts of its causes. A single
cause is indented, several are numbered, and the further lines of a cause are indented like its
first one.
-/

namespace LogGate.Program

/-- Writes a text with something before its first line and something before each further line. -/
def indent (first further text : String) : String :=
  first ++ String.ofList (text.toList.flatMap fun c =>
    if c = '\n' then c :: further.toList else [c])

/-- The number of a cause, before its first line. -/
def number (i : Nat) : String := String.ofList ((Nat.toDigits 10 i).leftpad 5 ' ') ++ ": "

/-- Writes causes with their numbers. -/
def numbered (causes : List String) : List String :=
  causes.zipIdx.map fun (cause, i) => indent (number i) "       " cause

/-- Writes the causes of a failure, each from the start of a line. -/
def renderCauses : List String → List String
  | [cause] => [indent "    " "    " cause]
  | causes => numbered causes

/-- The report of a failure and its causes. -/
def report (failure : String) (causes : List String) : String :=
  let tail := if causes = [] then [] else ["", "Caused by:"] ++ renderCauses causes
  String.join ((("Error: " ++ failure) :: tail).map (· ++ "\n"))

end LogGate.Program
