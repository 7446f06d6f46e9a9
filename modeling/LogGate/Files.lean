import LogGate.Text.Utf8

/-!
# Files

A tree of files, one of its directories being the one that paths start from, and what comes of
reading a file by its path. A path is walked step by step: a step must lead from a directory to
something that is there, under a name that is not too long. `..` leads back, and from the root
nowhere. Only a file can be read, not a directory.
-/

namespace LogGate

/-- Why a file could not be read as a text. -/
inductive FileError where
  | missing
  | isDirectory
  | notDirectory
  | longName
  | nulByte
  /-- The bytes of the file are not UTF-8. -/
  | notText
  /-- Another reason, in the words of the system. -/
  | other (reason : String)
  deriving DecidableEq, Repr

/-- The text of an error. -/
def FileError.message : FileError → String
  | missing => "No such file or directory (os error 2)"
  | isDirectory => "Is a directory (os error 21)"
  | notDirectory => "Not a directory (os error 20)"
  | longName => "File name too long (os error 36)"
  | nulByte => "file name contained an unexpected NUL byte"
  | notText => "stream did not contain valid UTF-8"
  | other reason => reason

/-- Something that has a path. -/
inductive Entry where
  | file (bytes : List UInt8)
  | directory
  deriving DecidableEq, Repr

/-- A tree of files and directories, each by the names on the way to it from the root. -/
structure Files where
  /-- The way to the directory that relative paths start from. -/
  workingDirectory : List String := ["tmp", "work"]
  entries : List (List String × Entry) := []
  deriving DecidableEq, Repr

namespace Files

/-- The bytes that a name may have. -/
def nameLimit : Nat := 255

/-- The first number of bytes that a path may not have. -/
def pathLimit : Nat := 4096

/-- What is there in every tree: the usual directories, and a file without content. -/
def standard : List (List String × Entry) :=
  (["bin", "dev", "etc", "home", "lib", "opt", "proc", "root", "run", "sbin", "sys", "tmp", "usr",
    "var"].map fun name => ([name], .directory)) ++ [(["dev", "null"], .file [])]

/-- The way to the directory that a path starts from. -/
def origin (files : Files) (path : String) : List String :=
  if path.startsWith "/" then [] else files.workingDirectory

/-- The names on a path; the directory that a path is in and empty names are passed over. -/
def names (path : String) : List String :=
  (path.splitOn "/").filter fun name => name ≠ "" ∧ name ≠ "."

/-- The tree with the standard entries and with files by their paths. -/
def ofList (files : List (String × Entry)) : Files :=
  let tree : Files := {}
  { tree with entries :=
      (files.map fun (path, entry) => (tree.origin path ++ names path, entry)) ++ standard }

/-- What is at the end of a way; a way that leads on to something is a directory. -/
def find? (files : Files) (way : List String) : Option Entry :=
  match files.entries.lookup way with
  | some entry => some entry
  | none =>
    if way.isPrefixOf files.workingDirectory || files.entries.any fun e => way.isPrefixOf e.1 then
      some .directory
    else none

/-- Walks on from where a way has led. -/
def walk (files : Files) (way : List String) : List String → Except FileError Entry
  | [] => (files.find? way).elim (.error .missing) .ok
  | name :: rest =>
    match files.find? way with
    | none => .error .missing
    | some (.file _) => .error .notDirectory
    | some .directory =>
      if name = "" ∨ name = "." then walk files way rest
      else if name = ".." then walk files way.dropLast rest
      else if nameLimit < Utf8.size name.toList then .error .longName
      else walk files (way ++ [name]) rest

/-- Reads the bytes of a file. -/
def read (files : Files) (path : String) : Except FileError (List UInt8) :=
  if path.toList.contains '\x00' then .error .nulByte
  else if path = "" then .error .missing
  else if pathLimit ≤ Utf8.size path.toList then .error .longName
  else
    match files.walk (files.origin path) (path.splitOn "/") with
    | .ok (.file bytes) => .ok bytes
    | .ok .directory => .error .isDirectory
    | .error e => .error e

end Files

end LogGate
