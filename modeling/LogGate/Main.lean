import LogGate.Program.Basic
import Std.Time.DateTime.Timestamp

/-!
# The command

Runs the program on the arguments and the environment of the process. The clock is looked at once,
before the run, and stands still for it. There is no transport for documents from URLs here, so
every request for one fails.
-/

namespace LogGate

/-- The contents of a file, or why it could not be read. -/
def readFile (path : String) : IO (Except FileError (List UInt8)) := do
  if path.toList.contains '\x00' then return .error .nulByte
  try
    return .ok (← IO.FS.readBinFile path).toList
  catch
    | .noFileOrDirectory .. => return .error .missing
    | e => return .error (.other (toString e))

/-- The time of day. -/
def timeOfDay : IO Time.Instant := do
  let sinceEpoch := (← Std.Time.Timestamp.now).toNanosecondsSinceUnixEpoch.val
  let seconds := sinceEpoch / 1_000_000_000
  let nano := (sinceEpoch % 1_000_000_000).toNat
  return (Time.Instant.of? (seconds / 86400) (seconds % 86400).toNat nano).getD .epoch

/-- The error of every request. -/
def noTransport (url : String) : Fetch.TransportError where
  text := "there is no transport for " ++ url

/-- What the program finds when it is called with arguments. -/
def invocation (arguments : List String) : IO Program.Invocation := do
  let environment ← IO.getEnv "MINSEV_MIN_SEVERITY"
  let path := match CommandLine.parse environment arguments with
    | .ok (.run a) => a.config
    | _ => none
  let contents ← match path with
    | some path => readFile path
    | none => pure (.error .missing)
  let filter ← IO.getEnv "RUST_LOG"
  let now ← IO.monoNanosNow
  let time ← timeOfDay
  return {
    arguments, environment, filter
    sources := { file := fun _ => contents, url := fun url => .error (noTransport url) }
    now := fun _ => now
    time := fun _ => time
    stamp := fun _ => time.render }

end LogGate

def main (arguments : List String) : IO UInt32 := do
  let result := LogGate.Program.run (← LogGate.invocation arguments)
  let stdout ← IO.getStdout
  stdout.write (ByteArray.mk result.output.toArray)
  stdout.flush
  IO.eprint result.errors
  return UInt32.ofNat result.exit
