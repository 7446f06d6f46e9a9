import LogGate.Config.Document
import LogGate.Fetch.Basic
import LogGate.Files

/-!
# Where a configuration comes from

A configuration can be read from a file and from a URL, and a level can be given outright. Each
source that is given has to be good. Later ones replace what earlier ones said: the file, the URL,
the level. The first failing source is the one that is reported, and no later source is asked.
-/

namespace LogGate

/-- Where the contents of files and the answers to requests come from. -/
structure Sources where
  file : String → Except FileError (List UInt8)
  url : String → Fetch.Exchange

/-- Why there is no configuration. -/
inductive ConfigError where
  | unreadable (path : String) (cause : FileError)
  | invalid (path : String) (cause : Json.Error)
  | unfetched (url : String) (cause : FetchError)
  deriving DecidableEq, Repr

namespace ConfigError

/-- The text of an error. -/
def message : ConfigError → String
  | unreadable path _ => "Failed to read config file " ++ path
  | invalid path _ => "Invalid config file " ++ path
  | unfetched url _ => "Failed to fetch config from " ++ url

/-- The texts of what caused an error, the nearest cause first. -/
def causes : ConfigError → List String
  | unreadable _ cause => [cause.message]
  | invalid _ cause => [cause.message]
  | unfetched _ cause => cause.chain

end ConfigError

namespace Config

/-- Reads a configuration from the contents of a file. -/
def ofContents (path : String) (contents : Except FileError (List UInt8)) :
    Except ConfigError Config := do
  match contents with
  | .error e => throw (.unreadable path e)
  | .ok bytes =>
    match Utf8.decode? bytes with
    | none => throw (.unreadable path .notText)
    | some text =>
      match parse text with
      | .ok config => return config
      | .error e => throw (.invalid path e)

/-- Reads a configuration from a URL. -/
def ofExchange (url : String) (exchange : Fetch.Exchange) : Telling ConfigError Config :=
  Telling.mapError (.unfetched url) (Fetch.get reader url exchange)

/-- The configuration from a file, a URL and a level, each if it is given. -/
def resolve (sources : Sources) (file url : Option String) (level : Option Severity) :
    Telling ConfigError Config := do
  let mut config := default
  if let some path := file then config ← liftExcept (ofContents path (sources.file path))
  if let some url := url then config ← ofExchange url (sources.url url)
  if let some level := level then config := { config with minSeverity := level }
  return config

end Config

end LogGate
