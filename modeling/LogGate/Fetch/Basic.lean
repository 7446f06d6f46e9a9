import LogGate.Diagnostic.Telling
import LogGate.Fetch.Response
import LogGate.Json.Reader
import LogGate.Text.Quoted

/-!
# Fetching documents

A document is fetched from a URL in three steps that may fail: a response has to arrive, its body
has to arrive whole, and the body has to be the document. The status is looked at between the second
step and the third. Without success the body is only shown, whatever it is.
-/

namespace LogGate

/-- Why a document could not be fetched. -/
inductive FetchError where
  /-- The request failed, before a response arrived or within its body. -/
  | request (error : Fetch.TransportError)
  /-- The status tells of no success. -/
  | status (status : Fetch.Status) (body : String)
  /-- The body is not the document that was expected. -/
  | decode (error : Json.Error)
  deriving DecidableEq, Repr

namespace FetchError

/-- The text of an error. -/
def message : FetchError → String
  | .request error => "HTTP request failed. " ++ error.text
  | .status code body => "Server responded with " ++ code.render ++ ": " ++ body
  | .decode error => "Response was not the expected JSON. " ++ error.message

/-- The texts of what caused an error, the nearest cause first. -/
def causes : FetchError → List String
  | .request error => error.text :: error.causes
  | .status .. => []
  | .decode error => [error.message]

/-- The texts of an error and of what caused it, the error first. -/
def chain (e : FetchError) : List String := e.message :: e.causes

end FetchError

namespace Fetch

/-- The part of the program that diagnostics of fetching come from. -/
def origin : String := "json_fetch"

/-- What is told before a URL is asked for. -/
def asking (url : String) : Diagnostic :=
  ⟨.debug, origin, "fetching json", [("url", Text.quote url)]⟩

/-- What is told of a status without success. -/
def rejected (url : String) (status : Status) : Diagnostic :=
  ⟨.debug, origin, "json fetch rejected", [("url", Text.quote url), ("status", status.render)]⟩

/-- Fetches a document and reads it. -/
def get {α : Type} (reader : Json.Reader α) (url : String) (exchange : Exchange) :
    Telling FetchError α := do
  Telling.tell (asking url)
  let response ← liftExcept (exchange.mapError FetchError.request)
  let status := response.status
  let body ← liftExcept (response.text.mapError FetchError.request)
  unless status.isSuccess do
    Telling.tell (rejected url status)
    throw (.status status body)
  liftExcept ((reader.decode body).mapError FetchError.decode)

end Fetch

end LogGate
