import LogGate.Fetch.Status
import LogGate.Text.Utf8

/-!
# Responses

Asking for a URL comes to a response, or to an error of the transport where none arrives: the URL is
not valid, nobody listens there, or the connection was closed. A response is there as soon as its
status is. Its body comes behind that, and may break off. It is a text only if all of it has
arrived, read as UTF-8 with U+FFFD for what is broken in it.

The transport itself is not described here. Of its errors there is the text, and the texts of what
caused them.
-/

namespace LogGate.Fetch

/-- An error of the transport. -/
structure TransportError where
  text : String
  /-- The texts of what caused it, the nearest cause first. -/
  causes : List String := []
  deriving DecidableEq, Repr

/-- The body of a response. -/
inductive Body where
  /-- All of it arrives. -/
  | whole (bytes : List UInt8)
  /-- A part of it arrives, and then it breaks off. -/
  | brokenOff (part : List UInt8) (error : TransportError)
  deriving DecidableEq, Repr

/-- A response whose status has arrived. -/
structure Response where
  status : Status
  body : Body
  deriving DecidableEq, Repr

/-- The body of a response as a text. -/
def Response.text (response : Response) : Except TransportError String :=
  match response.body with
  | .whole bytes => .ok (Utf8.decodeLossy bytes)
  | .brokenOff _ error => .error error

/-- What asking for a URL comes to. -/
abbrev Exchange := Except TransportError Response

end LogGate.Fetch
