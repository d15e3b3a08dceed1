import Parley.Http.Cookie
import Parley.Http.MediaType
import Parley.Json.Record
import Parley.Service.Exchange

/-!
# What a request brings

Ids in the path and records in the body. A body is read only if it is said to be
JSON; what is no JSON text is told apart from a text of another shape.
-/
namespace Parley.Service

open Http (Request)

def pathId (parameter : List Char) : Handler Uuid :=
  match (Http.percentDecoded? parameter).bind Uuid.parse? with
  | some id => pure id
  | none => Handler.reject .badPath

def pathIds (first second : List Char) : Handler (Uuid × Uuid) := do
  return (← pathId first, ← pathId second)

/-- Whether the body is said to be JSON. -/
def saysJson (r : Request) : Bool :=
  match (r.text? "content-type").bind Http.MediaType.parse? with
  | some m => m.isJson
  | none => false

def Rejection.ofFault : Json.Fault → Rejection
  | .malformed => malformedBody
  | .mismatched => mismatchedBody

/-- Reads the body as a record, whatever its size. The limit of two megabytes, past which a body
is turned away unread with the status 413, is left out. -/
def body {σ α : Type} (record : Json.Record σ α) (r : Request) : Handler α :=
  if saysJson r then
    match record.readText r.body with
    | .ok a => pure a
    | .error fault => Handler.reject (.ofFault fault)
  else Handler.reject .notJsonContent

end Parley.Service
