import Parley.Json.Basic

/-!
# Responses

A status, headers and a body. The type of the content is told in a header, and
stays there when the body is left out.
-/
namespace Parley.Http

inductive Body where
  | empty
  | text (s : String)
  | json (v : Json)
  deriving DecidableEq, Repr

/-- A response, with its headers in the order in which they are sent. -/
structure Response where
  status : Nat
  headers : List (String × String) := []
  body : Body := .empty
  deriving DecidableEq, Repr

namespace Response

def ofStatus (status : Nat) : Response where
  status := status

def ofText (status : Nat) (s : String) : Response where
  status := status
  headers := [("content-type", "text/plain; charset=utf-8")]
  body := .text s

def ofJson (status : Nat) (v : Json) : Response where
  status := status
  headers := [("content-type", "application/json")]
  body := .json v

def withHeader (r : Response) (name value : String) : Response :=
  { r with headers := r.headers ++ [(name, value)] }

def withoutBody (r : Response) : Response :=
  { r with body := .empty }

end Response

end Parley.Http
