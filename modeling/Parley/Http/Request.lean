import Parley.Text.Blank
import Parley.Text.Utf8

/-!
# Requests

A request as it arrives: method, target, headers and body. Of repeated headers the
first counts, and names are compared without regard to case. A header's value is
text if it is printable ASCII, where a tab counts as printable.
-/
namespace Parley.Http

structure Request where
  method : String
  target : String
  headers : List (String × List UInt8) := []
  body : List UInt8 := []

/-- The text of a header's value, if it is readable. -/
def readable? (value : List UInt8) : Option String :=
  if value.all fun b => b == 0x09 || (decide (0x20 ≤ b) && decide (b ≤ 0x7E)) then
    some (String.ofList (value.map fun b => Char.ofNat b.toNat))
  else none

namespace Request

variable (r : Request)

/-! ## Target -/

/-- The target without a fragment: the path, and the query if there is one. -/
def parts : List Char × Option (List Char) :=
  let target := match Text.splitFirst? (· == '#') r.target.toList with
    | some (target, _) => target
    | none => r.target.toList
  match Text.splitFirst? (· == '?') target with
  | some (path, query) => (path, some query)
  | none => (target, none)

/-- The path as it is written. -/
def path : List Char := r.parts.1

/-- The query as it is written, empty where there is none. -/
def query : List Char := r.parts.2.getD []

/-! ## Headers -/

def header? (name : String) : Option (List UInt8) :=
  (r.headers.find? fun h => Text.sameLetters h.1 name).map Prod.snd

def headerValues (name : String) : List (List UInt8) :=
  (r.headers.filter fun h => Text.sameLetters h.1 name).map Prod.snd

def text? (name : String) : Option String :=
  (r.header? name).bind readable?

/-- The value of a header as text without blanks around it, if anything is left (`header_str`). -/
def filled? (name : String) : Option String :=
  ((r.text? name).map Text.trim).filter fun s => !s.isEmpty

def bearerScheme : List Char := "Bearer ".toList

/-- The token that the request bears (`bearer_token`). -/
def bearer? : Option String :=
  match r.text? "authorization" with
  | none => none
  | some value =>
    if bearerScheme.isPrefixOf value.toList then
      let token := Text.trimChars (value.toList.drop bearerScheme.length)
      if token.isEmpty then none else some (String.ofList token)
    else none

/-- The address of the caller as told by the proxy in front (`client_ip`): the first one that
the request was forwarded for, or else the real one. -/
def clientAddress? : Option String :=
  let forwarded := (r.text? "x-forwarded-for").bind fun value =>
    (Text.splitWhere (· == ',') value.toList).head?
  let real := (r.text? "x-real-ip").map String.toList
  match forwarded.or real with
  | none => none
  | some address =>
    let address := Text.trimChars address
    if address.isEmpty then none else some (String.ofList address)

end Request

end Parley.Http
