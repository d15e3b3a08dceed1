import Parley.Http.Request
import Parley.Text.Decimal
import Parley.Text.Percent

/-!
# Cookies

A request brings cookies as pairs with semicolons between them; names and values
are percent-encoded. A pair that is not UTF-8 once it is decoded does not count, and
of repeated names the last one counts. A response sets a cookie with its attributes.
-/
namespace Parley.Http

/-- The text that percent-encoded text stands for. -/
def percentDecoded? (cs : List Char) : Option String :=
  Utf8.toString? (Percent.decode (Utf8.encode cs))

namespace Cookie

/-- Reads one pair: a name that is not empty and a value, without the blanks around
them. -/
def parse? (pair : List Char) : Option (String × String) :=
  match Text.splitFirst? (· == '=') pair with
  | none => none
  | some (name, value) =>
    let name := Text.trimChars name
    if name.isEmpty then none
    else do return (← percentDecoded? name, ← percentDecoded? (Text.trimChars value))

def ofRequest (r : Request) : List (String × String) :=
  (r.headerValues "cookie").flatMap fun value =>
    match readable? value with
    | none => []
    | some text => (Text.splitWhere (· == ';') text.toList).filterMap parse?

/-- The value of the last cookie of that name. -/
def get? (r : Request) (name : String) : Option String :=
  ((ofRequest r).reverse.find? fun c => c.1 == name).map Prod.snd

/-- The text that sets a cookie for all paths, which scripts do not see and other sites do not
send (`access_cookie`). -/
def set (name value : String) (secure : Bool) (maxAge : Option Int) : String :=
  name ++ "=" ++ value ++ "; HttpOnly; SameSite=Lax" ++
    (if secure then "; Secure" else "") ++ "; Path=/" ++
    (match maxAge with
      | some seconds => "; Max-Age=" ++ Decimal.ofInt seconds
      | none => "")

end Cookie

end Parley.Http
