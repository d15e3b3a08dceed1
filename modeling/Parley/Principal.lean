import Parley.Json.Basic
import Parley.Uuid

/-!
# Who acts, and through which channel

A request acts for a console account or for an end user of a published app. The
two are kept apart even where their ids coincide: what one owns is marked by its
source and by exactly one of the two owner ids.
-/
namespace Parley

/-- Who a request acts for. -/
inductive Principal where
  /-- A console account. -/
  | internalUser (account : Uuid)
  /-- An end user of a published web app. -/
  | externalVisitor (endUser : Uuid)
  deriving DecidableEq, Repr

namespace Principal

def id : Principal → Uuid
  | internalUser a => a
  | externalVisitor e => e

/-- The mark of the source on what the principal owns (`from_source`). -/
def source : Principal → String
  | internalUser _ => "console"
  | externalVisitor _ => "api"

/-- The owner id of an account (`account_id`). -/
def account? : Principal → Option Uuid
  | internalUser a => some a
  | externalVisitor _ => none

/-- The owner id of an end user (`end_user_id`). -/
def endUser? : Principal → Option Uuid
  | internalUser _ => none
  | externalVisitor e => some e

/-- The role that is stored beside what the principal creates. -/
def role : Principal → String
  | internalUser _ => "account"
  | externalVisitor _ => "end_user"

def text (p : Principal) : String :=
  p.role ++ ":" ++ p.id.text

/-! ## JSON -/

/-- The tag of the principal's kind. -/
def kind : Principal → String
  | internalUser _ => "internal_user"
  | externalVisitor _ => "external_visitor"

def idName : Principal → String
  | internalUser _ => "account_id"
  | externalVisitor _ => "end_user_id"

/-- An object with the kind and the id. -/
def toJson (p : Principal) : Json :=
  .obj [("kind", .str p.kind), (p.idName, .str p.id.text)]

def ofKind? (kind : String) : Option (Uuid → Principal) :=
  if kind = "internal_user" then some internalUser
  else if kind = "external_visitor" then some externalVisitor
  else none

def idOfJson? : Json → Option Uuid
  | .str s => Uuid.parse? s
  | _ => none

/-- Reads an object with a kind and the id that belongs to it, other members being
passed over, or an array of just the two. -/
def ofJson? : Json → Option Principal
  | .obj members => do
    let .str kind ← Json.get? "kind" (.obj members) | none
    let make ← ofKind? kind
    let id ← Json.get? (make default).idName (.obj members)
    (idOfJson? id).map make
  | .arr [.str kind, id] => do
    let make ← ofKind? kind
    (idOfJson? id).map make
  | _ => none

end Principal

/-- The channel through which a conversation is started (`InvokeFrom`). -/
inductive Channel where
  | webApp
  | explore
  deriving DecidableEq, Repr

namespace Channel

/-- The mark of the channel on a conversation (`as_str`). -/
def name : Channel → String
  | webApp => "web-app"
  | explore => "explore"

def ofName? (s : String) : Option Channel :=
  if s = "web-app" then some webApp
  else if s = "explore" then some explore
  else none

def toJson (c : Channel) : Json :=
  .str c.name

/-- Reads the name, alone or as the only member of an object, with `null` behind it. -/
def ofJson? : Json → Option Channel
  | .str s => ofName? s
  | .obj [(s, .null)] => ofName? s
  | _ => none

end Channel

end Parley
