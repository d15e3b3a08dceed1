import Parley.Text.Blank

/-!
# Routes

The paths that are served and the methods each of them takes. A path is compared as
it is written. A parameter may be empty, unless it comes last.
-/
namespace Parley.Http

/-- A request method, as far as the routes tell methods apart. -/
inductive Method where
  | get
  | head
  | post
  | delete
  | options
  | other
  deriving DecidableEq, Repr

namespace Method

def ofName (s : String) : Method :=
  match s with
  | "GET" => get
  | "HEAD" => head
  | "POST" => post
  | "DELETE" => delete
  | "OPTIONS" => options
  | _ => other

end Method

/-- A served path, with its parameters as they are written. -/
inductive Route where
  | health
  | login
  | logout
  | refreshToken
  | consoleConversations (app : List Char)
  | consoleConversation (app id : List Char)
  | consoleConversationName (app id : List Char)
  | passport
  | webConversations
  | webConversation (id : List Char)
  | webConversationName (id : List Char)
  deriving DecidableEq, Repr

namespace Route

/-- The route below `/console/api`. -/
def ofConsoleSegments? (first : String) (rest : List (List Char)) : Option Route :=
  match first, rest with
  | "login", [] => some login
  | "logout", [] => some logout
  | "refresh-token", [] => some refreshToken
  | "apps", app :: conversations :: below =>
    if String.ofList conversations = "conversations" then
      match below with
      | [] => some (consoleConversations app)
      | [id] => if id.isEmpty then none else some (consoleConversation app id)
      | [id, name] =>
        if String.ofList name = "name" then some (consoleConversationName app id) else none
      | _ => none
    else none
  | _, _ => none

/-- The route below `/api`. -/
def ofApiSegments? (first : String) (rest : List (List Char)) : Option Route :=
  match first, rest with
  | "passport", [] => some passport
  | "conversations", [] => some webConversations
  | "conversations", [id] => if id.isEmpty then none else some (webConversation id)
  | "conversations", [id, name] =>
    if String.ofList name = "name" then some (webConversationName id) else none
  | _, _ => none

/-- The route of a path, as the service lays its routes out (`app`). -/
def ofPath? (path : List Char) : Option Route :=
  match Text.splitWhere (· == '/') path with
  | [[], only] => if String.ofList only = "healthz" then some health else none
  | [] :: first :: second :: rest =>
    match String.ofList first, rest with
    | "api", rest => ofApiSegments? (String.ofList second) rest
    | "console", third :: rest =>
      if String.ofList second = "api" then ofConsoleSegments? (String.ofList third) rest else none
    | _, _ => none
  | _ => none

/-- The methods that a route takes, as told to the client. -/
def allowed : Route → String
  | login | logout | refreshToken | consoleConversationName _ _ | webConversationName _ => "POST"
  | consoleConversation _ _ | webConversation _ => "GET,HEAD,DELETE"
  | health | consoleConversations _ | passport | webConversations => "GET,HEAD"

end Route

end Parley.Http
