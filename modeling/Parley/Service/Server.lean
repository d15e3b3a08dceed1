import Parley.Http.Route
import Parley.Service.Conversations
import Parley.Service.Login
import Parley.Settings

/-!
# The server

A request is answered by the endpoint for its route and method, with the reply of
the database to each of its statements given beforehand. Between requests only the
limiter of failed logins is kept.

Every response may be read by scripts of any origin and bears the number of its
request.

Here and below, a name in parentheses such as (`check_at`) is the one under which the
service itself knows what is defined.
-/
namespace Parley.Service

open Http (Method Request Response Route)
open Store (Reply Statement)

/-! ## Endpoints -/

/-- The endpoint for a route and a method (`app`). -/
def endpoint? (ctx : Context) (r : Request) : Route → Method → Option (Handler Response)
  | .health, .get => some (pure (.ofText 200 "ok"))
  | .login, .post => some (login ctx r)
  | .logout, .post => some (logout ctx r)
  | .refreshToken, .post => some (refresh ctx r)
  | .consoleConversations app, .get => some (consoleList r app)
  | .consoleConversation app id, .get => some (consoleGet r app id)
  | .consoleConversation app id, .delete => some (consoleDelete r app id)
  | .consoleConversationName app id, .post => some (consoleRename r app id)
  | .passport, .get => some (getPassport ctx r)
  | .webConversations, .get => some (webList ctx r)
  | .webConversation id, .get => some (webGet ctx r id)
  | .webConversation id, .delete => some (webDelete ctx r id)
  | .webConversationName id, .post => some (webRename ctx r id)
  | _, _ => none

/-- Runs an endpoint and makes a response of its failure. -/
def run (h : Handler Response) (x : Exchange) : Response × Exchange :=
  match h.run.run x with
  | (.ok response, x) => (response, x)
  | (.error failure, x) => (failure.response, x)

def notAllowed (route : Route) : Response :=
  (Response.ofStatus 405).withHeader "allow" route.allowed

/-- Answers a request for a route. What `HEAD` asks for is the answer to `GET`
without its body. -/
def answerRoute (ctx : Context) (r : Request) (route : Route) (x : Exchange) :
    Response × Exchange :=
  match Method.ofName r.method with
  | .head =>
    match endpoint? ctx r route .get with
    | some h => let (response, x) := run h x; (response.withoutBody, x)
    | none => (notAllowed route, x)
  | method =>
    match endpoint? ctx r route method with
    | some h => run h x
    | none => (notAllowed route, x)

/-- The answer to the question which requests are taken: all, as far as the origin
matters. -/
def preflight (route : Option Route) : Response :=
  let response : Response := {
    status := 200
    headers := [("access-control-allow-methods", "*"), ("access-control-allow-headers", "*")] }
  match route with
  | some route => response.withHeader "allow" route.allowed
  | none => response

def answer (ctx : Context) (r : Request) (x : Exchange) : Response × Exchange :=
  let route := Route.ofPath? r.path
  if Method.ofName r.method = .options then (preflight route, x)
  else
    match route with
    | some route => answerRoute ctx r route x
    | none => (.ofStatus 404, x)

/-- The headers that every response has. -/
def commonHeaders (ctx : Context) : List (String × String) := [
  ("access-control-allow-origin", "*"),
  ("vary", "origin, access-control-request-method, access-control-request-headers"),
  ("x-request-id", ctx.fresh.request.compact)]

/-! ## Runs -/

/-- What stays the same while the server runs. -/
structure Config where
  secretKey : String
  accessTokenMinutes : Int
  refreshTokenDays : Int
  loginErrorLimit : Nat
  loginErrorWindowSeconds : Nat
  secureCookies : Bool
  deriving DecidableEq, Repr

def Config.ofSettings (s : Settings) : Config where
  secretKey := s.secretKey
  accessTokenMinutes := s.accessTokenMinutes
  refreshTokenDays := s.refreshTokenDays
  loginErrorLimit := s.loginErrorLimit
  loginErrorWindowSeconds := s.loginErrorWindowSeconds
  secureCookies := s.secureCookies

def Config.limiter (c : Config) : LoginLimiter where
  limit := c.loginErrorLimit
  window := 1000 * c.loginErrorWindowSeconds

/-- A request with all that its answer depends on: the time, what is drawn at random
and the replies of the database. -/
structure Event where
  request : Request
  now : Int
  fresh : Fresh
  replies : List Reply

/-- What is seen of a request's handling: the response and the statements. -/
structure Outcome where
  response : Response
  log : List Statement

def Config.context (c : Config) (e : Event) : Context where
  secretKey := c.secretKey
  accessTokenMinutes := c.accessTokenMinutes
  refreshTokenDays := c.refreshTokenDays
  secureCookies := c.secureCookies
  now := e.now
  fresh := e.fresh

/-- Handles one event. -/
def handle (c : Config) (limiter : LoginLimiter) (e : Event) : Outcome × LoginLimiter :=
  let ctx := c.context e
  let (response, x) := answer ctx e.request { limiter := limiter, replies := e.replies }
  let response := { response with headers := commonHeaders ctx ++ response.headers }
  (⟨response, x.log⟩, x.limiter)

def handleAll (c : Config) : LoginLimiter → List Event → List Outcome
  | _, [] => []
  | limiter, e :: es =>
    let (outcome, limiter) := handle c limiter e
    outcome :: handleAll c limiter es

end Parley.Service
