import Parley.Account.LoginLimiter
import Parley.Service.ApiError
import Parley.Store.Reply
import Parley.Store.Statement

/-!
# One request in progress

While a request is handled it may look at the limiter of failed logins and change
it, and send statements to the database. Every statement is logged; replies are
taken in order, one for each statement, except those that only open or end a
transaction, which succeed without one. The first failure ends the handling.
-/
namespace Parley.Service

open Store (Cell Reply Row Statement)

/-- Random bytes and their text in hex. -/
structure Nonce (size : Nat) where
  bytes : Vector UInt8 size
  deriving DecidableEq, Repr

/-- Two digits for every byte (`bytes_to_hex`). -/
def Nonce.text {size : Nat} (n : Nonce size) : String :=
  String.ofList (Hex.encode n.bytes.toList)

/-- Access and refresh tokens (`generate_token`). -/
abbrev Token := Nonce 32

/-- What is drawn at random for one request. -/
structure Fresh where
  request : Uuid
  accessToken : Token
  refreshToken : Token
  /-- The session of an end user that is made. -/
  visit : Uuid

/-- What requests depend on besides what they bring (`AppState`). -/
structure Context where
  secretKey : String
  accessTokenMinutes : Int
  refreshTokenDays : Int
  secureCookies : Bool
  /-- The time at which the request is handled, in milliseconds. -/
  now : Int
  fresh : Fresh

/-- Why a request was not fit to be handled. -/
inductive Rejection where
  | badPath
  | badQuery
  | notJsonContent
  | malformedBody
  | mismatchedBody
  deriving DecidableEq, Repr

namespace Rejection

def status : Rejection → Nat
  | notJsonContent => 415
  | mismatchedBody => 422
  | _ => 400

/-- The text of the response. The words of the web framework, which name the place of the fault,
are shortened here to the kind of the fault: two answers that are equal as a whole tell of the
same kind. -/
def message : Rejection → String
  | badPath => "the path does not hold the ids that it should"
  | badQuery => "the query cannot be read"
  | notJsonContent => "the content is not JSON"
  | malformedBody => "the body is not a JSON text"
  | mismatchedBody => "the body is not the record that it should be"

end Rejection

/-- Why the handling of a request ended early. -/
inductive Failure where
  | api (e : ApiError)
  | rejected (r : Rejection)
  | database
  deriving DecidableEq, Repr

def Failure.response : Failure → Http.Response
  | api e => e.response
  | rejected r => .ofText r.status r.message
  | database => ApiError.internal.response

/-- What changes while a request is handled. -/
structure Exchange where
  limiter : LoginLimiter
  replies : List Reply
  log : List Statement := []

/-- A computation that handles a request. What it changed in the exchange stays also when it
fails. -/
abbrev Handler := ExceptT Failure (StateM Exchange)

namespace Handler

def fail {α : Type} (e : ApiError) : Handler α :=
  throw (.api e)

def reject {α : Type} (r : Rejection) : Handler α :=
  throw (.rejected r)

/-- The value, or an error where there is none. -/
def orFail {α : Type} (e : ApiError) : Option α → Handler α
  | some a => pure a
  | none => fail e

/-- The value, or a failure of the database where there is none. -/
def orDatabase {α : Type} : Option α → Handler α
  | some a => pure a
  | none => throw .database

/-! ## The limiter -/

/-- Goes on only if the limiter lets the address log in. -/
def checkLimiter (now : Int) (email : String) : Handler Unit := do
  let (verdict, limiter) := (← get).limiter.check now email
  modify fun x => { x with limiter := limiter }
  match verdict with
  | .ok () => pure ()
  | .error e => fail (.ofLoginRefused e)

def modifyLimiter (f : LoginLimiter → LoginLimiter) : Handler Unit :=
  modify fun x => { x with limiter := f x.limiter }

/-! ## Statements -/

/-- Logs a statement and takes the reply to it. A statement that opens or ends a transaction
takes no reply, and so is never seen to fail. -/
def send (s : Statement) : Handler Reply := do
  modify fun x => { x with log := x.log ++ [s] }
  if s.isTransactional then return .affected 0
  match (← get).replies with
  | [] => throw .database
  | reply :: rest => do
    modify fun x => { x with replies := rest }
    match reply with
    | .failure => throw .database
    | reply => return reply

def rows (s : Statement) : Handler (List Row) := do
  match ← send s with
  | .rows rows => return rows
  | _ => return []

/-- Every row that a statement returns. -/
def all {α : Type} (s : Statement) (read : Row → Option α) : Handler (List α) := do
  orDatabase ((← rows s).mapM read)

/-- The first row that a statement returns, if it returns one. -/
def first? {α : Type} (s : Statement) (read : Row → Option α) : Handler (Option α) := do
  match ← rows s with
  | [] => return none
  | row :: _ => return some (← orDatabase (read row))

/-- The one row that a statement always returns. -/
def one {α : Type} (s : Statement) (read : Row → Option α) : Handler α := do
  orDatabase (← first? s read)

def affected (s : Statement) : Handler Nat := do
  match ← send s with
  | .affected n => return n
  | .rows rows => return rows.length
  | .failure => throw .database

/-- Sends a statement of which only the success counts. -/
def execute (s : Statement) : Handler Unit := do
  let _ ← send s

end Handler

end Parley.Service
