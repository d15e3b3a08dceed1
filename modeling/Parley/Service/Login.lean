import Parley.Account.Email
import Parley.Service.Session

/-!
# Logging in

A login goes through its conditions in order and fails at the first that does not
hold: a proper address, which the limiter lets pass, of an account, which is not
barred, with the right password, that has joined a tenant. Only a wrong password
counts as a failure for the limiter, and only a login that meets all conditions
clears what it has counted.
-/
namespace Parley.Service

open Http (Request Response)

/-- The body of a login (`LoginBody`). -/
structure LoginForm where
  email : String
  password : String
  remember : Bool
  deriving DecidableEq, Repr

namespace LoginForm

structure Draft where
  email : Option String := none
  password : Option String := none
  remember : Option Bool := none

def Draft.finish (d : Draft) : Option LoginForm := do
  return ⟨← d.email, ← d.password, d.remember.getD false⟩

def record : Json.Record Draft LoginForm where
  fields := [
    .of "email" (·.email) (fun d v => { d with email := some v }) Json.Outline.toText,
    .of "password" (·.password) (fun d v => { d with password := some v }) Json.Outline.toText,
    .of "remember_me" (·.remember) (fun d v => { d with remember := some v })
      Json.Outline.toBool true]
  start := {}
  finish := Draft.finish

end LoginForm

/-- The account of an address, if the password is right. A wrong one is noted by the limiter. -/
def authenticate (ctx : Context) (email password : String) : Handler Account := do
  let account ← Handler.first? (.accountByEmail email) Store.Row.account?
  let account ← Handler.orFail AccountError.notFound.api account
  if account.isBarred then Handler.fail AccountError.barred.api
  if !account.hasPassword password then
    Handler.modifyLimiter (·.recordFailure ctx.now email)
    Handler.fail AccountError.passwordMismatch.api
  return account

/-- How long a browser keeps the session, if it is to remember it. The number has no bounds here.
Where the seconds do not fit into 64 bits the service would break off at this point, but the
database has turned away the lifetime of the session by then. -/
def rememberedSeconds (ctx : Context) (form : LoginForm) : Option Int :=
  if form.remember then some (ctx.accessTokenMinutes * 60) else none

/-- Logs an account in and hands out a pair of tokens. -/
def login (ctx : Context) (r : Request) : Handler Response := do
  let form ← body LoginForm.record r
  let email ← Handler.orFail (.badRequest "invalid_email" "Invalid email address.")
    (Email.normalize? form.email)
  Handler.checkLimiter ctx.now email
  let account ← authenticate ctx email form.password
  let tenants ← Handler.one (.tenantCount account.id) (Store.Row.single Store.Cell.toInt?)
  if tenants = 0 then
    Handler.fail (.badRequest "workspace_not_found" "Workspace not found.")
  Handler.modifyLimiter (·.reset email)
  let address := r.clientAddress?
  Handler.execute (.recordLogin account.id address)
  let pair ← issueTokens ctx account.id address
  return sessionResponse ctx pair.access.text (rememberedSeconds ctx form) (some pair.toJson)

end Parley.Service
