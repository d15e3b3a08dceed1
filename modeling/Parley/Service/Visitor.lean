import Parley.Digest.Hmac
import Parley.Passport.Token
import Parley.Service.Extract

/-!
# Web visitors

An account becomes an end user of a published app, with the same id, and gets a
passport that says so. A request that bears a passport is made by that end user, as
long as the app is published and the end user exists. If the request names an app
by its code, it has to be the one of the passport.
-/
namespace Parley.Service

open Http (Request Response)

/-- The function that signs passports under a key (`PassportSigner`). -/
def macOf (secretKey : String) : Passport.Mac :=
  Hmac.sha256 (Utf8.ofString secretKey)

/-- The app of an id, if it is published (`find_app`). -/
def publishedApp (id : Uuid) : Handler App := do
  let app ← Handler.first? (.appById id) Store.Row.app?
  Handler.orFail PassportError.siteNotFound.api (app.filter App.isPublished)

/-! ## Issuing -/

/-- A passport for an account to the app behind a code. -/
def issuePassport (ctx : Context) (account : Uuid) (code : Option String) : Handler String := do
  let name ← Handler.first? (.accountName account) (Store.Row.single Store.Cell.toText?)
  let name ← Handler.orFail PassportError.invalidAccount.api name
  let code ← Handler.orFail PassportError.missingAppCode.api code
  let site ← Handler.first? (.activeSite code) (Store.Row.single Store.Cell.toUuid?)
  let site ← Handler.orFail PassportError.siteNotFound.api site
  let app ← publishedApp site
  let (endUser, type) ← Handler.one
    (.linkEndUser account app.tenant app.id name ctx.fresh.visit) Store.Row.endUser?
  let claims := Passport.Claims.make app.id code endUser account type
  return Passport.sign (macOf ctx.secretKey) claims

/-- Issues a passport for the account and the app that the headers name. -/
def getPassport (ctx : Context) (r : Request) : Handler Response := do
  let raw ← Handler.orFail PassportError.missingAccount.api (r.filled? "x-user-id")
  let account ← Handler.orFail PassportError.invalidAccount.api (Uuid.parse? raw)
  let token ← issuePassport ctx account (r.filled? "x-app-code")
  return .ofJson 200 (.obj [("access_token", .str token)])

/-! ## Accepting -/

/-- Whether a code names the app of a passport (`check_app_code`). No code and a blank one name
every app. -/
def matchesCode (claims : Passport.Claims) (code : Option String) : Bool :=
  match code.map Text.trim with
  | some code => code.isEmpty || code == claims.appCode
  | none => true

/-- An end user of an app (`WebVisitor`). -/
structure Visitor where
  app : Uuid
  endUser : Uuid
  deriving DecidableEq, Repr

def Visitor.principal (v : Visitor) : Principal :=
  .externalVisitor v.endUser

/-- The visitor of a passport (`authenticate_passport`). -/
def acceptPassport (ctx : Context) (token : String) (code : Option String) : Handler Visitor := do
  let claims ← match Passport.verify (macOf ctx.secretKey) token with
    | .ok claims => pure claims
    | .error e => Handler.fail (PassportError.invalidToken e).api
  if !matchesCode claims code then Handler.fail PassportError.appCodeMismatch.api
  let _ ← publishedApp claims.app
  let found ← Handler.one (.endUserExists claims.endUser) (Store.Row.single Store.Cell.toBool?)
  if !found then Handler.fail PassportError.endUserNotFound.api
  return ⟨claims.app, claims.endUser⟩

/-- The visitor by whom a request is made (`WebAuth`). -/
def requireVisitor (ctx : Context) (r : Request) : Handler Visitor := do
  let token ← Handler.orFail (.unauthorized "Missing passport.") r.bearer?
  acceptPassport ctx token (r.filled? "x-app-code")

end Parley.Service
