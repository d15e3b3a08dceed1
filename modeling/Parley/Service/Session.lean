import Parley.Service.Extract

/-!
# Console sessions

A login hands out two tokens: one for the requests of a session, and one that buys
the next pair. Both are stored in one transaction. A refresh token is taken out of
store when it is used, so it can be used once.
-/
namespace Parley.Service

open Http (Request Response)

/-- An access token and the refresh token that goes with it. -/
structure TokenPair where
  access : Token
  refresh : Token
  deriving DecidableEq, Repr

def TokenPair.toJson (p : TokenPair) : Json :=
  .obj [("access_token", .str p.access.text), ("refresh_token", .str p.refresh.text)]

/-- Stores a new pair for an account (`create_token_pair`). -/
def issueTokens (ctx : Context) (account : Uuid) (address : Option String) :
    Handler TokenPair := do
  let pair : TokenPair := ⟨ctx.fresh.accessToken, ctx.fresh.refreshToken⟩
  Handler.execute .openTransaction
  Handler.execute (.insertSession pair.access.text account address ctx.accessTokenMinutes)
  Handler.execute (.insertRefreshToken pair.refresh.text account ctx.refreshTokenDays)
  Handler.execute .commitTransaction
  return pair

/-- A new pair for a refresh token, if the token is good (`rotate_refresh_token`). -/
def renewTokens (ctx : Context) (token : String) : Handler (Option TokenPair) := do
  match ← Handler.first? (.consumeRefreshToken token) (Store.Row.single Store.Cell.toUuid?) with
  | none => return none
  | some account => return some (← issueTokens ctx account none)

/-! ## Who is calling -/

/-- The name of the cookie that holds the access token (`COOKIE_NAME`). -/
def cookieName : String := "access_token"

/-- A console account and the token it has shown (`AuthAccount`). -/
structure Caller where
  account : Uuid
  token : String
  deriving DecidableEq, Repr

def Caller.principal (c : Caller) : Principal :=
  .internalUser c.account

/-- The token that a request shows: the one it bears, or else the one in its cookie. -/
def shownToken (r : Request) : String :=
  (r.bearer?.or (Http.Cookie.get? r cookieName)).getD ""

/-- The account in whose session a request is made (`validate_session`). -/
def requireCaller (r : Request) : Handler Caller := do
  let token := shownToken r
  if token.isEmpty then Handler.fail (.unauthorized "Unauthorized.")
  let account ← Handler.first? (.sessionAccount token) (Store.Row.single Store.Cell.toUuid?)
  let account ← Handler.orFail (.unauthorized "Invalid or expired session.") account
  return ⟨account, token⟩

/-! ## Responses -/

/-- The body of a response that tells of success (`ResultBody`). -/
def successBody (data : Option Json) : Json :=
  .obj (("result", .str "success") :: data.toList.map fun v => ("data", v))

/-- A response that tells of success and sets the cookie of the session. -/
def sessionResponse (ctx : Context) (value : String) (maxAge : Option Int) (data : Option Json) :
    Response :=
  (Http.Response.ofJson 200 (successBody data)).withHeader "set-cookie"
    (Http.Cookie.set cookieName value ctx.secureCookies maxAge)

/-! ## Endpoints -/

/-- Ends the session of a request, and takes its cookie back. -/
def logout (ctx : Context) (r : Request) : Handler Response := do
  let caller ← requireCaller r
  Handler.execute (.deleteSession caller.token)
  return sessionResponse ctx "" (some 0) none

/-- The body of a request for a new pair (`RefreshBody`). -/
def refreshForm : Json.Record (Option String) String where
  fields := [.of "refresh_token" id (fun _ v => some v) Json.Outline.toText]
  start := none
  finish := id

/-- The response to a refresh token that is not good (`refresh_rejected`). -/
def refreshRefused : Response :=
  .ofJson 401 (.obj [("result", .str "fail"), ("data", .str "Invalid refresh token.")])

/-- Hands out a new pair for a refresh token (`refresh_token`). -/
def refresh (ctx : Context) (r : Request) : Handler Response := do
  let token ← body refreshForm r
  match ← renewTokens ctx token with
  | some pair => return .ofJson 200 (successBody (some pair.toJson))
  | none => return refreshRefused

end Parley.Service
