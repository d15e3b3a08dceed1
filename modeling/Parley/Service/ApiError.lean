import Parley.Account.LoginLimiter
import Parley.Http.Response
import Parley.Page.Basic
import Parley.Passport.Token

/-!
# What clients are told of errors

An error is told as a status, a stable code and a message. What went wrong with the
database is never told.
-/
namespace Parley

/-- An error as the client sees it. -/
structure ApiError where
  status : Nat
  code : String
  message : String
  deriving DecidableEq, Repr

namespace ApiError

def badRequest (code message : String) : ApiError := ⟨400, code, message⟩

def unauthorized (message : String) : ApiError := ⟨401, "unauthorized", message⟩

def notFound (code message : String) : ApiError := ⟨404, code, message⟩

/-- Something failed that the caller has no part in. -/
def internal : ApiError := ⟨500, "internal_server_error", "Internal Server Error"⟩

/-- The refusal of a login because of earlier failures. -/
def ofLoginRefused (e : LoginRefused) : ApiError := ⟨429, "login_limit", e.message⟩

/-- The error as an object (`ApiErrorBody`). -/
def toJson (e : ApiError) : Json :=
  .obj [("code", .str e.code), ("message", .str e.message), ("status", .int e.status)]

def response (e : ApiError) : Http.Response :=
  .ofJson e.status e.toJson

end ApiError

/-! ## Accounts -/

/-- Why a login failed. An account is `barred` if it is banned or closed (`Banned`). -/
inductive AccountError where
  | notFound
  | barred
  | passwordMismatch
  deriving DecidableEq, Repr

/-- What the client is told (`account_error`). -/
def AccountError.api : AccountError → ApiError
  | notFound => ⟨400, "account_not_found", "account not found"⟩
  | barred => ⟨403, "account_banned", "account is banned or closed"⟩
  | passwordMismatch => ⟨401, "email_or_password_mismatch", "email or password mismatch"⟩

/-! ## Passports -/

/-- Why a passport was not issued or not accepted. -/
inductive PassportError where
  | missingAccount
  | invalidAccount
  | missingAppCode
  | appCodeMismatch
  | siteNotFound
  | endUserNotFound
  | invalidToken (e : Passport.TokenError)
  deriving DecidableEq, Repr

/-- What the client is told (`passport_error`). -/
def PassportError.api : PassportError → ApiError
  | missingAccount => ⟨400, "missing_account", "user account information is missing"⟩
  | invalidAccount => ⟨401, "invalid_account", "invalid user account"⟩
  | missingAppCode => ⟨401, "missing_app_code", "X-App-Code header is missing"⟩
  | appCodeMismatch => ⟨401, "app_code_mismatch", "app code does not match passport"⟩
  | siteNotFound => ⟨404, "site_not_found", "site not found"⟩
  | endUserNotFound => ⟨401, "end_user_not_found", "end user not found"⟩
  | invalidToken e => ⟨401, "invalid_passport", "invalid passport: " ++ e.message⟩

/-! ## Conversations -/

/-- Why a conversation was not listed, read or changed. -/
inductive ConversationError where
  /-- The conversation to go on from is not there. -/
  | lastNotFound
  | notFound
  /-- There is no message to name the conversation after. -/
  | messageNotFound
  deriving DecidableEq, Repr

namespace ConversationError

def ofReferenceNotFound (_ : ReferenceNotFound) : ConversationError :=
  lastNotFound

/-- What the client is told (`conversation_error`). -/
def api : ConversationError → ApiError
  | lastNotFound => ⟨400, "last_conversation_not_exists", "Last conversation not exists."⟩
  | notFound => ⟨404, "conversation_not_exists", "Conversation not exists."⟩
  | messageNotFound => ⟨404, "message_not_exists", "Message not exists."⟩

end ConversationError

end Parley
