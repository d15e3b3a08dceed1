import Parley.Json.Basic
import Parley.Json.Record
import Parley.Uuid

/-!
# The claims of a passport

A passport says which end user of which app its holder is. All claims are required;
others are passed over.

The text is read twice: once for the claims of a passport, and once for the claims
that the token format registers. The second reading asks nothing of their values
but that it can get past them, even if it meets a fault on the way. It cannot get
past a fault that it notices within a value, nor into a date that is an array or
object.
-/
namespace Parley.Passport

open Json (Outline Fault Record)

/-- What a passport says about its bearer (`PassportClaims`). -/
structure Claims where
  issuer : String
  subject : String
  app : Uuid
  appCode : String
  endUser : Uuid
  account : Uuid
  userType : String
  deriving DecidableEq, Repr

namespace Claims

/-- The subject of every passport that is issued (`PASSPORT_SUBJECT`). -/
def passportSubject : String := "Web API Passport"

/-- The claims of a passport for an end user of an app. -/
def make (app : Uuid) (appCode : String) (endUser account : Uuid) (userType : String) : Claims where
  issuer := app.text
  subject := passportSubject
  app := app
  appCode := appCode
  endUser := endUser
  account := account
  userType := userType

def toJson (c : Claims) : Json :=
  .obj [
    ("iss", .str c.issuer),
    ("sub", .str c.subject),
    ("app_id", .str c.app.text),
    ("app_code", .str c.appCode),
    ("end_user_id", .str c.endUser.text),
    ("account_id", .str c.account.text),
    ("user_type", .str c.userType)]

/-! ## Reading -/

structure Draft where
  issuer : Option String := none
  subject : Option String := none
  app : Option Uuid := none
  appCode : Option String := none
  endUser : Option Uuid := none
  account : Option Uuid := none
  userType : Option String := none

def Draft.finish (d : Draft) : Option Claims := do
  return {
    issuer := ← d.issuer
    subject := ← d.subject
    app := ← d.app
    appCode := ← d.appCode
    endUser := ← d.endUser
    account := ← d.account
    userType := ← d.userType }

def record : Record Draft Claims where
  fields := [
    .of "iss" (·.issuer) (fun d v => { d with issuer := some v }) Outline.toText,
    .of "sub" (·.subject) (fun d v => { d with subject := some v }) Outline.toText,
    .of "app_id" (·.app) (fun d v => { d with app := some v }) (Outline.toForm Uuid.parse?),
    .of "app_code" (·.appCode) (fun d v => { d with appCode := some v }) Outline.toText,
    .of "end_user_id" (·.endUser) (fun d v => { d with endUser := some v })
      (Outline.toForm Uuid.parse?),
    .of "account_id" (·.account) (fun d v => { d with account := some v })
      (Outline.toForm Uuid.parse?),
    .of "user_type" (·.userType) (fun d v => { d with userType := some v }) Outline.toText]
  start := {}
  finish := Draft.finish

/-- Gets past any value, if no fault is noticed within it. -/
def skipValue (v : Outline) : Except Fault Unit :=
  if v.ending Outline.memberLevels = .within then .error .malformed else .ok ()

/-- Gets past a date, of which only a scalar or something empty is taken. -/
def skipDate : Outline → Except Fault Unit
  | .array (_ :: _) _ => .error .malformed
  | .object (_ :: _) _ => .error .malformed
  | v => skipValue v

/-- The registered claims as a record. -/
def registered : Record (List String) Unit where
  fields := [
    .noted "exp" skipDate,
    .noted "nbf" skipDate,
    .noted "sub" skipValue,
    .noted "iss" skipValue,
    .noted "aud" skipValue]
  start := []
  finish := fun _ => some ()

def ofBytes (bytes : List UInt8) : Except Fault Claims := do
  let claims ← record.readText bytes
  registered.readText bytes
  return claims

end Claims

end Parley.Passport
