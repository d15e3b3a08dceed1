import Parley.Conversation.ListQuery
import Parley.Conversation.Title
import Parley.Service.Session
import Parley.Service.Visitor

/-!
# Conversations of a principal

Conversations are listed, read, renamed and deleted for one principal in one app.
On the console the principal is the caller's account, which has to reach the app
through a tenant; on the web both are those of the visitor.
-/
namespace Parley.Service

open Http (Request Response)
open Conversation (ListQuery Scope SortField)
open Store (Row Cell)

/-! ## Listing -/

/-- The conversations of a scope as a source of pages (`PgConversationSource`). -/
def pageSource (scope : Scope) : PageSource Handler Conversation SortField where
  find := fun id ids => Handler.first? (.findInScope scope id ids) Row.conversation?
  fetch := fun query limit => Handler.all (.pageInScope scope query limit) Row.conversation?
  count := fun query => do
    let n ← Handler.one (.countInScope scope query) (Row.single Cell.toInt?)
    return n.toNat

def listQuery (r : Request) : Handler ListQuery :=
  match ListQuery.parse? r.query with
  | some q => pure q
  | none => Handler.reject .badQuery

/-- The filter that a query asks for; the pinned conversations are looked up only where they
matter (`pinned_conversation_ids`). -/
def lookUpFilter (scope : Scope) (pinned : Option Bool) : Handler IdFilter := do
  if pinned.isSome then do
    let ids ← Handler.all (.pinned scope.app scope.principal) (Row.single Cell.toUuid?)
    return Conversation.pinnedFilter pinned ids
  else return {}

/-- The page of a scope that a query asks for (`list_in_scope`). -/
def listConversations (scope : Scope) (q : ListQuery) : Handler (Page Conversation) := do
  let request ← match q.pageRequest with
    | .ok request => pure request
    | .error e => Handler.fail (.badRequest "invalid_param" e.message)
  let ids ← lookUpFilter scope q.pinned
  match ← Page.get (pageSource scope) { request with ids := ids } with
  | .ok page => return page
  | .error e => Handler.fail (ConversationError.ofReferenceNotFound e).api

/-! ## Single conversations -/

def getConversation (app : Uuid) (principal : Principal) (id : Uuid) : Handler Conversation := do
  let found ← Handler.first? (.getOwned app principal id) Row.conversation?
  Handler.orFail ConversationError.notFound.api found

/-- Gives a conversation a name (`rename`). -/
def setName (app : Uuid) (principal : Principal) (id : Uuid) (name : String) :
    Handler Conversation := do
  let renamed ← Handler.first? (.renameOwned app principal id name) Row.conversation?
  Handler.orFail ConversationError.notFound.api renamed

def deleteConversation (app : Uuid) (principal : Principal) (id : Uuid) : Handler Unit := do
  let count ← Handler.affected (.deleteOwned app principal id)
  if count = 0 then Handler.fail ConversationError.notFound.api

/-- Names a conversation after its first question (`auto_generate_name`). A question without a
word leaves the name as it is. -/
def nameFromQuestion (c : Conversation) : Handler Conversation := do
  let question ← Handler.first? (.firstQuestion c.app c.id) (Row.single Cell.toText?)
  let question ← Handler.orFail ConversationError.messageNotFound.api question
  match Conversation.title Conversation.titleLength question with
  | .ok name => do
    Handler.execute (.setName c.id name)
    return { c with name := name }
  | .error _ => return c

/-- The body of a request for another name (`RenameBody`). -/
structure RenameForm where
  name : Option String
  automatic : Bool
  deriving DecidableEq, Repr

namespace RenameForm

structure Draft where
  name : Option (Option String) := none
  automatic : Option Bool := none

def Draft.finish (d : Draft) : Option RenameForm :=
  some ⟨d.name.getD none, d.automatic.getD false⟩

def record : Json.Record Draft RenameForm where
  fields := [
    .of "name" (·.name) (fun d v => { d with name := some v })
      (Json.Outline.toOption Json.Outline.toText),
    .of "auto_generate" (·.automatic) (fun d v => { d with automatic := some v })
      Json.Outline.toBool true]
  start := {}
  finish := Draft.finish

def trimmedName (f : RenameForm) : String :=
  Text.trim (f.name.getD "")

end RenameForm

/-- Reads a request for another name, which has to hold one if none is to be made
(`validate_rename`). -/
def renameForm (r : Request) : Handler RenameForm := do
  let form ← body RenameForm.record r
  if !form.automatic && form.trimmedName.isEmpty then
    Handler.fail (.badRequest "invalid_param" "name is required")
  return form

/-- Renames a conversation as a form says (`rename_owned`). -/
def renameConversation (app : Uuid) (principal : Principal) (id : Uuid) (form : RenameForm) :
    Handler Conversation := do
  if form.automatic then
    nameFromQuestion (← getConversation app principal id)
  else
    setName app principal id form.trimmedName

/-! ## On the console -/

/-- Goes on only if the caller can reach an app (`console_app`). -/
def requireApp (caller : Caller) (app : Uuid) : Handler Unit := do
  let found ← Handler.first? (.appForAccount app caller.account) Row.app?
  let _ ← Handler.orFail (.notFound "app_not_found" "App not found.") found

def consoleList (r : Request) (app : List Char) : Handler Response := do
  let caller ← requireCaller r
  let app ← pathId app
  let q ← listQuery r
  requireApp caller app
  let page ← listConversations ⟨app, caller.principal, .explore⟩ q
  return .ofJson 200 (Conversation.pageToJson page)

def consoleGet (r : Request) (app id : List Char) : Handler Response := do
  let caller ← requireCaller r
  let (app, id) ← pathIds app id
  requireApp caller app
  let c ← getConversation app caller.principal id
  return .ofJson 200 c.toJson

def consoleRename (r : Request) (app id : List Char) : Handler Response := do
  let caller ← requireCaller r
  let (app, id) ← pathIds app id
  let form ← renameForm r
  requireApp caller app
  let c ← renameConversation app caller.principal id form
  return .ofJson 200 c.toJson

def consoleDelete (r : Request) (app id : List Char) : Handler Response := do
  let caller ← requireCaller r
  let (app, id) ← pathIds app id
  requireApp caller app
  deleteConversation app caller.principal id
  return .ofStatus 204

/-! ## On the web -/

def webList (ctx : Context) (r : Request) : Handler Response := do
  let visitor ← requireVisitor ctx r
  let q ← listQuery r
  let page ← listConversations ⟨visitor.app, visitor.principal, .webApp⟩ q
  return .ofJson 200 (Conversation.pageToJson page)

def webGet (ctx : Context) (r : Request) (id : List Char) : Handler Response := do
  let visitor ← requireVisitor ctx r
  let id ← pathId id
  let c ← getConversation visitor.app visitor.principal id
  return .ofJson 200 c.toJson

def webRename (ctx : Context) (r : Request) (id : List Char) : Handler Response := do
  let visitor ← requireVisitor ctx r
  let id ← pathId id
  let form ← renameForm r
  let c ← renameConversation visitor.app visitor.principal id form
  return .ofJson 200 c.toJson

def webDelete (ctx : Context) (r : Request) (id : List Char) : Handler Response := do
  let visitor ← requireVisitor ctx r
  let id ← pathId id
  deleteConversation visitor.app visitor.principal id
  return .ofStatus 204

end Parley.Service
