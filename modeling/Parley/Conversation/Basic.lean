import Parley.Page.Basic
import Parley.Principal

/-!
# Conversations

A conversation belongs to one app and one owner. Times are microseconds since
1970, and are told in whole seconds, rounded down.
-/
namespace Parley

/-- A conversation, which belongs to an end user or to an account of an app. -/
structure Conversation where
  id : Uuid
  app : Uuid
  name : String
  source : String
  endUser : Option Uuid
  account : Option Uuid
  channel : Option String
  isDeleted : Bool
  createdAt : Int
  updatedAt : Int
  deriving DecidableEq, Repr

namespace Conversation

/-- The fields that conversations can be sorted by (`ConversationSortField`). -/
inductive SortField where
  | createdAt
  | updatedAt
  deriving DecidableEq, Repr

namespace SortField

def column : SortField → String
  | createdAt => "created_at"
  | updatedAt => "updated_at"

def ofName? (s : String) : Option SortField :=
  if s = "created_at" then some createdAt
  else if s = "updated_at" then some updatedAt
  else none

end SortField

/-- The order in which conversations are listed unless another one is asked for
(`DEFAULT_SORT`). -/
def defaultSort : String := "-updated_at"

def parseSort (raw : String) : Except UnknownSortField (SortOrder SortField) :=
  SortOrder.parse SortField.ofName? raw

/-- The time that a field holds (`sort_key`). -/
def time (c : Conversation) : SortField → Int
  | .createdAt => c.createdAt
  | .updatedAt => c.updatedAt

instance : Keyed Conversation SortField where
  id := id
  key := fun field c => c.time field

/-- The whole seconds in a number of microseconds. -/
def seconds (microseconds : Int) : Int :=
  Int.fdiv microseconds 1000000

/-- What is told of a conversation. -/
def toJson (c : Conversation) : Json :=
  .obj [
    ("id", .str c.id.text),
    ("app_id", .str c.app.text),
    ("name", .str c.name),
    ("from_source", .str c.source),
    ("from_end_user_id", Json.ofOption (fun u => .str u.text) c.endUser),
    ("from_account_id", Json.ofOption (fun u => .str u.text) c.account),
    ("invoke_from", Json.ofOption .str c.channel),
    ("created_at", .int (seconds c.createdAt)),
    ("updated_at", .int (seconds c.updatedAt))]

/-- What is told of a page of conversations. -/
def pageToJson (page : Page Conversation) : Json :=
  .obj [
    ("limit", .int page.limit),
    ("has_more", .bool page.hasMore),
    ("data", .arr (page.data.map toJson))]

end Conversation

end Parley
