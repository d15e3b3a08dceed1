import Parley.Conversation.Scope
import Parley.Store.Condition

/-!
# Reading conversations

A selection reads the rows that meet all of its conditions, in an order and up to a
limit, or counts them. Selections are made for what a principal owns, and for what
lies in a scope.
-/
namespace Parley.Store

inductive Projection where
  | rows
  | count
  deriving DecidableEq, Repr

/-- A read of conversations that pass all of the conditions. -/
structure Select where
  projection : Projection
  conditions : List Condition
  order : List (Column × Direction) := []
  limit : Option Nat := none
  deriving DecidableEq, Repr

/-- All columns, with commas between them (`COLUMNS`). -/
def columnList : String :=
  ", ".intercalate (Column.all.map Column.text)

namespace Select

def projectionText : Projection → String
  | .rows => columnList
  | .count => "COUNT(*)"

def orderText (order : List (Column × Direction)) : String :=
  " ORDER BY " ++ ", ".intercalate (order.map fun (c, d) => c.text ++ " " ++ d.sql)

def fragments (s : Select) : List Fragment :=
  .text ("SELECT " ++ projectionText s.projection ++ " FROM conversations") ::
    Condition.whereAll s.conditions ++
    (if s.order.isEmpty then [] else [.text (orderText s.order)]) ++
    (match s.limit with
      | some n => [.text " LIMIT ", .arg (.int n)]
      | none => [])

end Select

/-! ## Conditions -/

def Column.ofSortField : Conversation.SortField → Column
  | .createdAt => createdAt
  | .updatedAt => updatedAt

/-- What a principal owns in an app and has not deleted (`push_owner`). -/
def ownedBy (app : Uuid) (principal : Principal) : List Condition :=
  [.isFalse .isDeleted,
    .equals .app (.uuid app),
    .equals .source (.text principal.source),
    .notDistinct .endUser (Arg.ofOption .uuid principal.endUser?),
    .notDistinct .account (Arg.ofOption .uuid principal.account?)]

/-- What a principal owns, by its id. -/
def ownedById (app : Uuid) (principal : Principal) (id : Uuid) : List Condition :=
  ownedBy app principal ++ [.equals .id (.uuid id)]

/-- What a filter by id lets pass. -/
def passing (ids : IdFilter) : List Condition :=
  (ids.included.toList.map fun us => .isAny .id us) ++
    ids.excluded.toList.map fun us => .not (.isAny .id us)

/-- What lies in a scope and passes a filter (`push_scope`). -/
def inScope (scope : Conversation.Scope) (ids : IdFilter) : List Condition :=
  ownedBy scope.app scope.principal ++
    .or (.isNull .channel) (.equals .channel (.text scope.channel.name)) :: passing ids

/-- What lies past a boundary, if there is one (`push_boundary`). -/
def pastBoundary (field : Conversation.SortField) (boundary : Option Boundary) : List Condition :=
  boundary.toList.map fun b => .past (Column.ofSortField field) b

/-- What matches a query in a scope. -/
def matching (scope : Conversation.Scope) (query : PageQuery Conversation.SortField) :
    List Condition :=
  inScope scope query.ids ++ pastBoundary query.sort.field query.boundary

/-! ## Selections -/

namespace Select

/-- The conversation of an id, if it lies in a scope and passes a filter (`select_one_query`). -/
def oneInScope (scope : Conversation.Scope) (id : Uuid) (ids : IdFilter) : Select where
  projection := .rows
  conditions := inScope scope ids ++ [.equals .id (.uuid id)]

/-- The first conversations that match a query, by sort field and then by id
(`select_page_query`). -/
def page (scope : Conversation.Scope) (query : PageQuery Conversation.SortField) (limit : Nat) :
    Select where
  projection := .rows
  conditions := matching scope query
  order := [(Column.ofSortField query.sort.field, query.sort.direction),
    (.id, query.sort.direction)]
  limit := some (min limit Decimal.max63)

/-- The number of conversations that match a query (`count_query`). -/
def count (scope : Conversation.Scope) (query : PageQuery Conversation.SortField) : Select where
  projection := .count
  conditions := matching scope query

def owned (app : Uuid) (principal : Principal) (id : Uuid) : Select where
  projection := .rows
  conditions := ownedById app principal id

end Select

end Parley.Store
