import Parley.Conversation.Basic
import Parley.Text.Decimal
import Parley.Text.Percent

/-!
# Asking for a list of conversations

The query of a listing is form data. It may name the last conversation seen, a
limit, a sort order, and whether to list only pinned conversations or only others.
Other names are passed over; a name that is known may come once.
-/
namespace Parley.Conversation

/-- The wishes for a page of conversations, as far as they were stated. -/
structure ListQuery where
  lastId : Option Uuid := none
  limit : Option Nat := none
  sortBy : Option String := none
  pinned : Option Bool := none
  deriving DecidableEq, Repr

/-- What is wrong with the wishes of a query that can be read. -/
inductive ListQueryError where
  | limitOutOfRange
  | unknownSortField (e : UnknownSortField)
  deriving DecidableEq, Repr

/-- The largest number of conversations on a page (`MAX_LIMIT`). -/
def maxPageSize : Nat := 100

/-- The number of conversations on a page unless another one is asked for (`DEFAULT_LIMIT`). -/
def defaultPageSize : Nat := 20

namespace ListQueryError

def message : ListQueryError → String
  | limitOutOfRange => "limit must be between 1 and " ++ Decimal.ofNat maxPageSize
  | unknownSortField e => e.message

end ListQueryError

namespace ListQuery

/-- Reads a truth value, which has one spelling. -/
def readBool? (s : String) : Option Bool :=
  if s = "true" then some true else if s = "false" then some false else none

/-- Takes one pair into account. -/
def take? (q : ListQuery) (name value : String) : Option ListQuery :=
  if name = "last_id" then
    if q.lastId.isSome then none
    else (Uuid.parse? value).map fun id => { q with lastId := some id }
  else if name = "limit" then
    if q.limit.isSome then none
    else (Decimal.readNat? Decimal.max64 value.toList).map fun n => { q with limit := some n }
  else if name = "sort_by" then
    if q.sortBy.isSome then none else some { q with sortBy := some value }
  else if name = "pinned" then
    if q.pinned.isSome then none
    else (readBool? value).map fun b => { q with pinned := some b }
  else some q

def ofPairs? (pairs : List (String × String)) : Option ListQuery :=
  pairs.foldlM (fun q (name, value) => q.take? name value) {}

/-- Reads a query as it is written. -/
def parse? (query : List Char) : Option ListQuery :=
  ofPairs? (Percent.formPairs (Utf8.encode query))

/-- The page that is asked for, before any filter (`page_request`). -/
def pageRequest (q : ListQuery) : Except ListQueryError (PageRequest SortField) := do
  let limit := q.limit.getD defaultPageSize
  if limit < 1 ∨ maxPageSize < limit then throw .limitOutOfRange
  match parseSort (q.sortBy.getD defaultSort) with
  | .ok sort => return { sort, lastId := q.lastId, limit }
  | .error e => throw (.unknownSortField e)

end ListQuery

/-- The filter for pinned conversations: only them, all others, or none (`pinned_filter`). -/
def pinnedFilter (pinned : Option Bool) (ids : List Uuid) : IdFilter :=
  match pinned with
  | some true => { included := some ids }
  | some false => { excluded := some ids }
  | none => {}

end Parley.Conversation
