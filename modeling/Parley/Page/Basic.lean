import Parley.Page.Boundary
import Parley.Page.IdFilter

/-!
# Pages

A page is asked for by the id of the last record seen. The record behind that id
is looked up again, and the page holds the records that come after its present
sort key. A source answers three questions, of which each may have an effect:
which record has an id, which records match, and how many match.

There is more beyond a page if the page is full and some record lies past the
sort key of its last record.
-/
namespace Parley

/-- What records are wanted, and in which order. -/
structure PageQuery (φ : Type) where
  ids : IdFilter
  sort : SortOrder φ
  boundary : Option Boundary
  deriving DecidableEq, Repr

/-- A view of records that can be asked for pages (`RecordSource`). -/
structure PageSource (m : Type → Type) (ρ φ : Type) where
  /-- The first record with an id that the filter admits. -/
  find : Uuid → IdFilter → m (Option ρ)
  /-- The first records that match, in order, up to a number. -/
  fetch : PageQuery φ → Nat → m (List ρ)
  /-- The number of records that match. -/
  count : PageQuery φ → m Nat

/-- A request for the page after a record, or for the first page. -/
structure PageRequest (φ : Type) where
  sort : SortOrder φ
  lastId : Option Uuid := none
  limit : Nat
  ids : IdFilter := {}
  deriving DecidableEq, Repr

/-- Records in order, and whether there are more beyond them. -/
structure Page (ρ : Type) where
  limit : Nat
  hasMore : Bool
  data : List ρ
  deriving DecidableEq, Repr

/-- The record to go on from is not in view (`PaginationError`). -/
structure ReferenceNotFound where
  id : Uuid
  deriving DecidableEq, Repr

def ReferenceNotFound.message (e : ReferenceNotFound) : String :=
  "reference record not found: " ++ e.id.text

namespace Page

variable {m : Type → Type} [Monad m] {ρ φ : Type} [Keyed ρ φ]

def empty (limit : Nat) : Page ρ :=
  ⟨limit, false, []⟩

/-- The page of the records that match, and whether there are more. -/
def ofQuery (source : PageSource m ρ φ) (query : PageQuery φ) (limit : Nat) : m (Page ρ) := do
  let data ← source.fetch query limit
  match data.getLast? with
  | some last =>
    if limit ≤ data.length then do
      let beyond ← source.count { query with boundary := some (Boundary.after last query.sort) }
      return ⟨limit, decide (0 < beyond), data⟩
    else return ⟨limit, false, data⟩
  | none => return ⟨limit, false, data⟩

/-- The page that a request asks for (`paginate_by_last_id`). A limit of zero is answered
without a look at the source. -/
def get (source : PageSource m ρ φ) (request : PageRequest φ) :
    m (Except ReferenceNotFound (Page ρ)) := do
  if request.limit = 0 then return .ok (empty 0)
  match request.lastId with
  | none => do
    let page ← ofQuery source ⟨request.ids, request.sort, none⟩ request.limit
    return .ok page
  | some id => do
    match ← source.find id request.ids with
    | none => return .error ⟨id⟩
    | some reference => do
      let boundary := Boundary.after reference request.sort
      let page ← ofQuery source ⟨request.ids, request.sort, some boundary⟩ request.limit
      return .ok page

end Page

end Parley
