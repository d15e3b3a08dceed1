import Parley.Page.Basic

/-!
# Pages of a list

A list of records, of which some are visible, as a source of pages. Records are
ordered by sort key and then by id, both in the direction asked for.
-/
namespace Parley

namespace SortOrder

variable {ρ φ : Type} [Keyed ρ φ]

/-- Whether one record may stand before another in ascending order. -/
def ascending (field : φ) (r s : ρ) : Bool :=
  decide (Keyed.key field r < Keyed.key field s) ||
    (decide (Keyed.key field r = Keyed.key field s) && decide (Keyed.id r ≤ Keyed.id s))

/-- Whether one record may stand before another (`orient`). -/
def before (sort : SortOrder φ) (r s : ρ) : Bool :=
  match sort.direction with
  | .asc => ascending sort.field r s
  | .desc => ascending sort.field s r

end SortOrder

/-- A list of records and which of them can be seen (`VecSource`). -/
structure RecordList (ρ : Type) where
  records : List ρ
  visible : ρ → Bool := fun _ => true

namespace RecordList

variable {ρ φ : Type} [Keyed ρ φ]

/-- The visible records that match, in the order of the list. -/
def matching (l : RecordList ρ) (query : PageQuery φ) : List ρ :=
  l.records.filter fun r =>
    l.visible r && query.ids.admits (Keyed.id r) &&
      (match query.boundary with
        | some b => b.admits (Keyed.key query.sort.field r)
        | none => true)

/-- The first visible record with an id that the filter admits. -/
def find? (l : RecordList ρ) (id : Uuid) (ids : IdFilter) : Option ρ :=
  l.records.find? fun r => decide (Keyed.id r = id) && l.visible r && ids.admits id

/-- The first records that match, in order. -/
def fetch (l : RecordList ρ) (query : PageQuery φ) (limit : Nat) : List ρ :=
  ((l.matching query).mergeSort query.sort.before).take limit

def source (l : RecordList ρ) : PageSource Id ρ φ where
  find := fun id ids => l.find? id ids
  fetch := fun query limit => l.fetch query limit
  count := fun query => (l.matching query).length

def page (l : RecordList ρ) (request : PageRequest φ) : Except ReferenceNotFound (Page ρ) :=
  Id.run (Page.get l.source request)

end RecordList

end Parley
