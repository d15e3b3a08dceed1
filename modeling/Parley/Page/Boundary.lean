import Parley.Page.SortOrder
import Parley.Uuid

/-!
# Records with sort keys, and boundaries between pages

A boundary lies at the sort key of a reference record and admits what is strictly
past it. Records that share the reference's key are on neither side.
-/
namespace Parley

/-- Records with an id, and a sort key for each field. -/
class Keyed (ρ : Type) (φ : outParam Type) where
  id : ρ → Uuid
  key : φ → ρ → Int

/-- A sort key, and the direction in which one goes past it. -/
structure Boundary where
  key : Int
  direction : Direction
  deriving DecidableEq, Repr

namespace Boundary

/-- The boundary at a record. -/
def after {ρ φ : Type} [Keyed ρ φ] (record : ρ) (sort : SortOrder φ) : Boundary :=
  ⟨Keyed.key sort.field record, sort.direction⟩

/-- Whether a sort key is strictly past the boundary. -/
def admits (b : Boundary) (key : Int) : Bool :=
  match b.direction with
  | .desc => key < b.key
  | .asc => b.key < key

/-- The comparison that the boundary makes. -/
def operator (b : Boundary) : String :=
  match b.direction with
  | .desc => "<"
  | .asc => ">"

end Boundary

end Parley
