import Parley.Text.Blank

/-!
# Sort orders

A sort order is a field and a direction. It is written as the name of the field,
with a minus sign in front for the descending direction.
-/
namespace Parley

inductive Direction where
  | asc
  | desc
  deriving DecidableEq, Repr

namespace Direction

/-- The direction as an SQL keyword (`as_sql`). -/
def sql : Direction → String
  | asc => "ASC"
  | desc => "DESC"

end Direction

/-- A field to sort by, and the direction (`SortSpec`). -/
structure SortOrder (φ : Type) where
  field : φ
  direction : Direction
  deriving DecidableEq, Repr

/-- A sort order named a field that there is none of. -/
structure UnknownSortField where
  field : String
  deriving DecidableEq, Repr

def UnknownSortField.message (e : UnknownSortField) : String :=
  "unsupported sort field: " ++ e.field

namespace SortOrder

variable {φ : Type}

/-- Reads a sort order between blanks. What stands behind the minus sign is the
name as it is. -/
def parse (field? : String → Option φ) (raw : String) : Except UnknownSortField (SortOrder φ) :=
  let (direction, name) := match Text.trimChars raw.toList with
    | '-' :: rest => (Direction.desc, String.ofList rest)
    | trimmed => (Direction.asc, String.ofList trimmed)
  match field? name with
  | some field => .ok ⟨field, direction⟩
  | none => .error ⟨name⟩

end SortOrder

end Parley
