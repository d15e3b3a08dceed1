import Parley.Uuid

/-!
# Filters by id

A filter may name the only ids to admit, and ids to leave out. An empty list of
ids to admit admits nothing; an empty list of ids to leave out leaves out nothing.
-/
namespace Parley

/-- The ids to admit, if only some are, and the ids to leave out. -/
structure IdFilter where
  included : Option (List Uuid) := none
  excluded : Option (List Uuid) := none
  deriving DecidableEq, Repr

namespace IdFilter

def admits (f : IdFilter) (id : Uuid) : Bool :=
  (match f.included with
    | some ids => ids.contains id
    | none => true) &&
  (match f.excluded with
    | some ids => !ids.contains id
    | none => true)

end IdFilter

end Parley
