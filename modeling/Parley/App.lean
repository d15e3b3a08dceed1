import Parley.Uuid

/-!
# Apps

End users reach an app through its site, if the app is in normal state and its
site is enabled.
-/
namespace Parley

/-- An app of a tenant, which may be published as a site (`AppRow`). -/
structure App where
  id : Uuid
  tenant : Uuid
  status : String
  siteEnabled : Bool
  deriving DecidableEq, Repr

namespace App

/-- The status of apps and sites that are in use (`STATUS_NORMAL`). -/
def normal : String := "normal"

/-- Whether end users may reach the app (`is_published`). -/
def isPublished (a : App) : Bool :=
  a.status == normal && a.siteEnabled

end App

end Parley
