import Parley.Account.Password
import Parley.Uuid

/-!
# Accounts

Console accounts as far as logging in needs them. Banned and closed accounts
cannot log in; a pending account becomes active by its first login.
-/
namespace Parley

/-- An account of the console (`AccountRow`), with the hash and salt of its password if one is
set. -/
structure Account where
  id : Uuid
  password : Option String
  salt : Option String
  status : String
  deriving DecidableEq, Repr

namespace Account

/-- The status of an account in use (`STATUS_ACTIVE`). -/
def active : String := "active"

/-- The status of an account that was never used (`STATUS_PENDING`). -/
def pending : String := "pending"

/-- Whether the account is banned or closed (`STATUS_BANNED`, `STATUS_CLOSED`), and so kept from
logging in. -/
def isBarred (a : Account) : Bool :=
  a.status == "banned" || a.status == "closed"

def hasPassword (a : Account) (password : String) : Bool :=
  Password.verify a.password a.salt password

end Account

end Parley
