import Parley.Account.Basic
import Parley.App
import Parley.Conversation.Basic

/-!
# Replies

What the database answers to a statement: rows, a number of rows affected, or a
failure. A row is a list of cells in column order, and is read as one kind of
record.
-/
namespace Parley.Store

/-- A value in a column of a reply. -/
inductive Cell where
  | null
  | bool (b : Bool)
  | int (n : Int)
  | text (s : String)
  deriving DecidableEq, Repr

/-- The values of a row, in the order in which the columns were asked for. -/
abbrev Row := List Cell

/-- The answer of the database to one statement. -/
inductive Reply where
  | rows (rows : List Row)
  | affected (count : Nat)
  | failure
  deriving DecidableEq, Repr

namespace Cell

def toBool? : Cell → Option Bool
  | bool b => some b
  | _ => none

def toInt? : Cell → Option Int
  | int n => some n
  | _ => none

def toText? : Cell → Option String
  | text s => some s
  | _ => none

def toUuid? : Cell → Option Uuid
  | text s => Uuid.parse? s
  | _ => none

/-- Reads a value that may be missing. -/
def orNull {α : Type} (read : Cell → Option α) : Cell → Option (Option α)
  | null => some none
  | c => (read c).map some

end Cell

namespace Row

/-- Reads the first cell of a row. -/
def single {α : Type} (read : Cell → Option α) : Row → Option α
  | c :: _ => read c
  | [] => none

/-- Reads a row of an account: id, password, salt and status. -/
def account? : Row → Option Account
  | id :: password :: salt :: status :: _ => do
    return {
      id := ← id.toUuid?
      password := ← password.orNull Cell.toText?
      salt := ← salt.orNull Cell.toText?
      status := ← status.toText? }
  | _ => none

/-- Reads a row of an app: id, tenant, status, and whether its site is enabled. -/
def app? : Row → Option App
  | id :: tenant :: status :: siteEnabled :: _ => do
    return {
      id := ← id.toUuid?
      tenant := ← tenant.toUuid?
      status := ← status.toText?
      siteEnabled := ← siteEnabled.toBool? }
  | _ => none

/-- Reads a row of an end user: id and type. -/
def endUser? : Row → Option (Uuid × String)
  | id :: type :: _ => do return (← id.toUuid?, ← type.toText?)
  | _ => none

/-- Reads a row of a conversation. -/
def conversation? : Row → Option Conversation
  | id :: app :: name :: source :: endUser :: account :: channel :: isDeleted ::
      createdAt :: updatedAt :: _ => do
    return {
      id := ← id.toUuid?
      app := ← app.toUuid?
      name := ← name.toText?
      source := ← source.toText?
      endUser := ← endUser.orNull Cell.toUuid?
      account := ← account.orNull Cell.toUuid?
      channel := ← channel.orNull Cell.toText?
      isDeleted := ← isDeleted.toBool?
      createdAt := ← createdAt.toInt?
      updatedAt := ← updatedAt.toInt? }
  | _ => none

end Row

end Parley.Store
