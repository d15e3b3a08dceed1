import Parley.Page.Boundary
import Parley.Principal
import Parley.Text.Decimal

/-!
# Conditions on rows

What a statement asks of a conversation's row, as a list of conditions that must
all hold. A condition mentions values only as arguments: the text holds a numbered
placeholder for each, so no value ever becomes part of the text.
-/
namespace Parley.Store

/-- A value handed over beside the text of a statement. -/
inductive Arg where
  | null
  | uuid (u : Uuid)
  | text (s : String)
  | int (n : Int)
  /-- Microseconds since 1970. -/
  | time (t : Int)
  | uuids (us : List Uuid)
  deriving DecidableEq, Repr

def Arg.ofOption {α : Type} (arg : α → Arg) : Option α → Arg
  | none => null
  | some a => arg a

/-- The columns of a conversation's row. -/
inductive Column where
  | id
  | app
  | name
  | source
  | endUser
  | account
  | channel
  | isDeleted
  | createdAt
  | updatedAt
  deriving DecidableEq, Repr

namespace Column

def text : Column → String
  | id => "id"
  | app => "app_id"
  | name => "name"
  | source => "from_source"
  | endUser => "from_end_user_id"
  | account => "from_account_id"
  | channel => "invoke_from"
  | isDeleted => "is_deleted"
  | createdAt => "created_at"
  | updatedAt => "updated_at"

/-- All columns, in the order of a row. -/
def all : List Column :=
  [id, app, name, source, endUser, account, channel, isDeleted, createdAt, updatedAt]

end Column

/-- A test on a row of the conversations. -/
inductive Condition where
  /-- A truth value is false. -/
  | isFalse (c : Column)
  /-- There is no value. -/
  | isNull (c : Column)
  /-- The value equals an argument. -/
  | equals (c : Column) (a : Arg)
  /-- The value equals an argument, where no value equals no value. -/
  | notDistinct (c : Column) (a : Arg)
  /-- The value is one of a list. -/
  | isAny (c : Column) (ids : List Uuid)
  /-- The value is past a boundary. -/
  | past (c : Column) (b : Boundary)
  | not (p : Condition)
  | or (p q : Condition)
  deriving DecidableEq, Repr

/-! ## Text with placeholders -/

/-- A piece of a statement: text, or the place of an argument. -/
inductive Fragment where
  | text (s : String)
  | arg (a : Arg)
  deriving DecidableEq, Repr

namespace Fragment

/-- The text with the placeholders numbered on from `n`. -/
def number : Nat → List Fragment → String
  | _, [] => ""
  | n, text s :: fs => s ++ number n fs
  | n, arg _ :: fs => "$" ++ Decimal.ofNat n ++ number (n + 1) fs

/-- The arguments in the order of their places. -/
def args (fs : List Fragment) : List Arg :=
  fs.filterMap fun
    | arg a => some a
    | text _ => none

end Fragment

/-- A statement as it is sent: a text, and an argument for each number of a placeholder
in it, the first for `$1`. -/
structure Prepared where
  sql : String
  args : List Arg
  deriving DecidableEq, Repr

/-- The statement of these pieces, whose places are numbered from left to right. -/
def Prepared.ofFragments (fs : List Fragment) : Prepared :=
  ⟨Fragment.number 1 fs, Fragment.args fs⟩

namespace Condition

def fragments : Condition → List Fragment
  | isFalse c => [.text (c.text ++ " = FALSE")]
  | isNull c => [.text (c.text ++ " IS NULL")]
  | equals c a => [.text (c.text ++ " = "), .arg a]
  | notDistinct c a => [.text (c.text ++ " IS NOT DISTINCT FROM "), .arg a]
  | isAny c ids => [.text (c.text ++ " = ANY("), .arg (.uuids ids), .text ")"]
  | past c b => [.text (c.text ++ " " ++ b.operator ++ " "), .arg (.time b.key)]
  | not p => .text "NOT (" :: p.fragments ++ [.text ")"]
  | or p q => .text "(" :: p.fragments ++ .text " OR " :: q.fragments ++ [.text ")"]

/-- Conditions that must all hold, behind the keyword. -/
def whereAll : List Condition → List Fragment
  | [] => []
  | p :: ps => .text " WHERE " :: p.fragments ++ ps.flatMap fun q => .text " AND " :: q.fragments

end Condition

end Parley.Store
