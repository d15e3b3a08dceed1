import Parley.Json.Outline
import Parley.Json.Range

/-!
# Where the reading of a value ends

A value is read as a whole where nothing is known about its shape. That fails where a
string does not denote text, a number is out of range, or values are nested too deep. A
reader that does not mind the failure can go on if it was noticed right behind the value:
the fault is then the last thing in the value, and so are all values around it that are
part of the same value, since only closing brackets are passed over after a fault.
-/
namespace Parley.Json

/-- How the reading of a value ends. -/
inductive Ending where
  /-- The value was read. -/
  | read
  /-- A fault was noticed, right behind the value. -/
  | behind
  /-- A fault was noticed within the value. -/
  | within
  deriving DecidableEq, Repr

/-- Whether a string ends in the escaped high half of a pair, and denotes bytes without
it. -/
def endsInHighHalf (raw : List UInt8) : Bool :=
  let (front, last) := raw.splitAt (raw.length - 6)
  match last with
  | [0x5C, 0x75, a, b, c, d] =>
    match unit? a b c d with
    | some n => decide (0xD800 ≤ n ∧ n < 0xDC00) && (unescape? front).isSome
    | none => false
  | _ => false

/-- The ending for a string. That its bytes are no text is noticed behind it; so is a high
half without the other one, where the quote stands in its place. -/
def stringEnding (raw : List UInt8) : Ending :=
  match unescape? raw with
  | some bytes => if (Utf8.toString? bytes).isSome then .read else .behind
  | none => if endsInHighHalf raw then .behind else .within

def Number.ending (n : Number) : Ending :=
  if n.isFinite then .read else if n.isCutShort then .within else .behind

namespace Outline

mutual

/-- The ending for a value that may hold so many levels of arrays and objects. -/
def ending : Nat → Outline → Ending
  | _, null => .read
  | _, bool _ => .read
  | _, number n => n.ending
  | _, string raw => stringEnding raw
  | 0, array _ _ => .within
  | levels + 1, array items closed => if closed then itemsEnding levels items else .within
  | 0, object _ _ => .within
  | levels + 1, object members closed => if closed then membersEnding levels members else .within
  | _, broken => .within

def itemsEnding : Nat → List Outline → Ending
  | _, [] => .read
  | levels, v :: vs =>
    match ending levels v with
    | .read => itemsEnding levels vs
    | .behind => if vs.isEmpty then .behind else .within
    | .within => .within

/-- The ending for the members of an object, whose names must denote text. -/
def membersEnding : Nat → List (List UInt8 × Outline) → Ending
  | _, [] => .read
  | levels, (key, v) :: ms =>
    if (text? key).isSome then
      match ending levels v with
      | .read => membersEnding levels ms
      | .behind => if ms.isEmpty then .behind else .within
      | .within => .within
    else .within

end

/-- The levels of arrays and objects that a member of a record may hold. -/
def memberLevels : Nat := 126

end Outline

end Parley.Json
