import Parley.Text.Blank
import Parley.Text.Hex

/-!
# UUIDs

A number below `2 ^ 128`, written as 32 lower-case hex digits in groups of
8, 4, 4, 4 and 12. Their order as numbers is the order of their bytes and of
their texts.

Four spellings are read: grouped, the 32 digits alone, grouped between braces,
and grouped behind `urn:uuid:`; all letters may be of either case.
-/
namespace Parley

/-- A number of 128 bits that identifies a thing. -/
structure Uuid where
  value : Nat
  value_lt : value < 0x100000000000000000000000000000000
  deriving DecidableEq, Repr

namespace Uuid

instance : Inhabited Uuid := ⟨⟨0, by decide⟩⟩

instance : LE Uuid := ⟨fun u v => u.value ≤ v.value⟩

instance (u v : Uuid) : Decidable (u ≤ v) := Nat.decLe u.value v.value

theorem ext_value {u v : Uuid} (h : u.value = v.value) : u = v := by
  cases u; cases v; simpa using h

/-- The UUID of a random number: 48, 12 and 62 of its bits, with a `4` in front of the
second group of bits and the bits `10` in front of the third. -/
def random (n : Nat) : Uuid :=
  let third := n % 0x4000000000000000
  let second := n / 0x4000000000000000 % 0x1000
  let first := n / 0x4000000000000000000 % 0x1000000000000
  ⟨((first * 0x10 + 4) * 0x1000 + second) * 0x10000000000000000 + 0x8000000000000000 + third,
    by omega⟩

/-! ## Writing -/

def digits (u : Uuid) : List Char :=
  Hex.digits 32 u.value

def groupLengths : List Nat := [8, 4, 4, 4, 12]

/-- The digits in groups, with a hyphen between any two. -/
def grouped : List Char → List Nat → List Char
  | _, [] => []
  | cs, [n] => cs.take n
  | cs, n :: ns => cs.take n ++ '-' :: grouped (cs.drop n) ns

/-- The 36 characters of the usual form. -/
def text (u : Uuid) : String :=
  String.ofList (grouped u.digits groupLengths)

def compact (u : Uuid) : String :=
  String.ofList u.digits

instance : ToString Uuid := ⟨text⟩

/-! ## Reading -/

def ofDigits? (cs : List Char) : Option Uuid :=
  if cs.length = 32 then
    match Hex.number? cs with
    | some n => if h : n < 0x100000000000000000000000000000000 then some ⟨n, h⟩ else none
    | none => none
  else none

def ofGrouped? (cs : List Char) : Option Uuid :=
  let groups := Text.splitWhere (· == '-') cs
  if groups.map List.length = groupLengths then ofDigits? groups.flatten else none

/-- What stands in front of the digits in a resource name. -/
def resourceName : List Char := "urn:uuid:".toList

/-- Reads a UUID in any of the four spellings. -/
def ofChars? (cs : List Char) : Option Uuid :=
  if cs.length = 32 then ofDigits? cs
  else if cs.length = 36 then ofGrouped? cs
  else if cs.length = 38 then
    if cs.head? = some '\x7b' ∧ cs.getLast? = some '\x7d' then ofGrouped? (cs.drop 1).dropLast
    else none
  else if cs.length = 45 then
    if (cs.take 9).map Char.toLower = resourceName then ofGrouped? (cs.drop 9) else none
  else none

@[inherit_doc ofChars?]
def parse? (s : String) : Option Uuid :=
  ofChars? s.toList

/-! ## Small facts -/

theorem length_digits (u : Uuid) : u.digits.length = 32 :=
  Hex.length_digits 32 u.value

end Uuid

end Parley
