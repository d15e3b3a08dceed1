/-!
# Decimal numbers

Whole numbers as text: ASCII digits, no separators. Reading takes one optional
sign and at least one digit, and refuses a value outside a given range.
-/
namespace Parley.Decimal

def max16 : Nat := 0xFFFF

def max32 : Nat := 0xFFFFFFFF

/-- The largest number of 63 bits, which leave one for a sign. -/
def max63 : Nat := 0x7FFFFFFFFFFFFFFF

def max64 : Nat := 0xFFFFFFFFFFFFFFFF

def digit? (c : Char) : Option Nat :=
  if '0' ≤ c ∧ c ≤ '9' then some (c.toNat - '0'.toNat) else none

/-- The digits of a number, without leading zeros. -/
def ofNat (n : Nat) : String :=
  String.ofList (Nat.toDigits 10 n)

def ofInt : Int → String
  | .ofNat n => ofNat n
  | .negSucc n => "-" ++ ofNat (n + 1)

/-- The number that one or more digits denote. Leading zeros are allowed. -/
def value? (cs : List Char) : Option Nat :=
  if cs.isEmpty then none
  else (cs.mapM digit?).map fun ds => ds.foldl (fun n d => 10 * n + d) 0

/-- Reads a number from `0` to `max`, with an optional `+` in front. -/
def readNat? (max : Nat) (cs : List Char) : Option Nat :=
  let unsigned := match cs with
    | '+' :: rest => rest
    | _ => cs
  (value? unsigned).filter fun n => decide (n ≤ max)

/-- Reads a number from `-(max + 1)` to `max`, with an optional sign in front. -/
def readInt? (max : Nat) (cs : List Char) : Option Int :=
  match cs with
  | '-' :: rest => ((value? rest).filter fun n => decide (n ≤ max + 1)).map fun n => -(n : Int)
  | _ => (readNat? max cs).map Int.ofNat

end Parley.Decimal
