import Parley.Json.Token

/-!
# The range of numbers

The value of a number is found in two steps. Its digits are taken as long as they fit
into 64 bits, and what is left of it is a power of ten. Then both are rounded to 53 bits
and multiplied. A number is out of range if the product lies nearer to `2 ^ 1024` than to
any smaller number of 53 bits, or if the power is above `10 ^ 308`.
-/
namespace Parley.Json.Number

/-- The largest number of 64 bits. -/
def maxSignificand : Nat := 0xFFFFFFFFFFFFFFFF

/-- Takes digits behind those of a number as long as it fits into 64 bits; the number and
the digits that are left. -/
def takeDigits : Nat → List Nat → Nat × List Nat
  | s, [] => (s, [])
  | s, d :: ds =>
    if 10 * s + d ≤ maxSignificand then takeDigits (10 * s + d) ds else (s, d :: ds)

/-- The digits that are taken, and the power of ten behind them. A digit that is left
counts as zero before the point, and not at all behind it. -/
def scaled (n : Number) : Nat × Int :=
  let (s, wholeLeft) := takeDigits 0 n.whole
  let (s, fractionLeft) := takeDigits s n.fraction
  (s, n.exponent + wholeLeft.length + fractionLeft.length - n.fraction.length)

/-- The nearest number of at most 53 significant bits; of two, the one that ends in a
zero bit. -/
def nearest (n : Nat) : Nat :=
  let unit := Nat.pow 2 (n.log2 - 52)
  let q := n / unit
  let r := n % unit
  if 2 * r < unit ∨ (2 * r = unit ∧ q % 2 = 0) then q * unit else (q + 1) * unit

/-- The least number that is rounded to `2 ^ 1024`. -/
def overflow : Nat := Nat.pow 2 1024 - Nat.pow 2 970

/-- Whether the number is in range. -/
def isFinite (n : Number) : Bool :=
  let (s, power) := n.scaled
  s == 0 || decide (power < 0) ||
    (decide (power ≤ 308) && decide (nearest s * nearest (Nat.pow 10 power.toNat) < overflow))

/-- Whether the power of ten is given up before its last digit, as it is once it does not
fit into 31 bits any more. A zero has no such power. -/
def isCutShort (n : Number) : Bool :=
  n.scaled.1 != 0 && decide (0x7FFFFFFF < n.exponent / 10)

end Parley.Json.Number
