import Parley.Text.Hex
import Parley.Text.Blank
import Parley.Text.Utf8

/-!
# Percent-encoding and form data

`%` and two hex digits stand for a byte; a `%` that is not followed by two hex
digits stands for itself. Form data are pairs joined by `&`, in which `+` also
stands for a blank.
-/
namespace Parley.Percent

/-- Puts the bytes back that are written with a percent sign. -/
def decode : List UInt8 → List UInt8
  | [] => []
  | 0x25 :: a :: b :: rest =>
    match Hex.value? (Char.ofNat a.toNat), Hex.value? (Char.ofNat b.toNat) with
    | some high, some low => UInt8.ofNat (16 * high + low) :: decode rest
    | _, _ => 0x25 :: decode (a :: b :: rest)
  | a :: rest => a :: decode rest

/-- One name or value of form data: `+` is a blank, then the percent signs are
resolved; what is not UTF-8 becomes U+FFFD. -/
def formText (bytes : List UInt8) : String :=
  String.ofList (Utf8.decodeLossy (decode (bytes.map fun b => if b = 0x2B then 0x20 else b)))

/-- The pairs of form data in order. Empty pieces are skipped, and a piece without
`=` is a name with an empty value. -/
def formPairs (bytes : List UInt8) : List (String × String) :=
  ((Text.splitWhere (· == 0x26) bytes).filter fun piece => !piece.isEmpty).map fun piece =>
    match Text.splitFirst? (· == 0x3D) piece with
    | some (name, value) => (formText name, formText value)
    | none => (formText piece, "")

end Parley.Percent
