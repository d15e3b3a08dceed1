import Parley.Text.Hex
import Parley.Text.Utf8

/-!
# The tokens of a JSON text

A text is cut into tokens from the left. What no token starts with becomes one
`broken` token, and nothing behind it is read.

A string keeps the bytes between its quotes as they are written (`raw`). Its
escapes are checked here; whether it denotes text, with paired surrogates and in
well-formed UTF-8, is asked only where the text is wanted (`text?`).
-/
namespace Parley.Json

/-- A number as written: a sign, the digits before and after the point, and the
power of ten. -/
structure Number where
  negative : Bool
  whole : List Nat
  fraction : List Nat
  exponent : Int
  deriving DecidableEq, Repr

inductive Token where
  | openObject
  | closeObject
  | openArray
  | closeArray
  | colon
  | comma
  | null
  | bool (b : Bool)
  | number (n : Number)
  | string (raw : List UInt8)
  | broken
  deriving DecidableEq, Repr

/-! ## Numbers -/

namespace Number

def digit? (b : UInt8) : Option Nat :=
  if 0x30 ≤ b ∧ b ≤ 0x39 then some (b.toNat - 0x30) else none

/-- The digits that a text starts with, and the rest. -/
def digits : List UInt8 → List Nat × List UInt8
  | [] => ([], [])
  | b :: bs =>
    match digit? b with
    | some d => let (ds, rest) := digits bs; (d :: ds, rest)
    | none => ([], b :: bs)

/-- The number that digits denote. -/
def value (ds : List Nat) : Nat :=
  ds.foldl (fun n d => 10 * n + d) 0

/-- The digits behind a point, at least one; none where there is no point. -/
def fraction? : List UInt8 → Option (List Nat × List UInt8)
  | 0x2E :: bs =>
    match digits bs with
    | ([], _) => none
    | (ds, rest) => some (ds, rest)
  | bs => some ([], bs)

/-- An optional sign and at least one digit. -/
def power? (bs : List UInt8) : Option (Int × List UInt8) :=
  let (negative, unsigned) := match bs with
    | 0x2B :: rest => (false, rest)
    | 0x2D :: rest => (true, rest)
    | _ => (false, bs)
  match digits unsigned with
  | ([], _) => none
  | (ds, rest) => some (if negative then -(value ds : Int) else value ds, rest)

/-- The power of ten behind `e` or `E`; zero where there is neither. -/
def exponent? : List UInt8 → Option (Int × List UInt8)
  | 0x65 :: bs => power? bs
  | 0x45 :: bs => power? bs
  | bs => some (0, bs)

/-- A number without its sign. A zero in front stands alone. -/
def unsigned? (negative : Bool) (bs : List UInt8) : Option (Number × List UInt8) :=
  match digits bs with
  | ([], _) => none
  | (0 :: _ :: _, _) => none
  | (whole, rest) => do
    let (fraction, rest) ← fraction? rest
    let (exponent, rest) ← exponent? rest
    return (⟨negative, whole, fraction, exponent⟩, rest)

/-- The number that a text starts with. -/
def scan? : List UInt8 → Option (Number × List UInt8)
  | 0x2D :: bs => unsigned? true bs
  | bs => unsigned? false bs

end Number

/-! ## Strings -/

def hexValue? (b : UInt8) : Option Nat :=
  Hex.value? (Char.ofNat b.toNat)

/-- The value of four hex digits. -/
def unit? (a b c d : UInt8) : Option Nat := do
  let w ← hexValue? a
  let x ← hexValue? b
  let y ← hexValue? c
  let z ← hexValue? d
  return ((w * 16 + x) * 16 + y) * 16 + z

/-- What a byte behind a backslash stands for, where it stands for one byte. -/
def simpleEscape? (b : UInt8) : Option UInt8 :=
  if b = 0x22 ∨ b = 0x5C ∨ b = 0x2F then some b
  else if b = 0x62 then some 0x08
  else if b = 0x66 then some 0x0C
  else if b = 0x6E then some 0x0A
  else if b = 0x72 then some 0x0D
  else if b = 0x74 then some 0x09
  else none

/-- The bytes up to the closing quote and the rest behind it, if every escape on
the way is complete and no control character stands there. -/
def scanString? : List UInt8 → Option (List UInt8 × List UInt8)
  | [] => none
  | 0x22 :: rest => some ([], rest)
  | 0x5C :: 0x75 :: a :: b :: c :: d :: rest =>
    if (unit? a b c d).isSome then
      (scanString? rest).map fun (raw, after) => (0x5C :: 0x75 :: a :: b :: c :: d :: raw, after)
    else none
  | 0x5C :: e :: rest =>
    if (simpleEscape? e).isSome then
      (scanString? rest).map fun (raw, after) => (0x5C :: e :: raw, after)
    else none
  | b :: rest =>
    if b < 0x20 ∨ b = 0x5C then none
    else (scanString? rest).map fun (raw, after) => (b :: raw, after)

/-- The bytes of the text that a string denotes. An escaped surrogate is one half
of a pair, the high half first. -/
def unescape? : List UInt8 → Option (List UInt8)
  | [] => some []
  | 0x5C :: 0x75 :: a :: b :: c :: d :: rest =>
    match unit? a b c d with
    | none => none
    | some high =>
      if 0xD800 ≤ high ∧ high < 0xDC00 then
        match rest with
        | 0x5C :: 0x75 :: a' :: b' :: c' :: d' :: rest' =>
          match unit? a' b' c' d' with
          | none => none
          | some low =>
            if 0xDC00 ≤ low ∧ low < 0xE000 then
              let n := 0x10000 + (high - 0xD800) * 0x400 + (low - 0xDC00)
              (unescape? rest').map (Utf8.encodeChar (Char.ofNat n) ++ ·)
            else none
        | _ => none
      else if 0xDC00 ≤ high ∧ high < 0xE000 then none
      else (unescape? rest).map (Utf8.encodeChar (Char.ofNat high) ++ ·)
  | 0x5C :: e :: rest =>
    match simpleEscape? e with
    | some b => (unescape? rest).map (b :: ·)
    | none => none
  | b :: rest => (unescape? rest).map (b :: ·)

def text? (raw : List UInt8) : Option String :=
  (unescape? raw).bind Utf8.toString?

/-! ## Cutting a text -/

/-- The four characters that may stand between tokens. -/
def isSpace (b : UInt8) : Bool :=
  b == 0x20 || b == 0x0A || b == 0x09 || b == 0x0D

/-- The token for a word, if the text goes on with the rest of the word. -/
def scanWord (word : String) (token : Token) (bs : List UInt8) : Token × List UInt8 :=
  let w := Utf8.ofString word
  if w.isPrefixOf bs then (token, bs.drop w.length) else (.broken, [])

/-- The token that a text starts with, and the rest. -/
def scan (b : UInt8) (rest : List UInt8) : Token × List UInt8 :=
  if b = 0x7B then (.openObject, rest)
  else if b = 0x7D then (.closeObject, rest)
  else if b = 0x5B then (.openArray, rest)
  else if b = 0x5D then (.closeArray, rest)
  else if b = 0x3A then (.colon, rest)
  else if b = 0x2C then (.comma, rest)
  else if b = 0x22 then
    match scanString? rest with
    | some (raw, rest) => (.string raw, rest)
    | none => (.broken, [])
  else if b = 0x6E then scanWord "ull" .null rest
  else if b = 0x74 then scanWord "rue" (.bool true) rest
  else if b = 0x66 then scanWord "alse" (.bool false) rest
  else
    match Number.scan? (b :: rest) with
    | some (n, rest) => (.number n, rest)
    | none => (.broken, [])

/-- The tokens of at most `fuel` bytes. -/
def tokensUpTo : Nat → List UInt8 → List Token
  | 0, _ => []
  | _ + 1, [] => []
  | fuel + 1, b :: rest =>
    if isSpace b then tokensUpTo fuel rest
    else
      match scan b rest with
      | (.broken, _) => [.broken]
      | (token, rest) => token :: tokensUpTo fuel rest

def tokens (bytes : List UInt8) : List Token :=
  tokensUpTo bytes.length bytes

end Parley.Json
