/-!
# UTF-8

Characters as bytes and back. Reading is strict (`decode?`: the whole input must
be well formed) or forgiving (`decodeLossy`: each maximal ill-formed piece
becomes one U+FFFD).
-/
namespace Parley.Utf8

/-! ## Writing -/

/-- The one to four bytes of a character. -/
def encodeChar (c : Char) : List UInt8 :=
  let n := c.toNat
  if n < 0x80 then [UInt8.ofNat n]
  else if n < 0x800 then [UInt8.ofNat (0xC0 + n / 64), UInt8.ofNat (0x80 + n % 64)]
  else if n < 0x10000 then
    [UInt8.ofNat (0xE0 + n / 4096), UInt8.ofNat (0x80 + n / 64 % 64), UInt8.ofNat (0x80 + n % 64)]
  else
    [UInt8.ofNat (0xF0 + n / 262144), UInt8.ofNat (0x80 + n / 4096 % 64),
      UInt8.ofNat (0x80 + n / 64 % 64), UInt8.ofNat (0x80 + n % 64)]

def encode (cs : List Char) : List UInt8 :=
  cs.flatMap encodeChar

def ofString (s : String) : List UInt8 :=
  encode s.toList

/-! ## Reading -/

/-- What a first byte asks for: how many bytes follow, the range of the first of
them (narrower than `80` to `BF` where a longer form or a surrogate would slip
in), and the bits it carries itself. -/
structure Lead where
  more : Nat
  low : UInt8
  high : UInt8
  bits : Nat

/-- The demands of a first byte, if a character can start with it. -/
def lead? (b : UInt8) : Option Lead :=
  if b < 0x80 then some ⟨0, 0x80, 0xBF, b.toNat⟩
  else if b < 0xC2 then none
  else if b < 0xE0 then some ⟨1, 0x80, 0xBF, b.toNat - 0xC0⟩
  else if b = 0xE0 then some ⟨2, 0xA0, 0xBF, 0⟩
  else if b = 0xED then some ⟨2, 0x80, 0x9F, 0xD⟩
  else if b < 0xF0 then some ⟨2, 0x80, 0xBF, b.toNat - 0xE0⟩
  else if b = 0xF0 then some ⟨3, 0x90, 0xBF, 0⟩
  else if b < 0xF4 then some ⟨3, 0x80, 0xBF, b.toNat - 0xF0⟩
  else if b = 0xF4 then some ⟨3, 0x80, 0x8F, 4⟩
  else none

/-- What a text starts with: a character, or an ill-formed piece; and the number
of bytes of it. -/
inductive Piece where
  | char (c : Char) (size : Nat)
  | ill (size : Nat)
  deriving DecidableEq, Repr

def Piece.size : Piece → Nat
  | .char _ n => n
  | .ill n => n

/-- Reads the bytes that follow a first byte. -/
def trail : Nat → UInt8 → UInt8 → Nat → Nat → List UInt8 → Piece
  | 0, _, _, bits, size, _ => .char (Char.ofNat bits) size
  | _ + 1, _, _, _, size, [] => .ill size
  | more + 1, low, high, bits, size, b :: rest =>
    if low ≤ b ∧ b ≤ high then trail more 0x80 0xBF (64 * bits + b.toNat % 64) (size + 1) rest
    else .ill size

/-- The piece that a text with first byte `b` starts with. -/
def first (b : UInt8) (rest : List UInt8) : Piece :=
  match lead? b with
  | none => .ill 1
  | some l => trail l.more l.low l.high l.bits 1 rest

/-- The pieces of at most `fuel` bytes. -/
def piecesUpTo : Nat → List UInt8 → List Piece
  | 0, _ => []
  | _ + 1, [] => []
  | fuel + 1, b :: rest =>
    let p := first b rest
    p :: piecesUpTo fuel (rest.drop (p.size - 1))

/-- The text cut into characters and ill-formed pieces. -/
def pieces (bytes : List UInt8) : List Piece :=
  piecesUpTo bytes.length bytes

def decode? (bytes : List UInt8) : Option (List Char) :=
  (pieces bytes).mapM fun
    | .char c _ => some c
    | .ill _ => none

def toString? (bytes : List UInt8) : Option String :=
  (decode? bytes).map String.ofList

/-- The characters of any text, with U+FFFD in place of each ill-formed piece. -/
def decodeLossy (bytes : List UInt8) : List Char :=
  (pieces bytes).map fun
    | .char c _ => c
    | .ill _ => '\uFFFD'

end Parley.Utf8
