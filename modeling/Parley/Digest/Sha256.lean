/-!
# SHA-256

A message is padded to whole blocks of 64 bytes; each block is mixed into a
chaining value of eight words, which in the end is the digest. Numbers are
written with the most significant byte first.
-/
namespace Parley.Sha256

/-- A word of 32 bits, on which addition wraps. -/
abbrev Word := UInt32

/-- Rotation to the right by `n` bits, `n` from 1 to 31. -/
def rotate (x : Word) (n : Word) : Word :=
  (x >>> n) ||| (x <<< (32 - n))

/-! ## Constants -/

/-- The words added in the 64 rounds: the first bits of the cube roots of the
first 64 primes. -/
def roundWords : List Word := [
  0x428a2f98, 0x71374491, 0xb5c0fbcf, 0xe9b5dba5, 0x3956c25b, 0x59f111f1, 0x923f82a4, 0xab1c5ed5,
  0xd807aa98, 0x12835b01, 0x243185be, 0x550c7dc3, 0x72be5d74, 0x80deb1fe, 0x9bdc06a7, 0xc19bf174,
  0xe49b69c1, 0xefbe4786, 0x0fc19dc6, 0x240ca1cc, 0x2de92c6f, 0x4a7484aa, 0x5cb0a9dc, 0x76f988da,
  0x983e5152, 0xa831c66d, 0xb00327c8, 0xbf597fc7, 0xc6e00bf3, 0xd5a79147, 0x06ca6351, 0x14292967,
  0x27b70a85, 0x2e1b2138, 0x4d2c6dfc, 0x53380d13, 0x650a7354, 0x766a0abb, 0x81c2c92e, 0x92722c85,
  0xa2bfe8a1, 0xa81a664b, 0xc24b8b70, 0xc76c51a3, 0xd192e819, 0xd6990624, 0xf40e3585, 0x106aa070,
  0x19a4c116, 0x1e376c08, 0x2748774c, 0x34b0bcb5, 0x391c0cb3, 0x4ed8aa4a, 0x5b9cca4f, 0x682e6ff3,
  0x748f82ee, 0x78a5636f, 0x84c87814, 0x8cc70208, 0x90befffa, 0xa4506ceb, 0xbef9a3f7, 0xc67178f2]

/-- The eight words between two blocks. -/
structure Chain where
  a : Word
  b : Word
  c : Word
  d : Word
  e : Word
  f : Word
  g : Word
  h : Word
  deriving DecidableEq, Repr

/-- The first bits of the square roots of the first eight primes. -/
def Chain.start : Chain where
  a := 0x6a09e667
  b := 0xbb67ae85
  c := 0x3c6ef372
  d := 0xa54ff53a
  e := 0x510e527f
  f := 0x9b05688c
  g := 0x1f83d9ab
  h := 0x5be0cd19

/-! ## Words and bytes -/

def word (a b c d : UInt8) : Word :=
  (a.toUInt32 <<< 24) ||| (b.toUInt32 <<< 16) ||| (c.toUInt32 <<< 8) ||| d.toUInt32

/-- The words of a list of bytes, four bytes each. -/
def words : List UInt8 → List Word
  | a :: b :: c :: d :: rest => word a b c d :: words rest
  | _ => []

def Word.bytes (w : Word) : List UInt8 :=
  [(w >>> 24).toUInt8, (w >>> 16).toUInt8, (w >>> 8).toUInt8, w.toUInt8]

/-- The last `count` bytes of a number. -/
def bytesOf : Nat → Nat → List UInt8
  | 0, _ => []
  | count + 1, n => bytesOf count (n / 256) ++ [UInt8.ofNat (n % 256)]

/-! ## Blocks -/

/-- A one bit, zeros up to eight bytes before the end of a block, and the length
in bits. -/
def padding (length : Nat) : List UInt8 :=
  0x80 :: List.replicate ((119 - length % 64) % 64) 0 ++ bytesOf 8 (8 * length)

/-- Goes on with a schedule, whose last sixteen words are given from the latest
to the earliest, by `count` words. -/
def expand : Nat → List Word → List Word
  | 0, _ => []
  | count + 1, recent =>
    match recent with
    | [_, w2, _, _, _, _, w7, _, _, _, _, _, _, _, w15, w16] =>
      let s0 := rotate w15 7 ^^^ rotate w15 18 ^^^ (w15 >>> 3)
      let s1 := rotate w2 17 ^^^ rotate w2 19 ^^^ (w2 >>> 10)
      let w := w16 + s0 + w7 + s1
      w :: expand count (w :: recent.dropLast)
    | _ => []

/-- The 64 words of a block. -/
def schedule (block : List Word) : List Word :=
  block ++ expand 48 block.reverse

/-- One round: mixes a word of the schedule and a constant into the words. -/
def round (s : Chain) (constant w : Word) : Chain :=
  let s1 := rotate s.e 6 ^^^ rotate s.e 11 ^^^ rotate s.e 25
  let choice := (s.e &&& s.f) ^^^ (~~~s.e &&& s.g)
  let t1 := s.h + s1 + choice + constant + w
  let s0 := rotate s.a 2 ^^^ rotate s.a 13 ^^^ rotate s.a 22
  let majority := (s.a &&& s.b) ^^^ (s.a &&& s.c) ^^^ (s.b &&& s.c)
  let t2 := s0 + majority
  ⟨t1 + t2, s.a, s.b, s.c, s.d + t1, s.e, s.f, s.g⟩

def Chain.add (s t : Chain) : Chain :=
  ⟨s.a + t.a, s.b + t.b, s.c + t.c, s.d + t.d, s.e + t.e, s.f + t.f, s.g + t.g, s.h + t.h⟩

/-- Mixes a block of sixteen words into the chaining value. -/
def compress (s : Chain) (block : List Word) : Chain :=
  s.add ((roundWords.zip (schedule block)).foldl (fun t kw => round t kw.1 kw.2) s)

/-- Mixes in at most `fuel` blocks. -/
def compressAll : Nat → Chain → List Word → Chain
  | 0, s, _ => s
  | _ + 1, s, [] => s
  | fuel + 1, s, ws => compressAll fuel (compress s (ws.take 16)) (ws.drop 16)

def Chain.bytes (s : Chain) : List UInt8 :=
  Word.bytes s.a ++ Word.bytes s.b ++ Word.bytes s.c ++ Word.bytes s.d ++
    Word.bytes s.e ++ Word.bytes s.f ++ Word.bytes s.g ++ Word.bytes s.h

/-- The 32 bytes of the digest. -/
def hash (message : List UInt8) : List UInt8 :=
  let ws := words (message ++ padding message.length)
  (compressAll ws.length Chain.start ws).bytes

@[simp] theorem length_hash (message : List UInt8) : (hash message).length = 32 := rfl

end Parley.Sha256
