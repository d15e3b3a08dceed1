import Parley.Json.Token

/-!
# What a JSON text says as far as it can be read

A text may break off or go wrong anywhere, and a reader that looks for certain
fields notices a wrong shape before a fault further on. So a text is read into
an `Outline`, which keeps what stands in front of the fault and marks the place:
a value that cannot be read is `broken`, and a list that is left before its end
is not `closed`.
-/
namespace Parley.Json

/-- A value of a JSON text, as far as it can be read. -/
inductive Outline where
  | null
  | bool (b : Bool)
  | number (n : Number)
  | string (raw : List UInt8)
  | array (items : List Outline) (closed : Bool)
  | object (members : List (List UInt8 × Outline)) (closed : Bool)
  | broken
  deriving Repr, Inhabited

namespace Outline

/-! ## From tokens

Each reader returns the tokens behind what it read, or none where the text cannot
be read on. -/

mutual

def readValue : Nat → List Token → Outline × Option (List Token)
  | 0, _ => (broken, none)
  | _ + 1, .null :: ts => (null, some ts)
  | _ + 1, .bool b :: ts => (bool b, some ts)
  | _ + 1, .number n :: ts => (number n, some ts)
  | _ + 1, .string raw :: ts => (string raw, some ts)
  | _ + 1, .openArray :: .closeArray :: ts => (array [] true, some ts)
  | fuel + 1, .openArray :: ts =>
    let (items, rest) := readItems fuel ts
    (array items rest.isSome, rest)
  | _ + 1, .openObject :: .closeObject :: ts => (object [] true, some ts)
  | fuel + 1, .openObject :: ts =>
    let (members, rest) := readMembers fuel ts
    (object members rest.isSome, rest)
  | _ + 1, _ => (broken, none)

/-- Reads one or more items up to the end of an array. -/
def readItems : Nat → List Token → List Outline × Option (List Token)
  | 0, _ => ([], none)
  | _ + 1, [] => ([], none)
  | fuel + 1, ts =>
    match readValue fuel ts with
    | (v, some (.comma :: ts')) =>
      let (vs, rest) := readItems fuel ts'
      (v :: vs, rest)
    | (v, some (.closeArray :: ts')) => ([v], some ts')
    | (v, _) => ([v], none)

/-- Reads one or more members up to the end of an object. -/
def readMembers : Nat → List Token → List (List UInt8 × Outline) × Option (List Token)
  | 0, _ => ([], none)
  | fuel + 1, .string key :: .colon :: ts =>
    match readValue fuel ts with
    | (v, some (.comma :: ts')) =>
      let (ms, rest) := readMembers fuel ts'
      ((key, v) :: ms, rest)
    | (v, some (.closeObject :: ts')) => ([(key, v)], some ts')
    | (v, _) => ([(key, v)], none)
  | _ + 1, .string key :: _ => ([(key, broken)], none)
  | _ + 1, _ => ([], none)

end

/-! ## Faults -/

mutual

/-- Whether the value can be read to its end. -/
def isWhole : Outline → Bool
  | array items closed => closed && areWhole items
  | object members closed => closed && membersAreWhole members
  | broken => false
  | _ => true

def areWhole : List Outline → Bool
  | [] => true
  | v :: vs => isWhole v && areWhole vs

def membersAreWhole : List (List UInt8 × Outline) → Bool
  | [] => true
  | (_, v) :: ms => isWhole v && membersAreWhole ms

end

end Outline

/-- A whole text: its value, and whether nothing follows it. -/
structure Document where
  value : Outline
  ended : Bool

def Document.ofBytes (bytes : List UInt8) : Document :=
  let ts := tokens bytes
  match Outline.readValue (2 * ts.length + 1) ts with
  | (v, some []) => ⟨v, true⟩
  | (v, _) => ⟨v, false⟩

end Parley.Json
