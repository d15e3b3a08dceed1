import Parley.Json.Record

/-!
# Keys in the header of a token

A header may carry a public key. Nothing is done with the key, but it must be one: an
object of one of four types, with the members that keys of the type have. A few other
members may be there in keys of every type, and must then be of their kind.
-/
namespace Parley.Passport.EmbeddedKey

open Json (Outline Fault Record)

/-! ## Members of every key -/

/-- What a key may say that it is used with. -/
def algorithmNames : List String := [
  "HS256", "HS384", "HS512", "ES256", "ES384", "RS256", "RS384", "RS512",
  "PS256", "PS384", "PS512", "EdDSA", "RSA1_5", "RSA-OAEP", "RSA-OAEP-256"]

def oneOf? (names : List String) (s : String) : Option String :=
  if names.contains s then some s else none

/-- Reads the algorithm that a key is used with. Where the name is the only member of an
object, an empty object may stand behind it as well as `null`. -/
def algorithm : Outline → Except Fault String
  | .object [(key, .object [] true)] true => Outline.toForm (oneOf? algorithmNames) (.string key)
  | v => Outline.toName (oneOf? algorithmNames) v

/-- A member that may be missing or `null`. -/
def optional {α : Type} (name : String) (read : Outline → Except Fault α) :
    Json.Field (List String) :=
  .noted name (Outline.toOption read)

/-- The members that keys of every type may have. -/
def common : Record (List String) Unit where
  fields := [
    optional "use" Outline.toText,
    optional "key_ops" (Outline.toList Outline.toText),
    optional "alg" algorithm,
    optional "kid" Outline.toText,
    optional "x5u" Outline.toText,
    optional "x5c" (Outline.toList Outline.toText),
    optional "x5t" Outline.toText,
    optional "x5t#S256" Outline.toText]
  start := []
  finish := fun _ => some ()

def isCommon (key : List UInt8) : Bool :=
  match Json.text? key with
  | some name => common.fields.any (·.name == name)
  | none => false

/-! ## Members of one type -/

/-- The types of keys. -/
inductive KeyType where
  | ellipticCurve
  | rsa
  | octets
  | octetPair
  deriving DecidableEq, Repr

namespace KeyType

def name : KeyType → String
  | ellipticCurve => "EC"
  | rsa => "RSA"
  | octets => "oct"
  | octetPair => "OKP"

def all : List KeyType := [ellipticCurve, rsa, octets, octetPair]

/-- The curves that a key may lie on. -/
def curves : List String := ["P-256", "P-384", "P-521", "Ed25519"]

def curve : Json.Field (List String) :=
  .noted "crv" (Outline.toName (oneOf? curves))

def part (name : String) : Json.Field (List String) :=
  .noted name Outline.toText

/-- The members besides the type. -/
def parts : KeyType → List (Json.Field (List String))
  | ellipticCurve => [curve, part "x", part "y"]
  | rsa => [part "n", part "e"]
  | octets => [part "k"]
  | octetPair => [curve, part "x"]

/-- A key of the type as a record, in which nothing may be missing. -/
def record (t : KeyType) : Record (List String) Unit :=
  let fields := .noted "kty" (Outline.toName (oneOf? [t.name])) :: t.parts
  { fields := fields
    start := []
    finish := fun names =>
      if fields.all fun f => names.contains f.name then some () else none }

end KeyType

/-! ## Keys -/

def read : Outline → Except Fault Unit
  | .object members closed => do
    let v := Outline.object members closed
    if v.ending Outline.memberLevels ≠ .read then throw .malformed
    common.read v
    let own := Outline.object (members.filter fun m => !isCommon m.1) closed
    if KeyType.all.any fun t => (t.record.read own).isOk then return ()
    else throw .mismatched
  | v => .error v.misfit

end Parley.Passport.EmbeddedKey
