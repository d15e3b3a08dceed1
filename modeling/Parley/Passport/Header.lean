import Parley.Json.Basic
import Parley.Passport.EmbeddedKey

/-!
# The header of a token

The header names the algorithm of the signature. Its other members may be missing,
but those that are known must be of their kind.
-/
namespace Parley.Passport

open Json (Outline Fault Record)

inductive Algorithm where
  | hs256
  | hs384
  | hs512
  | es256
  | es384
  | rs256
  | rs384
  | rs512
  | ps256
  | ps384
  | ps512
  | edDsa
  deriving DecidableEq, Repr

namespace Algorithm

def name : Algorithm → String
  | hs256 => "HS256"
  | hs384 => "HS384"
  | hs512 => "HS512"
  | es256 => "ES256"
  | es384 => "ES384"
  | rs256 => "RS256"
  | rs384 => "RS384"
  | rs512 => "RS512"
  | ps256 => "PS256"
  | ps384 => "PS384"
  | ps512 => "PS512"
  | edDsa => "EdDSA"

def all : List Algorithm :=
  [hs256, hs384, hs512, es256, es384, rs256, rs384, rs512, ps256, ps384, ps512, edDsa]

def ofName? (s : String) : Option Algorithm :=
  all.find? fun a => a.name == s

end Algorithm

namespace Header

/-- The header of every passport that is issued. -/
def json : Json :=
  .obj [("typ", .str "JWT"), ("alg", .str Algorithm.hs256.name)]

structure Draft where
  algorithm : Option Algorithm := none
  others : List String := []

/-- A member that may be missing or `null`, of which only the name is remembered. -/
def optionalField {α : Type} (name : String) (read : Outline → Except Fault α) :
    Json.Field Draft where
  name := name
  isGiven := fun d => d.others.contains name
  read := fun d v =>
    (Outline.toOption read v).map fun _ => { d with others := name :: d.others }

/-- The header as a record, which comes down to its algorithm. -/
def record : Record Draft Algorithm where
  fields := [
    optionalField "typ" Outline.toText,
    .of "alg" (·.algorithm) (fun d v => { d with algorithm := some v })
      (Outline.toName Algorithm.ofName?),
    optionalField "cty" Outline.toText,
    optionalField "jku" Outline.toText,
    optionalField "jwk" EmbeddedKey.read,
    optionalField "kid" Outline.toText,
    optionalField "x5u" Outline.toText,
    optionalField "x5c" (Outline.toList Outline.toText),
    optionalField "x5t" Outline.toText,
    optionalField "x5t#S256" Outline.toText]
  start := {}
  finish := Draft.algorithm

/-- Reads the algorithm from the text of a header. -/
def algorithm (bytes : List UInt8) : Except Fault Algorithm :=
  record.readText bytes

end Header

end Parley.Passport
