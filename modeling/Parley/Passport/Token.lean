import Parley.Passport.Claims
import Parley.Passport.Header
import Parley.Text.Base64Url
import Parley.Text.Blank

/-!
# Signed passports

A token is three parts with dots between them: header, claims and signature, each
in base64. The signature is made by a function `mac` of the first two parts as they
are written, and is compared in its written form.
-/
namespace Parley.Passport

/-- Why a token was not accepted. -/
inductive TokenError where
  /-- It has fewer than three parts. -/
  | parts
  /-- The header or the claims are not base64. -/
  | base64
  /-- The header or the claims are not what they should be. -/
  | json
  /-- The header names another algorithm. -/
  | algorithm
  /-- The signature is another one. -/
  | signature
  deriving DecidableEq, Repr

namespace TokenError

/-- The wording of the error. The words of the token library are shortened here to the kind of
the error: where an answer is stated as a whole, what stands behind `invalid passport: ` in it
is told up to these kinds. -/
def message : TokenError → String
  | parts => "InvalidToken"
  | base64 => "Base64 error"
  | json => "JSON error"
  | algorithm => "InvalidAlgorithm"
  | signature => "InvalidSignature"

end TokenError

/-- A function that makes the signature for a message. -/
abbrev Mac := List UInt8 → List UInt8

/-- A JSON value as a part of a token. -/
def part (v : Json) : List Char :=
  Base64Url.encode (Utf8.encode v.write)

/-- The third part, for the first two with the dot between them. -/
def signature (mac : Mac) (message : List Char) : List Char :=
  Base64Url.encode (mac (Utf8.encode message))

/-- Signs claims (`issue`). -/
def sign (mac : Mac) (claims : Claims) : String :=
  let message := part Header.json ++ '.' :: part claims.toJson
  String.ofList (message ++ '.' :: signature mac message)

def readPart {α : Type} (read : List UInt8 → Except Json.Fault α) (cs : List Char) :
    Except TokenError α :=
  match Base64Url.decode? cs with
  | none => .error .base64
  | some bytes =>
    match read bytes with
    | .ok a => .ok a
    | .error _ => .error .json

/-- The claims of a token, if it is signed as it should be. The parts are taken from
the right, so that what stands in front of the last two dots is the header. -/
def verify (mac : Mac) (token : String) : Except TokenError Claims :=
  match Text.splitLast? (· == '.') token.toList with
  | none => .error .parts
  | some (message, sig) =>
    match Text.splitLast? (· == '.') message with
    | none => .error .parts
    | some (header, claims) => do
      let algorithm ← readPart Header.algorithm header
      if algorithm ≠ .hs256 then throw .algorithm
      if sig ≠ signature mac message then throw .signature
      readPart Claims.ofBytes claims

end Parley.Passport
