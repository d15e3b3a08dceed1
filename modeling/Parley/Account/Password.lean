import Parley.Digest.Sha256
import Parley.Text.Hex
import Parley.Text.Utf8

/-!
# Passwords

A password is stored as the hex digits of the digest of a salt and the password.
Texts are compared byte by byte to the end, wherever they first differ.
-/
namespace Parley.Password

/-- The text that is stored for a password (`hash_password`). -/
def hash (password salt : String) : String :=
  String.ofList (Hex.encode (Sha256.hash (Utf8.ofString salt ++ Utf8.ofString password)))

/-- Equality of byte strings, in a time that depends on their lengths only
(`constant_time_eq`). -/
def sameBytes (a b : List UInt8) : Bool :=
  a.length == b.length && (a.zip b).foldl (fun d (x, y) => d ||| (x ^^^ y)) 0 == 0

/-- Whether a password is the one for which a text was stored (`verify_password`). Without a
text or a salt no password is. -/
def verify (stored salt : Option String) (password : String) : Bool :=
  match stored, salt with
  | some text, some salt => sameBytes (Utf8.ofString text) (Utf8.ofString (hash password salt))
  | _, _ => false

end Parley.Password
