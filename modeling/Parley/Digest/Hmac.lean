import Parley.Digest.Sha256

/-!
# HMAC with SHA-256

The key is brought to the length of a block, and hashed first where it is longer.
-/
namespace Parley.Hmac

/-- The key as a block of 64 bytes. -/
def blockKey (key : List UInt8) : List UInt8 :=
  let short := if 64 < key.length then Sha256.hash key else key
  short ++ List.replicate (64 - short.length) 0

/-- The 32 bytes that vouch for a message under a key. -/
def sha256 (key message : List UInt8) : List UInt8 :=
  let k := blockKey key
  let inner := Sha256.hash (k.map (· ^^^ 0x36) ++ message)
  Sha256.hash (k.map (· ^^^ 0x5C) ++ inner)

end Parley.Hmac
