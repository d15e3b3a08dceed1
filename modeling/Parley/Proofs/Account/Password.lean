import Mathlib.Data.List.Forall2
import Parley.Account.Basic
import Parley.Proofs.Text.Hex
import Parley.Proofs.Text.Utf8

/-!
# Passwords of accounts

Two byte strings are compared to the end: the differences of their bytes are collected, and
what is collected is zero exactly if no bytes differ. So an account has the one password whose
text it stores.

* `sameBytes_iff`: the comparison tells byte strings apart.
* `hasPassword_iff`: an account with a text and a salt has the password that these are of.
* `passwords_told_apart`: so no other text passes than the lower-case digits of the one digest.
-/
namespace Parley

namespace Utf8

theorem ofString_injective : Function.Injective ofString := by
  intro s t h
  have hs : toString? (ofString s) = some s := by simp [ofString, toString?_encode]
  have ht : toString? (ofString t) = some t := by simp [ofString, toString?_encode]
  rw [h, ht] at hs
  exact (Option.some.inj hs).symm

end Utf8

namespace Password

/-- The differences that are collected are zero if they were before and no pair differs. -/
theorem differences_eq_zero_iff (pairs : List (UInt8 × UInt8)) (d : UInt8) :
    pairs.foldl (fun d (x, y) => d ||| (x ^^^ y)) d = 0 ↔ d = 0 ∧ ∀ p ∈ pairs, p.1 = p.2 := by
  induction pairs generalizing d with
  | nil => simp
  | cons p pairs ih =>
    rw [List.foldl_cons, ih, UInt8.or_eq_zero_iff, UInt8.xor_eq_zero_iff, List.forall_mem_cons,
      and_assoc]

/-- The comparison tells byte strings apart. -/
theorem sameBytes_iff {a b : List UInt8} : sameBytes a b = true ↔ a = b := by
  have hzip : a = b ↔ a.length = b.length ∧ ∀ {x y}, (x, y) ∈ a.zip b → x = y := by
    rw [← List.forall₂_iff_zip, List.forall₂_eq_eq_eq]
  unfold sameBytes
  rw [hzip, Bool.and_eq_true, beq_iff_eq, beq_iff_eq, differences_eq_zero_iff]
  simp

/-- A password is the one for which a text was stored with a salt if the text is that of the
password and the salt. -/
theorem verify_iff {stored salt : Option String} {password : String} :
    verify stored salt password = true ↔
      ∃ text s, stored = some text ∧ salt = some s ∧ text = hash password s := by
  unfold verify
  cases stored with
  | none => simp
  | some text =>
    cases salt with
    | none => simp
    | some s => simp [sameBytes_iff, Utf8.ofString_injective.eq_iff]

/-- The text of a password has two lower-case digits for each byte of the digest. -/
theorem eq_hash_iff {text password salt : String} :
    text = hash password salt ↔
      Hex.Written (Sha256.hash (Utf8.ofString salt ++ Utf8.ofString password)) text.toList := by
  rw [Hex.written_iff, hash, ← String.toList_inj, String.toList_ofList]

end Password

/-- An account has the one password whose text it stores, if it stores one and a salt. -/
theorem Account.hasPassword_iff {a : Account} {password : String} :
    a.hasPassword password = true ↔ ∃ text salt, a.password = some text ∧ a.salt = some salt ∧
      text = Password.hash password salt :=
  Password.verify_iff

/-- Byte strings are taken for the same only if they are. Bytes have two lower-case digits each, by
which they are told apart and from which they are read back. So an account has a password exactly
if it stores a text and a salt, and the text is the digits of the digest of salt and password. -/
theorem passwords_told_apart :
    (∀ a b : List UInt8, Password.sameBytes a b = true ↔ a = b) ∧
    Function.Injective Hex.encode ∧
    (∀ bytes, Hex.Written bytes (Hex.encode bytes) ∧
      Hex.decode? (Hex.encode bytes) = some bytes) ∧
    ∀ (a : Account) (password : String), a.hasPassword password = true ↔
      ∃ text salt digest, a.password = some text ∧ a.salt = some salt ∧
        Hex.Written digest text.toList ∧
        digest = Sha256.hash (Utf8.ofString salt ++ Utf8.ofString password) := by
  refine ⟨fun _ _ => Password.sameBytes_iff, Hex.encode_injective,
    fun bytes => ⟨Hex.written_iff.mpr rfl, Hex.decode?_encode bytes⟩, fun a password => ?_⟩
  rw [Account.hasPassword_iff]
  constructor
  · rintro ⟨text, salt, htext, hsalt, hhash⟩
    exact ⟨text, salt, _, htext, hsalt, Password.eq_hash_iff.mp hhash, rfl⟩
  · rintro ⟨text, salt, digest, htext, hsalt, hwritten, rfl⟩
    exact ⟨text, salt, htext, hsalt, Password.eq_hash_iff.mpr hwritten⟩

end Parley
