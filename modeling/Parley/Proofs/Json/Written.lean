import Mathlib.Tactic.Common
import Parley.Json.Basic
import Parley.Json.Token
import Parley.Proofs.Text.Decimal
import Parley.Proofs.Text.Utf8

/-!
# Strings and numbers as they are written

Both are read from in front of a text, so each result says what is read and that what
follows is left.

* `scanString?_raw`: a string ends at the quote behind it, not earlier.
* `text?_raw`: it denotes the text that was written.
* `scan?_ofInt`: a whole number ends where no digit, point or power of ten follows.
-/
namespace Parley.Json

open Utf8 (encode encodeChar encode_append encode_cons)

/-! ## Strings -/

/-- The bytes of a string between the quotes. -/
def raw (s : String) : List UInt8 :=
  encode (s.toList.flatMap escape)

/-- Whether a byte stands for itself within a string. -/
def IsPlain (b : UInt8) : Prop :=
  0x20 ≤ b.toNat ∧ b.toNat ≠ 0x22 ∧ b.toNat ≠ 0x5C

theorem scanString?_cons {b : UInt8} (h : IsPlain b) (rest : List UInt8) :
    scanString? (b :: rest) = (scanString? rest).map fun r => (b :: r.1, r.2) := by
  have hquote : b ≠ 0x22 := fun e => h.2.1 (congrArg UInt8.toNat e)
  have hback : b ≠ 0x5C := fun e => h.2.2 (congrArg UInt8.toNat e)
  have hctrl : ¬ b < 0x20 := fun e => Nat.not_lt.2 h.1 (UInt8.lt_iff_toNat_lt.1 e)
  rw [scanString?.eq_def]
  split
  · next heq => cases heq
  · next heq => cases heq; exact absurd rfl hquote
  · next heq => cases heq; exact absurd rfl hback
  · next heq => cases heq; exact absurd rfl hback
  · next heq => cases heq; rw [if_neg (not_or.2 ⟨hctrl, hback⟩)]

theorem unescape?_cons {b : UInt8} (h : IsPlain b) (rest : List UInt8) :
    unescape? (b :: rest) = (unescape? rest).map (b :: ·) := by
  have hback : b ≠ 0x5C := fun e => h.2.2 (congrArg UInt8.toNat e)
  rw [unescape?.eq_def]
  split
  · next heq => cases heq
  · next heq => cases heq; exact absurd rfl hback
  · next heq => cases heq; exact absurd rfl hback
  · next heq => cases heq; rfl

/-- How a character is written within a string: as a letter behind a backslash, by its
number, or as it is. -/
inductive Escaped (c : Char) : List UInt8 → Prop where
  | letter {e b : UInt8} (ne : e ≠ 0x75) (stands_for : simpleEscape? e = some b)
      (char : encodeChar c = [b]) : Escaped c [0x5C, e]
  | number {w x y z : UInt8} (unit : unit? w x y z = some c.toNat) (control : c.toNat < 0x20) :
      Escaped c [0x5C, 0x75, w, x, y, z]
  | plain (all : ∀ b ∈ encodeChar c, IsPlain b) : Escaped c (encodeChar c)

/-- Four digits are read back as the number of a control character. -/
theorem unit?_digits : ∀ n < 0x20, ∃ w x y z,
    encode ('\\' :: 'u' :: Hex.digits 4 n) = [0x5C, 0x75, w, x, y, z] ∧
      unit? w x y z = some n := by
  have hdigits : ∀ n < 0x20, encode ('\\' :: 'u' :: Hex.digits 4 n) =
      [0x5C, 0x75, 0x30, 0x30, UInt8.ofNat (Hex.digit (n / 16)).toNat,
        UInt8.ofNat (Hex.digit (n % 16)).toNat] ∧
      unit? 0x30 0x30 (UInt8.ofNat (Hex.digit (n / 16)).toNat)
        (UInt8.ofNat (Hex.digit (n % 16)).toNat) = some n := by decide
  exact fun n hn => ⟨_, _, _, _, hdigits n hn⟩

theorem isPlain_of_mem_encodeChar {c : Char} (hctrl : ¬ c.toNat < 0x20) (hquote : c ≠ '"')
    (hback : c ≠ '\\') {b : UInt8} (hb : b ∈ encodeChar c) : IsPlain b := by
  by_cases hascii : c.toNat < 0x80
  · rw [Utf8.encodeChar_of_lt hascii, List.mem_singleton] at hb
    subst hb
    have hne : ∀ d : Char, c ≠ d → c.toNat ≠ d.toNat := fun d h e => h (Char.toNat_inj.1 e)
    rw [IsPlain, Utf8.toNat_byte (by omega)]
    exact ⟨Nat.not_lt.1 hctrl, hne _ hquote, hne _ hback⟩
  · have := Utf8.le_of_mem_encodeChar hascii hb
    refine ⟨?_, ?_, ?_⟩ <;> omega

theorem escaped (c : Char) : Escaped c (encode (escape c)) := by
  unfold escape
  split
  · next h => subst h; exact .letter (by decide) rfl rfl
  split
  · next h => subst h; exact .letter (by decide) rfl rfl
  split
  · next h => subst h; exact .letter (by decide) rfl rfl
  split
  · next h => subst h; exact .letter (by decide) rfl rfl
  split
  · next h => subst h; exact .letter (by decide) rfl rfl
  split
  · next h => subst h; exact .letter (by decide) rfl rfl
  split
  · next h => subst h; exact .letter (by decide) rfl rfl
  split
  · next h =>
    obtain ⟨w, x, y, z, hw, hunit⟩ := unit?_digits c.toNat h
    rw [hw]
    exact .number hunit h
  · next hquote hback _ _ _ _ _ hctrl =>
    rw [encode, List.flatMap_singleton]
    exact .plain fun b hb => isPlain_of_mem_encodeChar hctrl hquote hback hb

/-- The bytes of a character are taken as one piece of the string. -/
theorem scanString?_escape {c : Char} {bs : List UInt8} (h : Escaped c bs) (rest : List UInt8) :
    scanString? (bs ++ rest) = (scanString? rest).map fun r => (bs ++ r.1, r.2) := by
  cases h with
  | letter ne stands_for char =>
    rw [List.cons_append, List.cons_append, List.nil_append, scanString?, stands_for]
    · rfl
    · intro _ _ _ _ _ he
      exact absurd he ne
  | number unit control =>
    simp only [List.cons_append, List.nil_append]
    rw [scanString?, unit]
    rfl
  | plain all =>
    generalize encodeChar c = bs at all ⊢
    induction bs with
    | nil => simp
    | cons b bs ih =>
      rw [List.cons_append, scanString?_cons (all b (by simp)), ih fun d hd => all d (by simp [hd]),
        Option.map_map]
      rfl

theorem unescape?_escape {c : Char} {bs : List UInt8} (h : Escaped c bs) (rest : List UInt8) :
    unescape? (bs ++ rest) = (unescape? rest).map (encodeChar c ++ ·) := by
  cases h with
  | letter ne stands_for char =>
    rw [List.cons_append, List.cons_append, List.nil_append, unescape?, stands_for, char]
    · rfl
    · intro _ _ _ _ _ he
      exact absurd he ne
  | number unit control =>
    simp only [List.cons_append, List.nil_append]
    rw [unescape?, unit]
    simp only
    rw [if_neg (by omega), if_neg (by omega), Char.ofNat_toNat]
  | plain all =>
    generalize encodeChar c = bs at all ⊢
    induction bs with
    | nil => simp
    | cons b bs ih =>
      rw [List.cons_append, unescape?_cons (all b (by simp)), ih fun d hd => all d (by simp [hd]),
        Option.map_map]
      rfl

/-- A string ends at the quote behind it. -/
theorem scanString?_raw (cs : List Char) (rest : List UInt8) :
    scanString? (encode (cs.flatMap escape) ++ 0x22 :: rest) =
      some (encode (cs.flatMap escape), rest) := by
  induction cs with
  | nil => rfl
  | cons c cs ih =>
    rw [List.flatMap_cons, encode_append, List.append_assoc, scanString?_escape (escaped c), ih]
    rfl

theorem unescape?_raw (cs : List Char) :
    unescape? (encode (cs.flatMap escape)) = some (encode cs) := by
  induction cs with
  | nil => rfl
  | cons c cs ih =>
    rw [List.flatMap_cons, encode_append, unescape?_escape (escaped c), ih, encode_cons]
    rfl

theorem text?_raw (s : String) : text? (raw s) = some s := by
  rw [text?, raw, unescape?_raw, Option.bind_some, Utf8.toString?_encode, String.ofList_toList]

/-! ## Numbers -/

namespace Number

/-- A text that may follow a value: nothing, a comma or a closing bracket. -/
inductive Follows : List UInt8 → Prop where
  | nothing : Follows []
  | comma (bs : List UInt8) : Follows (0x2C :: bs)
  | closeArray (bs : List UInt8) : Follows (0x5D :: bs)
  | closeObject (bs : List UInt8) : Follows (0x7D :: bs)

def digitsOf (n : Nat) : List Nat :=
  (Nat.toDigits 10 n).map fun c => c.toNat - '0'.toNat

def ofInt : Int → Number
  | .ofNat n => ⟨false, digitsOf n, [], 0⟩
  | .negSucc n => ⟨true, digitsOf (n + 1), [], 0⟩

theorem digits_follows {rest : List UInt8} (h : Follows rest) : digits rest = ([], rest) := by
  cases h <;> rfl

theorem fraction?_follows {rest : List UInt8} (h : Follows rest) :
    fraction? rest = some ([], rest) := by
  cases h <;> rfl

theorem exponent?_follows {rest : List UInt8} (h : Follows rest) :
    exponent? rest = some (0, rest) := by
  cases h <;> rfl

theorem encodeChar_digit {c : Char} (h : c.isDigit = true) :
    ∃ b, encodeChar c = [b] ∧ b.toNat = c.toNat ∧ 0x30 ≤ c.toNat ∧ c.toNat ≤ 0x39 := by
  simp only [Char.isDigit, Bool.and_eq_true, decide_eq_true_eq, UInt32.le_iff_toNat_le] at h
  have hhigh : c.toNat ≤ 0x39 := h.2
  exact ⟨_, Utf8.encodeChar_of_lt (by omega), Utf8.toNat_byte (by omega), h.1, hhigh⟩

theorem digits_encode {cs : List Char} (hcs : ∀ c ∈ cs, c.isDigit = true) {rest : List UInt8}
    (h : Follows rest) :
    digits (encode cs ++ rest) = (cs.map fun c => c.toNat - '0'.toNat, rest) := by
  induction cs with
  | nil => exact digits_follows h
  | cons c cs ih =>
    obtain ⟨b, hc, hb, hlow, hhigh⟩ := encodeChar_digit (hcs c (by simp))
    have hdigit : digit? b = some (c.toNat - '0'.toNat) := by
      rw [← hb] at hlow hhigh ⊢
      exact if_pos ⟨UInt8.le_iff_toNat_le.2 hlow, UInt8.le_iff_toNat_le.2 hhigh⟩
    rw [encode_cons, hc, List.append_assoc, List.singleton_append, digits, hdigit]
    simp only [ih fun d hd => hcs d (by simp [hd]), List.map_cons]

/-- The digits of a number other than zero do not start with a zero. -/
theorem digitsOf_of_ne_zero {n : Nat} (h : n ≠ 0) : ∃ d ds, digitsOf n = (d + 1) :: ds := by
  induction n using Nat.strongRecOn with
  | ind n ih =>
    by_cases hlt : n < 10
    · have hsingle : ∀ n < 10, n ≠ 0 → digitsOf n = [n - 1 + 1] := by decide
      exact ⟨_, _, hsingle n hlt h⟩
    · obtain ⟨d, ds, hd⟩ := ih (n / 10) (by omega) (by omega)
      refine ⟨d, ds ++ [(n % 10).digitChar.toNat - '0'.toNat], ?_⟩
      rw [digitsOf, Nat.toDigits_of_base_le (by decide) (by omega), List.map_append]
      exact congrArg (· ++ _) hd

theorem unsigned?_ofNat (negative : Bool) (n : Nat) {rest : List UInt8} (h : Follows rest) :
    unsigned? negative (encode (Nat.toDigits 10 n) ++ rest) =
      some (⟨negative, digitsOf n, [], 0⟩, rest) := by
  have hread : digits (encode (Nat.toDigits 10 n) ++ rest) = (digitsOf n, rest) :=
    digits_encode (fun c hc => Nat.isDigit_of_mem_toDigits (by decide) (by decide) hc) h
  rw [unsigned?, hread]
  by_cases hn : n = 0
  · subst hn
    simp [show digitsOf 0 = [0] from rfl, fraction?_follows h, exponent?_follows h]
  · obtain ⟨d, ds, hd⟩ := digitsOf_of_ne_zero hn
    simp [hd, fraction?_follows h, exponent?_follows h]

theorem encode_toDigits (n : Nat) :
    ∃ b bs, encode (Nat.toDigits 10 n) = b :: bs ∧ 0x30 ≤ b.toNat ∧ b.toNat ≤ 0x39 := by
  obtain ⟨c, cs, hn⟩ := List.exists_cons_of_ne_nil (Nat.toDigits_ne_nil (n := n) (b := 10))
  have hdigit : c.isDigit = true :=
    Nat.isDigit_of_mem_toDigits (n := n) (by decide) (by decide) (hn ▸ List.mem_cons_self)
  obtain ⟨b, hc, hb, hlow, hhigh⟩ := encodeChar_digit hdigit
  rw [hn, encode_cons, hc]
  exact ⟨b, _, rfl, by omega, by omega⟩

/-- A whole number ends where no digit, point or power of ten follows. -/
theorem scan?_ofInt (n : Int) {rest : List UInt8} (h : Follows rest) :
    scan? (encode (Decimal.ofInt n).toList ++ rest) = some (ofInt n, rest) := by
  cases n with
  | ofNat n =>
    rw [Decimal.ofInt, Decimal.toList_ofNat, ofInt, ← unsigned?_ofNat false n h]
    obtain ⟨b, bs, hn, hlow, -⟩ := encode_toDigits n
    rw [hn, List.cons_append, scan?]
    rintro _ ⟨⟩
    exact absurd hlow (by decide)
  | negSucc n =>
    rw [Decimal.ofInt, String.toList_append, Decimal.toList_ofNat, encode_append, List.append_assoc]
    exact unsigned?_ofNat true (n + 1) h

end Number

end Parley.Json
