import Parley.Text.Base64Url

/-!
# Reading back base64

* `decode?_encode`: what is written for bytes is read back as these bytes.
* `exists_symbol_of_mem_encode`: the characters that are written are symbols, so what is known
  of symbols is known of them (`Written`, `InAlphabet`).
-/
namespace Parley.Base64Url

/-! ## Characters -/

/-- What is known of a character that is written: it is printable ASCII and no dot. -/
structure Written (c : Char) : Prop where
  graphic : 0x20 < c.toNat ∧ c.toNat < 0x7F
  ne_dot : c ≠ '.'

theorem written_symbol {n : Nat} (h : n < 64) : Written (symbol n) where
  graphic := (by decide : ∀ n, n < 64 → 0x20 < (symbol n).toNat ∧ (symbol n).toNat < 0x7F) n h
  ne_dot := (by decide : ∀ n, n < 64 → symbol n ≠ '.') n h

theorem exists_symbol_of_mem_encode {bytes : List UInt8} {c : Char} (h : c ∈ encode bytes) :
    ∃ n, n < 64 ∧ c = symbol n := by
  have hlt (a : UInt8) : a.toNat < 256 := a.toNat_lt
  fun_induction encode bytes with
  | case1 => cases h
  | case2 a =>
    have ha := hlt a
    simp only [List.mem_cons, List.not_mem_nil, or_false] at h
    rcases h with rfl | rfl <;> exact ⟨_, by omega, rfl⟩
  | case3 a b =>
    have ha := hlt a
    have hb := hlt b
    simp only [List.mem_cons, List.not_mem_nil, or_false] at h
    rcases h with rfl | rfl | rfl <;> exact ⟨_, by omega, rfl⟩
  | case4 a b c rest ih =>
    have ha := hlt a
    have hb := hlt b
    have hc := hlt c
    simp only [List.mem_cons] at h
    rcases h with rfl | rfl | rfl | rfl | h
    · exact ⟨_, by omega, rfl⟩
    · exact ⟨_, by omega, rfl⟩
    · exact ⟨_, by omega, rfl⟩
    · exact ⟨_, by omega, rfl⟩
    · exact ih h

theorem written_of_mem_encode {bytes : List UInt8} {c : Char} (h : c ∈ encode bytes) :
    Written c := by
  obtain ⟨n, hn, rfl⟩ := exists_symbol_of_mem_encode h
  exact written_symbol hn

/-- A letter or digit of ASCII, or one of the two other characters of the alphabet. -/
def InAlphabet (c : Char) : Prop :=
  c.isAlphanum = true ∨ c = '-' ∨ c = '_'

instance (c : Char) : Decidable (InAlphabet c) :=
  inferInstanceAs (Decidable (_ ∨ _))

theorem inAlphabet_symbol : ∀ n, n < 64 → InAlphabet (symbol n) := by decide

theorem inAlphabet_of_mem_encode {bytes : List UInt8} {c : Char} (h : c ∈ encode bytes) :
    InAlphabet c := by
  obtain ⟨n, hn, rfl⟩ := exists_symbol_of_mem_encode h
  exact inAlphabet_symbol n hn

theorem encode_ne_nil {bytes : List UInt8} (h : bytes ≠ []) : encode bytes ≠ [] := by
  fun_cases encode bytes with
  | case1 => exact absurd rfl h
  | case2 | case3 | case4 => exact List.cons_ne_nil _ _

/-! ## Bytes -/

theorem ofNat_eq {a : UInt8} {n : Nat} (h : n = a.toNat) : UInt8.ofNat n = a := by
  rw [h, UInt8.ofNat_toNat]

theorem decode?_encode (bytes : List UInt8) : decode? (encode bytes) = some bytes := by
  have hlt (a : UInt8) : a.toNat < 256 := a.toNat_lt
  fun_induction encode bytes with
  | case1 => rfl
  | case2 a =>
    have ha := hlt a
    have hfirst : UInt8.ofNat (a.toNat / 4 * 4 + a.toNat % 4 * 16 / 16) = a := ofNat_eq (by omega)
    simp only [decode?, value_symbol (a.toNat / 4) (by omega),
      value_symbol (a.toNat % 4 * 16) (by omega), Option.bind_eq_bind, Option.bind_some, hfirst]
    rw [if_pos (by omega)]
  | case3 a b =>
    have ha := hlt a
    have hb := hlt b
    have hfirst : UInt8.ofNat (a.toNat / 4 * 4 + (a.toNat % 4 * 16 + b.toNat / 16) / 16) = a :=
      ofNat_eq (by omega)
    have hsecond : UInt8.ofNat ((a.toNat % 4 * 16 + b.toNat / 16) % 16 * 16 +
        b.toNat % 16 * 4 / 4) = b := ofNat_eq (by omega)
    simp only [decode?, value_symbol (a.toNat / 4) (by omega),
      value_symbol (a.toNat % 4 * 16 + b.toNat / 16) (by omega),
      value_symbol (b.toNat % 16 * 4) (by omega), Option.bind_eq_bind, Option.bind_some, hfirst,
      hsecond]
    rw [if_pos (by omega)]
  | case4 a b c rest ih =>
    have ha := hlt a
    have hb := hlt b
    have hc := hlt c
    have hfirst : UInt8.ofNat (a.toNat / 4 * 4 + (a.toNat % 4 * 16 + b.toNat / 16) / 16) = a :=
      ofNat_eq (by omega)
    have hsecond : UInt8.ofNat ((a.toNat % 4 * 16 + b.toNat / 16) % 16 * 16 +
        (b.toNat % 16 * 4 + c.toNat / 64) / 4) = b := ofNat_eq (by omega)
    have hthird : UInt8.ofNat ((b.toNat % 16 * 4 + c.toNat / 64) % 4 * 64 + c.toNat % 64) = c :=
      ofNat_eq (by omega)
    simp only [decode?, value_symbol (a.toNat / 4) (by omega),
      value_symbol (a.toNat % 4 * 16 + b.toNat / 16) (by omega),
      value_symbol (b.toNat % 16 * 4 + c.toNat / 64) (by omega),
      value_symbol (c.toNat % 64) (by omega), ih, Option.bind_eq_bind, Option.bind_some, hfirst,
      hsecond, hthird]
    rfl

end Parley.Base64Url
