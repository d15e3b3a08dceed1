import Mathlib.Data.Nat.Digits.Defs
import Parley.Proofs.Text.Decimal

/-!
# Written numbers

A number is written as one or more ASCII digits, the last of them for the units; a sign may stand
in front of them. Leading zeros change nothing. What is read is just what is written so, with a
value in the range.

* `readNat?_eq_some_iff`: a number from zero, perhaps with a plus sign.
* `readInt?_eq_some_iff`: a number with either sign; below zero there is room for one more.
* `Signed.bounds`, `signed_ofInt`: the numbers that can be written so, and how to write them.
-/
namespace Parley.Decimal

variable {cs : List Char} {n : Nat}

/-- One or more digits, the last of them for the units, that denote the number. -/
structure Numeral (cs : List Char) (n : Nat) : Prop where
  ne_nil : cs ≠ []
  isDigit : ∀ c ∈ cs, c.isDigit = true
  value : n = Nat.ofDigits 10 (cs.reverse.map fun c => c.toNat - '0'.toNat)

/-- A number from zero to `max`, as it may be written. -/
inductive Unsigned (max : Nat) : List Char → Nat → Prop
  | plain {cs : List Char} {n : Nat} (digits : Numeral cs n) (le : n ≤ max) : Unsigned max cs n
  | plus {cs : List Char} {n : Nat} (digits : Numeral cs n) (le : n ≤ max) :
    Unsigned max ('+' :: cs) n

/-- A number from `-(max + 1)` to `max`, as it may be written. -/
inductive Signed (max : Nat) : List Char → Int → Prop
  | unsigned {cs : List Char} {n : Nat} (number : Unsigned max cs n) : Signed max cs n
  | minus {cs : List Char} {n : Nat} (digits : Numeral cs n) (le : n ≤ max + 1) :
    Signed max ('-' :: cs) (-n)

theorem isDigit_of_digit? {c : Char} {d : Nat} (h : digit? c = some d) : c.isDigit = true := by
  unfold digit? at h
  split at h
  · next hc =>
    simp only [Char.isDigit, Bool.and_eq_true, decide_eq_true_eq]
    exact hc
  · cases h

theorem isDigit_of_mapM_digit? {ds : List Nat} (h : cs.mapM digit? = some ds) :
    ∀ c ∈ cs, c.isDigit = true := by
  induction cs generalizing ds with
  | nil => simp
  | cons c cs ih =>
    simp only [List.mapM_cons, Option.bind_eq_bind, Option.bind_eq_some_iff] at h
    obtain ⟨d, hd, ds, hds, -⟩ := h
    exact List.forall_mem_cons.mpr ⟨isDigit_of_digit? hd, ih hds⟩

/-- Digits that are taken in one after the other, the units last. -/
theorem foldl_eq_ofDigits (ds : List Nat) :
    ds.foldl (fun n d => 10 * n + d) 0 = Nat.ofDigits 10 ds.reverse := by
  rw [Nat.ofDigits_eq_foldr, List.foldr_reverse]
  simp only [Nat.cast_id, Nat.add_comm]

theorem value?_of_isDigit (hne : cs ≠ []) (h : ∀ c ∈ cs, c.isDigit = true) :
    value? cs = some (Nat.ofDigits 10 (cs.reverse.map fun c => c.toNat - '0'.toNat)) := by
  rw [value?, if_neg (by simpa using hne), mapM_digit? h, Option.map_some, foldl_eq_ofDigits,
    List.map_reverse]

theorem value?_eq_some_iff : value? cs = some n ↔ Numeral cs n := by
  constructor
  · intro h
    have hne : cs ≠ [] := by rintro rfl; cases h
    have hdigits : ∀ c ∈ cs, c.isDigit = true := by
      rw [value?, if_neg (by simpa using hne), Option.map_eq_some_iff] at h
      obtain ⟨ds, hds, -⟩ := h
      exact isDigit_of_mapM_digit? hds
    rw [value?_of_isDigit hne hdigits] at h
    exact ⟨hne, hdigits, (Option.some.inj h).symm⟩
  · rintro ⟨hne, hdigits, rfl⟩
    exact value?_of_isDigit hne hdigits

theorem Numeral.not_sign {c : Char} (h : Numeral (c :: cs) n) : c ≠ '+' ∧ c ≠ '-' := by
  have hc := h.isDigit c (by simp)
  constructor <;> (rintro rfl; cases hc)

theorem Unsigned.exists_head {max : Nat} (h : Unsigned max cs n) :
    ∃ c rest, cs = c :: rest ∧ (c = '+' ∨ c.isDigit = true) := by
  cases h with
  | plus digits _ => exact ⟨_, _, rfl, .inl rfl⟩
  | plain digits _ =>
    obtain ⟨c, rest, rfl⟩ := List.exists_cons_of_ne_nil digits.ne_nil
    exact ⟨c, rest, rfl, .inr (digits.isDigit c (by simp))⟩

theorem readNat?_of_numeral {max : Nat} (h : Numeral cs n) (hle : n ≤ max) :
    readNat? max cs = some n := by
  have hvalue := value?_eq_some_iff.mpr h
  unfold readNat?
  split
  · exact absurd rfl h.not_sign.1
  · simp [hvalue, hle]

/-- A number from zero is read if it is written with digits, perhaps behind a plus sign, and is not
too large. -/
theorem readNat?_eq_some_iff {max : Nat} : readNat? max cs = some n ↔ Unsigned max cs n := by
  constructor
  · intro h
    unfold readNat? at h
    split at h <;> rw [Option.filter_eq_some_iff, value?_eq_some_iff, decide_eq_true_eq] at h
    · exact .plus h.1 h.2
    · exact .plain h.1 h.2
  · intro h
    cases h with
    | plain hdigits hle => exact readNat?_of_numeral hdigits hle
    | plus hdigits hle => simp [readNat?, value?_eq_some_iff.mpr hdigits, hle]

/-- A number with a sign is read if it is written with digits, perhaps behind that sign, and is in
the range. -/
theorem readInt?_eq_some_iff {max : Nat} {z : Int} :
    readInt? max cs = some z ↔ Signed max cs z := by
  constructor
  · intro h
    unfold readInt? at h
    split at h <;> obtain ⟨n, hn, rfl⟩ := Option.map_eq_some_iff.mp h
    · obtain ⟨k, hk, hkn⟩ := Option.bind_eq_some_iff.mp hn
      obtain rfl := Option.some.inj hkn
      rw [Option.filter_eq_some_iff, value?_eq_some_iff, decide_eq_true_eq] at hk
      exact .minus hk.1 hk.2
    · exact .unsigned (readNat?_eq_some_iff.mp hn)
  · intro h
    cases h with
    | minus hdigits hle =>
      rw [readInt?, value?_eq_some_iff.mpr hdigits, Option.filter_some_pos (by simpa using hle)]
      rfl
    | unsigned h =>
      unfold readInt?
      split
      · -- neither a plus sign nor a digit is a minus sign
        cases h with
        | plain hdigits _ => exact absurd rfl hdigits.not_sign.2
      · rw [readNat?_eq_some_iff.mpr h]
        rfl

/-! ## The range -/

theorem Signed.bounds {max : Nat} {z : Int} (h : Signed max cs z) : -(max + 1) ≤ z ∧ z ≤ max := by
  rcases h with ⟨hn | hn⟩ | hn <;> omega

theorem numeral_ofNat (n : Nat) : Numeral (ofNat n).toList n :=
  value?_eq_some_iff.mp (value?_ofNat n)

theorem signed_ofInt {max : Nat} {z : Int} (hleast : -(max + 1) ≤ z) (hgreatest : z ≤ max) :
    Signed max (ofInt z).toList z := by
  cases z with
  | ofNat n => exact .unsigned (.plain (numeral_ofNat n) (by simpa using hgreatest))
  | negSucc n =>
    rw [ofInt, String.toList_append]
    rw [Int.negSucc_eq] at hleast
    have hle : n + 1 ≤ max + 1 := by omega
    exact .minus (numeral_ofNat (n + 1)) hle

theorem mem_ofInt {z : Int} {c : Char} (h : c ∈ (ofInt z).toList) :
    c = '-' ∨ c.isDigit = true := by
  cases z with
  | ofNat n => exact Or.inr (isDigit_of_mem_ofNat h)
  | negSucc n =>
    rw [ofInt, String.toList_append, List.mem_append] at h
    rcases h with h | h
    · exact Or.inl (List.mem_singleton.1 h)
    · exact Or.inr (isDigit_of_mem_ofNat h)

end Parley.Decimal
