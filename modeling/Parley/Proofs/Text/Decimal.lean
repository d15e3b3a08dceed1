import Parley.Text.Decimal

/-!
# Reading back decimal numbers

* `value?_ofNat`: the digits of a number denote it.
* `isDigit_of_mem_ofNat`: they are ASCII digits, of which there is at least one.
-/
namespace Parley.Decimal

theorem digit?_eq_some {c : Char} (h : c.isDigit = true) :
    digit? c = some (c.toNat - '0'.toNat) := by
  simp only [Char.isDigit, Bool.and_eq_true, decide_eq_true_eq] at h
  unfold digit?
  rw [if_pos]
  exact h

theorem mapM_digit? {cs : List Char} (h : ∀ c ∈ cs, c.isDigit = true) :
    cs.mapM digit? = some (cs.map fun c => c.toNat - '0'.toNat) := by
  induction cs with
  | nil => rfl
  | cons c cs ih =>
    rw [List.mapM_cons, digit?_eq_some (h c (by simp)), ih fun d hd => h d (by simp [hd])]
    rfl

theorem toList_ofNat (n : Nat) : (ofNat n).toList = Nat.toDigits 10 n := by
  unfold ofNat; rw [String.toList_ofList]

theorem isDigit_of_mem_ofNat {n : Nat} {c : Char} (h : c ∈ (ofNat n).toList) :
    c.isDigit = true := by
  rw [toList_ofNat] at h
  exact Nat.isDigit_of_mem_toDigits (by decide) (by decide) h

theorem ofNat_ne_nil (n : Nat) : (ofNat n).toList ≠ [] := by
  rw [toList_ofNat]; exact Nat.toDigits_ne_nil

theorem value?_ofNat (n : Nat) : value? (ofNat n).toList = some n := by
  unfold value?
  rw [if_neg (by simpa using ofNat_ne_nil n),
    mapM_digit? fun c hc => isDigit_of_mem_ofNat hc, toList_ofNat]
  have := Nat.ofDigitChars_ten_toDigits (n := n)
  rw [Nat.ofDigitChars_eq_foldl] at this
  simp only [Option.map_some, List.foldl_map, this]

end Parley.Decimal
