import Mathlib.Data.List.Forall2
import Parley.Proofs.Text.Words

/-!
# Letter case

Only the letters `A` to `Z` have another case. Two texts in lower case are equal if each character
of the one is that of the other or the same letter in the other case.

* `toNat_toLower`, `isUpper_iff`: letter case by the numbers of the characters.
* `map_toLower_eq_iff`: texts that are equal up to letter case.
* `trimmed_map_toLower`: blanks have no case, so texts may be trimmed before or after.
-/
namespace Parley.Text

theorem isUpper_iff {c : Char} : c.isUpper = true ↔ 65 ≤ c.toNat ∧ c.toNat ≤ 90 := by
  change decide (c.val ≥ 'A'.val ∧ c.val ≤ 'Z'.val) = true ↔ _
  rw [decide_eq_true_iff, ge_iff_le, UInt32.le_iff_toNat_le, UInt32.le_iff_toNat_le]
  rfl

theorem toNat_toLower (c : Char) :
    c.toLower.toNat = if c.isUpper then c.toNat + 32 else c.toNat := by
  unfold Char.toLower
  by_cases h : c.val ≥ 'A'.val ∧ c.val ≤ 'Z'.val
  · have hupper : c.isUpper = true := decide_eq_true h
    have hle : c.val.toNat ≤ 90 := UInt32.le_iff_toNat_le.mp h.2
    rw [dif_pos h, if_pos hupper]
    show (c.val + 32).toNat = c.val.toNat + 32
    rw [UInt32.toNat_add, show (32 : UInt32).toNat = 32 from rfl]
    omega
  · have hupper : c.isUpper = false := decide_eq_false h
    rw [dif_neg h, hupper, if_neg Bool.false_ne_true]

theorem not_isUpper_toLower (c : Char) : c.toLower.isUpper = false := by
  rw [Bool.eq_false_iff, ne_eq, isUpper_iff, toNat_toLower]
  split
  · next h =>
    rw [isUpper_iff] at h
    omega
  · rwa [← isUpper_iff]

theorem toLower_of_not_isUpper {c : Char} (h : c.isUpper = false) : c.toLower = c := by
  rw [← Char.toNat_inj, toNat_toLower, h, if_neg Bool.false_ne_true]

theorem toLower_toLower (c : Char) : c.toLower.toLower = c.toLower :=
  toLower_of_not_isUpper (not_isUpper_toLower c)

/-- A character that is no letter is not another one in lower case either. -/
theorem toLower_eq_iff_of_lt {c d : Char} (hd : d.toNat < 65) : c.toLower = d ↔ c = d := by
  rw [← Char.toNat_inj, ← Char.toNat_inj, toNat_toLower]
  split
  · next h =>
    rw [isUpper_iff] at h
    omega
  · rfl

/-! ## Equality up to letter case -/

/-- The same character, or the same letter in the other case. -/
inductive Alike : Char → Char → Prop
  | same (c : Char) : Alike c c
  | left {c d : Char} (upper : c.isUpper = true) (shift : d.toNat = c.toNat + 32) : Alike c d
  | right {c d : Char} (upper : d.isUpper = true) (shift : c.toNat = d.toNat + 32) : Alike c d

theorem toLower_eq_iff {c d : Char} : c.toLower = d.toLower ↔ Alike c d := by
  constructor
  · intro h
    rw [← Char.toNat_inj, toNat_toLower, toNat_toLower] at h
    split at h <;> split at h
    · rw [Char.toNat_inj.mp (Nat.add_right_cancel h)]
      exact .same d
    · next hc _ => exact .left hc h.symm
    · next hd => exact .right hd h
    · rw [Char.toNat_inj.mp h]
      exact .same d
  · intro h
    rw [← Char.toNat_inj, toNat_toLower, toNat_toLower]
    cases h with
    | same => rfl
    | left hc hshift | right hc hshift =>
      rw [if_pos hc, if_neg, hshift]
      rw [isUpper_iff] at hc ⊢
      omega

theorem map_toLower_eq_iff {cs ds : List Char} :
    cs.map Char.toLower = ds.map Char.toLower ↔ List.Forall₂ Alike cs ds := by
  rw [← List.forall₂_eq_eq_eq, List.forall₂_map_left_iff, List.forall₂_map_right_iff]
  simp only [toLower_eq_iff]

/-! ## Blanks -/

theorem isBlank_toLower (c : Char) : isBlank c.toLower = isBlank c := by
  unfold isBlank
  rw [toNat_toLower]
  split
  · next h =>
    rw [isUpper_iff] at h
    rw [Bool.eq_iff_iff]
    simp only [Bool.or_eq_true, Bool.and_eq_true, decide_eq_true_eq, beq_iff_eq]
    omega
  · rfl

/-- Blanks have no case. -/
theorem trimmed_map_toLower {cs : List Char} (h : Trimmed cs) : Trimmed (cs.map Char.toLower) where
  head c hc := by
    rw [List.head?_map, Option.mem_def, Option.map_eq_some_iff] at hc
    obtain ⟨d, hd, rfl⟩ := hc
    rw [isBlank_toLower]
    exact h.head d hd
  last c hc := by
    rw [List.getLast?_map, Option.mem_def, Option.map_eq_some_iff] at hc
    obtain ⟨d, hd, rfl⟩ := hc
    rw [isBlank_toLower]
    exact h.last d hd

end Parley.Text
