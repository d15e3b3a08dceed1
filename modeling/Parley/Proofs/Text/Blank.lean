import Mathlib.Data.List.DropRight
import Parley.Text.Blank

/-!
# Trimmed text and split text

* `trim_trim`: trimmed text is left as it is.
* `intercalate_splitWhere`: the pieces between marks make up the list with marks between them.
* `splitFirst?_eq_some_iff`, `splitFirst?_mark_eq_some_iff`: a list is split where nothing in
  front of the split is a mark, and nowhere else.
* `splitLast?_append`, `eq_of_splitLast?`: the same from the other end.
-/
namespace Parley.Text

/-- What begins with no blank still does so without the blanks at its end. -/
theorem dropWhile_trimEnd {cs : List Char} (h : cs.dropWhile isBlank = cs) :
    (trimEnd cs).dropWhile isBlank = trimEnd cs := by
  obtain ⟨more, hmore⟩ : trimEnd cs <+: cs := List.rdropWhile_prefix isBlank cs
  cases hfront : trimEnd cs with
  | nil => rfl
  | cons c front =>
    rw [hfront] at hmore
    have hc : isBlank c = false := by
      rw [← hmore, List.dropWhile_eq_self_iff] at h
      simpa using h (by simp)
    exact List.dropWhile_cons_of_neg (by simp [hc])

theorem trimChars_trimChars (cs : List Char) : trimChars (trimChars cs) = trimChars cs := by
  unfold trimChars
  rw [dropWhile_trimEnd (List.dropWhile_idempotent _ _)]
  exact List.rdropWhile_idempotent _ _

theorem trim_trim (s : String) : trim (trim s) = trim s := by
  unfold trim
  rw [String.toList_ofList, trimChars_trimChars]

theorem dropWhile_of_not_blank {cs : List Char} (h : ∀ c ∈ cs, isBlank c = false) :
    cs.dropWhile isBlank = cs := by
  cases cs with
  | nil => rfl
  | cons c cs => exact List.dropWhile_cons_of_neg (by simp [h c])

theorem trimEnd_of_not_blank {cs : List Char} (h : ∀ c ∈ cs, isBlank c = false) :
    trimEnd cs = cs := by
  rw [trimEnd, dropWhile_of_not_blank (by simpa using h), List.reverse_reverse]

theorem trimChars_of_not_blank {cs : List Char} (h : ∀ c ∈ cs, isBlank c = false) :
    trimChars cs = cs := by
  rw [trimChars, dropWhile_of_not_blank h, trimEnd_of_not_blank h]

/-- Blanks around a text without any are trimmed off. -/
theorem trimChars_padded {before cs after : List Char} (hbefore : ∀ c ∈ before, isBlank c = true)
    (h : ∀ c ∈ cs, isBlank c = false) (hafter : ∀ c ∈ after, isBlank c = true) :
    trimChars (before ++ cs ++ after) = cs := by
  have hend : trimEnd (cs ++ after) = cs := by
    rw [trimEnd, List.reverse_append, List.dropWhile_append_of_pos (by simpa using hafter)]
    exact trimEnd_of_not_blank h
  rw [trimChars, List.append_assoc, List.dropWhile_append_of_pos hbefore]
  cases cs with
  | nil =>
    have hnone : ([] ++ after).dropWhile isBlank = [] := List.dropWhile_eq_nil_iff.mpr hafter
    rw [hnone]
    rfl
  | cons c cs =>
    rwa [List.cons_append, List.dropWhile_cons_of_neg (by simp [h c])]

/-! ## Splitting -/

variable {α : Type} {p : α → Bool}

theorem splitWhere_of_none {cs : List α} (h : ∀ c ∈ cs, p c = false) :
    splitWhere p cs = [cs] := by
  induction cs with
  | nil => rfl
  | cons c cs ih =>
    rw [splitWhere, if_neg (by simp [h c]), ih fun d hd => h d (by simp [hd])]

theorem splitWhere_append {cs : List α} {c : α} (ds : List α) (h : ∀ c ∈ cs, p c = false)
    (hc : p c = true) : splitWhere p (cs ++ c :: ds) = cs :: splitWhere p ds := by
  induction cs with
  | nil => rw [List.nil_append, splitWhere, if_pos hc]
  | cons d cs ih =>
    rw [List.cons_append, splitWhere, if_neg (by simp [h d]), ih fun e he => h e (by simp [he])]

theorem not_mem_of_mem_splitWhere {cs piece : List α} (h : piece ∈ splitWhere p cs) :
    ∀ c ∈ piece, p c = false := by
  induction cs generalizing piece with
  | nil => simp_all [splitWhere]
  | cons c cs ih =>
    rw [splitWhere] at h
    cases hc : p c with
    | true =>
      rw [if_pos hc, List.mem_cons] at h
      rcases h with rfl | h
      · simp
      · exact ih h
    | false =>
      rw [if_neg (by simp [hc])] at h
      cases hsplit : splitWhere p cs with
      | nil => exact absurd hsplit (splitWhere_ne_nil p cs)
      | cons first rest =>
        rw [hsplit] at h ih
        rcases List.mem_cons.mp h with rfl | h
        · exact List.forall_mem_cons.mpr ⟨hc, ih (by simp)⟩
        · exact ih (by simp [h])

theorem intercalate_splitWhere [BEq α] [LawfulBEq α] (mark : α) (cs : List α) :
    [mark].intercalate (splitWhere (· == mark) cs) = cs := by
  induction cs with
  | nil => simp [splitWhere]
  | cons c cs ih =>
    cases hsplit : splitWhere (· == mark) cs with
    | nil => exact absurd hsplit (splitWhere_ne_nil _ cs)
    | cons first rest =>
      rw [hsplit] at ih
      rw [splitWhere, hsplit]
      by_cases hc : c = mark
      · rw [if_pos (by simp [hc]), List.intercalate_cons_cons, ih, hc]
        rfl
      · rw [if_neg (by simp [hc])]
        cases rest with
        | nil => simpa using ih
        | cons second rest =>
          rw [List.intercalate_cons_cons] at ih ⊢
          rw [← ih]
          rfl

/-! ## Splitting in two -/

theorem splitFirst?_eq_none_iff {cs : List α} :
    splitFirst? p cs = none ↔ ∀ c ∈ cs, p c = false := by
  induction cs with
  | nil => simp [splitFirst?]
  | cons c cs ih => cases hc : p c <;> simp [splitFirst?, hc, ih]

theorem splitFirst?_eq_some_iff {cs before after : List α} :
    splitFirst? p cs = some (before, after) ↔
      ∃ c, cs = before ++ c :: after ∧ p c = true ∧ ∀ d ∈ before, p d = false := by
  induction cs generalizing before with
  | nil => simp [splitFirst?]
  | cons c cs ih =>
    rw [splitFirst?]
    cases hc : p c with
    | true =>
      rw [if_pos rfl, Option.some.injEq, Prod.mk.injEq]
      constructor
      · rintro ⟨rfl, rfl⟩
        exact ⟨c, rfl, hc, by simp⟩
      · rintro ⟨d, hcs, hd, hbefore⟩
        cases before with
        | nil => exact ⟨rfl, (List.cons.inj hcs).2⟩
        | cons b before =>
          obtain ⟨rfl, -⟩ := List.cons.inj hcs
          simp [hbefore c] at hc
    | false =>
      rw [if_neg Bool.false_ne_true, Option.map_eq_some_iff]
      constructor
      · rintro ⟨⟨front, back⟩, hsplit, heq⟩
        obtain ⟨rfl, rfl⟩ := Prod.mk.inj heq
        obtain ⟨d, rfl, hd, hfront⟩ := ih.mp hsplit
        exact ⟨d, rfl, hd, List.forall_mem_cons.mpr ⟨hc, hfront⟩⟩
      · rintro ⟨d, hcs, hd, hbefore⟩
        cases before with
        | nil =>
          obtain ⟨rfl, -⟩ := List.cons.inj hcs
          rw [hc] at hd
          cases hd
        | cons b before =>
          obtain ⟨rfl, rfl⟩ := List.cons.inj hcs
          exact ⟨(before, after), ih.mpr ⟨d, rfl, hd, (List.forall_mem_cons.mp hbefore).2⟩, rfl⟩

theorem splitFirst?_mark_eq_none_iff [BEq α] [LawfulBEq α] {mark : α} {cs : List α} :
    splitFirst? (· == mark) cs = none ↔ mark ∉ cs := by
  rw [splitFirst?_eq_none_iff]
  simp only [beq_eq_false_iff_ne]
  exact ⟨fun h hmem => h mark hmem rfl, fun h c hc heq => h (heq ▸ hc)⟩

theorem splitFirst?_mark_eq_some_iff [BEq α] [LawfulBEq α] {mark : α} {cs before after : List α} :
    splitFirst? (· == mark) cs = some (before, after) ↔
      cs = before ++ mark :: after ∧ mark ∉ before := by
  rw [splitFirst?_eq_some_iff]
  simp only [beq_iff_eq, beq_eq_false_iff_ne]
  constructor
  · rintro ⟨_, rfl, rfl, hbefore⟩
    exact ⟨rfl, fun hmem => hbefore _ hmem rfl⟩
  · rintro ⟨rfl, hbefore⟩
    exact ⟨_, rfl, rfl, fun d hd heq => hbefore (heq ▸ hd)⟩

theorem splitLast?_eq_none {cs : List α} (h : ∀ c ∈ cs, p c = false) :
    splitLast? p cs = none := by
  induction cs with
  | nil => rfl
  | cons c cs ih =>
    rw [splitLast?, ih fun d hd => h d (by simp [hd]), h c (by simp)]
    rfl

/-- A list is split at a mark with none behind it. -/
theorem splitLast?_append (before : List α) {c : α} {after : List α} (hc : p c = true)
    (hafter : ∀ d ∈ after, p d = false) :
    splitLast? p (before ++ c :: after) = some (before, after) := by
  induction before with
  | nil =>
    rw [List.nil_append, splitLast?, splitLast?_eq_none hafter, hc]
    rfl
  | cons b before ih => rw [List.cons_append, splitLast?, ih]

theorem forall_of_splitLast?_eq_none {cs : List α} (h : splitLast? p cs = none) :
    ∀ c ∈ cs, p c = false := by
  induction cs with
  | nil => simp
  | cons c cs ih =>
    cases hlast : splitLast? p cs with
    | none => simp_all [splitLast?]
    | some r => simp [splitLast?, hlast] at h

/-- Where a list is split, there is a mark and none behind it. -/
theorem eq_of_splitLast? {cs before after : List α} (h : splitLast? p cs = some (before, after)) :
    ∃ c, cs = before ++ c :: after ∧ p c = true ∧ ∀ d ∈ after, p d = false := by
  induction cs generalizing before with
  | nil => cases h
  | cons c cs ih =>
    rw [splitLast?] at h
    cases hlast : splitLast? p cs with
    | none =>
      simp only [hlast, Option.ite_none_right_eq_some, Option.some.injEq, Prod.mk.injEq] at h
      obtain ⟨hc, rfl, rfl⟩ := h
      exact ⟨c, rfl, hc, forall_of_splitLast?_eq_none hlast⟩
    | some r =>
      simp only [hlast, Option.some.injEq, Prod.mk.injEq] at h
      obtain ⟨rfl, rfl⟩ := h
      obtain ⟨d, hcs, hd⟩ := ih hlast
      exact ⟨d, by rw [hcs, List.cons_append], hd⟩

end Parley.Text
