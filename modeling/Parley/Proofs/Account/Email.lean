import Parley.Account.Email
import Parley.Proofs.Text.LetterCase

/-!
# Normal forms of addresses

The normal form of an address is the text between its blanks with its letters in lower case. There
is one for just those texts that have one `@` and something on either side of it. It is its own
normal form, so of all spellings with the same normal form it is the canonical one.

* `normalize?_eq_some_iff`: which text has a normal form, and what it is.
* `normalize?_eq_iff`: which texts have the same normal form.
* `Canonical`, `canonical_of_normalize?`: what a normal form looks like.
-/
namespace Parley.Email

open Text (Alike Trimmed trimChars)

/-- There is one `@`, with something on either side of it. -/
structure IsAddress (cs : List Char) : Prop where
  one : cs.count '@' = 1
  around : ∃ mailbox domain, cs = mailbox ++ '@' :: domain ∧ mailbox ≠ [] ∧ domain ≠ []

/-- Two texts that are the same between their blanks, up to the case of letters. -/
def SameAddress (raw raw' : String) : Prop :=
  List.Forall₂ Alike (trimChars raw.toList) (trimChars raw'.toList)

/-- No blank at either end and no capital letter. -/
structure Canonical (email : String) : Prop where
  trimmed : Trimmed email.toList
  lower : ∀ c ∈ email.toList, c.isUpper = false

/-! ## Finding the mark -/

/-- What stands around the first `@` decides whether it is the only one. -/
theorem isAddress_iff {mailbox domain : List Char} (h : '@' ∉ mailbox) :
    IsAddress (mailbox ++ '@' :: domain) ↔ mailbox ≠ [] ∧ domain ≠ [] ∧ '@' ∉ domain := by
  have hcount : (mailbox ++ '@' :: domain).count '@' = domain.count '@' + 1 := by
    rw [List.count_append, List.count_cons_self, List.count_eq_zero.mpr h, Nat.zero_add]
  constructor
  · rintro ⟨hone, front, back, heq, hfront, hback⟩
    have hnone : '@' ∉ domain := List.count_eq_zero.mp (by omega)
    obtain ⟨rfl, -, rfl⟩ := (List.append_cons_inj_of_notMem h hnone).mp heq
    exact ⟨hfront, hback, hnone⟩
  · rintro ⟨hmailbox, hdomain, hnone⟩
    exact ⟨by rw [hcount, List.count_eq_zero.mpr hnone], mailbox, domain, rfl, hmailbox, hdomain⟩

theorem not_isAddress {cs : List Char} (h : '@' ∉ cs) : ¬ IsAddress cs := by
  rintro ⟨hone, -⟩
  rw [List.count_eq_zero.mpr h] at hone
  cases hone

theorem mark_mem_map_toLower {cs : List Char} : '@' ∈ cs.map Char.toLower ↔ '@' ∈ cs := by
  rw [List.mem_map]
  have hmark (c : Char) : c.toLower = '@' ↔ c = '@' := Text.toLower_eq_iff_of_lt (by decide)
  simp only [hmark, exists_eq_right]

theorem isAddress_map_toLower {cs : List Char} :
    IsAddress (cs.map Char.toLower) ↔ IsAddress cs := by
  by_cases h : '@' ∈ cs
  · obtain ⟨mailbox, domain, rfl, hmailbox⟩ := List.eq_append_cons_of_mem h
    have hmap : (mailbox ++ '@' :: domain).map Char.toLower =
        mailbox.map Char.toLower ++ '@' :: domain.map Char.toLower := List.map_append
    rw [hmap, isAddress_iff hmailbox, isAddress_iff (mark_mem_map_toLower.not.mpr hmailbox),
      mark_mem_map_toLower, ne_eq, List.map_eq_nil_iff, ne_eq, List.map_eq_nil_iff]
  · exact iff_of_false (not_isAddress (mark_mem_map_toLower.not.mpr h)) (not_isAddress h)

/-! ## Normal forms -/

/-- There is a normal form for an address between blanks, which is the address in lower case. -/
theorem normalize?_eq_some_iff {raw email : String} : normalize? raw = some email ↔
    IsAddress (trimChars raw.toList) ∧
      email = String.ofList ((trimChars raw.toList).map Char.toLower) := by
  rw [← isAddress_map_toLower]
  unfold normalize?
  generalize (trimChars raw.toList).map Char.toLower = cs
  cases hsplit : Text.splitFirst? (· == '@') cs with
  | none =>
    have hnone : '@' ∉ cs := fun h => by
      simpa using Text.splitFirst?_eq_none_iff.mp hsplit '@' h
    simp [not_isAddress hnone, hsplit]
  | some parts =>
    obtain ⟨mailbox, domain⟩ := parts
    obtain ⟨c, rfl, hc, hmailbox⟩ := Text.splitFirst?_eq_some_iff.mp hsplit
    obtain rfl : c = '@' := by simpa using hc
    have hnone : '@' ∉ mailbox := fun h => by simpa using hmailbox '@' h
    rw [isAddress_iff hnone]
    simp only [hsplit, List.isEmpty_iff, List.contains_iff_mem]
    by_cases hbad : mailbox = [] ∨ domain = [] ∨ '@' ∈ domain
    · rw [if_pos hbad]
      simp only [reduceCtorEq, false_iff]
      tauto
    · rw [if_neg hbad, Option.some.injEq]
      simp only [not_or] at hbad
      exact ⟨fun h => ⟨hbad, h.symm⟩, fun h => h.2.symm⟩

theorem exists_normalize?_iff {raw : String} :
    (∃ email, normalize? raw = some email) ↔ IsAddress (trimChars raw.toList) := by
  simp only [normalize?_eq_some_iff, exists_eq_right]

theorem toList_normalize? {raw email : String} (h : normalize? raw = some email) :
    email.toList = (trimChars raw.toList).map Char.toLower := by
  rw [(normalize?_eq_some_iff.mp h).2, String.toList_ofList]

theorem canonical_of_normalize? {raw email : String} (h : normalize? raw = some email) :
    Canonical email where
  trimmed := by
    rw [toList_normalize? h]
    exact Text.trimmed_map_toLower (Text.trimmed_trimChars _)
  lower c hc := by
    rw [toList_normalize? h] at hc
    obtain ⟨d, -, rfl⟩ := List.mem_map.mp hc
    exact Text.not_isUpper_toLower d

theorem normalize?_normalize? {raw email : String} (h : normalize? raw = some email) :
    normalize? email = some email := by
  have htrim := Text.trimChars_of_trimmed (canonical_of_normalize? h).trimmed
  have hlower : email.toList.map Char.toLower = email.toList := by
    rw [toList_normalize? h, List.map_map]
    exact List.map_congr_left fun c _ => Text.toLower_toLower c
  rw [normalize?_eq_some_iff, htrim, hlower, String.ofList_toList, toList_normalize? h,
    isAddress_map_toLower]
  exact ⟨(normalize?_eq_some_iff.mp h).1, rfl⟩

/-- Texts that are the same between their blanks, up to the case of letters, have the same normal
form, or none. -/
theorem normalize?_congr {raw raw' : String} (h : SameAddress raw raw') :
    normalize? raw = normalize? raw' := by
  have hlower := Text.map_toLower_eq_iff.mpr h
  refine Option.ext fun email => ?_
  rw [normalize?_eq_some_iff, normalize?_eq_some_iff, ← isAddress_map_toLower, hlower,
    isAddress_map_toLower]

theorem normalize?_eq_iff {raw raw' email email' : String} (h : normalize? raw = some email)
    (h' : normalize? raw' = some email') : email = email' ↔ SameAddress raw raw' := by
  rw [SameAddress, ← Text.map_toLower_eq_iff, ← toList_normalize? h, ← toList_normalize? h',
    String.toList_inj]

end Parley.Email
