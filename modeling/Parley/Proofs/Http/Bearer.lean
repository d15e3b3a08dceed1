import Parley.Http.Request
import Parley.Proofs.Text.Blank
import Parley.Proofs.Text.Utf8

/-!
# Tokens in headers

A header's value is read if it is printable ASCII, and what stands behind the name of the scheme
is trimmed. So a token of visible characters arrives as it was sent, whatever spaces and tabs
stand around it.

* `readable?_ofString`, `readable?_eq_some_iff`: printable ASCII is read as it was sent, and nothing
  else is read.
* `bearer?_of_header`: so is a token.
-/
namespace Parley.Http

theorem readable?_ofString {s : String}
    (h : ∀ c ∈ s.toList, c = '\t' ∨ 0x20 ≤ c.toNat ∧ c.toNat < 0x7F) :
    readable? (Utf8.ofString s) = some s := by
  have hlt (c : Char) (hc : c ∈ s.toList) : c.toNat < 0x7F := by
    rcases h c hc with rfl | hrange
    · decide
    · exact hrange.2
  have hbyte (c : Char) (hc : c ∈ s.toList) : (UInt8.ofNat c.toNat).toNat = c.toNat :=
    Utf8.toNat_byte (by have := hlt c hc; omega)
  have hbytes : Utf8.ofString s = s.toList.map fun c => UInt8.ofNat c.toNat :=
    Utf8.encode_of_ascii fun c hc => by have := hlt c hc; omega
  have hprintable : (Utf8.ofString s).all
      (fun b => b == 0x09 || (decide (0x20 ≤ b) && decide (b ≤ 0x7E))) = true := by
    rw [hbytes, List.all_map, List.all_eq_true]
    intro c hc
    rcases h c hc with rfl | hrange
    · decide
    · have hrange : (0x20 : UInt8) ≤ UInt8.ofNat c.toNat ∧ UInt8.ofNat c.toNat ≤ 0x7E := by
        rw [UInt8.le_iff_toNat_le, UInt8.le_iff_toNat_le, hbyte c hc]
        exact ⟨hrange.1, Nat.le_of_lt_succ hrange.2⟩
      simp [hrange]
  have hback : ∀ c ∈ s.toList,
      ((fun b : UInt8 => Char.ofNat b.toNat) ∘ fun c => UInt8.ofNat c.toNat) c = id c := by
    intro c hc
    simp only [Function.comp_apply, hbyte c hc, Char.ofNat_toNat, id]
  rw [readable?, if_pos hprintable, hbytes, List.map_map, List.map_congr_left hback, List.map_id,
    String.ofList_toList]

/-- A character of ASCII that is printed, or a tab. -/
def IsPrintable (c : Char) : Prop :=
  c = '\t' ∨ 0x20 ≤ c.toNat ∧ c.toNat < 0x7F

theorem IsPrintable.lt {c : Char} (h : IsPrintable c) : c.toNat < 0x80 := by
  rcases h with rfl | ⟨-, hlt⟩
  · decide
  · omega

theorem isPrintable_ofNat {b : UInt8}
    (h : (b == 0x09 || (decide (0x20 ≤ b) && decide (b ≤ 0x7E))) = true) :
    IsPrintable (Char.ofNat b.toNat) ∧ (Char.ofNat b.toNat).toNat = b.toNat := by
  simp only [Bool.or_eq_true, beq_iff_eq, Bool.and_eq_true, decide_eq_true_eq,
    UInt8.le_iff_toNat_le, UInt8.reduceToNat] at h
  rcases h with rfl | ⟨hlow, hhigh⟩
  · exact ⟨.inl rfl, rfl⟩
  · have hback : (Char.ofNat b.toNat).toNat = b.toNat := Utf8.toNat_ofNat (by omega)
    refine ⟨.inr ?_, hback⟩
    rw [hback]
    omega

theorem readable?_eq_some_iff {value : List UInt8} {s : String} :
    readable? value = some s ↔ value = Utf8.ofString s ∧ ∀ c ∈ s.toList, IsPrintable c := by
  constructor
  · intro h
    obtain ⟨hall, hs⟩ := Option.ite_none_right_eq_some.mp h
    obtain rfl := Option.some.inj hs
    have hbyte := fun b hb => isPrintable_ofNat (List.all_eq_true.mp hall b hb)
    rw [Utf8.ofString, String.toList_ofList, List.forall_mem_map]
    refine ⟨?_, fun b hb => (hbyte b hb).1⟩
    rw [Utf8.encode_of_ascii, List.map_map]
    · conv_lhs => rw [← List.map_id value]
      refine List.map_congr_left fun b hb => ?_
      rw [Function.comp_apply, (hbyte b hb).2, UInt8.ofNat_toNat, id]
    · rw [List.forall_mem_map]
      exact fun b hb => (hbyte b hb).1.lt
  · rintro ⟨rfl, h⟩
    exact readable?_ofString h

/-- A character of ASCII that can be seen. -/
def IsVisible (c : Char) : Prop :=
  0x20 < c.toNat ∧ c.toNat < 0x7F

theorem IsVisible.not_blank {c : Char} (h : IsVisible c) : Text.isBlank c = false := by
  obtain ⟨hlow, hhigh⟩ := h
  simp only [Text.isBlank, Bool.or_eq_false_iff, Bool.and_eq_false_iff, beq_eq_false_iff_ne,
    decide_eq_false_iff_not]
  omega

def IsPadding (c : Char) : Prop :=
  c = ' ' ∨ c = '\t'

theorem IsPadding.blank {c : Char} (h : IsPadding c) : Text.isBlank c = true := by
  rcases h with rfl | rfl <;> decide

namespace Request

/-- A token of visible characters arrives as it was sent, whatever spaces and tabs stand around
it. -/
theorem bearer?_of_header {r : Request} {before token after : String} (hne : token ≠ "")
    (htoken : ∀ c ∈ token.toList, IsVisible c) (hbefore : ∀ c ∈ before.toList, IsPadding c)
    (hafter : ∀ c ∈ after.toList, IsPadding c)
    (h : r.header? "authorization" =
      some (Utf8.ofString ("Bearer " ++ before ++ token ++ after))) : r.bearer? = some token := by
  have hvalue : ("Bearer " ++ before ++ token ++ after).toList =
      bearerScheme ++ (before.toList ++ token.toList ++ after.toList) := by
    rw [String.toList_append, String.toList_append, String.toList_append, List.append_assoc,
      List.append_assoc, List.append_assoc]
    rfl
  have htext : r.text? "authorization" = some ("Bearer " ++ before ++ token ++ after) := by
    have hpadding {c : Char} (hc : IsPadding c) : c = '\t' ∨ 0x20 ≤ c.toNat ∧ c.toNat < 0x7F := by
      rcases hc with rfl | rfl <;> decide
    rw [text?, h, Option.bind_some, readable?_ofString]
    intro c hc
    rw [hvalue, List.mem_append, List.mem_append, List.mem_append] at hc
    rcases hc with hc | (hc | hc) | hc
    · have hscheme :
          (bearerScheme.all fun c => decide (0x20 ≤ c.toNat ∧ c.toNat < 0x7F)) = true := by
        decide
      exact .inr (of_decide_eq_true (List.all_eq_true.mp hscheme c hc))
    · exact hpadding (hbefore c hc)
    · exact .inr ⟨Nat.le_of_lt (htoken c hc).1, (htoken c hc).2⟩
    · exact hpadding (hafter c hc)
  have htrim : Text.trimChars (before.toList ++ token.toList ++ after.toList) = token.toList :=
    Text.trimChars_padded (fun c hc => (hbefore c hc).blank) (fun c hc => (htoken c hc).not_blank)
      fun c hc => (hafter c hc).blank
  have hempty : token.toList.isEmpty = false := by
    simpa [List.isEmpty_eq_false_iff] using hne
  rw [bearer?, htext]
  simp only [hvalue]
  rw [if_pos (List.isPrefixOf_iff_prefix.mpr (List.prefix_append _ _)), List.drop_left, htrim,
    if_neg (by simp [hempty]), String.ofList_toList]

end Request

end Parley.Http
