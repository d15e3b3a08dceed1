import Parley.Proofs.Uuid

/-!
# Spellings of a UUID

A UUID is read from its 32 digits in either case: alone, in groups, in groups between braces, and
in groups behind a name; and from nothing else. Its usual form is one of these spellings.

* `Uuid.parse?_eq_some_iff`: the spellings of a UUID.
* `Uuid.usual_text`: what the usual form looks like.
-/
namespace Parley

namespace Uuid

/-! ## Spellings -/

/-- The spellings of a UUID: its digits, in either case, alone, in groups, in groups between braces,
and in groups behind a name. -/
inductive Spelled (u : Uuid) : List Char → Prop
  | plain {cs : List Char} (digits : cs.map Char.toLower = u.digits) : Spelled u cs
  | hyphened {cs : List Char} (digits : cs.map Char.toLower = u.digits) :
    Spelled u (grouped cs groupLengths)
  | braced {cs : List Char} (digits : cs.map Char.toLower = u.digits) :
    Spelled u ('\x7b' :: grouped cs groupLengths ++ ['\x7d'])
  | named {name cs : List Char} (urn : name.map Char.toLower = resourceName)
    (digits : cs.map Char.toLower = u.digits) : Spelled u (name ++ grouped cs groupLengths)

variable {u : Uuid} {cs : List Char}

theorem length_of_digits (h : cs.map Char.toLower = u.digits) : cs.length = 32 := by
  rw [← u.length_digits, ← h, List.length_map]

theorem ofDigits?_eq_some_iff : ofDigits? cs = some u ↔ cs.map Char.toLower = u.digits := by
  unfold ofDigits?
  constructor
  · intro h
    split at h
    · next hlength =>
      split at h
      · next n hn =>
        split at h
        · obtain rfl := Option.some.inj h
          rw [Hex.number?_eq_some_iff, hlength] at hn
          exact hn.2
        · cases h
      · cases h
    · cases h
  · intro h
    have hlength := length_of_digits h
    have hn : Hex.number? cs = some u.value := by
      rw [Hex.number?_eq_some_iff, hlength, h]
      exact ⟨u.value_lt, rfl⟩
    rw [if_pos hlength, hn]
    exact dif_pos u.value_lt

/-- Pieces of the right lengths are the groups of what they make up. -/
theorem grouped_flatten : ∀ {groups : List (List Char)}, groups ≠ [] →
    grouped groups.flatten (groups.map List.length) = ['-'].intercalate groups
  | [], h => absurd rfl h
  | [group], _ => by simp [grouped]
  | first :: second :: rest, _ => by
    have hrest := grouped_flatten (List.cons_ne_nil second rest)
    rw [List.map_cons, List.map_cons, grouped_cons_cons, List.flatten_cons, List.take_left,
      List.drop_left, ← List.map_cons, hrest, List.intercalate_cons_cons, List.append_assoc]
    rfl

theorem ofGrouped?_eq_some_iff : ofGrouped? cs = some u ↔
    ∃ ds, ds.map Char.toLower = u.digits ∧ cs = grouped ds groupLengths := by
  simp only [ofGrouped?]
  constructor
  · intro h
    split at h
    · next hlengths =>
      refine ⟨_, ofDigits?_eq_some_iff.mp h, ?_⟩
      rw [← hlengths, grouped_flatten (Text.splitWhere_ne_nil _ _), Text.intercalate_splitWhere]
    · cases h
  · rintro ⟨ds, hdigits, rfl⟩
    have hhyphen : ∀ c ∈ ds, c ≠ '-' := by
      rintro c hc rfl
      have hmem : '-' ∈ u.digits := hdigits ▸ List.mem_map_of_mem (f := Char.toLower) hc
      exact Hex.ne_hyphen_of_mem_digits hmem rfl
    have hsum : groupLengths.sum = ds.length := by rw [length_of_digits hdigits]; rfl
    obtain ⟨hlengths, hflat⟩ := splitWhere_grouped hhyphen (by decide) hsum
    simp only [hlengths, hflat, if_true]
    exact ofDigits?_eq_some_iff.mpr hdigits

theorem length_of_hyphened (h : cs.map Char.toLower = u.digits) :
    (grouped cs groupLengths).length = 36 := by
  have hsum : groupLengths.sum = cs.length := by rw [length_of_digits h]; rfl
  have hlength := length_grouped groupLengths cs (by decide) hsum
  rw [length_of_digits h] at hlength
  simpa [groupLengths] using hlength

/-- A text that begins and ends with a brace is what stands between the two. -/
theorem eq_between_braces (hlength : 2 ≤ cs.length)
    (h : cs.head? = some '\x7b' ∧ cs.getLast? = some '\x7d') :
    cs = '\x7b' :: (cs.drop 1).dropLast ++ ['\x7d'] := by
  obtain ⟨rest, rfl⟩ := List.head?_eq_some_iff.mp h.1
  have hne : rest ≠ [] := List.length_pos_iff.mp (Nat.le_of_succ_le_succ hlength)
  have hlast : rest.getLast? = some '\x7d' := List.getLast?_cons_of_ne_nil hne ▸ h.2
  rw [List.getLast?_eq_some_getLast hne] at hlast
  rw [List.drop_one, List.tail_cons, List.cons_append, ← Option.some.inj hlast,
    List.dropLast_append_getLast]

/-- A UUID is read from its spellings, and from nothing else. -/
theorem ofChars?_eq_some_iff : ofChars? cs = some u ↔ Spelled u cs := by
  constructor
  · intro h
    unfold ofChars? at h
    split at h
    · exact .plain (ofDigits?_eq_some_iff.mp h)
    split at h
    · obtain ⟨ds, hdigits, rfl⟩ := ofGrouped?_eq_some_iff.mp h
      exact .hyphened hdigits
    split at h
    · next hlength =>
      split at h
      · next hbraces =>
        obtain ⟨ds, hdigits, hinner⟩ := ofGrouped?_eq_some_iff.mp h
        rw [eq_between_braces (by omega) hbraces, hinner]
        exact .braced hdigits
      · cases h
    split at h
    · split at h
      · next hname =>
        obtain ⟨ds, hdigits, hrest⟩ := ofGrouped?_eq_some_iff.mp h
        rw [← List.take_append_drop 9 cs, hrest]
        exact .named hname hdigits
      · cases h
    · cases h
  · intro h
    cases h with
    | plain hdigits =>
      rw [ofChars?, if_pos (length_of_digits hdigits)]
      exact ofDigits?_eq_some_iff.mpr hdigits
    | hyphened hdigits =>
      have hlength := length_of_hyphened hdigits
      rw [ofChars?, if_neg (by omega), if_pos hlength]
      exact ofGrouped?_eq_some_iff.mpr ⟨_, hdigits, rfl⟩
    | @braced ds hdigits =>
      have hlength : ('\x7b' :: grouped ds groupLengths ++ ['\x7d']).length = 38 := by
        simp [length_of_hyphened hdigits]
      rw [ofChars?, if_neg (by omega), if_neg (by omega), if_pos hlength,
        if_pos ⟨rfl, List.getLast?_concat⟩]
      simp only [List.cons_append, List.drop_one, List.tail_cons, List.dropLast_concat]
      exact ofGrouped?_eq_some_iff.mpr ⟨_, hdigits, rfl⟩
    | @named name ds hname hdigits =>
      have hname9 : name.length = 9 := by rw [← List.length_map Char.toLower, hname]; rfl
      have hlength : (name ++ grouped ds groupLengths).length = 45 := by
        rw [List.length_append, hname9, length_of_hyphened hdigits]
      rw [ofChars?, if_neg (by omega), if_neg (by omega), if_neg (by omega), if_pos hlength,
        ← hname9, List.take_left, List.drop_left, if_pos hname]
      exact ofGrouped?_eq_some_iff.mpr ⟨_, hdigits, rfl⟩

@[inherit_doc ofChars?_eq_some_iff]
theorem parse?_eq_some_iff {s : String} : parse? s = some u ↔ Spelled u s.toList :=
  ofChars?_eq_some_iff

/-! ## The usual form -/

/-- Lower-case digits in five groups, with a hyphen between any two. -/
def Usual (cs : List Char) : Prop :=
  ∃ groups : List (List Char), groups.map List.length = [8, 4, 4, 4, 12] ∧
    (∀ group ∈ groups, ∀ c ∈ group, c ∈ "0123456789abcdef".toList) ∧
    cs = ['-'].intercalate groups

theorem usual_text (u : Uuid) : Usual u.text.toList := by
  have hhyphen : ∀ c ∈ u.digits, c ≠ '-' := fun c hc => Hex.ne_hyphen_of_mem_digits hc
  have hsum : groupLengths.sum = u.digits.length := by rw [u.length_digits]; rfl
  have hdigit : ∀ d < 16, Hex.digit d ∈ "0123456789abcdef".toList := by decide
  obtain ⟨hlengths, hflat⟩ := splitWhere_grouped hhyphen (by decide) hsum
  rw [text, String.toList_ofList]
  refine ⟨_, hlengths, fun group hgroup c hc => ?_, (Text.intercalate_splitWhere _ _).symm⟩
  have hmem : c ∈ u.digits := hflat ▸ List.mem_flatten_of_mem hgroup hc
  obtain ⟨d, hd, rfl⟩ := Hex.exists_of_mem_digits hmem
  exact hdigit d hd

end Uuid
end Parley
