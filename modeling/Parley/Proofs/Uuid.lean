import Parley.Proofs.Text.Blank
import Parley.Proofs.Text.Hex
import Parley.Uuid

/-!
# Reading back UUIDs

* `Uuid.parse?_text`: the usual form of a UUID reads as that UUID.
* `Uuid.text_injective`: so two UUIDs are not written alike.
-/
namespace Parley

namespace Uuid

theorem grouped_cons_cons (cs : List Char) (n m : Nat) (ns : List Nat) :
    grouped cs (n :: m :: ns) = cs.take n ++ '-' :: grouped (cs.drop n) (m :: ns) := rfl

theorem splitWhere_grouped {cs : List Char} {ns : List Nat} (h : ∀ c ∈ cs, c ≠ '-')
    (hne : ns ≠ []) (hsum : ns.sum = cs.length) :
    ((Text.splitWhere (· == '-') (grouped cs ns)).map List.length = ns) ∧
      (Text.splitWhere (· == '-') (grouped cs ns)).flatten = cs := by
  induction ns generalizing cs with
  | nil => exact absurd rfl hne
  | cons n ns ih =>
    cases ns with
    | nil =>
      have hn : cs.length = n := by simpa using hsum.symm
      have htake : ∀ c ∈ cs.take n, (c == '-') = false := fun c hc => by
        simpa using h c (List.mem_of_mem_take hc)
      rw [grouped, Text.splitWhere_of_none htake]
      simp [hn, List.take_of_length_le (le_of_eq hn)]
    | cons m ns =>
      rw [List.sum_cons] at hsum
      have htake : ∀ c ∈ cs.take n, (c == '-') = false := fun c hc => by
        simpa using h c (List.mem_of_mem_take hc)
      have hdrop : ∀ c ∈ cs.drop n, c ≠ '-' := fun c hc => h c (List.mem_of_mem_drop hc)
      obtain ⟨hlen, hflat⟩ := ih hdrop (by simp) (by rw [List.length_drop]; omega)
      rw [grouped_cons_cons, Text.splitWhere_append _ htake (by decide), List.map_cons,
        List.flatten_cons, hlen, hflat, List.length_take, List.take_append_drop,
        Nat.min_eq_left (by omega)]
      exact ⟨rfl, rfl⟩

theorem ofDigits?_digits (u : Uuid) : ofDigits? u.digits = some u := by
  have hmod : u.value % 16 ^ 32 = u.value := Nat.mod_eq_of_lt u.value_lt
  unfold ofDigits?
  rw [if_pos u.length_digits, digits, Hex.number?_digits, hmod]
  exact dif_pos u.value_lt

theorem length_grouped : ∀ (ns : List Nat) (cs : List Char), ns ≠ [] → ns.sum = cs.length →
    (grouped cs ns).length + 1 = cs.length + ns.length
  | [], _, hne, _ => absurd rfl hne
  | [n], cs, _, hsum => by
    have hn : cs.length = n := by simpa using hsum.symm
    simp [grouped, hn]
  | n :: m :: ns, cs, _, hsum => by
    rw [List.sum_cons] at hsum
    have := length_grouped (m :: ns) (cs.drop n) (by simp) (by rw [List.length_drop]; omega)
    simp only [grouped_cons_cons, List.length_append, List.length_take, List.length_cons,
      List.length_drop] at *
    omega

theorem parse?_text (u : Uuid) : parse? u.text = some u := by
  have hsum : groupLengths.sum = u.digits.length := by rw [u.length_digits]; rfl
  have hdigits : ∀ c ∈ u.digits, c ≠ '-' := fun c hc => Hex.ne_hyphen_of_mem_digits hc
  obtain ⟨hlen, hflat⟩ := splitWhere_grouped hdigits (by decide) hsum
  have hlength := length_grouped groupLengths u.digits (by decide) hsum
  rw [u.length_digits] at hlength
  have h36 : (grouped u.digits groupLengths).length = 36 := by
    simpa [groupLengths] using hlength
  unfold parse? text ofChars?
  rw [String.toList_ofList, if_neg (by omega), if_pos h36, ofGrouped?]
  simp only [hlen, hflat, if_true]
  exact ofDigits?_digits u

theorem text_injective : Function.Injective text := fun u v h => by
  have := parse?_text u
  rw [h, parse?_text] at this
  exact (Option.some.inj this).symm

/-- The UUID of the number that a byte holds. -/
def ofByte (b : UInt8) : Uuid :=
  ⟨b.toNat, by have := b.toNat_lt; omega⟩

end Uuid

end Parley
