import Mathlib.Data.Nat.Digits.Defs
import Parley.Proofs.Text.LetterCase
import Parley.Text.Hex

/-!
# Hexadecimal digits

A digit of either case has a value, and is written in lower case. So a number is read from its
digits in either case, and bytes are read back from two digits each.

* `number?_digits`: the last digits of a number denote its remainder.
* `number?_eq_some_iff`: digits in either case denote a number that has these digits.
* `written_iff`, `decode?_encode`: bytes are written with two lower-case digits each, and are read
  back from these.
-/
namespace Parley.Hex

/-! ## Digits -/

theorem value?_eq (c : Char) : value? c =
    if 48 ≤ c.toNat ∧ c.toNat ≤ 57 then some (c.toNat - 48)
    else if 97 ≤ c.toNat ∧ c.toNat ≤ 102 then some (c.toNat - 97 + 10)
    else if 65 ≤ c.toNat ∧ c.toNat ≤ 70 then some (c.toNat - 65 + 10)
    else none := by
  unfold value?
  simp only [Char.le_def, UInt32.le_iff_toNat_le]
  rfl

theorem range_of_value? {c : Char} {d : Nat} (h : value? c = some d) :
    48 ≤ c.toNat ∧ c.toNat ≤ 57 ∨ 65 ≤ c.toNat ∧ c.toNat ≤ 70 ∨ 97 ≤ c.toNat ∧ c.toNat ≤ 102 := by
  rw [value?_eq] at h
  split_ifs at h <;> omega

theorem value?_toLower (c : Char) : value? c.toLower = value? c := by
  rw [value?_eq, value?_eq, Text.toNat_toLower]
  split
  · next h =>
    rw [Text.isUpper_iff] at h
    by_cases hle : c.toNat ≤ 70
    · rw [if_neg (by omega), if_pos (by omega), if_neg (by omega), if_neg (by omega),
        if_pos (by omega)]
      congr 1
    · simp only [show ¬ (48 ≤ c.toNat ∧ c.toNat ≤ 57) by omega,
        show ¬ (97 ≤ c.toNat ∧ c.toNat ≤ 102) by omega,
        show ¬ (65 ≤ c.toNat ∧ c.toNat ≤ 70) by omega, if_false]
      rw [if_neg (by omega), if_neg (by omega), if_neg (by omega)]
  · rfl

theorem digit_eq_ofNat (d : Nat) :
    digit d = if d < 10 then Char.ofNat (48 + d) else Char.ofNat (97 + (d - 10)) := rfl

/-- A digit is the one that its value is written with, or the same letter in the other case. -/
theorem digit_of_value? {c : Char} {d : Nat} (h : value? c = some d) :
    d < 16 ∧ digit d = c.toLower := by
  have hlower := Text.toNat_toLower c
  simp only [Text.isUpper_iff] at hlower
  rw [← Char.ofNat_toNat c.toLower, digit_eq_ofNat]
  rw [value?_eq] at h
  split at h
  · obtain rfl := Option.some.inj h
    rw [if_neg (by omega)] at hlower
    exact ⟨by omega, by rw [if_pos (by omega)]; congr 1; omega⟩
  split at h
  · obtain rfl := Option.some.inj h
    rw [if_neg (by omega)] at hlower
    exact ⟨by omega, by rw [if_neg (by omega)]; congr 1; omega⟩
  split at h
  · obtain rfl := Option.some.inj h
    rw [if_pos (by omega)] at hlower
    exact ⟨by omega, by rw [if_neg (by omega)]; congr 1; omega⟩
  · cases h

theorem digit_ne_hyphen : ∀ n, n < 16 → digit n ≠ '-' := by decide

/-! ## Numbers -/

theorem mapM_append {f : Char → Option Nat} (cs ds : List Char) :
    (cs ++ ds).mapM f = (cs.mapM f).bind fun ms => (ds.mapM f).map (ms ++ ·) := by
  rw [List.mapM_append]
  cases cs.mapM f <;> cases ds.mapM f <;> rfl

/-- The last digits of a number denote its remainder. -/
theorem number?_digits (count n : Nat) : number? (digits count n) = some (n % 16 ^ count) := by
  induction count generalizing n with
  | zero => simp [digits, number?, Nat.mod_one]
  | succ count ih =>
    have hdigit : [digit (n % 16)].mapM value? = some [n % 16] := by
      rw [List.mapM_cons, digit_eq _ (Nat.mod_lt _ (by decide))]
      rfl
    have hfront := ih (n / 16)
    unfold number? at hfront ⊢
    obtain ⟨ms, hms, hsum⟩ := Option.map_eq_some_iff.mp hfront
    rw [digits, mapM_append, hms, Option.bind_some, hdigit, Option.map_some, Option.map_some,
      List.foldl_append, hsum]
    simp only [List.foldl_cons, List.foldl_nil, Option.some.injEq]
    rw [Nat.pow_succ', Nat.mod_mul, Nat.add_comm]

theorem exists_of_mem_digits {count n : Nat} {c : Char} (h : c ∈ digits count n) :
    ∃ d < 16, c = digit d := by
  induction count generalizing n with
  | zero => cases h
  | succ count ih =>
    rcases List.mem_append.mp h with h | h
    · exact ih h
    · exact ⟨_, Nat.mod_lt _ (by decide), List.mem_singleton.mp h⟩

theorem ne_hyphen_of_mem_digits {count n : Nat} {c : Char} (h : c ∈ digits count n) : c ≠ '-' := by
  obtain ⟨d, hd, rfl⟩ := exists_of_mem_digits h
  exact digit_ne_hyphen d hd

theorem number?_append_singleton {cs : List Char} {c : Char} {n : Nat}
    (h : number? (cs ++ [c]) = some n) :
    ∃ m d, number? cs = some m ∧ value? c = some d ∧ n = 16 * m + d := by
  unfold number? at h
  rw [mapM_append, Option.map_eq_some_iff] at h
  obtain ⟨ms, hms, rfl⟩ := h
  obtain ⟨front, hfront, hms⟩ := Option.bind_eq_some_iff.mp hms
  obtain ⟨last, hlast, rfl⟩ := Option.map_eq_some_iff.mp hms
  rw [List.mapM_cons, List.mapM_nil] at hlast
  obtain ⟨d, hd, hlast⟩ := Option.bind_eq_some_iff.mp hlast
  obtain rfl := Option.some.inj hlast
  exact ⟨_, d, by rw [number?, hfront]; rfl, hd, by rw [List.foldl_append]; rfl⟩

/-- Digits in either case denote a number that is written with these digits. -/
theorem number?_eq_some_iff {cs : List Char} {n : Nat} :
    number? cs = some n ↔ n < 16 ^ cs.length ∧ cs.map Char.toLower = digits cs.length n := by
  constructor
  · intro h
    -- the last digit is the remainder, so the induction is from the end
    induction cs using List.reverseRecOn generalizing n with
    | nil =>
      obtain rfl : 0 = n := Option.some.inj h
      exact ⟨by simp, rfl⟩
    | append_singleton cs c ih =>
      obtain ⟨m, d, hm, hd, rfl⟩ := number?_append_singleton h
      obtain ⟨hlt, hdigits⟩ := ih hm
      obtain ⟨hd16, hdigit⟩ := digit_of_value? hd
      rw [List.length_append, List.length_singleton, Nat.pow_succ, digits, List.map_append,
        hdigits, Nat.mul_add_div (by decide), Nat.mul_add_mod, Nat.mod_eq_of_lt hd16, hdigit,
        Nat.div_eq_of_lt hd16]
      exact ⟨by omega, rfl⟩
  · rintro ⟨hlt, hdigits⟩
    have hcase : number? cs = number? (cs.map Char.toLower) := by
      rw [number?, number?, List.mapM_map]
      simp only [Function.comp_def, value?_toLower]
    rw [hcase, hdigits, number?_digits, Nat.mod_eq_of_lt hlt]

/-! ## Bytes -/

/-- The digits in lower case, each at the place of its value. -/
def lowerDigits : List Char :=
  "0123456789abcdef".toList

/-- Bytes are written with two lower-case digits each, the one for the higher half in front. -/
inductive Written : List UInt8 → List Char → Prop
  | nil : Written [] []
  | cons {b : UInt8} {bytes : List UInt8} {x y : Char} {cs : List Char}
    (high : lowerDigits[b.toNat / 16]? = some x) (low : lowerDigits[b.toNat % 16]? = some y)
    (rest : Written bytes cs) : Written (b :: bytes) (x :: y :: cs)

theorem lowerDigits_getElem? : ∀ n, n < 16 → lowerDigits[n]? = some (digit n) := by decide

theorem halves (b : UInt8) : lowerDigits[b.toNat / 16]? = some (digit (b.toNat / 16)) ∧
    lowerDigits[b.toNat % 16]? = some (digit (b.toNat % 16)) := by
  have hb := b.toNat_lt
  exact ⟨lowerDigits_getElem? _ (by omega), lowerDigits_getElem? _ (by omega)⟩

/-- Bytes are written in one way. -/
theorem written_iff {bytes : List UInt8} {cs : List Char} :
    Written bytes cs ↔ cs = encode bytes := by
  constructor
  · intro h
    induction h with
    | nil => rfl
    | @cons b bytes x y cs high low rest ih =>
      obtain ⟨hhigh, hlow⟩ := halves b
      rw [hhigh] at high
      rw [hlow] at low
      rw [encode_cons, Option.some.inj high, Option.some.inj low, ih]
  · rintro rfl
    induction bytes with
    | nil => exact .nil
    | cons b bytes ih => exact .cons (halves b).1 (halves b).2 ih

theorem decode?_encode (bytes : List UInt8) : decode? (encode bytes) = some bytes := by
  induction bytes with
  | nil => rfl
  | cons b bytes ih =>
    have hb := b.toNat_lt
    have hsum : 16 * (b.toNat / 16) + b.toNat % 16 = b.toNat := Nat.div_add_mod _ _
    rw [encode_cons, decode?, digit_eq _ (by omega), digit_eq _ (by omega), ih]
    simp only [Option.bind_eq_bind, Option.bind_some, Option.pure_def, hsum, UInt8.ofNat_toNat]

theorem encode_injective : Function.Injective encode := by
  intro a b h
  have ha := decode?_encode a
  rw [h, decode?_encode] at ha
  exact (Option.some.inj ha).symm

end Parley.Hex
