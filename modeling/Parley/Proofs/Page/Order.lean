import Mathlib.Data.List.Sort
import Parley.Page.InMemory

/-!
# The order of a view

`SortOrder.before` compares records by sort key and then by id, both in the
direction asked for. Read with the sign of the direction, sort keys and ids only
grow along a page (`height`, `place`), so one argument serves both directions.

* `pairwise_precedes_mergeSort`: records with distinct ids are sorted strictly.
* `eq_of_mem_iff`: two strictly sorted lists of the same records are equal.
* `mergeSort_eq_of_perm`: so records with distinct ids are sorted alike, in
  whatever order they come.
* `mem_take_iff`: what a page of a sorted list leaves out comes after its last
  record, and nothing else does.
-/
namespace Parley.SortOrder

variable {ρ φ : Type} [Keyed ρ φ]

/-- The sort key of `s` is strictly past that of `r`. -/
def past (sort : SortOrder φ) (r s : ρ) : Prop :=
  match sort.direction with
  | .asc => Keyed.key sort.field r < Keyed.key sort.field s
  | .desc => Keyed.key sort.field s < Keyed.key sort.field r

/-- Both have the same sort key. -/
def ties (sort : SortOrder φ) (r s : ρ) : Prop :=
  Keyed.key sort.field r = Keyed.key sort.field s

/-- `s` comes after `r` by sort key and then by id, in the direction asked for. -/
def precedes (sort : SortOrder φ) (r s : ρ) : Prop :=
  sort.past r s ∨ sort.ties r s ∧
    match sort.direction with
    | .asc => (Keyed.id r).value < (Keyed.id s).value
    | .desc => (Keyed.id s).value < (Keyed.id r).value

/-! ## One direction -/

/-- The sort key, as it grows in the direction. -/
def height (sort : SortOrder φ) (r : ρ) : Int :=
  match sort.direction with
  | .asc => Keyed.key sort.field r
  | .desc => -Keyed.key sort.field r

/-- The id, as it grows in the direction. -/
def place (sort : SortOrder φ) (r : ρ) : Int :=
  match sort.direction with
  | .asc => (Keyed.id r).value
  | .desc => -((Keyed.id r).value : Int)

theorem past_iff (sort : SortOrder φ) (r s : ρ) :
    sort.past r s ↔ sort.height r < sort.height s := by
  unfold past height
  cases sort.direction <;> simp

instance decidablePast (sort : SortOrder φ) (r s : ρ) : Decidable (sort.past r s) :=
  decidable_of_iff _ (past_iff sort r s).symm

theorem ties_iff (sort : SortOrder φ) (r s : ρ) :
    sort.ties r s ↔ sort.height r = sort.height s := by
  unfold ties height
  cases sort.direction <;> simp

theorem precedes_iff (sort : SortOrder φ) (r s : ρ) :
    sort.precedes r s ↔ sort.height r < sort.height s ∨
      sort.height r = sort.height s ∧ sort.place r < sort.place s := by
  unfold precedes
  rw [past_iff, ties_iff]
  unfold place
  cases sort.direction <;> simp

theorem uuid_le_iff (u v : Uuid) : u ≤ v ↔ u.value ≤ v.value := Iff.rfl

theorem before_iff (sort : SortOrder φ) (r s : ρ) :
    sort.before r s = true ↔ sort.height r < sort.height s ∨
      sort.height r = sort.height s ∧ sort.place r ≤ sort.place s := by
  unfold before height place
  cases sort.direction <;>
    simp only [ascending, Bool.or_eq_true, Bool.and_eq_true, decide_eq_true_eq, uuid_le_iff] <;>
    omega

theorem place_inj {sort : SortOrder φ} {r s : ρ} :
    sort.place r = sort.place s ↔ (Keyed.id r : Uuid) = Keyed.id s := by
  refine ⟨fun h => Uuid.ext_value ?_, fun h => ?_⟩
  · unfold place at h
    cases hd : sort.direction <;> simp only [hd] at h <;> omega
  · unfold place
    rw [h]

theorem past_of_admits {sort : SortOrder φ} {r s : ρ} :
    (Boundary.after r sort).admits (Keyed.key sort.field s) = true ↔ sort.past r s := by
  unfold Boundary.after Boundary.admits past
  cases sort.direction <;> simp

/-! ## A strict order -/

theorem not_precedes_self (sort : SortOrder φ) (r : ρ) : ¬ sort.precedes r r := by
  rw [precedes_iff]; omega

theorem precedes_asymm {sort : SortOrder φ} {r s : ρ} (h : sort.precedes r s) :
    ¬ sort.precedes s r := by
  rw [precedes_iff] at *; omega

theorem precedes_of_past {sort : SortOrder φ} {r s : ρ} (h : sort.past r s) :
    sort.precedes r s :=
  Or.inl h

theorem past_of_precedes {sort : SortOrder φ} {r s : ρ} (h : sort.precedes r s)
    (hne : ¬ sort.ties r s) : sort.past r s := by
  rw [precedes_iff] at h; rw [ties_iff] at hne; rw [past_iff]; omega

theorem before_total {sort : SortOrder φ} (r s : ρ) :
    (sort.before r s || sort.before s r) = true := by
  rw [Bool.or_eq_true, before_iff, before_iff]; omega

theorem before_trans {sort : SortOrder φ} (r s t : ρ) (h₁ : sort.before r s = true)
    (h₂ : sort.before s t = true) : sort.before r t = true := by
  rw [before_iff] at *; omega

/-! ## Sorted lists -/

/-- Records with distinct ids that are in order are in strict order. -/
theorem pairwise_precedes_of_before {sort : SortOrder φ} {l : List ρ}
    (hle : l.Pairwise fun r s => sort.before r s = true)
    (h : (l.map (Keyed.id : ρ → Uuid)).Nodup) : l.Pairwise sort.precedes := by
  refine (hle.and (List.pairwise_map.mp h)).imp ?_
  rintro r s ⟨hb, hid⟩
  rw [before_iff] at hb
  have hplace : sort.place r ≠ sort.place s := fun e => hid (place_inj.mp e)
  rw [precedes_iff]; omega

theorem pairwise_precedes_mergeSort (sort : SortOrder φ) {l : List ρ}
    (h : (l.map (Keyed.id : ρ → Uuid)).Nodup) :
    (l.mergeSort sort.before).Pairwise sort.precedes := by
  have hp := (List.mergeSort_perm l sort.before).map (Keyed.id : ρ → Uuid)
  exact pairwise_precedes_of_before (List.pairwise_mergeSort before_trans before_total l)
    (hp.nodup_iff.mpr h)

theorem nodup_of_pairwise {sort : SortOrder φ} {l : List ρ} (h : l.Pairwise sort.precedes) :
    l.Nodup := by
  refine List.Pairwise.imp ?_ h
  rintro r s hrs rfl
  exact not_precedes_self sort r hrs

theorem eq_of_mem_iff {sort : SortOrder φ} {l₁ l₂ : List ρ} (h₁ : l₁.Pairwise sort.precedes)
    (h₂ : l₂.Pairwise sort.precedes) (hm : ∀ r, r ∈ l₁ ↔ r ∈ l₂) : l₁ = l₂ := by
  have hp := (List.perm_ext_iff_of_nodup (nodup_of_pairwise h₁) (nodup_of_pairwise h₂)).mpr hm
  exact hp.eq_of_pairwise (fun r s _ _ hrs hsr => absurd hsr (precedes_asymm hrs)) h₁ h₂

/-- In which order records with distinct ids come to be sorted leaves no trace. -/
theorem mergeSort_eq_of_perm (sort : SortOrder φ) {l₁ l₂ : List ρ} (hp : l₁.Perm l₂)
    (h : (l₁.map (Keyed.id : ρ → Uuid)).Nodup) :
    l₁.mergeSort sort.before = l₂.mergeSort sort.before := by
  have h' : (l₂.map (Keyed.id : ρ → Uuid)).Nodup := (hp.map _).nodup_iff.mp h
  apply eq_of_mem_iff (pairwise_precedes_mergeSort sort h) (pairwise_precedes_mergeSort sort h')
  intro r
  rw [List.mem_mergeSort, List.mem_mergeSort, hp.mem_iff]

/-- A page of a sorted list holds all but what comes after its last record. -/
theorem mem_take_iff {sort : SortOrder φ} {l : List ρ} (h : l.Pairwise sort.precedes) {n : Nat}
    {last : ρ} (hl : (l.take n).getLast? = some last) {r : ρ} (hr : r ∈ l) :
    r ∈ l.take n ↔ ¬ sort.precedes last r := by
  have hlast := List.mem_of_getLast? hl
  have hsplit : (l.take n ++ l.drop n).Pairwise sort.precedes := by rwa [List.take_append_drop]
  obtain ⟨htake, -, hcross⟩ := List.pairwise_append.mp hsplit
  refine ⟨fun hmem hlr => ?_, fun hn => ?_⟩
  · obtain ⟨front, hfront⟩ := List.getLast?_eq_some_iff.mp hl
    rw [hfront, List.mem_append, List.mem_singleton] at hmem
    rw [hfront] at htake
    rcases hmem with hmem | rfl
    · exact precedes_asymm hlr ((List.pairwise_append.mp htake).2.2 r hmem last (by simp))
    · exact not_precedes_self sort _ hlr
  · rw [← List.take_append_drop n l, List.mem_append] at hr
    exact hr.resolve_right fun hd => hn (hcross last hlast r hd)

end Parley.SortOrder
