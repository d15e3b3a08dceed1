import Parley.Proofs.Page.Order

/-!
# One page of a view

A page is cut from the sorted view past a reference record, which the cursor names
by its id. With distinct ids among the visible records the id of a page's last
record leads back to that record, so the next page goes on at its sort key.

* `page_eq_ok`, `page_eq_error`: a cursor that is in view is answered with the page
  past it, any other one is refused.
* `find?_eq_some_iff`: a record in view is found by its id.
* `shows_of_mem_page`: what is on a page is in view.
* `hasMore_iff`: a page says that there is more exactly if a record in view lies
  past the sort key of its last one.
-/
namespace Parley

open SortOrder

variable {ρ φ : Type} [Keyed ρ φ]

/-- The query for what lies past a reference record, or for all if there is none. -/
def PageQuery.past (sort : SortOrder φ) (ids : IdFilter) (reference : Option ρ) : PageQuery φ where
  ids := ids
  sort := sort
  boundary := reference.map fun r => Boundary.after r sort

namespace RecordList

/-- No two visible records have the same id. -/
def Distinct (l : RecordList ρ) : Prop :=
  ((l.records.filter l.visible).map (Keyed.id : ρ → Uuid)).Nodup

/-- The record is visible, and a filter lets it pass. -/
def Shows (l : RecordList ρ) (ids : IdFilter) (r : ρ) : Prop :=
  r ∈ l.records ∧ l.visible r = true ∧ ids.admits (Keyed.id r) = true

/-- The records that are visible and that a filter lets pass, in the order of the list. -/
def admitted (l : RecordList ρ) (ids : IdFilter) : List ρ :=
  l.records.filter fun r => l.visible r && ids.admits (Keyed.id r)

/-- The record that a cursor names, if there is a cursor and it is in view. -/
def reference? (l : RecordList ρ) (ids : IdFilter) (cursor : Option Uuid) : Option ρ :=
  cursor.bind fun id => l.find? id ids

/-- The sorted view past a reference record. -/
def sorted (l : RecordList ρ) (sort : SortOrder φ) (ids : IdFilter) (reference : Option ρ) :
    List ρ :=
  (l.matching (PageQuery.past sort ids reference)).mergeSort sort.before

/-- The page past a reference record. -/
def pagePast (l : RecordList ρ) (sort : SortOrder φ) (ids : IdFilter) (reference : Option ρ)
    (limit : Nat) : Page ρ :=
  Id.run (Page.ofQuery l.source (PageQuery.past sort ids reference) limit)

/-! ## Answers -/

theorem page_eq_ok {l : RecordList ρ} {sort : SortOrder φ} {ids : IdFilter}
    {cursor : Option Uuid} {limit : Nat} (h0 : 0 < limit)
    (hc : ∀ id ∈ cursor, (l.find? id ids).isSome = true) :
    l.page ⟨sort, cursor, limit, ids⟩ =
      .ok (l.pagePast sort ids (l.reference? ids cursor) limit) := by
  have h0' : limit ≠ 0 := by omega
  unfold page Page.get pagePast reference?
  cases cursor with
  | none => simp [h0', Id.run, bind, pure, PageQuery.past]
  | some id =>
    obtain ⟨r, hr⟩ := Option.isSome_iff_exists.mp (hc id rfl)
    simp [h0', Id.run, bind, pure, PageQuery.past, source, hr]

theorem page_eq_error {l : RecordList ρ} {sort : SortOrder φ} {ids : IdFilter} {id : Uuid}
    {limit : Nat} (h0 : 0 < limit) (hc : l.find? id ids = none) :
    l.page ⟨sort, some id, limit, ids⟩ = .error ⟨id⟩ := by
  have h0' : limit ≠ 0 := by omega
  unfold page Page.get
  simp [h0', Id.run, bind, pure, source, hc]

/-! ## The view -/

theorem mem_matching {l : RecordList ρ} {sort : SortOrder φ} {ids : IdFilter}
    {reference : Option ρ} {r : ρ} :
    r ∈ l.matching (PageQuery.past sort ids reference) ↔
      l.Shows ids r ∧ ∀ s ∈ reference, sort.past s r := by
  unfold matching Shows PageQuery.past
  cases reference <;> simp [and_assoc, past_of_admits]

theorem mem_admitted {l : RecordList ρ} {ids : IdFilter} {r : ρ} :
    r ∈ l.admitted ids ↔ l.Shows ids r := by
  simp [admitted, Shows]

theorem matching_eq_filter_admitted (l : RecordList ρ) (query : PageQuery φ) :
    l.matching query = (l.admitted query.ids).filter fun r =>
      query.boundary.all fun b => b.admits (Keyed.key query.sort.field r) := by
  rw [admitted, List.filter_filter]
  unfold matching
  apply List.filter_congr
  intro r _
  rw [Bool.and_comm]
  cases query.boundary <;> rfl

/-- What matches past a reference record is what is admitted and past it. -/
theorem matching_past (l : RecordList ρ) (sort : SortOrder φ) (ids : IdFilter)
    (reference : Option ρ) : l.matching (PageQuery.past sort ids reference) =
      (l.admitted ids).filter fun r => decide (∀ s ∈ reference, sort.past s r) := by
  rw [matching_eq_filter_admitted]
  apply List.filter_congr
  intro r _
  cases reference with
  | none => simp [PageQuery.past]
  | some s =>
    simp only [PageQuery.past, Option.map_some, Option.all_some, Option.mem_some_iff, forall_eq']
    rw [Bool.eq_iff_iff, past_of_admits, decide_eq_true_eq]

theorem matching_past_none (l : RecordList ρ) (sort : SortOrder φ) (ids : IdFilter) :
    l.matching (PageQuery.past sort ids (none : Option ρ)) = l.admitted ids := by
  simp [matching_past]

theorem matching_past_some (l : RecordList ρ) (sort : SortOrder φ) (ids : IdFilter)
    (reference : ρ) : l.matching (PageQuery.past sort ids (some reference)) =
      (l.admitted ids).filter fun r => decide (sort.past reference r) := by
  simp [matching_past]

/-- Past a record of a view lies the rest of that view. -/
theorem mem_matching_some {l : RecordList ρ} {sort : SortOrder φ} {ids : IdFilter}
    {reference : Option ρ} {last r : ρ}
    (hl : last ∈ l.matching (PageQuery.past sort ids reference)) :
    r ∈ l.matching (PageQuery.past sort ids (some last)) ↔
      r ∈ l.matching (PageQuery.past sort ids reference) ∧ sort.past last r := by
  rw [mem_matching] at hl
  simp only [mem_matching, Option.mem_some_iff, forall_eq']
  refine ⟨fun ⟨hs, hp⟩ => ⟨⟨hs, fun s hsr => ?_⟩, hp⟩, fun ⟨⟨hs, _⟩, hp⟩ => ⟨hs, hp⟩⟩
  have hsl := hl.2 s hsr
  rw [past_iff] at *; omega

theorem matching_ids_nodup {l : RecordList ρ} (hd : l.Distinct) (query : PageQuery φ) :
    ((l.matching query).map (Keyed.id : ρ → Uuid)).Nodup := by
  have hsub : (l.matching query).Sublist (l.records.filter l.visible) := by
    refine List.monotone_filter_right l.records fun r hr => ?_
    rw [Bool.and_eq_true, Bool.and_eq_true] at hr
    exact hr.1.1
  exact List.Nodup.sublist (hsub.map _) hd

/-- A record in view is found by its id, and nothing else is. -/
theorem find?_eq_some_iff {l : RecordList ρ} (hd : l.Distinct) {ids : IdFilter} {id : Uuid}
    {r : ρ} : l.find? id ids = some r ↔ l.Shows ids r ∧ Keyed.id r = id := by
  have sound : ∀ {s}, l.find? id ids = some s → l.Shows ids s ∧ Keyed.id s = id := by
    intro s hs
    have hp := List.find?_some hs
    simp only [Bool.and_eq_true, decide_eq_true_eq] at hp
    obtain ⟨⟨rfl, hv⟩, ha⟩ := hp
    exact ⟨⟨List.mem_of_find?_eq_some hs, hv, ha⟩, rfl⟩
  refine ⟨sound, ?_⟩
  rintro ⟨⟨hm, hv, ha⟩, rfl⟩
  cases hf : l.find? (Keyed.id r) ids with
  | none =>
    have := List.find?_eq_none.mp hf r hm
    simp [hv, ha] at this
  | some s =>
    obtain ⟨⟨hsm, hsv, -⟩, hid⟩ := sound hf
    have hr : r ∈ l.records.filter l.visible := List.mem_filter.mpr ⟨hm, hv⟩
    have hs : s ∈ l.records.filter l.visible := List.mem_filter.mpr ⟨hsm, hsv⟩
    rw [List.inj_on_of_nodup_map hd hs hr hid]

theorem find?_eq_none_iff {l : RecordList ρ} {ids : IdFilter} {id : Uuid} :
    l.find? id ids = none ↔ ∀ r, l.Shows ids r → Keyed.id r ≠ id := by
  unfold find? Shows
  rw [List.find?_eq_none]
  constructor
  · rintro h r ⟨hm, hv, ha⟩ rfl
    have hr := h r hm
    simp [hv, ha] at hr
  · intro h r hm hr
    simp only [Bool.and_eq_true, decide_eq_true_eq] at hr
    obtain ⟨⟨rfl, hv⟩, ha⟩ := hr
    exact h r ⟨hm, hv, ha⟩ rfl

theorem reference?_id {l : RecordList ρ} (hd : l.Distinct) {ids : IdFilter} {reference : Option ρ}
    (hshows : ∀ r ∈ reference, l.Shows ids r) :
    l.reference? ids (reference.map Keyed.id) = reference := by
  cases reference with
  | none => rfl
  | some r => exact (find?_eq_some_iff hd).mpr ⟨hshows r rfl, rfl⟩

/-! ## Sorted views -/

theorem mem_sorted {l : RecordList ρ} {sort : SortOrder φ} {ids : IdFilter}
    {reference : Option ρ} {r : ρ} :
    r ∈ l.sorted sort ids reference ↔
      r ∈ l.matching (PageQuery.past sort ids reference) :=
  List.mem_mergeSort

theorem mem_sorted_none {l : RecordList ρ} {sort : SortOrder φ} {ids : IdFilter} {r : ρ} :
    r ∈ l.sorted sort ids (none : Option ρ) ↔ l.Shows ids r := by
  simp [mem_sorted, mem_matching]

theorem mem_sorted_some {l : RecordList ρ} {sort : SortOrder φ} {ids : IdFilter}
    {reference r : ρ} :
    r ∈ l.sorted sort ids (some reference) ↔ l.Shows ids r ∧ sort.past reference r := by
  simp [mem_sorted, mem_matching]

theorem pairwise_sorted {l : RecordList ρ} (hd : l.Distinct) (sort : SortOrder φ)
    (ids : IdFilter) (reference : Option ρ) :
    (l.sorted sort ids reference).Pairwise sort.precedes :=
  pairwise_precedes_mergeSort sort (matching_ids_nodup hd _)

/-! ## Pages -/

/-- A page is the first part of the sorted view. It is looked past its last record only if the
page is full. -/
theorem pagePast_eq (l : RecordList ρ) (sort : SortOrder φ) (ids : IdFilter)
    (reference : Option ρ) (limit : Nat) : l.pagePast sort ids reference limit = {
      limit := limit
      hasMore := ((l.sorted sort ids reference).take limit).getLast?.any fun last =>
        decide (limit ≤ ((l.sorted sort ids reference).take limit).length) &&
          decide (0 < (l.matching (PageQuery.past sort ids (some last))).length)
      data := (l.sorted sort ids reference).take limit } := by
  have hfetch : l.source.fetch (PageQuery.past sort ids reference) limit =
      (l.sorted sort ids reference).take limit := rfl
  simp only [pagePast, Page.ofQuery, Id.run, bind, pure, hfetch]
  split
  · rename_i last hlast
    have hcount : l.source.count { PageQuery.past sort ids reference with
        boundary := some (Boundary.after last (PageQuery.past sort ids reference).sort) } =
        (l.matching (PageQuery.past sort ids (some last))).length := rfl
    rw [hlast, hcount, Option.any_some]
    split
    · rename_i hfull
      rw [decide_eq_true hfull, Bool.true_and]
    · rename_i hfull
      rw [decide_eq_false hfull, Bool.false_and]
  · rename_i hnone
    rw [hnone, Option.any_none]

theorem data_pagePast (l : RecordList ρ) (sort : SortOrder φ) (ids : IdFilter)
    (reference : Option ρ) (limit : Nat) :
    (l.pagePast sort ids reference limit).data = (l.sorted sort ids reference).take limit := by
  rw [pagePast_eq]

/-- A record on a page is in the view. -/
theorem shows_of_mem_page {l : RecordList ρ} {request : PageRequest φ} {page : Page ρ}
    (h : l.page request = .ok page) {r : ρ} (hr : r ∈ page.data) : l.Shows request.ids r := by
  obtain ⟨sort, cursor, limit, ids⟩ := request
  by_cases h0 : limit = 0
  · -- the page is empty
    subst h0
    cases h
    cases hr
  by_cases hc : ∀ id ∈ cursor, (l.find? id ids).isSome = true
  · rw [page_eq_ok (by omega) hc] at h
    cases h
    rw [data_pagePast] at hr
    exact (mem_matching.mp (mem_sorted.mp (List.mem_of_mem_take hr))).1
  · simp only [Option.mem_def, not_forall] at hc
    obtain ⟨id, rfl, hfind⟩ := hc
    rw [page_eq_error (by omega) (by simpa using hfind)] at h
    cases h

theorem limit_pagePast (l : RecordList ρ) (sort : SortOrder φ) (ids : IdFilter)
    (reference : Option ρ) (limit : Nat) :
    (l.pagePast sort ids reference limit).limit = limit := by
  rw [pagePast_eq]

/-- A page that says that there is more is full, and counts something past its last
record. -/
theorem hasMore_pagePast (l : RecordList ρ) (sort : SortOrder φ) (ids : IdFilter)
    (reference : Option ρ) (limit : Nat) :
    (l.pagePast sort ids reference limit).hasMore = true ↔
      ∃ last, ((l.sorted sort ids reference).take limit).getLast? = some last ∧
        limit ≤ ((l.sorted sort ids reference).take limit).length ∧
        ∃ r, r ∈ l.matching (PageQuery.past sort ids (some last)) := by
  simp only [pagePast_eq, Option.any_eq_true, Bool.and_eq_true, decide_eq_true_eq,
    List.length_pos_iff_exists_mem]

/-- There is more exactly if a record of the view lies past the sort key of the last
one on the page. -/
theorem hasMore_iff {l : RecordList ρ} (hd : l.Distinct) {sort : SortOrder φ} {ids : IdFilter}
    {reference : Option ρ} {limit : Nat} {last : ρ}
    (hl : (l.pagePast sort ids reference limit).data.getLast? = some last) :
    (l.pagePast sort ids reference limit).hasMore = true ↔
      ∃ r ∈ l.matching (PageQuery.past sort ids reference), sort.past last r := by
  rw [data_pagePast] at hl
  have hlast := mem_sorted.mp (List.mem_of_mem_take (List.mem_of_getLast? hl))
  rw [hasMore_pagePast]
  constructor
  · rintro ⟨last', hl', -, r, hr⟩
    rw [hl] at hl'
    obtain rfl := Option.some.inj hl'
    exact ⟨r, (mem_matching_some hlast).mp hr⟩
  · rintro ⟨r, hr, hp⟩
    refine ⟨last, hl, ?_, r, (mem_matching_some hlast).mpr ⟨hr, hp⟩⟩
    have hout : r ∉ (l.sorted sort ids reference).take limit := by
      rw [mem_take_iff (pairwise_sorted hd sort ids reference) hl (mem_sorted.mpr hr)]
      exact fun hn => hn (precedes_of_past hp)
    rw [List.length_take]
    -- a shorter list would be on the page as a whole, with `r` in it
    by_contra hlt
    rw [List.take_of_length_le (by omega)] at hout
    exact hout (mem_sorted.mpr hr)

theorem length_of_hasMore {l : RecordList ρ} {sort : SortOrder φ} {ids : IdFilter}
    {reference : Option ρ} {limit : Nat}
    (hm : (l.pagePast sort ids reference limit).hasMore = true) :
    (l.pagePast sort ids reference limit).data.length =
      (l.pagePast sort ids reference limit).limit := by
  obtain ⟨-, -, hfull, -⟩ := (hasMore_pagePast l sort ids reference limit).mp hm
  rw [data_pagePast, limit_pagePast]
  rw [List.length_take] at *
  omega

end RecordList

end Parley
