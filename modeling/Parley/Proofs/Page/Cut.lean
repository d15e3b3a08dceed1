import Parley.Proofs.Page.HiddenRecords

/-!
# One page, whatever the ids

A page is cut from the front of what is in view past the cursor's record, once that is
sorted. None of this needs distinct ids: records with one id and one sort key may stand in
either order, and the cursor names the first of the records in view that have its id.

* `Page.CutFrom`: what it is to be cut from a list of records.
* `cutFrom_pagePast`: the page past a reference record is cut from what lies past it.
* `exists_whole_page`: with room for the whole view, all of it is on the first page.
* `page_eq_error_iff`: a request is refused exactly if its cursor names no record in view.
* `page_cut_from_view`: so is the answer to every request, but for those with the limit zero
  and those whose cursor names no record in view.
-/
namespace Parley

open SortOrder

variable {ρ φ : Type} [Keyed ρ φ]

theorem SortOrder.before_iff_not_precedes (sort : SortOrder φ) (r s : ρ) :
    sort.before r s = true ↔ ¬ sort.precedes s r := by
  rw [before_iff, precedes_iff]
  omega

/-- A page is cut from a list: it holds as many of its records as the limit lets, in order, and
none that is left out comes before one that is on it. It says that there is more exactly if it
is full and the sort key of some record lies past that of its last one. -/
structure Page.CutFrom (sort : SortOrder φ) (limit : Nat) (view : List ρ) (page : Page ρ) :
    Prop where
  limit_eq : page.limit = limit
  length_eq : page.data.length = min limit view.length
  ordered : page.data.Pairwise fun r s => ¬ sort.precedes s r
  first : ∃ leftOut, (page.data ++ leftOut).Perm view ∧
    ∀ r ∈ leftOut, ∀ s ∈ page.data, ¬ sort.precedes r s
  hasMore_iff : page.hasMore = true ↔ limit ≤ view.length ∧
    ∃ last, page.data.getLast? = some last ∧ ∃ r ∈ view, sort.past last r

namespace RecordList

variable {l : RecordList ρ} {sort : SortOrder φ} {ids : IdFilter}

/-- The page past a reference record is cut from what lies past it. That the records beyond the
page are counted without regard to the reference makes no difference: what lies past the last
record of the page lies past the reference as well. -/
theorem cutFrom_pagePast (l : RecordList ρ) (sort : SortOrder φ) (ids : IdFilter)
    (reference : Option ρ) (limit : Nat) :
    Page.CutFrom sort limit (l.matching (PageQuery.past sort ids reference))
      (l.pagePast sort ids reference limit) := by
  have hdata := data_pagePast l sort ids reference limit
  have hperm : (l.sorted sort ids reference).Perm
      (l.matching (PageQuery.past sort ids reference)) := List.mergeSort_perm _ _
  have hsorted : (l.sorted sort ids reference).Pairwise fun r s => sort.before r s = true :=
    List.pairwise_mergeSort before_trans before_total _
  rw [← List.take_append_drop limit (l.sorted sort ids reference), List.pairwise_append] at hsorted
  obtain ⟨htaken, -, hcross⟩ := hsorted
  constructor
  case limit_eq => exact limit_pagePast l sort ids reference limit
  case length_eq => rw [hdata, List.length_take, hperm.length_eq]
  case ordered =>
    rw [hdata]
    exact htaken.imp fun h => (before_iff_not_precedes sort _ _).mp h
  case first =>
    refine ⟨(l.sorted sort ids reference).drop limit, ?_, fun r hr s hs => ?_⟩
    · rwa [hdata, List.take_append_drop]
    · rw [hdata] at hs
      exact (before_iff_not_precedes sort s r).mp (hcross s hs r hr)
  case hasMore_iff =>
    rw [hasMore_pagePast, hdata]
    have hlast {last : ρ} (h : ((l.sorted sort ids reference).take limit).getLast? = some last) :
        last ∈ l.matching (PageQuery.past sort ids reference) :=
      hperm.mem_iff.mp (List.mem_of_mem_take (List.mem_of_getLast? h))
    have hfull : limit ≤ ((l.sorted sort ids reference).take limit).length ↔
        limit ≤ (l.matching (PageQuery.past sort ids reference)).length := by
      rw [List.length_take, hperm.length_eq]
      omega
    constructor
    · rintro ⟨last, hl, hlength, r, hr⟩
      exact ⟨hfull.mp hlength, last, hl, r, (mem_matching_some (hlast hl)).mp hr⟩
    · rintro ⟨hlength, last, hl, r, hr⟩
      exact ⟨last, hl, hfull.mpr hlength, r, (mem_matching_some (hlast hl)).mpr hr⟩

/-- A page with room for the whole view shows all that lies past the reference record. -/
theorem data_pagePast_of_le (sort : SortOrder φ) (reference : Option ρ) {limit : Nat}
    (hlimit : (l.admitted ids).length ≤ limit) :
    (l.pagePast sort ids reference limit).data = l.sorted sort ids reference := by
  have hlength : (l.sorted sort ids reference).length ≤ (l.admitted ids).length := by
    rw [sorted, List.length_mergeSort, matching_eq_filter_admitted]
    exact List.length_filter_le _ _
  rw [data_pagePast, List.take_of_length_le (hlength.trans hlimit)]

/-- A request without a cursor that has room for the whole view gets all of it. -/
theorem exists_whole_page (sort : SortOrder φ) {limit : Nat}
    (hlimit : (l.admitted ids).length ≤ limit) :
    ∃ page, l.page ⟨sort, none, limit, ids⟩ = .ok page ∧ page.data = l.sorted sort ids none := by
  by_cases hzero : limit = 0
  · -- then there is nothing in view
    subst hzero
    have hnone : l.sorted sort ids (none : Option ρ) = [] := by
      rw [← List.length_eq_zero_iff, sorted, List.length_mergeSort, matching_past_none]
      omega
    exact ⟨Page.empty 0, rfl, hnone.symm⟩
  · exact ⟨_, page_eq_ok (by omega) (by simp), data_pagePast_of_le sort none hlimit⟩

/-- A request is refused exactly if its cursor names no record in view. -/
theorem page_eq_error_iff {limit : Nat} (hlimit : 0 < limit) (cursor : Option Uuid)
    (e : ReferenceNotFound) : l.page ⟨sort, cursor, limit, ids⟩ = .error e ↔
      ∃ id, cursor = some id ∧ e = ⟨id⟩ ∧ ∀ r ∈ l.admitted ids, (Keyed.id r : Uuid) ≠ id := by
  have hnone (id : Uuid) : l.find? id ids = none ↔
      ∀ r ∈ l.admitted ids, (Keyed.id r : Uuid) ≠ id := by
    simp [find?_eq_find?_admitted]
  by_cases hresolves : ∀ id ∈ cursor, (l.find? id ids).isSome = true
  · rw [page_eq_ok hlimit hresolves]
    refine iff_of_false (fun h => by cases h) ?_
    rintro ⟨id, rfl, -, hid⟩
    simpa [(hnone id).mpr hid] using hresolves id rfl
  · simp only [Option.mem_def, not_forall] at hresolves
    obtain ⟨id, rfl, hid⟩ := hresolves
    have hfind : l.find? id ids = none := by simpa using hid
    rw [page_eq_error hlimit hfind]
    constructor
    · rintro ⟨⟩
      exact ⟨id, rfl, rfl, (hnone id).mp hfind⟩
    · rintro ⟨id', hcursor, rfl, -⟩
      cases hcursor
      rfl

end RecordList

/-- A request with the limit zero gets the empty page, whatever its cursor. Every other one is
refused exactly if its cursor names no record in view, and else gets a page that is cut from
what is in view, past the sort key of the first record there with the cursor's id if there is
a cursor. -/
theorem page_cut_from_view (l : RecordList ρ) (sort : SortOrder φ) (ids : IdFilter) :
    (∀ cursor, l.page ⟨sort, cursor, 0, ids⟩ = .ok ⟨0, false, []⟩) ∧
    ∀ limit, 0 < limit →
      (∀ cursor e, l.page ⟨sort, cursor, limit, ids⟩ = .error e ↔
        ∃ id, cursor = some id ∧ e = ⟨id⟩ ∧ ∀ r ∈ l.admitted ids, (Keyed.id r : Uuid) ≠ id) ∧
      (∃ page, l.page ⟨sort, none, limit, ids⟩ = .ok page ∧
        page.CutFrom sort limit (l.admitted ids)) ∧
      ∀ id reference, ((l.admitted ids).find? fun r => decide (Keyed.id r = id)) = some reference →
        ∃ page, l.page ⟨sort, some id, limit, ids⟩ = .ok page ∧
          page.CutFrom sort limit
            ((l.admitted ids).filter fun r => decide (sort.past reference r)) := by
  refine ⟨fun _ => rfl, fun limit hlimit => ⟨RecordList.page_eq_error_iff hlimit, ?_, ?_⟩⟩
  · have hcut := l.cutFrom_pagePast sort ids none limit
    rw [RecordList.matching_past_none] at hcut
    exact ⟨_, RecordList.page_eq_ok hlimit (by simp), hcut⟩
  · intro id reference hreference
    have hfind : l.find? id ids = some reference := by
      rw [RecordList.find?_eq_find?_admitted, hreference]
    have hcut := l.cutFrom_pagePast sort ids (some reference) limit
    rw [RecordList.matching_past_some] at hcut
    refine ⟨_, RecordList.page_eq_ok hlimit (by simp [hfind]), ?_⟩
    rwa [RecordList.reference?, Option.bind_some, hfind]

/-- Conversations of which four have one id: a deleted one, and two with one sort key. -/
def twinTable : List Conversation :=
  let row (b : UInt8) (t : Int) : Conversation :=
    ⟨.ofByte b, default, "", "console", none, some default, none, false, 0, t⟩
  [{ row 1 9 with isDeleted := true }, row 1 7, row 2 5, row 1 5, row 3 4, row 1 5]

theorem page_cut_from_view_of_twinTable :
    let l : RecordList Conversation := ⟨twinTable, fun c => !c.isDeleted⟩
    let sort : SortOrder Conversation.SortField := ⟨.updatedAt, .desc⟩
    0 < 3 ∧ ((l.admitted {}).find? fun c => decide (c.id = .ofByte 1)) = twinTable[1]? ∧
    l.page ⟨sort, some (.ofByte 4), 3, {}⟩ = .error ⟨.ofByte 4⟩ ∧
    ∃ page, l.page ⟨sort, some (.ofByte 1), 3, {}⟩ = .ok page ∧
      page.CutFrom sort 3 (twinTable.drop 2) ∧ page.data.length = 3 := by
  intro l sort
  obtain ⟨-, hlimited⟩ := page_cut_from_view l sort {}
  obtain ⟨hrefused, -, hanswered⟩ := hlimited 3 (by decide)
  have hfind : ((l.admitted {}).find? fun c => decide (c.id = .ofByte 1)) = twinTable[1]? := by
    decide
  have hview : ((l.admitted {}).filter fun c => decide (sort.past twinTable[1] c)) =
      twinTable.drop 2 := by decide
  obtain ⟨page, hpage, hcut⟩ := hanswered (.ofByte 1) twinTable[1] hfind
  rw [hview] at hcut
  refine ⟨by decide, hfind, ?_, page, hpage, hcut, hcut.length_eq⟩
  exact (hrefused (some (.ofByte 4)) ⟨.ofByte 4⟩).mpr ⟨_, rfl, rfl, by decide⟩

end Parley
