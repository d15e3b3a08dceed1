import Parley.Proofs.Page.Cut

/-!
# Pages on both sides of a record

A cursor cuts a listing in two at the sort key of its record, and each direction shows one of
the parts. Between them lie the records that share the sort key, which neither direction
shows. Where pages have room for all, the parts make up the whole listing again.

* `precedes_desc`: what comes later in one direction comes earlier in the other.
* `sorted_desc`: so the descending listing is the ascending one, read backwards.
* `pairwise_level`: records with one sort key are listed in the order of their ids.
* `sorted_around`: what lies on one side of a sort key, what has it, and what lies on the
  other side, are the listing.
* `pages_fit_around_cursor`: all of this for pages.
-/
namespace Parley

variable {ρ φ : Type} [Keyed ρ φ]

/-! ## Directions -/

namespace SortOrder

variable {field : φ} {r s : ρ}

theorem past_desc :
    (SortOrder.mk field .desc).past r s ↔ (SortOrder.mk field .asc).past s r := Iff.rfl

/-- What comes later in one direction comes earlier in the other. -/
theorem precedes_desc :
    (SortOrder.mk field .desc).precedes r s ↔ (SortOrder.mk field .asc).precedes s r := by
  have hties : (SortOrder.mk field .desc).ties r s ↔ (SortOrder.mk field .asc).ties s r := eq_comm
  unfold precedes
  rw [past_desc, hties]

end SortOrder

namespace RecordList

open SortOrder

variable {l : RecordList ρ} {ids : IdFilter} {field : φ} {c r : ρ}

/-- What lies past a record in descending order is in ascending order, read backwards. -/
theorem pairwise_reverse_sorted_desc (hd : l.Distinct) (field : φ) (ids : IdFilter)
    (reference : Option ρ) :
    (l.sorted ⟨field, .desc⟩ ids reference).reverse.Pairwise
      (SortOrder.mk field .asc).precedes :=
  List.pairwise_reverse.mpr ((pairwise_sorted hd _ ids reference).imp precedes_desc.mp)

/-- The descending listing is the ascending one, read backwards. -/
theorem sorted_desc (hd : l.Distinct) (field : φ) (ids : IdFilter) :
    l.sorted ⟨field, .desc⟩ ids (none : Option ρ) =
      (l.sorted ⟨field, .asc⟩ ids none).reverse := by
  rw [← List.reverse_eq_iff]
  apply eq_of_mem_iff (pairwise_reverse_sorted_desc hd field ids none)
    (pairwise_sorted hd _ ids none)
  intro r
  rw [List.mem_reverse, mem_sorted_none, mem_sorted_none]

/-! ## Records with one sort key -/

/-- The records in view that have the sort key of a record, in the order of their ids. -/
def level (l : RecordList ρ) (field : φ) (ids : IdFilter) (c : ρ) : List ρ :=
  ((l.admitted ids).filter fun r =>
    decide (Keyed.key field r = Keyed.key field c)).mergeSort fun r s =>
      decide ((Keyed.id r : Uuid) ≤ Keyed.id s)

theorem mem_level :
    r ∈ l.level field ids c ↔ l.Shows ids r ∧ (SortOrder.mk field .asc).ties r c := by
  rw [level, List.mem_mergeSort, List.mem_filter, mem_admitted, decide_eq_true_eq]
  rfl

theorem pairwise_level (hd : l.Distinct) (field : φ) (ids : IdFilter) (c : ρ) :
    (l.level field ids c).Pairwise (SortOrder.mk field .asc).precedes := by
  have hbyId : (l.level field ids c).Pairwise fun r s =>
      decide ((Keyed.id r : Uuid) ≤ Keyed.id s) = true := by
    apply List.pairwise_mergeSort
    · intro r s t hrs hst
      rw [decide_eq_true_eq, uuid_le_iff] at *
      exact Nat.le_trans hrs hst
    · intro r s
      rw [Bool.or_eq_true, decide_eq_true_eq, decide_eq_true_eq, uuid_le_iff, uuid_le_iff]
      exact Nat.le_total _ _
  have hids : ((l.level field ids c).map (Keyed.id : ρ → Uuid)).Nodup := by
    have hview := matching_ids_nodup hd (PageQuery.past ⟨field, .asc⟩ ids (none : Option ρ))
    rw [matching_past_none] at hview
    exact ((List.mergeSort_perm _ _).map _).nodup_iff.mpr
      (hview.sublist (List.filter_sublist.map _))
  refine pairwise_precedes_of_before (hbyId.imp_of_mem ?_) hids
  intro r s hr hs hle
  have htie : (SortOrder.mk field .asc).ties r s :=
    (mem_level.mp hr).2.trans (mem_level.mp hs).2.symm
  rw [decide_eq_true_eq, uuid_le_iff] at hle
  rw [before_iff]
  exact .inr ⟨(ties_iff _ r s).mp htie, Int.ofNat_le.mpr hle⟩

/-! ## Around a record -/

/-- What lies on one side of a sort key, what has it, and what lies on the other side, are the
whole listing. -/
theorem sorted_around (hd : l.Distinct) (field : φ) (ids : IdFilter) (c : ρ) :
    (l.sorted ⟨field, .desc⟩ ids (some c)).reverse ++ l.level field ids c ++
      l.sorted ⟨field, .asc⟩ ids (some c) = l.sorted ⟨field, .asc⟩ ids none := by
  let asc : SortOrder φ := ⟨field, .asc⟩
  have hbehind : ∀ r ∈ (l.sorted ⟨field, .desc⟩ ids (some c)).reverse,
      asc.height r < asc.height c := fun r hr =>
    (past_iff asc r c).mp (past_desc.mp (mem_sorted_some.mp (List.mem_reverse.mp hr)).2)
  have hlevel : ∀ r ∈ l.level field ids c, asc.height r = asc.height c :=
    fun r hr => (ties_iff asc r c).mp (mem_level.mp hr).2
  have hahead : ∀ r ∈ l.sorted asc ids (some c), asc.height c < asc.height r :=
    fun r hr => (past_iff asc c r).mp (mem_sorted_some.mp hr).2
  have hfront : ((l.sorted ⟨field, .desc⟩ ids (some c)).reverse ++
      l.level field ids c).Pairwise asc.precedes := by
    refine List.pairwise_append.mpr ⟨pairwise_reverse_sorted_desc hd field ids _,
      pairwise_level hd field ids c, fun r hr s hs => ?_⟩
    have hrc := hbehind r hr
    have hsc := hlevel s hs
    rw [precedes_iff]
    omega
  have hall : ((l.sorted ⟨field, .desc⟩ ids (some c)).reverse ++ l.level field ids c ++
      l.sorted asc ids (some c)).Pairwise asc.precedes := by
    refine List.pairwise_append.mpr ⟨hfront, pairwise_sorted hd asc ids _, fun r hr s hs => ?_⟩
    have hrc : asc.height r ≤ asc.height c := by
      rcases List.mem_append.mp hr with hr | hr
      · exact Int.le_of_lt (hbehind r hr)
      · exact Int.le_of_eq (hlevel r hr)
    have hcs := hahead s hs
    rw [precedes_iff]
    omega
  apply eq_of_mem_iff hall (pairwise_sorted hd asc ids none)
  intro r
  -- the sort key of a record lies before that of `c`, is the same, or lies past it
  have hcases : asc.past r c ∨ asc.ties r c ∨ asc.past c r := by
    rw [past_iff, past_iff, ties_iff]
    omega
  simp only [List.mem_append, List.mem_reverse, mem_sorted_some, mem_sorted_none, mem_level,
    past_desc]
  tauto

end RecordList

/-- The descending page past a record in view, read backwards, then the records that have its
sort key, in the order of their ids, then the ascending page past it, are the ascending listing,
if no page has a limit that is too small for the view. The descending listing is the same, read
backwards, and no record is on both of the pages past the cursor. -/
theorem pages_fit_around_cursor {l : RecordList ρ} (hd : l.Distinct) (field : φ)
    {ids : IdFilter} {c : ρ} (hc : c ∈ l.admitted ids) {limit : Nat}
    (hlimit : (l.admitted ids).length ≤ limit) :
    ∃ ascending descending behind ahead : Page ρ,
      l.page ⟨⟨field, .asc⟩, none, limit, ids⟩ = .ok ascending ∧
      l.page ⟨⟨field, .desc⟩, none, limit, ids⟩ = .ok descending ∧
      l.page ⟨⟨field, .desc⟩, some (Keyed.id c), limit, ids⟩ = .ok behind ∧
      l.page ⟨⟨field, .asc⟩, some (Keyed.id c), limit, ids⟩ = .ok ahead ∧
      behind.data.reverse ++ l.level field ids c ++ ahead.data = ascending.data ∧
      c ∈ l.level field ids c ∧
      descending.data = ascending.data.reverse ∧
      ascending.data.Perm (l.admitted ids) ∧
      ∀ r ∈ behind.data, r ∉ ahead.data := by
  have hshows : l.Shows ids c := RecordList.mem_admitted.mp hc
  have hpos : 0 < limit := Nat.lt_of_lt_of_le (List.length_pos_of_mem hc) hlimit
  have hfind : l.find? (Keyed.id c) ids = some c :=
    (RecordList.find?_eq_some_iff hd).mpr ⟨hshows, rfl⟩
  have hpast (sort : SortOrder φ) : l.page ⟨sort, some (Keyed.id c), limit, ids⟩ =
      .ok (l.pagePast sort ids (some c) limit) := by
    rw [RecordList.page_eq_ok hpos (by simp [hfind]), RecordList.reference?, Option.bind_some,
      hfind]
  obtain ⟨ascending, hascending, hasc⟩ :=
    RecordList.exists_whole_page (⟨field, .asc⟩ : SortOrder φ) hlimit
  obtain ⟨descending, hdescending, hdesc⟩ :=
    RecordList.exists_whole_page (⟨field, .desc⟩ : SortOrder φ) hlimit
  refine ⟨ascending, descending, _, _, hascending, hdescending, hpast _, hpast _, ?_⟩
  rw [hasc, hdesc, RecordList.data_pagePast_of_le _ _ hlimit,
    RecordList.data_pagePast_of_le _ _ hlimit]
  refine ⟨RecordList.sorted_around hd field ids c, RecordList.mem_level.mpr ⟨hshows, rfl⟩,
    RecordList.sorted_desc hd field ids, ?_, ?_⟩
  · rw [← RecordList.matching_past_none l ⟨field, .asc⟩ ids]
    exact List.mergeSort_perm _ _
  · intro r hbehind hahead
    exact SortOrder.precedes_asymm (.inl (RecordList.mem_sorted_some.mp hahead).2)
      (.inl (SortOrder.past_desc.mp (RecordList.mem_sorted_some.mp hbehind).2))

/-- Conversations of which three have one sort key, and the id of one of these is also that of
a deleted one. -/
def leveledTable : List Conversation :=
  let row (b : UInt8) (t : Int) : Conversation :=
    ⟨.ofByte b, default, "", "console", none, some default, none, false, 0, t⟩
  [{ row 2 8 with isDeleted := true }, row 6 9, row 3 5, row 1 7, row 4 2, row 2 5, row 5 5]

theorem pages_fit_around_cursor_in_leveledTable :
    let l : RecordList Conversation := ⟨leveledTable, fun c => !c.isDeleted⟩
    let field := Conversation.SortField.updatedAt
    ∃ c, leveledTable[5]? = some c ∧ l.Distinct ∧ c ∈ l.admitted {} ∧ (l.admitted {}).length ≤ 6 ∧
      ∃ ascending descending behind ahead : Page Conversation,
        l.page ⟨⟨field, .asc⟩, none, 6, {}⟩ = .ok ascending ∧
        l.page ⟨⟨field, .desc⟩, none, 6, {}⟩ = .ok descending ∧
        l.page ⟨⟨field, .desc⟩, some (.ofByte 2), 6, {}⟩ = .ok behind ∧
        l.page ⟨⟨field, .asc⟩, some (.ofByte 2), 6, {}⟩ = .ok ahead ∧
        behind.data.reverse ++ l.level field {} c ++ ahead.data = ascending.data ∧
        descending.data = ascending.data.reverse ∧ behind.data.length = 1 ∧
        (l.level field {} c).length = 3 ∧ ahead.data.length = 2 ∧
        ∀ r ∈ behind.data, r ∉ ahead.data := by
  intro l field
  have hd : l.Distinct := by
    unfold RecordList.Distinct
    decide
  have hc : leveledTable[5] ∈ l.admitted {} := by decide
  have hlimit : (l.admitted {}).length ≤ 6 := by decide
  obtain ⟨ascending, descending, behind, ahead, hascending, hdescending, hbehind, hahead, hwhole, -,
    hreverse, hperm, hdisjoint⟩ := pages_fit_around_cursor hd field hc hlimit
  have hpage : l.page ⟨⟨field, .desc⟩, some (.ofByte 2), 6, {}⟩ =
      .ok ⟨6, false, [leveledTable[4]]⟩ := by decide +kernel
  have hbehindLength : behind.data.length = 1 := by
    cases hpage.symm.trans hbehind
    rfl
  have hlevelLength : (l.level field {} leveledTable[5]).length = 3 := by
    rw [RecordList.level, List.length_mergeSort]
    decide
  have haheadLength : ahead.data.length = 2 := by
    have htotal : ascending.data.length = 6 := hperm.length_eq
    rw [← hwhole, List.length_append, List.length_append, List.length_reverse] at htotal
    omega
  exact ⟨_, rfl, hd, hc, hlimit, ascending, descending, behind, ahead, hascending, hdescending,
    hbehind, hahead, hwhole, hreverse, hbehindLength, hlevelLength, haheadLength, hdisjoint⟩

end Parley
