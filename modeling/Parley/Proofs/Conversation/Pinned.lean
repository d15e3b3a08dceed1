import Parley.Conversation.ListQuery
import Parley.Proofs.Page.Cut
import Parley.Proofs.Page.Walk

/-!
# Pinned conversations and all others

A listing may show only what is pinned or hide it, by a list of ids to admit in the one case
and of ids to leave out in the other. Either list is looked at through its members alone, so
repeated ids and ids of nothing in view make no difference, and an empty list admits nothing in
the one case and everything in the other. What a view shows is split in two thereby, in the
records of a page and in what a cursor may name.

* `shows_pinnedFilter`: what is in view under the filter.
* `sorted_pinnedFilter`: what is listed under it is a part of what is listed without it, in the
  same order.
* `resolves_pinnedFilter`: a cursor goes with the part that its record is in.
* `pinned_partitions_listing`: the two filtered listings partition the whole one, and so do
  the cursors that they go on from.
-/
namespace Parley

open Conversation (pinnedFilter)

variable {ρ φ : Type} [Keyed ρ φ]

namespace RecordList

variable {l : RecordList ρ} {sort : SortOrder φ} {ids : IdFilter} {limit : Nat} {id : Uuid}

/-! ## Cursors -/

theorem resolves_some_iff : l.Resolves ids (some id) ↔ ∃ r, l.Shows ids r ∧ Keyed.id r = id := by
  have hnone : l.find? id ids = none ↔ ∀ r, l.Shows ids r → Keyed.id r ≠ id := find?_eq_none_iff
  unfold Resolves
  cases hfind : l.find? id ids with
  | none => simpa [hfind] using hnone.mp hfind
  | some r =>
    have hsome : ¬ ∀ r, l.Shows ids r → Keyed.id r ≠ id := by
      rw [← hnone, hfind]
      exact Option.some_ne_none r
    simpa [hfind] using hsome

/-- A request for any records is answered if its cursor is found, and refused otherwise. -/
theorem answered_iff_resolves (hlimit : 0 < limit) :
    ((∃ page, l.page ⟨sort, some id, limit, ids⟩ = .ok page) ↔ l.Resolves ids (some id)) ∧
    (l.page ⟨sort, some id, limit, ids⟩ = .error ⟨id⟩ ↔ ¬ l.Resolves ids (some id)) := by
  by_cases hresolves : l.Resolves ids (some id)
  · rw [page_eq_ok hlimit hresolves]
    exact ⟨iff_of_true ⟨_, rfl⟩ hresolves,
      iff_of_false (fun h => by cases h) (not_not.mpr hresolves)⟩
  · have hfind : l.find? id ids = none := by simpa [Resolves] using hresolves
    have hrefused : ¬ ∃ page, l.page ⟨sort, some id, limit, ids⟩ = .ok page := by
      rw [page_eq_error hlimit hfind]
      rintro ⟨page, ⟨⟩⟩
    exact ⟨iff_of_false hrefused hresolves,
      iff_of_true (page_eq_error hlimit hfind) hresolves⟩

/-! ## One part of a listing -/

variable {wanted : Bool} {pinned : List Uuid}

/-- Under the filter is in view what is pinned or what is not, whichever is wanted. -/
theorem shows_pinnedFilter {r : ρ} : l.Shows (pinnedFilter (some wanted) pinned) r ↔
    l.Shows {} r ∧ decide ((Keyed.id r : Uuid) ∈ pinned) = wanted := by
  unfold Shows
  cases wanted <;> simp [pinnedFilter, IdFilter.admits, and_assoc]

/-- What is listed under the filter is a part of what is listed without it, in its order. -/
theorem sorted_pinnedFilter (hd : l.Distinct) (sort : SortOrder φ) (wanted : Bool)
    (pinned : List Uuid) : l.sorted sort (pinnedFilter (some wanted) pinned) none =
      (l.sorted sort {} none).filter fun r => decide ((Keyed.id r : Uuid) ∈ pinned) == wanted := by
  apply SortOrder.eq_of_mem_iff (pairwise_sorted hd sort _ none)
    ((pairwise_sorted hd sort {} none).filter _)
  intro r
  rw [List.mem_filter, mem_sorted_none, mem_sorted_none, shows_pinnedFilter, beq_iff_eq]

/-- A page with room for the whole view shows all of the wanted part. -/
theorem exists_pinned_page (hd : l.Distinct) (sort : SortOrder φ) (wanted : Bool)
    (pinned : List Uuid) (hlimit : (l.admitted {}).length ≤ limit) :
    ∃ page, l.page ⟨sort, none, limit, pinnedFilter (some wanted) pinned⟩ = .ok page ∧
      page.data = (l.sorted sort {} none).filter fun r =>
        decide ((Keyed.id r : Uuid) ∈ pinned) == wanted := by
  rw [← sorted_pinnedFilter hd]
  exact exists_whole_page sort ((l.length_admitted_le _).trans hlimit)

/-- A cursor is found under the filter if it is found without it, and its record is of the
wanted part. -/
theorem resolves_pinnedFilter : l.Resolves (pinnedFilter (some wanted) pinned) (some id) ↔
    l.Resolves {} (some id) ∧ decide (id ∈ pinned) = wanted := by
  rw [resolves_some_iff, resolves_some_iff]
  constructor
  · rintro ⟨r, hr, rfl⟩
    obtain ⟨hshows, hwanted⟩ := shows_pinnedFilter.mp hr
    exact ⟨⟨r, hshows, rfl⟩, hwanted⟩
  · rintro ⟨⟨r, hshows, rfl⟩, hwanted⟩
    exact ⟨r, shows_pinnedFilter.mpr ⟨hshows, hwanted⟩, rfl⟩

end RecordList

/-- What is listed as pinned and what is listed as not pinned are parts of the whole listing that
have nothing in common and together make it up, if pages have room for it. A cursor that is found
without the filter is found in exactly one of the parts, and one that is not is found in neither.
A request for any records is answered if its cursor is found, and refused otherwise. The list may
be any, such as the view of a scope, and so may be the ids that are pinned. -/
theorem pinned_partitions_listing {l : RecordList ρ} (hd : l.Distinct) (sort : SortOrder φ)
    (pinned : List Uuid) :
    (∀ limit, (l.admitted {}).length ≤ limit →
      ∃ only others all : Page ρ,
        l.page ⟨sort, none, limit, pinnedFilter (some true) pinned⟩ = .ok only ∧
        l.page ⟨sort, none, limit, pinnedFilter (some false) pinned⟩ = .ok others ∧
        l.page ⟨sort, none, limit, pinnedFilter none pinned⟩ = .ok all ∧
        only.data.Disjoint others.data ∧
        only.data.Sublist all.data ∧ others.data.Sublist all.data ∧
        (∀ r, r ∈ all.data ↔ r ∈ only.data ∨ r ∈ others.data) ∧
        (∀ r ∈ all.data, r ∈ only.data ↔ Keyed.id r ∈ pinned) ∧
        all.data.Perm (l.admitted {})) ∧
    ∀ id,
      let resolves wanted : Prop := l.Resolves (pinnedFilter wanted pinned) (some id)
      (resolves none → Xor (resolves (some true)) (resolves (some false))) ∧
      (¬ resolves none → ¬ resolves (some true) ∧ ¬ resolves (some false)) ∧
      ∀ wanted limit, 0 < limit →
        let answer := l.page ⟨sort, some id, limit, pinnedFilter wanted pinned⟩
        ((∃ page, answer = .ok page) ↔ resolves wanted) ∧
        (answer = .error ⟨id⟩ ↔ ¬ resolves wanted) := by
  constructor
  · intro limit hlimit
    obtain ⟨only, honly, honlyData⟩ := RecordList.exists_pinned_page hd sort true pinned hlimit
    obtain ⟨others, hothers, hothersData⟩ :=
      RecordList.exists_pinned_page hd sort false pinned hlimit
    obtain ⟨all, hall, hallData⟩ := RecordList.exists_whole_page sort hlimit
    rw [← hallData] at honlyData hothersData
    have hmemOnly (r : ρ) : r ∈ only.data ↔ r ∈ all.data ∧ Keyed.id r ∈ pinned := by
      simp [honlyData]
    have hmemOthers (r : ρ) : r ∈ others.data ↔ r ∈ all.data ∧ Keyed.id r ∉ pinned := by
      simp [hothersData]
    refine ⟨only, others, all, honly, hothers, hall, ?_, ?_, ?_, ?_, ?_, ?_⟩
    · intro r hr hr'
      exact ((hmemOthers r).mp hr').2 ((hmemOnly r).mp hr).2
    · exact honlyData ▸ List.filter_sublist
    · exact hothersData ▸ List.filter_sublist
    · intro r
      rw [hmemOnly, hmemOthers]
      tauto
    · exact fun r hr => (hmemOnly r).trans (and_iff_right hr)
    · rw [hallData, ← RecordList.matching_past_none l sort]
      exact List.mergeSort_perm _ _
  · intro id resolves
    have hpart (wanted : Bool) : resolves (some wanted) ↔
        resolves none ∧ decide (id ∈ pinned) = wanted := RecordList.resolves_pinnedFilter
    refine ⟨fun hfound => ?_, fun hmissing => ?_, fun wanted limit hlimit => ?_⟩
    · rw [hpart, hpart]
      cases decide (id ∈ pinned) <;> simp [Xor, hfound]
    · exact ⟨fun h => hmissing ((hpart true).mp h).1, fun h => hmissing ((hpart false).mp h).1⟩
    · exact RecordList.answered_iff_resolves hlimit

/-- What is pinned in the scope of an account is one of the three conversations that it shows.
The list of ids also has that of a deleted conversation and one that there is none of. -/
theorem pinned_partitions_listing_of_crowdedTable :
    let s : Conversation.Scope := ⟨default, .internalUser default, .explore⟩
    let l := s.view crowdedTable
    let sort : SortOrder Conversation.SortField := ⟨.updatedAt, .desc⟩
    let pinned : List Uuid := [.ofByte 2, .ofByte 9, .ofByte 2, .ofByte 77]
    l.Distinct ∧ (l.admitted {}).length ≤ 3 ∧
    (∃ only others all : Page Conversation,
      l.page ⟨sort, none, 3, pinnedFilter (some true) pinned⟩ = .ok only ∧
      l.page ⟨sort, none, 3, pinnedFilter (some false) pinned⟩ = .ok others ∧
      l.page ⟨sort, none, 3, pinnedFilter none pinned⟩ = .ok all ∧
      only.data.map (·.id) = [.ofByte 2] ∧ all.data.length = 3 ∧
      only.data.Disjoint others.data ∧
      ∀ r, r ∈ all.data ↔ r ∈ only.data ∨ r ∈ others.data) ∧
    l.Resolves {} (some (.ofByte 1)) ∧
    Xor (l.Resolves (pinnedFilter (some true) pinned) (some (.ofByte 1)))
      (l.Resolves (pinnedFilter (some false) pinned) (some (.ofByte 1))) ∧
    ¬ l.Resolves {} (some (.ofByte 9)) ∧
    ∀ wanted, l.page ⟨sort, some (.ofByte 9), 3, pinnedFilter wanted pinned⟩ =
      .error ⟨.ofByte 9⟩ := by
  intro s l sort pinned
  have hd : l.Distinct := by
    unfold RecordList.Distinct
    decide
  have hlimit : (l.admitted {}).length ≤ 3 := by decide
  obtain ⟨hpages, hcursors⟩ := pinned_partitions_listing hd sort pinned
  obtain ⟨only, others, all, honly, hothers, hall, hdisjoint, -, -, hcover, -, hperm⟩ :=
    hpages 3 hlimit
  have hpinned : l.page ⟨sort, none, 3, pinnedFilter (some true) pinned⟩ =
      .ok ⟨3, false, crowdedTable.filter fun c => c.id = .ofByte 2⟩ := by decide +kernel
  have honlyIds : only.data.map (·.id) = [.ofByte 2] := by
    cases hpinned.symm.trans honly
    decide
  have hfound : l.Resolves {} (some (.ofByte 1)) := by
    refine RecordList.resolves_some_iff.mpr ⟨crowdedTable[1], ?_, by decide⟩
    exact RecordList.mem_admitted.mp (by decide)
  have hmissing : ¬ l.Resolves {} (some (.ofByte 9)) := by
    intro h
    exact absurd (h _ rfl) (by decide)
  obtain ⟨hexactlyOne, -, -⟩ := hcursors (.ofByte 1)
  obtain ⟨-, hneither, hanswer⟩ := hcursors (.ofByte 9)
  refine ⟨hd, hlimit, ⟨only, others, all, honly, hothers, hall, honlyIds, hperm.length_eq,
    hdisjoint, hcover⟩, hfound, hexactlyOne hfound, hmissing, fun wanted => ?_⟩
  refine (hanswer wanted 3 (by decide)).2.mpr ?_
  match wanted with
  | none => exact hmissing
  | some true => exact (hneither hmissing).1
  | some false => exact (hneither hmissing).2

end Parley
