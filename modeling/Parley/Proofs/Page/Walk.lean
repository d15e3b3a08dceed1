import Mathlib
import Parley.Conversation.Basic
import Parley.Proofs.Page.View
import Parley.Proofs.Uuid

/-!
# Walking pages

A walker asks for the page after the last record of the page before, as long as it
is told that there is more. What it looks at and how many records it asks for may
change from one request to the next (`Walker`); a walk is what it has been given so
far and how it stands (`Walk`).

Over one view that stays as it is:

* `walk_goes_on`: a page that says that there is more is followed by the page past
  its last record.
* `mem_records_of_finished`: a finished walk has met all but the records that tie with the
  last one of some page and come after it (`PassedOver`).
* `finished_walk_exists`: every walk with positive limits comes to its end.
* `walk_meets_view`: all of this, with the order of what was met.
-/
namespace Parley

open SortOrder RecordList

variable {ρ φ : Type} [Keyed ρ φ]

def Page.lastId? (page : Page ρ) : Option Uuid :=
  page.data.getLast?.map Keyed.id

/-- What one asks for, and what the requests see, in order. -/
structure Walker (ρ φ : Type) where
  sort : SortOrder φ
  ids : IdFilter
  view : Nat → RecordList ρ
  limit : Nat → Nat

/-- The answer to the request of a number, for the page after a cursor. -/
def Walker.ask (w : Walker ρ φ) (n : Nat) (cursor : Option Uuid) :
    Except ReferenceNotFound (Page ρ) :=
  (w.view n).page ⟨w.sort, cursor, w.limit n, w.ids⟩

def RecordList.walker (l : RecordList ρ) (sort : SortOrder φ) (ids : IdFilter)
    (limits : Nat → Nat) : Walker ρ φ :=
  ⟨sort, ids, fun _ => l, limits⟩

/-- How a walk stands. -/
inductive Ending where
  /-- There may be more, but it was not asked for. -/
  | paused
  | refused (e : ReferenceNotFound)
  /-- There is no more. -/
  | finished
  deriving DecidableEq, Repr

/-- The pages of a walk from the request of a number on. -/
inductive Walk (w : Walker ρ φ) : Nat → Option Uuid → List (Page ρ) → Ending → Prop where
  | pause (n : Nat) (cursor : Option Uuid) : Walk w n cursor [] .paused
  | refuse {n : Nat} {cursor : Option Uuid} {e : ReferenceNotFound}
    (h : w.ask n cursor = .error e) : Walk w n cursor [] (.refused e)
  | finish {n : Nat} {cursor : Option Uuid} {page : Page ρ} (h : w.ask n cursor = .ok page)
    (hm : page.hasMore = false) : Walk w n cursor [page] .finished
  | next {n : Nat} {cursor : Option Uuid} {page : Page ρ} {pages : List (Page ρ)} {ending : Ending}
    (h : w.ask n cursor = .ok page) (hm : page.hasMore = true)
    (rest : Walk w (n + 1) page.lastId? pages ending) : Walk w n cursor (page :: pages) ending

def records (pages : List (Page ρ)) : List ρ :=
  pages.flatMap Page.data

/-- The record ties with the last one of some page and comes after it. -/
def PassedOver (sort : SortOrder φ) (pages : List (Page ρ)) (r : ρ) : Prop :=
  ∃ page ∈ pages, ∃ last, page.data.getLast? = some last ∧ sort.ties last r ∧ sort.precedes last r

/-! ## One request -/

/-- The record is in view, and past the one to start from, if there is one. -/
def RecordList.Ahead (l : RecordList ρ) (sort : SortOrder φ) (ids : IdFilter) (start : Option ρ)
    (r : ρ) : Prop :=
  l.Shows ids r ∧ ∀ s ∈ start, sort.past s r

/-- The cursor, if there is one, names a record in view. -/
def RecordList.Resolves (l : RecordList ρ) (ids : IdFilter) (cursor : Option Uuid) : Prop :=
  ∀ id ∈ cursor, (l.find? id ids).isSome = true

/-- A request is answered if its cursor is in view, and with the page past it. -/
theorem ask_eq_ok_iff {w : Walker ρ φ} {n : Nat} (h0 : 0 < w.limit n) {cursor : Option Uuid}
    {page : Page ρ} : w.ask n cursor = .ok page ↔ (w.view n).Resolves w.ids cursor ∧
      page = (w.view n).pagePast w.sort w.ids ((w.view n).reference? w.ids cursor) (w.limit n) := by
  unfold Walker.ask
  by_cases hc : (w.view n).Resolves w.ids cursor
  · rw [page_eq_ok h0 hc]
    simp [hc, eq_comm]
  · have hc' := hc
    simp only [Resolves, Option.mem_def, not_forall] at hc'
    obtain ⟨id, rfl, hn⟩ := hc'
    rw [page_eq_error h0 (by simpa using hn)]
    simp [hc]

theorem not_refused_of_resolves {w : Walker ρ φ} {n : Nat} (h0 : 0 < w.limit n)
    {cursor : Option Uuid} (hc : (w.view n).Resolves w.ids cursor) {e : ReferenceNotFound} :
    w.ask n cursor ≠ .error e := by
  have := (ask_eq_ok_iff h0).mpr ⟨hc, rfl⟩
  rw [this]
  simp

/-! ## One view -/

section View

variable {l : RecordList ρ} {sort : SortOrder φ} {ids : IdFilter} {limits : Nat → Nat}

theorem resolves_id (hd : l.Distinct) {start : Option ρ} (hstart : ∀ r ∈ start, l.Shows ids r) :
    l.Resolves ids (start.map Keyed.id) := by
  intro id hid
  obtain ⟨r, hr, rfl⟩ := Option.mem_map.mp hid
  rw [(find?_eq_some_iff hd).mpr ⟨hstart r hr, rfl⟩]
  rfl

theorem ask_walker_eq_ok_iff (hpos : ∀ n, 0 < limits n) {n : Nat} {cursor : Option Uuid}
    {page : Page ρ} : (l.walker sort ids limits).ask n cursor = .ok page ↔
      l.Resolves ids cursor ∧ page = l.pagePast sort ids (l.reference? ids cursor) (limits n) :=
  ask_eq_ok_iff (hpos n)

/-- The page past a reference record has a last record, which is in view, if it says
that there is more. The cursor on it leads back to it. -/
theorem walk_goes_on (hd : l.Distinct) {reference : Option ρ} {limit : Nat}
    (hm : (l.pagePast sort ids reference limit).hasMore = true) :
    ∃ last, (l.pagePast sort ids reference limit).data.getLast? = some last ∧
      last ∈ l.matching (PageQuery.past sort ids reference) ∧
      l.Resolves ids (l.pagePast sort ids reference limit).lastId? ∧
      l.reference? ids (l.pagePast sort ids reference limit).lastId? = some last := by
  obtain ⟨last, hl, -, -⟩ := (hasMore_pagePast l sort ids reference limit).mp hm
  rw [← data_pagePast] at hl
  have hmem : last ∈ l.matching (PageQuery.past sort ids reference) := by
    have := List.mem_of_getLast? hl
    rw [data_pagePast] at this
    exact mem_sorted.mp (List.mem_of_mem_take this)
  have hfind : l.find? (Keyed.id last) ids = some last :=
    (find?_eq_some_iff hd).mpr ⟨(mem_matching.mp hmem).1, rfl⟩
  refine ⟨last, hl, hmem, ?_, ?_⟩
  · simp [Resolves, Page.lastId?, hl, hfind]
  · simp [reference?, Page.lastId?, hl, hfind]

/-- What is on a page of the view and what is not. -/
theorem mem_page_iff (hd : l.Distinct) {reference : Option ρ} {limit : Nat} {last : ρ}
    (hl : (l.pagePast sort ids reference limit).data.getLast? = some last) {r : ρ} :
    r ∈ (l.pagePast sort ids reference limit).data ↔
      r ∈ l.matching (PageQuery.past sort ids reference) ∧ ¬ sort.precedes last r := by
  rw [data_pagePast] at *
  refine ⟨fun h => ?_, fun ⟨hr, hn⟩ => ?_⟩
  · have hr := List.mem_of_mem_take h
    exact ⟨mem_sorted.mp hr, (mem_take_iff (pairwise_sorted hd sort ids reference) hl hr).mp h⟩
  · exact (mem_take_iff (pairwise_sorted hd sort ids reference) hl (mem_sorted.mpr hr)).mpr hn

/-- A page without a last record shows that nothing is left. -/
theorem matching_eq_nil {reference : Option ρ} {limit : Nat} (h0 : 0 < limit)
    (hl : (l.pagePast sort ids reference limit).data.getLast? = none) {r : ρ} :
    r ∉ l.matching (PageQuery.past sort ids reference) := by
  rw [data_pagePast, List.getLast?_eq_none_iff, List.take_eq_nil_iff] at hl
  rw [← mem_sorted, hl.resolve_left (by omega)]
  exact List.not_mem_nil

/-! ## Whole walks -/

/-- Induction along a walk over one view, by the reference record of each request. -/
theorem walk_induction (hd : l.Distinct) (hpos : ∀ n, 0 < limits n)
    {motive : Option ρ → List (Page ρ) → Ending → Prop}
    (pause : ∀ reference, motive reference [] .paused)
    (finish : ∀ reference limit, 0 < limit →
      (l.pagePast sort ids reference limit).hasMore = false →
      motive reference [l.pagePast sort ids reference limit] .finished)
    (next : ∀ reference limit last pages ending, 0 < limit →
      (l.pagePast sort ids reference limit).hasMore = true →
      (l.pagePast sort ids reference limit).data.getLast? = some last →
      last ∈ l.matching (PageQuery.past sort ids reference) →
      motive (some last) pages ending →
      motive reference (l.pagePast sort ids reference limit :: pages) ending)
    {n : Nat} {cursor : Option Uuid} {pages : List (Page ρ)} {ending : Ending}
    (hw : Walk (l.walker sort ids limits) n cursor pages ending) (hc : l.Resolves ids cursor) :
    motive (l.reference? ids cursor) pages ending := by
  induction hw with
  | pause => exact pause _
  | refuse h => exact absurd h (not_refused_of_resolves (hpos _) hc)
  | finish h hm =>
    obtain ⟨-, rfl⟩ := (ask_walker_eq_ok_iff hpos).mp h
    exact finish _ _ (hpos _) hm
  | next h hm _ ih =>
    obtain ⟨-, rfl⟩ := (ask_walker_eq_ok_iff hpos).mp h
    obtain ⟨last, hl, hmem, hres, href⟩ := walk_goes_on hd hm
    have hrest := ih hres
    rw [href] at hrest
    exact next _ _ last _ _ (hpos _) hm hl hmem hrest

/-- What holds of the pages of every walk, finished or not. -/
structure Meets (l : RecordList ρ) (sort : SortOrder φ) (ids : IdFilter) (reference : Option ρ)
    (pages : List (Page ρ)) : Prop where
  inView : ∀ r ∈ records pages, r ∈ l.matching (PageQuery.past sort ids reference)
  ordered : (records pages).Pairwise sort.precedes
  kept : ∀ r ∈ records pages, ¬ PassedOver sort pages r

theorem mem_records_of_getLast? {pages : List (Page ρ)} {page : Page ρ} (hp : page ∈ pages)
    {last : ρ} (hl : page.data.getLast? = some last) : last ∈ records pages :=
  List.mem_flatMap.mpr ⟨page, hp, List.mem_of_getLast? hl⟩

theorem passedOver_cons {page : Page ρ} {pages : List (Page ρ)} {last r : ρ}
    (hl : page.data.getLast? = some last) : PassedOver sort (page :: pages) r ↔
      (sort.ties last r ∧ sort.precedes last r) ∨ PassedOver sort pages r := by
  simp only [PassedOver, List.mem_cons, exists_eq_or_imp]
  simp [hl]

theorem pairwise_page (hd : l.Distinct) (reference : Option ρ) (limit : Nat) :
    (l.pagePast sort ids reference limit).data.Pairwise sort.precedes := by
  rw [data_pagePast]
  exact (pairwise_sorted hd sort ids reference).sublist (List.take_sublist _ _)

theorem page_meets (hd : l.Distinct) (reference : Option ρ) (limit : Nat) :
    Meets l sort ids reference [l.pagePast sort ids reference limit] := by
  refine ⟨?_, ?_, ?_⟩ <;> simp only [records, List.flatMap_singleton]
  · intro r hr
    rw [data_pagePast] at hr
    exact mem_sorted.mp (List.mem_of_mem_take hr)
  · exact pairwise_page hd reference limit
  · rintro r hr ⟨page, hp, last, hl, -, hlr⟩
    obtain rfl := List.mem_singleton.mp hp
    exact ((mem_page_iff hd hl).mp hr).2 hlr

/-- One page in front of the walk from its last record. -/
theorem meets_cons (hd : l.Distinct) {reference : Option ρ} {limit : Nat} {last : ρ}
    {pages : List (Page ρ)}
    (hl : (l.pagePast sort ids reference limit).data.getLast? = some last)
    (hmem : last ∈ l.matching (PageQuery.past sort ids reference))
    (hrest : Meets l sort ids (some last) pages) :
    Meets l sort ids reference (l.pagePast sort ids reference limit :: pages) := by
  have hon : ∀ r, r ∈ (l.pagePast sort ids reference limit).data →
      r ∈ l.matching (PageQuery.past sort ids reference) ∧ ¬ sort.precedes last r :=
    fun r => (mem_page_iff hd hl).mp
  have hoff : ∀ r ∈ records pages,
      r ∈ l.matching (PageQuery.past sort ids reference) ∧ sort.past last r :=
    fun r hr => (mem_matching_some hmem).mp (hrest.inView r hr)
  refine ⟨?_, ?_, ?_⟩
  · intro r hr
    rcases List.mem_append.mp hr with hr | hr
    · exact (hon r hr).1
    · exact (hoff r hr).1
  · refine List.pairwise_append.mpr ⟨pairwise_page hd reference limit, hrest.ordered, ?_⟩
    intro r hr s hs
    have h₁ := (hon r hr).2
    have h₂ := (hoff s hs).2
    rw [precedes_iff] at *; rw [past_iff] at h₂; omega
  · intro r hr hpass
    rcases (passedOver_cons hl).mp hpass with ⟨hties, hlr⟩ | hpass
    · rcases List.mem_append.mp hr with hr | hr
      · exact (hon r hr).2 hlr
      · have h₂ := (hoff r hr).2
        rw [ties_iff] at hties; rw [past_iff] at h₂; omega
    · rcases List.mem_append.mp hr with hr | hr
      · -- the last record of a later page lies past this one, so `r` does not tie with it
        obtain ⟨page, hp, last', hl', hties, -⟩ := hpass
        have h₁ := (hon r hr).2
        have h₂ := (hoff last' (mem_records_of_getLast? hp hl')).2
        rw [precedes_iff] at h₁; rw [ties_iff] at hties; rw [past_iff] at h₂; omega
      · exact hrest.kept r hr hpass

theorem walk_meets (hd : l.Distinct) (hpos : ∀ n, 0 < limits n) {n : Nat} {cursor : Option Uuid}
    {pages : List (Page ρ)} {ending : Ending}
    (hw : Walk (l.walker sort ids limits) n cursor pages ending) (hc : l.Resolves ids cursor) :
    Meets l sort ids (l.reference? ids cursor) pages := by
  refine walk_induction hd hpos
    (motive := fun reference pages _ => Meets l sort ids reference pages) ?_ ?_ ?_ hw hc
  · intro reference
    exact ⟨by simp [records], by simp [records], by simp [records]⟩
  · intro reference limit _ _
    exact page_meets hd reference limit
  · intro reference limit last pages ending _ _ hl hmem hrest
    exact meets_cons hd hl hmem hrest

/-- A finished walk has met all that was not passed over. -/
theorem mem_records_of_finished (hd : l.Distinct) (hpos : ∀ n, 0 < limits n) {n : Nat}
    {cursor : Option Uuid} {pages : List (Page ρ)}
    (hw : Walk (l.walker sort ids limits) n cursor pages .finished) (hc : l.Resolves ids cursor) :
    ∀ r ∈ l.matching (PageQuery.past sort ids (l.reference? ids cursor)),
      ¬ PassedOver sort pages r → r ∈ records pages := by
  refine walk_induction hd hpos (motive := fun reference pages ending => ending = .finished →
    ∀ r ∈ l.matching (PageQuery.past sort ids reference), ¬ PassedOver sort pages r →
      r ∈ records pages) ?_ ?_ ?_ hw hc rfl
  · intro reference hp
    cases hp
  · intro reference limit h0 hm _ r hr hpass
    simp only [records, List.flatMap_singleton]
    cases hl : (l.pagePast sort ids reference limit).data.getLast? with
    | none => exact absurd hr (matching_eq_nil h0 hl)
    | some last =>
      rw [mem_page_iff hd hl]
      refine ⟨hr, fun hlr => hpass ?_⟩
      rw [passedOver_cons hl]
      refine Or.inl ⟨by_contra fun hties => ?_, hlr⟩
      have hmore := (hasMore_iff hd hl).mpr ⟨r, hr, past_of_precedes hlr hties⟩
      rw [hm] at hmore
      cases hmore
  · intro reference limit last pages ending _ _ hl hmem ih he r hr hpass
    rw [passedOver_cons hl] at hpass
    obtain ⟨hfirst, hrest⟩ := not_or.mp hpass
    refine List.mem_append.mpr ?_
    by_cases hlr : sort.precedes last r
    · have hpast := past_of_precedes hlr fun hties => hfirst ⟨hties, hlr⟩
      exact Or.inr (ih he r ((mem_matching_some hmem).mpr ⟨hr, hpast⟩) hrest)
    · exact Or.inl ((mem_page_iff hd hl).mpr ⟨hr, hlr⟩)

theorem length_matching_lt (hd : l.Distinct) {reference : Option ρ} {last : ρ}
    (hmem : last ∈ l.matching (PageQuery.past sort ids reference)) :
    (l.matching (PageQuery.past sort ids (some last))).length <
      (l.matching (PageQuery.past sort ids reference)).length := by
  have hnot : last ∉ l.matching (PageQuery.past sort ids (some last)) := by
    intro h
    have := (mem_matching_some hmem).mp h
    exact not_precedes_self sort last (precedes_of_past this.2)
  have hnodup : (last :: l.matching (PageQuery.past sort ids (some last))).Nodup :=
    List.nodup_cons.mpr ⟨hnot, List.Nodup.of_map _ (matching_ids_nodup hd _)⟩
  have hsub : last :: l.matching (PageQuery.past sort ids (some last)) ⊆
      l.matching (PageQuery.past sort ids reference) :=
    List.cons_subset.mpr ⟨hmem, fun r hr => ((mem_matching_some hmem).mp hr).1⟩
  have := (List.subperm_of_subset hnodup hsub).length_le
  rw [List.length_cons] at this
  omega

/-- Every walk over a view comes to its end. -/
theorem finished_walk_exists (hd : l.Distinct) (hpos : ∀ n, 0 < limits n) (n : Nat)
    (cursor : Option Uuid) (hc : l.Resolves ids cursor) :
    ∃ pages, Walk (l.walker sort ids limits) n cursor pages .finished := by
  induction hk : (l.matching (PageQuery.past sort ids (l.reference? ids cursor))).length
    using Nat.strongRecOn generalizing n cursor with
  | ind k ih =>
    have hask : (l.walker sort ids limits).ask n cursor =
        .ok (l.pagePast sort ids (l.reference? ids cursor) (limits n)) :=
      (ask_walker_eq_ok_iff hpos).mpr ⟨hc, rfl⟩
    cases hm : (l.pagePast sort ids (l.reference? ids cursor) (limits n)).hasMore with
    | false => exact ⟨_, .finish hask hm⟩
    | true =>
      obtain ⟨last, hl, hmem, hres, href⟩ := walk_goes_on hd hm
      have hlt := length_matching_lt hd hmem
      rw [← href] at hlt
      obtain ⟨pages, hpages⟩ := ih _ (hk ▸ hlt) (n + 1) _ hres rfl
      exact ⟨_, .next hask hm hpages⟩

/-- Every page of a walk is cut from the view past some reference record. -/
theorem exists_reference_of_walk (hd : l.Distinct) (hpos : ∀ n, 0 < limits n) {n : Nat}
    {cursor : Option Uuid} {pages : List (Page ρ)} {ending : Ending}
    (hw : Walk (l.walker sort ids limits) n cursor pages ending) (hc : l.Resolves ids cursor) :
    ∀ page ∈ pages, ∃ reference limit, page = l.pagePast sort ids reference limit := by
  refine walk_induction hd hpos (motive := fun _ pages _ => ∀ page ∈ pages, ∃ reference limit,
    page = l.pagePast sort ids reference limit) ?_ ?_ ?_ hw hc
  · intro _ page hp
    cases hp
  · intro reference limit _ _ page hp
    exact ⟨reference, limit, List.mem_singleton.mp hp⟩
  · intro reference limit last pages ending _ _ _ _ ih page hp
    rcases List.mem_cons.mp hp with rfl | hp
    · exact ⟨reference, limit, rfl⟩
    · exact ih page hp

/-- The page after a record in view holds something exactly if something lies past it. -/
theorem exists_next_page (hd : l.Distinct) {last : ρ} (hs : l.Shows ids last) {limit : Nat}
    (h0 : 0 < limit) : ∃ page, l.page ⟨sort, some (Keyed.id last), limit, ids⟩ = .ok page ∧
      (page.data ≠ [] ↔ ∃ r, r ∈ l.matching (PageQuery.past sort ids (some last))) := by
  have hfind : l.find? (Keyed.id last) ids = some last := (find?_eq_some_iff hd).mpr ⟨hs, rfl⟩
  refine ⟨l.pagePast sort ids (some last) limit, ?_, ?_⟩
  · rw [page_eq_ok h0 (by simp [hfind])]
    simp [reference?, hfind]
  · rw [data_pagePast, ne_eq, List.take_eq_nil_iff, List.eq_nil_iff_forall_not_mem]
    simp only [mem_sorted, show limit ≠ 0 by omega, false_or, not_forall, not_not]

/-- A walk with positive limits over a view with distinct ids, from any record in view
or from the beginning, is never refused and comes to its end. It meets what lies ahead
of its start in strict order, without the records that tie with the last one of a page
and come after it, and nothing else. So it meets a record with every sort key, and
all that is admitted ahead, sorted, if no two sort keys there are equal. A page says that
there is more exactly if a record in view lies past the sort key of its last one, that is
if the page after it is not empty; such a page is full. -/
theorem walk_meets_view (hd : l.Distinct) (hpos : ∀ n, 0 < limits n) {start : Option ρ}
    (hstart : ∀ r ∈ start, l.Shows ids r) :
    let walk := Walk (l.walker sort ids limits) 0 (start.map Keyed.id)
    let view := (l.admitted ids).filter fun r => decide (∀ s ∈ start, sort.past s r)
    (∀ pages e, ¬ walk pages (.refused e)) ∧
    (∃ pages, walk pages .finished) ∧
    ∀ pages, walk pages .finished →
      (records pages).Pairwise sort.precedes ∧
      ((records pages).map (Keyed.id : ρ → Uuid)).Nodup ∧
      (∀ r, r ∈ records pages ↔ l.Ahead sort ids start r ∧ ¬ PassedOver sort pages r) ∧
      (∀ r, l.Ahead sort ids start r → ∃ s ∈ records pages, sort.ties s r) ∧
      ((view.map (Keyed.key sort.field)).Nodup → records pages = view.mergeSort sort.before) ∧
      ∀ page ∈ pages, ∀ last, page.data.getLast? = some last →
        (page.hasMore = true ↔ ∃ r, l.Shows ids r ∧ sort.past last r) ∧
        (page.hasMore = true → page.data.length = page.limit) ∧
        ∀ limit, 0 < limit → ∃ next, l.page ⟨sort, some (Keyed.id last), limit, ids⟩ = .ok next ∧
          (next.data ≠ [] ↔ page.hasMore = true) := by
  have hres := resolves_id hd hstart
  have href := reference?_id hd hstart
  have hview := l.matching_past sort ids start
  refine ⟨fun pages e hw => ?_, finished_walk_exists hd hpos 0 _ hres, fun pages hw => ?_⟩
  · exact walk_induction hd hpos (motive := fun _ _ ending => ending ≠ .refused e)
      (by simp) (by simp) (fun _ _ _ _ _ _ _ _ _ h => h) hw hres rfl
  have hmeets := walk_meets hd hpos hw hres
  have hall := mem_records_of_finished hd hpos hw hres
  rw [href] at hmeets hall
  have hmem : ∀ r, r ∈ records pages ↔ l.Ahead sort ids start r ∧ ¬ PassedOver sort pages r :=
    fun r => ⟨fun hr => ⟨mem_matching.mp (hmeets.inView r hr), hmeets.kept r hr⟩,
      fun ⟨hr, hpass⟩ => hall r (mem_matching.mpr hr) hpass⟩
  refine ⟨hmeets.ordered, ?_, hmem, fun r hr => ?_, fun hkeys => ?_, fun page hp last hl => ?_⟩
  · refine (nodup_of_pairwise hmeets.ordered).map_on fun r hr s hs hid => ?_
    exact List.inj_on_of_nodup_map (matching_ids_nodup hd _) (hmeets.inView r hr)
      (hmeets.inView s hs) hid
  · by_cases hpass : PassedOver sort pages r
    · obtain ⟨page, hp, last, hl, hties, -⟩ := hpass
      exact ⟨last, mem_records_of_getLast? hp hl, hties⟩
    · exact ⟨r, (hmem r).mpr ⟨hr, hpass⟩, rfl⟩
  · rw [← hview] at hkeys ⊢
    refine eq_of_mem_iff hmeets.ordered (pairwise_sorted hd sort ids _) fun r => ?_
    rw [hmem, List.mem_mergeSort, mem_matching]
    refine ⟨And.left, fun hr => ⟨hr, ?_⟩⟩
    rintro ⟨page, hp, last, hl, hties, hlr⟩
    have hlast := hmeets.inView last (mem_records_of_getLast? hp hl)
    rw [List.inj_on_of_nodup_map hkeys hlast (mem_matching.mpr hr) hties] at hlr
    exact not_precedes_self sort r hlr
  · obtain ⟨reference, limit, rfl⟩ := exists_reference_of_walk hd hpos hw hres page hp
    have hlast := ((mem_page_iff hd hl).mp (List.mem_of_getLast? hl)).1
    have hmore := hasMore_iff hd hl
    simp only [← mem_matching_some hlast] at hmore
    refine ⟨?_, ?_, fun limit' h0 => ?_⟩
    · rw [hmore]
      simp [mem_matching]
    · exact length_of_hasMore
    · rw [hmore]
      exact exists_next_page hd (mem_matching.mp hlast).1 h0

end View

/-- Conversations of which three were updated at the same time, and one before. -/
def tiedConversations : RecordList Conversation where
  records := [(1, 9), (2, 5), (3, 5), (4, 5), (5, 2)].map fun (id, time) =>
    ⟨.ofByte id, default, "", "console", none, none, none, false, 0, time⟩

/-- From the latest conversation on, two at a time: of those that were updated at the same time
the first one stored is passed over. -/
theorem walk_meets_tied_view :
    let l := tiedConversations
    let sort : SortOrder Conversation.SortField := ⟨.updatedAt, .desc⟩
    let row (b : UInt8) (t : Int) : Conversation :=
      ⟨.ofByte b, default, "", "console", none, none, none, false, 0, t⟩
    l.Distinct ∧ l.Shows {} (row 1 9) ∧
    ∃ pages, Walk (l.walker sort {} fun _ => 2) 0 (some (.ofByte 1)) pages .finished ∧
      records pages = [row 4 5, row 3 5, row 5 2] ∧
      (records pages).Pairwise sort.precedes ∧
      (row 2 5 ∉ records pages ∧ l.Ahead sort {} (some (row 1 9)) (row 2 5) ∧
        PassedOver sort pages (row 2 5)) := by
  intro l sort row
  have hd : l.Distinct := by unfold Distinct; decide
  have hshown : l.Shows {} (row 1 9) := ⟨by decide, by decide, by decide⟩
  have hstart : ∀ r ∈ some (row 1 9), l.Shows {} r := by
    rintro r ⟨⟩
    exact hshown
  have hpos : ∀ n, 0 < (fun _ : Nat => 2) n := fun _ => Nat.two_pos
  obtain ⟨-, -, hmeets⟩ := walk_meets_view hd hpos hstart
  let pages : List (Page Conversation) := [⟨2, true, [row 4 5, row 3 5]⟩, ⟨2, false, [row 5 2]⟩]
  have hwalk : Walk (l.walker sort {} fun _ => 2) 0 (some (.ofByte 1)) pages .finished :=
    .next (by cbv) rfl (.finish (by cbv) rfl)
  obtain ⟨hordered, -, hmem, -⟩ := hmeets pages hwalk
  have hahead : l.Ahead sort {} (some (row 1 9)) (row 2 5) :=
    ⟨⟨by decide, by decide, by decide⟩, by rintro s ⟨⟩; decide⟩
  have hmissing : row 2 5 ∉ records pages := by decide
  refine ⟨hd, hshown, pages, hwalk, rfl, hordered, hmissing, hahead, ?_⟩
  by_contra hpass
  exact hmissing ((hmem _).mpr ⟨hahead, hpass⟩)

end Parley
