import Parley.Proofs.Page.Walk
import Parley.Proofs.Store.Change

/-!
# Walking pages while records change

What a walker looks at may be another view at each request: records come and go, and
those that stay may be another version of themselves. Only their ids tell which is which.

A page is cut strictly past what its cursor names by then. So all depends on where that
record stands when it is looked up again (`Walker.KeepsPlace`): while the last record of
each page stands no earlier than before, every page lies past all pages before it.

* `ask_of_getElem?`: the page of a number answers the request of that number, for the id
  of the last record on the page before.
* `height_lt_of_lt`: how the pages of a walk lie one behind the other.
* `awaits_of_not_met`: what has not been met and not been passed over still lies ahead.
* `walk_survives_changes`: a walk over views in which every id keeps its sort key.
-/
namespace Parley

open SortOrder RecordList

variable {ρ φ : Type} [Keyed ρ φ]

/-! ## The requests of a walk -/

/-- The cursor of a request: the one to start from, and from then on the last id of the
page before. -/
def cursorAt (start : Option Uuid) (pages : List (Page ρ)) : Nat → Option Uuid
  | 0 => start
  | i + 1 => pages[i]?.bind Page.lastId?

theorem cursorAt_cons (start : Option Uuid) (page : Page ρ) (pages : List (Page ρ)) (i : Nat) :
    cursorAt start (page :: pages) (i + 1) = cursorAt page.lastId? pages i := by
  cases i <;> rfl

section

variable {w : Walker ρ φ} {n : Nat} {start : Option Uuid} {pages : List (Page ρ)} {ending : Ending}

theorem ask_of_getElem? (hw : Walk w n start pages ending) {i : Nat} {page : Page ρ}
    (hi : pages[i]? = some page) : w.ask (n + i) (cursorAt start pages i) = .ok page := by
  induction hw generalizing i with
  | pause => cases hi
  | refuse => cases hi
  | finish h hm =>
    cases i with
    | zero => cases hi; exact h
    | succ i => cases hi
  | @next n cursor first pages ending h hm rest ih =>
    cases i with
    | zero => cases hi; exact h
    | succ i =>
      have hask := ih hi
      rw [← cursorAt_cons cursor first pages i] at hask
      rwa [Nat.add_right_comm] at hask

theorem hasMore_of_getElem? (hw : Walk w n start pages ending) {i : Nat} {page next : Page ρ}
    (hi : pages[i]? = some page) (hnext : pages[i + 1]? = some next) : page.hasMore = true := by
  induction hw generalizing i with
  | pause => cases hi
  | refuse => cases hi
  | finish h hm => cases hnext
  | next h hm rest ih =>
    cases i with
    | zero => cases hi; exact hm
    | succ i => exact ih hi hnext

/-- The last page of a finished walk says that there is no more. -/
theorem exists_last_page (hw : Walk w n start pages .finished) :
    ∃ i page, pages.length = i + 1 ∧ pages[i]? = some page ∧ page.hasMore = false := by
  generalize hending : Ending.finished = ending at hw
  induction hw with
  | pause => cases hending
  | refuse => cases hending
  | finish h hm => exact ⟨0, _, rfl, rfl, hm⟩
  | next h hm rest ih =>
    obtain ⟨i, page, hlength, hi, hmore⟩ := ih hending
    exact ⟨i + 1, page, by rw [List.length_cons, hlength], hi, hmore⟩

/-! ## One page and the next -/

theorem ask_of_limit_eq_zero {cursor : Option Uuid} (h0 : w.limit n = 0) :
    w.ask n cursor = .ok (Page.empty 0) := by
  unfold Walker.ask RecordList.page Page.get
  simp only [h0, if_true]
  rfl

theorem limit_pos_of_mem {cursor : Option Uuid} {page : Page ρ} (h : w.ask n cursor = .ok page)
    {r : ρ} (hr : r ∈ page.data) : 0 < w.limit n := by
  apply Nat.pos_of_ne_zero
  intro h0
  rw [ask_of_limit_eq_zero h0] at h
  cases h
  cases hr

theorem limit_pos_of_hasMore {cursor : Option Uuid} {page : Page ρ}
    (h : w.ask n cursor = .ok page) (hm : page.hasMore = true) : 0 < w.limit n := by
  apply Nat.pos_of_ne_zero
  intro h0
  rw [ask_of_limit_eq_zero h0] at h
  cases h
  cases hm

theorem exists_getLast?_of_hasMore {cursor : Option Uuid} {page : Page ρ}
    (h : w.ask n cursor = .ok page) (hm : page.hasMore = true) :
    ∃ last, page.data.getLast? = some last := by
  obtain ⟨-, rfl⟩ := (ask_eq_ok_iff (limit_pos_of_hasMore h hm)).mp h
  obtain ⟨last, hl, -, -⟩ := (hasMore_pagePast _ _ _ _ _).mp hm
  exact ⟨last, by rw [data_pagePast, hl]⟩

/-- The page after a page is cut past what its last record has become by then. -/
theorem exists_reference_of_next (hd : ∀ m, (w.view m).Distinct) (hw : Walk w n start pages ending)
    {i : Nat} {page next : Page ρ} (hi : pages[i]? = some page)
    (hnext : pages[i + 1]? = some next) (h0 : 0 < w.limit (n + (i + 1))) :
    ∃ last ref, page.data.getLast? = some last ∧
      (w.view (n + (i + 1))).Shows w.ids ref ∧ Keyed.id ref = Keyed.id last ∧
      next = (w.view (n + (i + 1))).pagePast w.sort w.ids (some ref) (w.limit (n + (i + 1))) := by
  obtain ⟨last, hl⟩ :=
    exists_getLast?_of_hasMore (ask_of_getElem? hw hi) (hasMore_of_getElem? hw hi hnext)
  have hcursor : cursorAt start pages (i + 1) = some (Keyed.id last) := by
    simp only [cursorAt, hi, Option.bind_some, Page.lastId?, hl, Option.map_some]
  have hask := ask_of_getElem? hw hnext
  rw [hcursor] at hask
  obtain ⟨hresolves, hpage⟩ := (ask_eq_ok_iff h0).mp hask
  obtain ⟨ref, href⟩ := Option.isSome_iff_exists.mp (hresolves _ rfl)
  obtain ⟨hshows, hid⟩ := (find?_eq_some_iff (hd _)).mp href
  refine ⟨last, ref, hl, hshows, hid, ?_⟩
  rw [hpage, reference?, Option.bind_some, href]

/-- Nothing on a page stands behind its last record. -/
theorem height_le_last {l : RecordList ρ} {sort : SortOrder φ} {ids : IdFilter} (hd : l.Distinct)
    {reference : Option ρ} {limit : Nat} {last r : ρ}
    (hl : (l.pagePast sort ids reference limit).data.getLast? = some last)
    (hr : r ∈ (l.pagePast sort ids reference limit).data) : sort.height r ≤ sort.height last := by
  have hnot := ((mem_page_iff hd hl).mp hr).2
  rw [precedes_iff] at hnot
  omega

/-- The last record of a page stands no earlier when the page after it is asked for. -/
def Walker.KeepsPlace (w : Walker ρ φ) (n : Nat) (page : Page ρ) : Prop :=
  ∀ last ref, page.data.getLast? = some last → (w.view (n + 1)).Shows w.ids ref →
    Keyed.id ref = Keyed.id last → w.sort.height last ≤ w.sort.height ref

/-- The next page lies past a page whose last record keeps its place. -/
theorem height_lt_next (hd : ∀ m, (w.view m).Distinct) (hw : Walk w n start pages ending)
    {i : Nat} {page next : Page ρ} (hi : pages[i]? = some page)
    (hnext : pages[i + 1]? = some next) (hkeeps : w.KeepsPlace (n + i) page) {r s : ρ}
    (hr : r ∈ page.data) (hs : s ∈ next.data) : w.sort.height r < w.sort.height s := by
  have h0 := limit_pos_of_mem (ask_of_getElem? hw hnext) hs
  obtain ⟨last, ref, hl, hshows, hid, rfl⟩ := exists_reference_of_next hd hw hi hnext h0
  have hlast : w.sort.height r ≤ w.sort.height last := by
    have hask := ask_of_getElem? hw hi
    obtain ⟨-, rfl⟩ := (ask_eq_ok_iff (limit_pos_of_mem hask hr)).mp hask
    exact height_le_last (hd _) hl hr
  have href : w.sort.height last ≤ w.sort.height ref := hkeeps last ref hl hshows hid
  have hpast : w.sort.past ref s := by
    rw [data_pagePast] at hs
    exact (mem_matching.mp (mem_sorted.mp (List.mem_of_mem_take hs))).2 ref rfl
  rw [past_iff] at hpast
  omega

/-- A page lies past every page before it, if the last records of all pages from that one
on keep their places. -/
theorem height_lt_of_lt (hd : ∀ m, (w.view m).Distinct) (hw : Walk w n start pages ending)
    {i j : Nat} (hij : i < j) {page : Page ρ} (hi : pages[i]? = some page)
    (hkeeps : ∀ k page, i ≤ k → k < j → pages[k]? = some page → w.KeepsPlace (n + k) page)
    {r : ρ} (hr : r ∈ page.data) {later : Page ρ} (hj : pages[j]? = some later) {s : ρ}
    (hs : s ∈ later.data) : w.sort.height r < w.sort.height s := by
  -- by induction on the number of pages in between, of which each has a last record
  induction hij generalizing later s with
  | refl => exact height_lt_next hd hw hi hj (hkeeps i page (Nat.le_refl _) (by omega) hi) hr hs
  | @step m hm ih =>
    have hm' : i + 1 ≤ m := hm
    obtain ⟨middle, hmiddle⟩ : ∃ middle, pages[m]? = some middle := by
      have hlt := (List.getElem?_eq_some_iff.mp hj).1
      exact ⟨pages[m], List.getElem?_eq_getElem (by omega)⟩
    obtain ⟨last, hl⟩ := exists_getLast?_of_hasMore (ask_of_getElem? hw hmiddle)
      (hasMore_of_getElem? hw hmiddle hj)
    have hlast := List.mem_of_getLast? hl
    have hbefore := ih (fun k page hik hkm => hkeeps k page hik (by omega)) hmiddle hlast
    have hkept := hkeeps m middle (by omega) (by omega) hmiddle
    have hafter := height_lt_next hd hw hmiddle hj hkept hlast hs
    omega

/-- A request is refused exactly if it has a cursor, and nothing in view has that id. -/
theorem ask_eq_error_iff (hd : (w.view n).Distinct) (h0 : 0 < w.limit n) {cursor : Option Uuid}
    {e : ReferenceNotFound} : w.ask n cursor = .error e ↔
      cursor = some e.id ∧ ¬ ∃ r, (w.view n).Shows w.ids r ∧ Keyed.id r = e.id := by
  have hnone (id : Uuid) : (w.view n).find? id w.ids = none ↔
      ¬ ∃ r, (w.view n).Shows w.ids r ∧ Keyed.id r = id := by
    rw [Option.eq_none_iff_forall_ne_some, not_exists]
    exact forall_congr' fun r => not_congr (find?_eq_some_iff hd)
  constructor
  · intro h
    cases cursor with
    | none => exact absurd h (not_refused_of_resolves h0 (fun id hid => by cases hid))
    | some id =>
      cases hfind : (w.view n).find? id w.ids with
      | some r => exact absurd h (not_refused_of_resolves h0 (by simp [Resolves, hfind]))
      | none =>
        rw [Walker.ask, page_eq_error h0 hfind] at h
        obtain rfl := Except.error.inj h
        exact ⟨rfl, (hnone id).mp hfind⟩
  · rintro ⟨rfl, hgone⟩
    rw [Walker.ask, page_eq_error h0 ((hnone e.id).mpr hgone)]

/-! ## No record twice -/

/-- Pages of which each has distinct ids, and no two have one in common. -/
theorem nodup_records
    (hpage : ∀ page ∈ pages, (page.data.map (Keyed.id : ρ → Uuid)).Nodup)
    (happart : pages.Pairwise fun p q => ∀ r ∈ p.data, ∀ s ∈ q.data,
      (Keyed.id r : Uuid) ≠ Keyed.id s) :
    ((records pages).map (Keyed.id : ρ → Uuid)).Nodup := by
  have hmap : (records pages).map (Keyed.id : ρ → Uuid) =
      pages.flatMap fun page => page.data.map Keyed.id := List.map_flatMap
  rw [hmap, List.nodup_flatMap]
  refine ⟨hpage, happart.imp ?_⟩
  intro p q hpq id hp hq
  obtain ⟨r, hr, rfl⟩ := List.mem_map.mp hp
  obtain ⟨s, hs, hid⟩ := List.mem_map.mp hq
  exact hpq r hr s hs hid.symm

theorem nodup_page (hd : ∀ m, (w.view m).Distinct) (hw : Walk w n start pages ending) :
    ∀ page ∈ pages, (page.data.map (Keyed.id : ρ → Uuid)).Nodup := by
  intro page hp
  obtain ⟨i, hi⟩ := List.mem_iff_getElem?.mp hp
  have hask := ask_of_getElem? hw hi
  cases hdata : page.data with
  | nil => exact List.nodup_nil
  | cons r rest =>
    have hr : r ∈ page.data := by
      rw [hdata]
      exact List.mem_cons_self
    rw [← hdata]
    obtain ⟨-, rfl⟩ := (ask_eq_ok_iff (limit_pos_of_mem hask hr)).mp hask
    rw [data_pagePast]
    have hperm := (List.mergeSort_perm ((w.view (n + i)).matching (PageQuery.past w.sort w.ids
      ((w.view (n + i)).reference? w.ids (cursorAt start pages i)))) w.sort.before).map
        (Keyed.id : ρ → Uuid)
    have hsorted := hperm.nodup_iff.mpr (matching_ids_nodup (hd (n + i)) _)
    exact hsorted.sublist ((List.take_sublist _ _).map _)

theorem shows_of_mem (hw : Walk w n start pages ending) {i : Nat} {page : Page ρ}
    (hi : pages[i]? = some page) {r : ρ} (hr : r ∈ page.data) :
    (w.view (n + i)).Shows w.ids r :=
  shows_of_mem_page (ask_of_getElem? hw hi) hr

end

/-! ## Stable sort keys -/

/-- Versions of a record that can be seen at different requests have the same sort key. -/
def Walker.Stable (w : Walker ρ φ) : Prop :=
  ∀ m n r s, r ∈ (w.view m).records → (w.view m).visible r = true →
    s ∈ (w.view n).records → (w.view n).visible s = true →
    (Keyed.id r : Uuid) = Keyed.id s → w.sort.ties r s

section

variable {w : Walker ρ φ} {start : Option Uuid} {pages : List (Page ρ)} {ending : Ending}

theorem Walker.Stable.height_eq (hs : w.Stable) {m n : Nat} {r s : ρ}
    (hr : (w.view m).Shows w.ids r) (hs' : (w.view n).Shows w.ids s)
    (hid : (Keyed.id r : Uuid) = Keyed.id s) : w.sort.height r = w.sort.height s :=
  (ties_iff _ _ _).mp (hs m n r s hr.1 hr.2.1 hs'.1 hs'.2.1 hid)

/-- A record with a stable sort key keeps its place. -/
theorem keepsPlace_of_stable (hs : w.Stable) (hw : Walk w 0 start pages ending) {i : Nat}
    {page : Page ρ} (hi : pages[i]? = some page) : w.KeepsPlace (0 + i) page := by
  intro last ref hl href hid
  have hlast := shows_of_mem hw hi (List.mem_of_getLast? hl)
  rw [hs.height_eq hlast href hid.symm]

/-- Every page lies past all pages before it. -/
theorem pairwise_past (hd : ∀ n, (w.view n).Distinct) (hs : w.Stable)
    (hw : Walk w 0 start pages ending) :
    pages.Pairwise fun p q => ∀ r ∈ p.data, ∀ s ∈ q.data, w.sort.past r s := by
  rw [List.pairwise_iff_getElem]
  intro i j hi hj hij r hr s hs'
  rw [past_iff]
  refine height_lt_of_lt hd hw hij (List.getElem?_eq_getElem hi) ?_ hr
    (List.getElem?_eq_getElem hj) hs'
  intro k page _ _ hk
  exact keepsPlace_of_stable hs hw hk

theorem nodup_ids (hd : ∀ n, (w.view n).Distinct) (hs : w.Stable)
    (hw : Walk w 0 start pages ending) :
    ((records pages).map (Keyed.id : ρ → Uuid)).Nodup := by
  apply nodup_records (nodup_page hd hw)
  have hpast := pairwise_past hd hs hw
  rw [List.pairwise_iff_getElem] at hpast ⊢
  intro i j hi hj hij r hr s hs' hid
  have hr' := shows_of_mem hw (List.getElem?_eq_getElem hi) hr
  have hs'' := shows_of_mem hw (List.getElem?_eq_getElem hj) hs'
  have hlt := (past_iff _ _ _).mp (hpast i j hi hj hij r hr s hs')
  have heq := hs.height_eq hr' hs'' hid
  omega

/-! ## What is met -/

/-- A version of the record lies past the cursor of a request. -/
def Walker.Awaits (w : Walker ρ φ) (start : Option Uuid) (pages : List (Page ρ)) (r : ρ) (i : Nat) :
    Prop :=
  ∃ s, (Keyed.id s : Uuid) = Keyed.id r ∧
    s ∈ (w.view i).matching (PageQuery.past w.sort w.ids
      ((w.view i).reference? w.ids (cursorAt start pages i)))

/-- The record is passed over as soon as a version of it is. -/
theorem passedOver_of_eq {sort : SortOrder φ} {r s : ρ} (hid : (Keyed.id s : Uuid) = Keyed.id r)
    (hheight : sort.height s = sort.height r) {page : Page ρ} (hp : page ∈ pages) {last : ρ}
    (hl : page.data.getLast? = some last) (hties : sort.ties last s)
    (hprecedes : sort.precedes last s) : PassedOver sort pages r := by
  have hplace : sort.place s = sort.place r := place_inj.mpr hid
  refine ⟨page, hp, last, hl, ?_, ?_⟩
  · rw [ties_iff] at hties ⊢
    omega
  · rw [precedes_iff] at hprecedes ⊢
    omega

/-- What is met was not passed over: it lies past the pages before its own and in front of
those behind it, and does not come after the last record of its own. -/
theorem not_passedOver_of_met (hd : ∀ n, (w.view n).Distinct) (hs : w.Stable)
    (hw : Walk w 0 start pages ending) {r s : ρ} (hr : (w.view 0).Shows w.ids r)
    (hs' : s ∈ records pages) (hid : (Keyed.id s : Uuid) = Keyed.id r) :
    ¬ PassedOver w.sort pages r := by
  rintro ⟨page, hp, last, hl, hties, hprecedes⟩
  obtain ⟨own, hown, hs'⟩ := List.mem_flatMap.mp hs'
  obtain ⟨i, hi⟩ := List.mem_iff_getElem?.mp hp
  obtain ⟨j, hj⟩ := List.mem_iff_getElem?.mp hown
  have hlast := List.mem_of_getLast? hl
  have hheight : w.sort.height s = w.sort.height r :=
    hs.height_eq (shows_of_mem hw hj hs') hr hid
  have hpast := pairwise_past hd hs hw
  rw [List.pairwise_iff_getElem] at hpast
  obtain ⟨hi', rfl⟩ := List.getElem?_eq_some_iff.mp hi
  obtain ⟨hj', rfl⟩ := List.getElem?_eq_some_iff.mp hj
  rw [ties_iff] at hties
  rcases Nat.lt_trichotomy i j with hlt | rfl | hlt
  · have := (past_iff _ _ _).mp (hpast i j hi' hj' hlt last hlast s hs')
    omega
  · have hask := ask_of_getElem? hw hi
    obtain ⟨-, heq⟩ := (ask_eq_ok_iff (limit_pos_of_mem hask hs')).mp hask
    rw [heq] at hl hs'
    have hnot := ((mem_page_iff (hd _) hl).mp hs').2
    have hplace : w.sort.place s = w.sort.place r := place_inj.mpr hid
    rw [precedes_iff] at hprecedes hnot
    omega
  · have := (past_iff _ _ _).mp (hpast j i hj' hi' hlt s hs' last hlast)
    omega

variable (hpos : ∀ n, 0 < w.limit n)

include hpos

/-- What awaits a request and is neither on its page nor passed over lies past the last
record of that page, which there is. -/
theorem past_of_awaits (hd : ∀ n, (w.view n).Distinct) (hs : w.Stable)
    (hw : Walk w 0 start pages ending) {r : ρ} (hr : (w.view 0).Shows w.ids r)
    (hmet : ∀ s ∈ records pages, (Keyed.id s : Uuid) ≠ Keyed.id r)
    (hover : ¬ PassedOver w.sort pages r) {i : Nat} {page : Page ρ} (hi : pages[i]? = some page)
    (hawaits : w.Awaits start pages r i) :
    ∃ last, page.data.getLast? = some last ∧ w.sort.past last r ∧ page.hasMore = true := by
  obtain ⟨s, hid, hmem⟩ := hawaits
  have hp := List.mem_of_getElem? hi
  have hask := ask_of_getElem? hw hi
  rw [Nat.zero_add] at hask
  obtain ⟨-, rfl⟩ := (ask_eq_ok_iff (hpos i)).mp hask
  obtain ⟨last, hl⟩ : ∃ last, ((w.view i).pagePast w.sort w.ids
      ((w.view i).reference? w.ids (cursorAt start pages i)) (w.limit i)).data.getLast? =
        some last := by
    rw [← Option.isSome_iff_exists, Option.isSome_iff_ne_none]
    intro hnone
    exact matching_eq_nil (hpos i) hnone hmem
  have hprecedes : w.sort.precedes last s := by
    by_contra hnot
    have hon := (mem_page_iff (hd i) hl).mpr ⟨hmem, hnot⟩
    exact hmet s (List.mem_flatMap.mpr ⟨_, hp, hon⟩) hid
  have hheight : w.sort.height s = w.sort.height r :=
    hs.height_eq (mem_matching.mp hmem).1 hr hid
  have hpast : w.sort.past last s := by
    apply past_of_precedes hprecedes
    intro hties
    exact hover (passedOver_of_eq hid hheight hp hl hties hprecedes)
  refine ⟨last, hl, ?_, (hasMore_iff (hd i) hl).mpr ⟨s, hmem, hpast⟩⟩
  rw [past_iff] at hpast ⊢
  omega

/-- A record that stays in view, and is neither met nor passed over, still lies ahead at
every request. -/
theorem awaits_of_not_met (hd : ∀ n, (w.view n).Distinct) (hs : w.Stable)
    (hw : Walk w 0 start pages ending) {r : ρ} (hr : (w.view 0).Shows w.ids r)
    (hstart : ∀ s ∈ (w.view 0).reference? w.ids start, w.sort.past s r)
    (hstays : ∀ n, n < pages.length → ∃ s, (w.view n).Shows w.ids s ∧
      (Keyed.id s : Uuid) = Keyed.id r)
    (hmet : ∀ s ∈ records pages, (Keyed.id s : Uuid) ≠ Keyed.id r)
    (hover : ¬ PassedOver w.sort pages r) :
    ∀ i, i < pages.length → w.Awaits start pages r i := by
  intro i
  induction i with
  | zero =>
    intro _
    exact ⟨r, rfl, mem_matching.mpr ⟨hr, hstart⟩⟩
  | succ i ih =>
    intro hlt
    obtain ⟨page, hi⟩ : ∃ page, pages[i]? = some page :=
      ⟨pages[i], List.getElem?_eq_getElem (by omega)⟩
    obtain ⟨next, hnext⟩ : ∃ next, pages[i + 1]? = some next :=
      ⟨pages[i + 1], List.getElem?_eq_getElem hlt⟩
    obtain ⟨last, hl, hpast, -⟩ :=
      past_of_awaits hpos hd hs hw hr hmet hover hi (ih (by omega))
    obtain ⟨last', ref, hl', href, hid, hpage⟩ :=
      exists_reference_of_next hd hw hi hnext (hpos _)
    rw [hl] at hl'
    obtain rfl := Option.some.inj hl'
    rw [Nat.zero_add] at href
    have hfind : (w.view (i + 1)).reference? w.ids (cursorAt start pages (i + 1)) = some ref := by
      have hcursor : cursorAt start pages (i + 1) = some (Keyed.id last) := by
        simp only [cursorAt, hi, Option.bind_some, Page.lastId?, hl, Option.map_some]
      rw [hcursor, reference?, Option.bind_some]
      exact (find?_eq_some_iff (hd _)).mpr ⟨href, hid⟩
    obtain ⟨s, hshows, hsid⟩ := hstays (i + 1) hlt
    refine ⟨s, hsid, mem_matching.mpr ⟨hshows, ?_⟩⟩
    rw [hfind]
    rintro _ ⟨⟩
    have hlast := shows_of_mem hw hi (List.mem_of_getLast? hl)
    have h₁ := hs.height_eq hlast href hid.symm
    have h₂ := hs.height_eq hshows hr hsid
    rw [past_iff] at hpast ⊢
    omega

end

/-- Over views in which every id keeps its sort key, whatever else changes from one
request to the next: a request is refused exactly if what its cursor names is not in view
by then. No id is met twice, and every page lies strictly past all pages before it. A
finished walk has met each record that was in view for all of its requests exactly once,
without those that tie with the last record of some page and come after it. -/
theorem walk_survives_changes (w : Walker ρ φ) (hd : ∀ n, (w.view n).Distinct) (hs : w.Stable)
    (hpos : ∀ n, 0 < w.limit n) (start : Option Uuid) :
    (∀ n cursor e, w.ask n cursor = .error e ↔
      cursor = some e.id ∧ ¬ ∃ r, (w.view n).Shows w.ids r ∧ Keyed.id r = e.id) ∧
    ∀ pages ending, Walk w 0 start pages ending →
      ((records pages).map (Keyed.id : ρ → Uuid)).Nodup ∧
      (pages.Pairwise fun p q => ∀ r ∈ p.data, ∀ s ∈ q.data, w.sort.past r s) ∧
      (ending = .finished → ∀ r, (w.view 0).Shows w.ids r →
        (∀ s ∈ (w.view 0).reference? w.ids start, w.sort.past s r) →
        (∀ n, n < pages.length → ∃ s, (w.view n).Shows w.ids s ∧
          (Keyed.id s : Uuid) = Keyed.id r) →
        (((records pages).map (Keyed.id : ρ → Uuid)).count (Keyed.id r) = 1 ↔
          ¬ PassedOver w.sort pages r)) := by
  refine ⟨?_, ?_⟩
  · intro n cursor e
    exact ask_eq_error_iff (hd n) (hpos n)
  · intro pages ending hw
    have hnodup := nodup_ids hd hs hw
    refine ⟨hnodup, pairwise_past hd hs hw, ?_⟩
    rintro rfl r hr hstart hstays
    have hcount : ((records pages).map (Keyed.id : ρ → Uuid)).count (Keyed.id r) = 1 ↔
        ∃ s ∈ records pages, (Keyed.id s : Uuid) = Keyed.id r := by
      rw [← List.mem_map]
      constructor
      · intro h
        exact List.count_pos_iff.mp (by omega)
      · intro h
        exact List.count_eq_one_of_mem hnodup h
    rw [hcount]
    constructor
    · rintro ⟨s, hmem, hid⟩
      exact not_passedOver_of_met hd hs hw hr hmem hid
    · intro hover
      by_contra hnone
      push Not at hnone
      obtain ⟨i, page, hlength, hi, hmore⟩ := exists_last_page hw
      have hawaits := awaits_of_not_met hpos hd hs hw hr hstart hstays hnone hover i (by omega)
      obtain ⟨-, -, -, hmore'⟩ := past_of_awaits hpos hd hs hw hr hnone hover hi hawaits
      rw [hmore] at hmore'
      cases hmore'

/-! ## Conversations in the order in which they were created -/

/-- However a table evolves from one request to the next, the conversations of a scope
keep their times of creation. -/
theorem stable_createdAt {table : Nat → List Conversation} (scope : Conversation.Scope)
    (hids : ((table 0).map (·.id)).Nodup)
    (hevolves : ∀ n, Store.Evolves (table n) (table (n + 1)))
    {w : Walker Conversation Conversation.SortField}
    (hview : ∀ n, w.view n = scope.view (table n)) (hfield : w.sort.field = .createdAt) :
    (∀ n, (w.view n).Distinct) ∧ w.Stable := by
  have hnodup : ∀ n, ((table n).map (·.id)).Nodup := by
    intro n
    induction n with
    | zero => exact hids
    | succ n ih => exact (hevolves n).nodup_ids ih
  have hborn : ∀ m n, m ≤ n → (table m).map Store.born <+: (table n).map Store.born := by
    intro m n hmn
    induction hmn with
    | refl => exact List.prefix_rfl
    | step _ ih => exact ih.trans (hevolves _).born_isPrefix
  refine ⟨?_, ?_⟩
  · intro n
    rw [hview]
    exact Store.distinct_view (hnodup n) scope
  · intro m n c d hc _ hd _ hid
    rw [hview] at hc hd
    -- both are still among what was born when the later of the two tables was looked at
    have hc' := (hborn m (max m n) (by omega)).subset (List.mem_map_of_mem hc)
    have hd' := (hborn n (max m n) (by omega)).subset (List.mem_map_of_mem hd)
    have heq := Store.createdAt_eq (hnodup (max m n)) hc' hd' hid
    show Keyed.key w.sort.field c = Keyed.key w.sort.field d
    rw [hfield]
    exact heq

def accountScope : Conversation.Scope :=
  ⟨default, .internalUser default, .explore⟩

def accountConversation (id : Uuid) (createdAt updatedAt : Int) : Conversation :=
  ⟨id, default, "", "console", none, some default, none, false, createdAt, updatedAt⟩

/-- Three conversations. Once a page was read the first of them is deleted, the last is
renamed, and another one is added. -/
def livelyTable : Nat → List Conversation
  | 0 => [accountConversation (.random 1) 10 10, accountConversation (.random 2) 20 20,
      accountConversation (.random 3) 30 30]
  | 1 =>
    (Store.Statement.deleteOwned default (.internalUser default) (.random 1)).effect 50
      ((Store.Statement.renameOwned default (.internalUser default) (.random 3) "x").effect 40
        (livelyTable 0)) ++ [accountConversation (.random 4) 60 60]
  | n + 2 => livelyTable (n + 1)

theorem livelyTable_evolves (n : Nat) : Store.Evolves (livelyTable n) (livelyTable (n + 1)) := by
  cases n with
  | zero => exact .insert (.send (.send .refl _ _) _ _) _ (by decide)
  | succ n => exact .refl

def livelyWalker : Walker Conversation Conversation.SortField :=
  ⟨⟨.createdAt, .asc⟩, {}, fun n => accountScope.view (livelyTable n), fun _ => 2⟩

def livelyPages : List (Page Conversation) := [
  ⟨2, true, [accountConversation (.random 1) 10 10, accountConversation (.random 2) 20 20]⟩,
  ⟨2, false, [{ accountConversation (.random 3) 30 40 with name := "x" },
    accountConversation (.random 4) 60 60]⟩]

theorem walk_survives_changes_of_livelyTable :
    (∀ n, (livelyWalker.view n).Distinct) ∧ livelyWalker.Stable ∧ (∀ n, 0 < livelyWalker.limit n) ∧
    Walk livelyWalker 0 none livelyPages .finished ∧
    ((records livelyPages).map (Keyed.id : Conversation → Uuid)).Nodup ∧
    (livelyPages.Pairwise fun p q => ∀ r ∈ p.data, ∀ s ∈ q.data, livelyWalker.sort.past r s) ∧
    (livelyWalker.view 0).Shows {} (accountConversation (.random 3) 30 30) ∧
    ¬ PassedOver livelyWalker.sort livelyPages (accountConversation (.random 3) 30 30) ∧
    ∀ r, (livelyWalker.view 1).Shows {} r → r.id ≠ .random 1 := by
  obtain ⟨hd, hs⟩ := stable_createdAt (w := livelyWalker) accountScope (by decide)
    livelyTable_evolves (fun _ => rfl) rfl
  have hpos : ∀ n, 0 < livelyWalker.limit n := fun _ => Nat.two_pos
  have hw : Walk livelyWalker 0 none livelyPages .finished :=
    .next (by cbv) rfl (.finish (by cbv) rfl)
  have hshows : (livelyWalker.view 0).Shows {} (accountConversation (.random 3) 30 30) := by
    unfold Shows
    decide
  obtain ⟨hrefused, hwalk⟩ := walk_survives_changes livelyWalker hd hs hpos none
  obtain ⟨hnodup, hpast, hmet⟩ := hwalk _ _ hw
  have hstays : ∀ n, n < livelyPages.length → ∃ s, (livelyWalker.view n).Shows {} s ∧
      s.id = .random 3 := by
    intro n hn
    obtain rfl | rfl : n = 0 ∨ n = 1 := by
      have hlength : n < 2 := hn
      omega
    · exact ⟨_, hshows, rfl⟩
    · refine ⟨{ accountConversation (.random 3) 30 40 with name := "x" }, ?_, rfl⟩
      unfold Shows
      decide
  have honce := hmet rfl _ hshows (fun s hs => by cases hs) hstays
  have hgone := ((hrefused 1 (some (.random 1)) ⟨.random 1⟩).mp (by cbv)).2
  refine ⟨hd, hs, hpos, hw, hnodup, hpast, hshows, honce.mp (by decide), ?_⟩
  intro r hr hid
  exact hgone ⟨r, hr, hid⟩

end Parley
