import Mathlib.Data.List.Find
import Parley.Proofs.Store.Refinement
import Parley.Proofs.Uuid

/-!
# What a listing does not show

A page comes of up to three questions to the source: which record the cursor names,
which records lie past it, and how many lie past the last of those. All three look at
nothing but the records that the view and the filter of ids admit, so nothing else can
be seen in the answer: not in its records, not in whether there are more, and not in
whether the cursor is refused. Where the admitted records have distinct ids, the order
in which they are stored cannot be seen either.

* `Page.get_congr`: sources that agree on what is asked give the same page.
* `page_eq_of_admitted_eq`, `page_eq_of_perm`: a page is settled by the admitted records,
  and by these up to their order if their ids are distinct.
* `hides_iff`: what keeps a conversation out of a scope.
* `listing_settled_by_admitted`: two tables of which a scope and a filter admit the same
  conversations, in whatever order, are listed alike; and no hidden conversation, wherever
  it is stored and whatever its id, makes a difference.
-/
namespace Parley

variable {ρ φ : Type} [Keyed ρ φ]

/-! ## Sources that agree -/

section

variable {m : Type → Type} [Monad m] {source source' : PageSource m ρ φ}

/-- Both sources give the same answers under a filter and an order. -/
structure PageSource.Agree (source source' : PageSource m ρ φ) (ids : IdFilter)
    (sort : SortOrder φ) : Prop where
  find : ∀ id, source.find id ids = source'.find id ids
  fetch : ∀ boundary, source.fetch ⟨ids, sort, boundary⟩ = source'.fetch ⟨ids, sort, boundary⟩
  count : ∀ boundary, source.count ⟨ids, sort, boundary⟩ = source'.count ⟨ids, sort, boundary⟩

variable {ids : IdFilter} {sort : SortOrder φ}

theorem Page.ofQuery_congr (h : source.Agree source' ids sort) (boundary : Option Boundary)
    (limit : Nat) :
    Page.ofQuery source ⟨ids, sort, boundary⟩ limit =
      Page.ofQuery source' ⟨ids, sort, boundary⟩ limit := by
  unfold Page.ofQuery
  simp only [h.fetch, h.count]

/-- No source is asked anything but what the request says. -/
theorem Page.get_congr {request : PageRequest φ}
    (h : source.Agree source' request.ids request.sort) :
    Page.get source request = Page.get source' request := by
  unfold Page.get
  simp only [h.find, Page.ofQuery_congr h]

end

/-! ## Lists -/

namespace RecordList

variable {l l' : RecordList ρ} {ids : IdFilter}

theorem length_admitted_le (l : RecordList ρ) (ids : IdFilter) :
    (l.admitted ids).length ≤ (l.admitted {}).length := by
  refine (List.monotone_filter_right l.records fun r hr => ?_).length_le
  rw [Bool.and_eq_true] at hr ⊢
  exact ⟨hr.1, rfl⟩

theorem find?_eq_find?_admitted (l : RecordList ρ) (id : Uuid) (ids : IdFilter) :
    l.find? id ids = (l.admitted ids).find? fun r => decide (Keyed.id r = id) := by
  rw [admitted, List.find?_filter]
  unfold find?
  congr 1
  funext r
  by_cases hid : Keyed.id r = id <;> simp [hid]

/-- A page is settled by the admitted records. -/
theorem page_eq_of_admitted_eq {request : PageRequest φ}
    (h : l.admitted request.ids = l'.admitted request.ids) : l.page request = l'.page request := by
  have hmatching : ∀ boundary, l.matching ⟨request.ids, request.sort, boundary⟩ =
      l'.matching ⟨request.ids, request.sort, boundary⟩ := by
    intro boundary
    rw [matching_eq_filter_admitted, matching_eq_filter_admitted, h]
  unfold page
  rw [Page.get_congr]
  constructor
  · intro id
    simp only [source, find?_eq_find?_admitted, h]
  · intro boundary
    simp only [source, fetch, hmatching]
  · intro boundary
    simp only [source, hmatching]

/-- The order in which records with distinct ids are stored does not show on a page. -/
theorem page_eq_of_perm {request : PageRequest φ}
    (hp : (l.admitted request.ids).Perm (l'.admitted request.ids))
    (hids : ((l.admitted request.ids).map (Keyed.id : ρ → Uuid)).Nodup) :
    l.page request = l'.page request := by
  have hmatching : ∀ boundary, (l.matching ⟨request.ids, request.sort, boundary⟩).Perm
      (l'.matching ⟨request.ids, request.sort, boundary⟩) := by
    intro boundary
    rw [matching_eq_filter_admitted, matching_eq_filter_admitted]
    exact hp.filter _
  have hsub : ∀ boundary, ((l.matching ⟨request.ids, request.sort, boundary⟩).map
      (Keyed.id : ρ → Uuid)).Nodup := by
    intro boundary
    rw [matching_eq_filter_admitted]
    exact hids.sublist (List.filter_sublist.map _)
  unfold page
  rw [Page.get_congr]
  constructor
  · intro id
    simp only [source, find?_eq_find?_admitted]
    -- no two of the records have the id, so it does not matter which comes first
    apply List.find?_eq_find?_of_perm hp
    intro r hr s hs
    simp only [Set.mem_ofPred_eq, decide_eq_true_eq] at hr hs
    exact List.inj_on_of_nodup_map hids hr.1 hs.1 (hr.2.trans hs.2.symm)
  · intro boundary
    funext limit
    simp only [source, fetch]
    rw [SortOrder.mergeSort_eq_of_perm _ (hmatching boundary) (hsub boundary)]
  · intro boundary
    exact (hmatching boundary).length_eq

end RecordList

/-! ## Scopes -/

namespace Conversation.Scope

variable {s : Scope} {c : Conversation}

/-- The ways in which a conversation is kept out of a scope. -/
inductive Hides (s : Scope) (c : Conversation) : Prop where
  | deleted (h : c.isDeleted = true)
  | otherApp (h : c.app ≠ s.app)
  | otherSource (h : c.source ≠ s.principal.source)
  | otherEndUser (h : c.endUser ≠ s.principal.endUser?)
  | otherAccount (h : c.account ≠ s.principal.account?)
  | otherChannel (name : String) (h : c.channel = some name) (hne : name ≠ s.channel.name)

theorem hides_iff : s.Hides c ↔ s.admits c = false := by
  rw [Bool.eq_false_iff, ne_eq, Store.admits_iff]
  constructor
  · rintro h ⟨⟨hdeleted, happ, hsource, hendUser, haccount⟩, hchannel⟩
    cases h with
    | deleted h => simp [hdeleted] at h
    | otherApp h => exact h happ
    | otherSource h => exact h hsource
    | otherEndUser h => exact h hendUser
    | otherAccount h => exact h haccount
    | otherChannel name h hne => exact hne (hchannel name h)
  · intro h
    by_contra hnot
    apply h
    refine ⟨⟨?_, not_imp_comm.mp .otherApp hnot, not_imp_comm.mp .otherSource hnot,
      not_imp_comm.mp .otherEndUser hnot, not_imp_comm.mp .otherAccount hnot⟩, ?_⟩
    · exact Bool.eq_false_iff.mpr fun hdeleted => hnot (.deleted hdeleted)
    · intro name hname
      exact not_imp_comm.mp (.otherChannel name hname) hnot

/-- What is hidden leaves no trace among what is admitted. -/
theorem admitted_insert (h : s.Hides c) (front behind : List Conversation) (ids : IdFilter) :
    (s.view (front ++ c :: behind)).admitted ids = (s.view (front ++ behind)).admitted ids := by
  have hc : s.admits c = false := hides_iff.mp h
  simp only [RecordList.admitted, view, List.filter_append, List.filter_cons, hc, Bool.false_and,
    Bool.false_eq_true, if_false]

end Conversation.Scope

/-- A listing is settled by the conversations that the scope and the filter admit, whatever
else is stored and in whatever order. -/
theorem listing_settled_by_admitted (s : Conversation.Scope) (ids : IdFilter) :
    (∀ table table' : List Conversation,
      ((s.view table).admitted ids).Perm ((s.view table').admitted ids) →
      (((s.view table).admitted ids).map (·.id)).Nodup →
      ∀ sort cursor limit, (s.view table).page ⟨sort, cursor, limit, ids⟩ =
        (s.view table').page ⟨sort, cursor, limit, ids⟩) ∧
    ∀ c, s.Hides c → ∀ front behind sort cursor limit,
      (s.view (front ++ c :: behind)).page ⟨sort, cursor, limit, ids⟩ =
        (s.view (front ++ behind)).page ⟨sort, cursor, limit, ids⟩ := by
  constructor
  · intro table table' hp hids sort cursor limit
    exact RecordList.page_eq_of_perm hp hids
  · intro c hc front behind sort cursor limit
    apply RecordList.page_eq_of_admitted_eq
    exact Conversation.Scope.admitted_insert hc front behind ids

/-- Three conversations of an account, updated at the same time, among such as it does not
see: a deleted one, one of another app, one of an end user with the same id, and one of
another channel. -/
def crowdedTable : List Conversation :=
  let row (b : UInt8) : Conversation :=
    ⟨.ofByte b, default, "", "console", none, some default, none, false, 0, 5⟩
  [{ row 9 with isDeleted := true }, row 1, { row 8 with app := .ofByte 1 }, row 2,
    { row 7 with source := "api", endUser := some default, account := none }, row 3,
    { row 6 with channel := some "web-app" }]

theorem listing_settled_by_admitted_of_crowdedTable :
    let s : Conversation.Scope := ⟨default, .internalUser default, .explore⟩
    let few := (crowdedTable.filter s.admits).reverse
    (few.map (·.id)) = [.ofByte 3, .ofByte 2, .ofByte 1] ∧
    (∀ sort cursor limit, (s.view crowdedTable).page ⟨sort, cursor, limit, {}⟩ =
      (s.view few).page ⟨sort, cursor, limit, {}⟩) ∧
    ∀ c ∈ crowdedTable.head?, s.Hides c ∧ ∀ sort cursor limit,
      (s.view crowdedTable).page ⟨sort, cursor, limit, {}⟩ =
        (s.view crowdedTable.tail).page ⟨sort, cursor, limit, {}⟩ := by
  intro s few
  obtain ⟨hperm, hhidden⟩ := listing_settled_by_admitted s {}
  refine ⟨by decide, hperm _ _ (by decide) (by decide), ?_⟩
  rintro c ⟨⟩
  exact ⟨.deleted rfl, hhidden _ (.deleted rfl) [] crowdedTable.tail⟩

end Parley
