import Parley.Proofs.Principal
import Parley.Proofs.Store.Refinement

/-!
# Whose conversations are listed

A conversation bears its owner in four places: the app, the source, and one id each for an
end user and for an account. A scope compares all four, so what it admits bears the marks
of its owner and of nobody else. The ids alone would not tell owners apart, as an end user
that is linked to an account has the id of that account.

* `OwnedBy.unique`: a conversation has one owner at most.
* `ownedBy_of_shows`: what a scope admits belongs to its owner.
* `owners_listed_apart`: of two scopes with different owners, neither lists what the other
  lists, and neither goes on from what the other lists.
-/
namespace Parley

namespace Conversation

/-- The conversation bears the marks of an owner, and no others. -/
structure OwnedBy (app : Uuid) (owner : Principal) (c : Conversation) : Prop where
  app : c.app = app
  source : c.source = owner.source
  endUser : c.endUser = owner.endUser?
  account : c.account = owner.account?

variable {app app' : Uuid} {owner owner' : Principal} {c : Conversation}

/-- A conversation has one owner at most. -/
theorem OwnedBy.unique (h : c.OwnedBy app owner) (h' : c.OwnedBy app' owner') :
    app = app' ∧ owner = owner' := by
  constructor
  · rw [← h.app, ← h'.app]
  · apply Principal.eq_of_ids
    · rw [← h.endUser, ← h'.endUser]
    · rw [← h.account, ← h'.account]

variable {s s' : Scope} {table : List Conversation} {ids ids' : IdFilter}

theorem ownedBy_of_shows (h : (s.view table).Shows ids c) : c.OwnedBy s.app s.principal := by
  obtain ⟨-, happ, hsource, hendUser, haccount⟩ := (Store.admits_iff.mp h.2.1).1
  exact ⟨happ, hsource, hendUser, haccount⟩

/-- Where ids are distinct, views of different owners have no id in common. -/
theorem id_ne_of_shows (hids : (table.map (·.id)).Nodup)
    (howner : s.app ≠ s'.app ∨ s.principal ≠ s'.principal) {d : Conversation}
    (hc : (s.view table).Shows ids c) (hd : (s'.view table).Shows ids' d) : d.id ≠ c.id := by
  intro hid
  obtain rfl : d = c := List.inj_on_of_nodup_map hids hd.1 hc.1 hid
  obtain ⟨happ, hprincipal⟩ := (ownedBy_of_shows hc).unique (ownedBy_of_shows hd)
  cases howner with
  | inl h => exact h happ
  | inr h => exact h hprincipal

/-- What is listed under a scope bears the marks of its owner. Under a scope of another owner
no page holds a conversation with the same id, and no request can go on from it. -/
theorem owners_listed_apart (hids : (table.map (·.id)).Nodup)
    (howner : s.app ≠ s'.app ∨ s.principal ≠ s'.principal)
    {request : PageRequest SortField} {page : Page Conversation}
    (hpage : (s.view table).page request = .ok page) (hc : c ∈ page.data) :
    c.OwnedBy s.app s.principal ∧
    (∀ request' page', (s'.view table).page request' = .ok page' →
      ∀ d ∈ page'.data, d.id ≠ c.id) ∧
    ∀ sort limit ids', 0 < limit →
      (s'.view table).page ⟨sort, some c.id, limit, ids'⟩ = .error ⟨c.id⟩ := by
  have hshows := RecordList.shows_of_mem_page hpage hc
  refine ⟨ownedBy_of_shows hshows, ?_, ?_⟩
  · intro request' page' hpage' d hd
    exact id_ne_of_shows hids howner hshows (RecordList.shows_of_mem_page hpage' hd)
  · intro sort limit ids' h0
    apply RecordList.page_eq_error h0
    rw [RecordList.find?_eq_none_iff]
    intro d hd
    exact id_ne_of_shows hids howner hshows hd

/-- A conversation of an account, and one of the end user that is linked to it. -/
def linkedTable : List Conversation :=
  let row (b : UInt8) : Conversation :=
    ⟨.ofByte b, default, "", "console", none, some default, none, false, 0, 5⟩
  [row 1, { row 2 with source := "api", endUser := some default, account := none }]

theorem owners_listed_apart_in_linkedTable :
    let s : Scope := ⟨default, .internalUser default, .explore⟩
    let s' : Scope := ⟨default, .externalVisitor default, .webApp⟩
    let request : PageRequest SortField := ⟨⟨.updatedAt, .desc⟩, none, 20, {}⟩
    (s.view linkedTable).page request = .ok ⟨20, false, linkedTable.take 1⟩ ∧
    (s'.view linkedTable).page request = .ok ⟨20, false, linkedTable.drop 1⟩ ∧
    ∀ c ∈ linkedTable.take 1, c.OwnedBy default (.internalUser default) ∧
      (∀ d ∈ linkedTable.drop 1, d.id ≠ c.id) ∧
      (s'.view linkedTable).page { request with lastId := some c.id } = .error ⟨c.id⟩ := by
  intro s s' request
  have hpage : (s.view linkedTable).page request = .ok ⟨20, false, linkedTable.take 1⟩ := by
    decide +kernel
  have hpage' : (s'.view linkedTable).page request = .ok ⟨20, false, linkedTable.drop 1⟩ := by
    decide +kernel
  refine ⟨hpage, hpage', ?_⟩
  intro c hc
  have hids : (linkedTable.map (·.id)).Nodup := by decide
  have howner : s.principal ≠ s'.principal := by decide
  obtain ⟨howned, hapart, hcursor⟩ := owners_listed_apart hids (.inr howner) hpage hc
  exact ⟨howned, hapart _ _ hpage', hcursor _ _ _ (by decide)⟩

end Conversation

end Parley
