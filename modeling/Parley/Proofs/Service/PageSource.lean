import Parley.Proofs.Service.Run
import Parley.Proofs.Store.Refinement
import Parley.Service.Conversations

/-!
# Pages from the database

The conversations of a scope are paged through statements. Where the database answers
these from a table, as SQL has it, the answers are those of the table as a list, so a
request gets the page, or the error, that the list would give.

* `against_ofQuery`, `against_get`: the page of a query and of a request.
* `selections_refine_view`: the statements of a scope, from their texts to the pages.
-/
namespace Parley.Service

open Store (Reply Row Statement)
open Handler (Against)

variable {scope : Conversation.Scope} {table : List Conversation} {db : Statement → Reply}

section

variable (hids : (table.map (·.id)).Nodup) (hlength : table.length < 2 ^ 63)
  (hdb : Store.Serves db table scope)

include hids hdb

theorem against_find (id : Uuid) (ids : IdFilter) :
    Against db ((pageSource scope).find id ids) [.findInScope scope id ids]
      (.ok ((scope.view table).find? id ids)) := by
  have hreply := (Store.findInScope_answers_iff hids scope id ids _).mp (hdb _ rfl)
  have hask := Handler.against_of_asks db
    (Handler.asks_first? (s := .findInScope scope id ids) rfl Row.conversation?)
  rw [hreply] at hask
  cases h : (scope.view table).find? id ids with
  | none => rwa [h] at hask
  | some c =>
    rw [h] at hask
    simp only [Option.toList_some, List.map_singleton, Handler.readFirst,
      Store.conversation?_ofConversation] at hask
    exact hask

include hlength

theorem against_fetch (query : PageQuery Conversation.SortField) (limit : Nat) :
    Against db ((pageSource scope).fetch query limit) [.pageInScope scope query limit]
      (.ok ((scope.view table).fetch query limit)) := by
  have hreply := (Store.pageInScope_answers_iff hids hlength scope query limit _).mp (hdb _ rfl)
  have hask := Handler.against_of_asks db
    (Handler.asks_all (s := .pageInScope scope query limit) rfl Row.conversation?)
  rw [hreply] at hask
  simp only [Handler.readAll, Store.mapM_ofConversation] at hask
  exact hask

omit hids hlength

theorem against_count (query : PageQuery Conversation.SortField) :
    Against db ((pageSource scope).count query) [.countInScope scope query]
      (.ok ((scope.view table).matching query).length) := by
  have hreply := (Store.countInScope_answers_iff scope query _).mp (hdb _ rfl)
  have hask := Handler.against_of_asks db
    (Handler.asks_one (s := .countInScope scope query) rfl (Row.single Store.Cell.toInt?))
  rw [hreply] at hask
  exact Handler.against_bind hask (Handler.against_pure _)

include hids hlength

theorem against_ofQuery (query : PageQuery Conversation.SortField) (limit : Nat) :
    ∃ sent, Against db (Page.ofQuery (pageSource scope) query limit) sent
      (.ok (Id.run (Page.ofQuery (scope.view table).source query limit))) := by
  have hfetch := against_fetch hids hlength hdb query limit
  have hlist : (scope.view table).source.fetch query limit =
    (pure ((scope.view table).fetch query limit) : Id _) := rfl
  unfold Page.ofQuery
  rw [hlist, pure_bind]
  cases hlast : ((scope.view table).fetch query limit).getLast? with
  | none => exact ⟨_, Handler.against_bind hfetch (by rw [hlast]; exact Handler.against_pure _)⟩
  | some last =>
    by_cases hfull : limit ≤ ((scope.view table).fetch query limit).length
    · have hcount := against_count hdb
        { query with boundary := some (Boundary.after last query.sort) }
      refine ⟨_, Handler.against_bind hfetch (t := [.countInScope scope
        { query with boundary := some (Boundary.after last query.sort) }]) ?_⟩
      rw [hlast]
      simp only [if_pos hfull]
      exact Handler.against_bind hcount (Handler.against_pure _)
    · refine ⟨_, Handler.against_bind hfetch (t := []) ?_⟩
      rw [hlast]
      simp only [if_neg hfull]
      exact Handler.against_pure _

/-- The page, or the error, of a request is that of the list. -/
theorem against_get (request : PageRequest Conversation.SortField) :
    ∃ sent, Against db (Page.get (pageSource scope) request) sent
      (.ok ((scope.view table).page request)) := by
  unfold RecordList.page Page.get
  by_cases hzero : request.limit = 0
  · rw [if_pos hzero, if_pos hzero]
    exact ⟨[], Handler.against_pure _⟩
  · rw [if_neg hzero, if_neg hzero]
    cases request.lastId with
    | none =>
      obtain ⟨sent, hpage⟩ := against_ofQuery hids hlength hdb
        ⟨request.ids, request.sort, none⟩ request.limit
      exact ⟨_, Handler.against_bind hpage (Handler.against_pure _)⟩
    | some id =>
      have hfind := against_find hids hdb id request.ids
      have hlist : (scope.view table).source.find id request.ids =
        (pure ((scope.view table).find? id request.ids) : Id _) := rfl
      simp only [hlist, pure_bind]
      cases hfound : (scope.view table).find? id request.ids with
      | none =>
        rw [hfound] at hfind
        exact ⟨_, Handler.against_bind hfind (Handler.against_pure _)⟩
      | some reference =>
        rw [hfound] at hfind
        obtain ⟨sent, hpage⟩ := against_ofQuery hids hlength hdb
          ⟨request.ids, request.sort, some (Boundary.after reference request.sort)⟩ request.limit
        exact ⟨_, Handler.against_bind hfind
          (Handler.against_bind hpage (Handler.against_pure _))⟩

end

/-- The statements of a scope refine its view as a list. Read from their texts and arguments,
they keep the rows that the scope, the filter and the boundary admit; each has one answer,
which is that of the list; and so every request gets the page, or the error, of the list. -/
theorem selections_refine_view (hids : (table.map (·.id)).Nodup) (hlength : table.length < 2 ^ 63)
    (scope : Conversation.Scope) :
    (∀ query limit, ∃ page count : Store.Select,
      (Statement.pageInScope scope query limit).prepared.select? = some page ∧
      (Statement.countInScope scope query).prepared.select? = some count ∧
      ∀ c, (page.truth c = some true ↔ scope.admits c = true ∧ query.ids.admits c.id = true ∧
          ∀ b ∈ query.boundary, b.admits (c.time query.sort.field) = true) ∧
        (count.truth c = some true ↔ page.truth c = some true)) ∧
    (∀ query limit reply, (Statement.pageInScope scope query limit).prepared.Answers table reply ↔
      reply = .rows (((scope.view table).fetch query limit).map Row.ofConversation)) ∧
    (∀ query reply, (Statement.countInScope scope query).prepared.Answers table reply ↔
      reply = .rows [[.int ((scope.view table).matching query).length]]) ∧
    (∀ id ids reply, (Statement.findInScope scope id ids).prepared.Answers table reply ↔
      reply = .rows (((scope.view table).find? id ids).toList.map Row.ofConversation)) ∧
    ∀ db, Store.Serves db table scope → ∀ request, ∃ sent,
      Against db (Page.get (pageSource scope) request) sent
        (.ok ((scope.view table).page request)) := by
  refine ⟨fun query limit => ?_, Store.pageInScope_answers_iff hids hlength scope,
    Store.countInScope_answers_iff scope, Store.findInScope_answers_iff hids scope,
    fun db hdb request => against_get hids hlength hdb request⟩
  have htruth (s : Store.Select) (hs : s.conditions = Store.matching scope query)
      (c : Conversation) : s.truth c = some true ↔ scope.admits c = true ∧
        query.ids.admits c.id = true ∧
          ∀ b ∈ query.boundary, b.admits (c.time query.sort.field) = true := by
    rw [← Store.truth_matching, ← hs, ← Store.keeps_iff, Store.Select.keeps, decide_eq_true_eq]
  refine ⟨.page scope query limit, .count scope query, Store.select?_ofFragments _,
    Store.select?_ofFragments _, fun c => ⟨htruth _ rfl c, ?_⟩⟩
  rw [htruth _ rfl, htruth _ rfl]

/-- Conversations of one account, of which one was made through another channel and one is
deleted, and one of an end user with the account's id. -/
def mixedTable : List Conversation :=
  let row (n : Nat) (h : n < 2 ^ 128) : Conversation :=
    ⟨⟨n, h⟩, default, "", "console", none, some default, none, false, 0, 5⟩
  [row 1 (by decide), row 2 (by decide),
    { row 3 (by decide) with channel := some "debugger" },
    { row 4 (by decide) with isDeleted := true },
    { row 5 (by decide) with source := "api", endUser := some default, account := none }]

theorem selections_refine_view_of_mixedTable :
    let scope : Conversation.Scope := ⟨default, .internalUser default, .explore⟩
    let query : PageQuery Conversation.SortField := ⟨{}, ⟨.updatedAt, .desc⟩, none⟩
    (mixedTable.map (·.id)).Nodup ∧ mixedTable.length < 2 ^ 63 ∧
    Store.Serves (Store.answerFrom mixedTable) mixedTable scope ∧
    (∀ reply, (Statement.countInScope scope query).prepared.Answers mixedTable reply ↔
      reply = .rows [[.int 2]]) ∧
    ∃ sent, Against (Store.answerFrom mixedTable)
      (Page.get (pageSource scope) ⟨query.sort, none, 1, {}⟩) sent
      (.ok ((scope.view mixedTable).page ⟨query.sort, none, 1, {}⟩)) := by
  intro scope query
  have hids : (mixedTable.map (·.id)).Nodup := by decide
  have hlength : mixedTable.length < 2 ^ 63 := by decide
  have hserves := Store.serves_answerFrom hids hlength scope
  obtain ⟨-, -, hcount, -, hget⟩ := selections_refine_view hids hlength scope
  exact ⟨hids, hlength, hserves, hcount query, hget _ hserves _⟩

end Parley.Service
