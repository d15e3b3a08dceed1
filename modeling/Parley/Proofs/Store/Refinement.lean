import Parley.Proofs.Page.View
import Parley.Proofs.Store.Meaning
import Parley.Store.Statement

/-!
# Selections of a scope

The statements that look into a scope, read back from their texts and taken as SQL
means them, against the view of the scope as a list: the same rows are kept, and they
come in the same order.

* `truth_inScope`, `truth_matching`: the conditions of a statement hold for a row exactly
  if the scope, the filter and the boundary all admit it.
* `yields_page_iff`: what a table may yield for a page is what the list fetches.
* `pageInScope_answers_iff`, `countInScope_answers_iff`, `findInScope_answers_iff`: so
  there is one answer to each statement, which is that of the list.
-/
namespace Parley

open Store

/-- What a scope shows of a table. -/
def Conversation.Scope.view (s : Conversation.Scope) (table : List Conversation) :
    RecordList Conversation :=
  ⟨table, s.admits⟩

namespace Store

variable {c : Conversation}

/-! ## Conditions -/

theorem keeps_iff {s : Select} : s.keeps c = true ↔ ∀ p ∈ s.conditions, p.truth c = some true := by
  unfold Select.keeps Select.truth
  rw [decide_eq_true_eq]
  induction s.conditions with
  | nil => simp
  | cons p ps ih => rw [List.foldr_cons, Truth.both_eq_true, ih, List.forall_mem_cons]

theorem value?_ofOption (u : Option Uuid) : (Arg.ofOption .uuid u).value? = u.map .uuid := by
  cases u <;> rfl

theorem map_uuid_inj {u v : Option Uuid} : u.map Value.uuid = v.map Value.uuid ↔ u = v :=
  (Option.map_injective fun _ _ h => Value.uuid.inj h).eq_iff

theorem truth_endUser {u : Option Uuid} :
    (Condition.notDistinct .endUser (Arg.ofOption .uuid u)).truth c = some true ↔
      c.endUser = u := by
  rw [Condition.truth, value?_ofOption, Conversation.value?, Option.some.injEq,
    decide_eq_true_eq, map_uuid_inj]

theorem truth_account {u : Option Uuid} :
    (Condition.notDistinct .account (Arg.ofOption .uuid u)).truth c = some true ↔
      c.account = u := by
  rw [Condition.truth, value?_ofOption, Conversation.value?, Option.some.injEq,
    decide_eq_true_eq, map_uuid_inj]

/-- A row belongs to a principal by all of the marks that it bears. -/
theorem truth_ownedBy {app : Uuid} {principal : Principal} :
    (∀ p ∈ ownedBy app principal, p.truth c = some true) ↔
      c.isDeleted = false ∧ c.app = app ∧ c.source = principal.source ∧
        c.endUser = principal.endUser? ∧ c.account = principal.account? := by
  simp only [ownedBy, List.forall_mem_cons, truth_endUser, truth_account]
  simp [Condition.truth, Conversation.value?, Truth.equal, Arg.value?]

/-- A channel is not compared where there is none. -/
theorem truth_channel {name : String} :
    (Condition.or (.isNull .channel) (.equals .channel (.text name))).truth c = some true ↔
      ∀ channel ∈ c.channel, channel = name := by
  cases hc : c.channel with
  | none => simp [Condition.truth, Conversation.value?, hc, Truth.either]
  | some channel =>
    simp only [Condition.truth, Conversation.value?, hc, Option.map_some, Option.isNone_some,
      Truth.equal, Arg.value?, Value.text.injEq, Option.mem_some_iff, forall_eq']
    by_cases h : channel = name <;> simp [Truth.either, h]

theorem truth_isAny (us : List Uuid) :
    (Condition.isAny .id us).truth c = some (us.contains c.id) := by
  unfold Condition.truth
  induction us with
  | nil => rfl
  | cons u us ih =>
    rw [List.foldr_cons, ih, List.contains_cons]
    simp only [Conversation.value?, Truth.equal, Value.uuid.injEq]
    by_cases h : c.id = u
    · simp [h, Truth.either]
    · have hne : (c.id == u) = false := by simpa using h
      rw [decide_eq_false h, hne, Bool.false_or]
      cases us.contains c.id <;> rfl

theorem truth_not_isAny (us : List Uuid) :
    (Condition.not (.isAny .id us)).truth c = some (!us.contains c.id) := by
  rw [Condition.truth, truth_isAny, Option.map_some]

theorem truth_passing {ids : IdFilter} :
    (∀ p ∈ passing ids, p.truth c = some true) ↔ ids.admits c.id = true := by
  obtain ⟨included, excluded⟩ := ids
  simp only [passing, List.forall_mem_append, List.forall_mem_map, truth_isAny, truth_not_isAny,
    Option.some.injEq, IdFilter.admits, Bool.and_eq_true]
  cases included <;> cases excluded <;> simp

theorem admits_iff {scope : Conversation.Scope} : scope.admits c = true ↔
    (c.isDeleted = false ∧ c.app = scope.app ∧ c.source = scope.principal.source ∧
      c.endUser = scope.principal.endUser? ∧ c.account = scope.principal.account?) ∧
    ∀ channel ∈ c.channel, channel = scope.channel.name := by
  unfold Conversation.Scope.admits
  cases c.channel <;> simp [and_assoc]

/-- The conditions of a scope and a filter are what the two admit. -/
theorem truth_inScope {scope : Conversation.Scope} {ids : IdFilter} :
    (∀ p ∈ inScope scope ids, p.truth c = some true) ↔
      scope.admits c = true ∧ ids.admits c.id = true := by
  rw [inScope, List.forall_mem_append, List.forall_mem_cons, truth_ownedBy, truth_channel,
    truth_passing, admits_iff]
  simp only [and_assoc]

theorem truth_past {field : Conversation.SortField} {b : Boundary} :
    (Condition.past (Column.ofSortField field) b).truth c = some true ↔
      b.admits (c.time field) = true := by
  have hvalue : c.value? (Column.ofSortField field) = some (.time (c.time field)) := by
    cases field <;> rfl
  obtain ⟨t, d⟩ := b
  unfold Boundary.admits
  cases d <;> simp only [Condition.truth, hvalue, Truth.earlier, Truth.later, Option.some.injEq]

theorem truth_pastBoundary {field : Conversation.SortField} {boundary : Option Boundary} :
    (∀ p ∈ pastBoundary field boundary, p.truth c = some true) ↔
      ∀ b ∈ boundary, b.admits (c.time field) = true := by
  simp only [pastBoundary, List.forall_mem_map, Option.mem_toList, truth_past, Option.mem_def]

/-- The conditions of a query are what the scope, the filter and the boundary admit. -/
theorem truth_matching {scope : Conversation.Scope} {query : PageQuery Conversation.SortField} :
    (∀ p ∈ matching scope query, p.truth c = some true) ↔
      scope.admits c = true ∧ query.ids.admits c.id = true ∧
        ∀ b ∈ query.boundary, b.admits (c.time query.sort.field) = true := by
  rw [matching, List.forall_mem_append, truth_inScope, truth_pastBoundary, and_assoc]

/-! ## Rows -/

theorem filter_keeps_matching {scope : Conversation.Scope}
    {query : PageQuery Conversation.SortField} {s : Select}
    (hs : s.conditions = matching scope query) (table : List Conversation) :
    table.filter s.keeps = (scope.view table).matching query := by
  refine List.filter_congr fun c _ => ?_
  rw [Bool.eq_iff_iff, keeps_iff, hs, truth_matching]
  unfold Conversation.Scope.view
  cases query.boundary <;> simp [Keyed.id, Keyed.key, and_assoc]

theorem mayPrecede_iff (sort : SortOrder Conversation.SortField) (c d : Conversation) :
    MayPrecede [(Column.ofSortField sort.field, sort.direction), (.id, sort.direction)] c d ↔
      sort.before c d = true := by
  obtain ⟨field, direction⟩ := sort
  have hrank (c : Conversation) : (Column.ofSortField field).rank c = c.time field := by
    cases field <;> rfl
  have hid (c : Conversation) : Column.id.rank c = c.id.value := rfl
  cases direction <;>
    simp only [MayPrecede, hrank, hid, SortOrder.before, SortOrder.ascending, Keyed.key,
      Keyed.id, and_true, Bool.or_eq_true, Bool.and_eq_true, decide_eq_true_eq,
      SortOrder.uuid_le_iff] <;>
    omega

variable {table : List Conversation}

theorem distinct_view (hids : (table.map (·.id)).Nodup) (scope : Conversation.Scope) :
    (scope.view table).Distinct :=
  List.Nodup.sublist (List.filter_sublist.map _) hids

/-- What is kept of a table in an order that is allowed is the sorted list: with distinct
ids there is one such order only. -/
theorem eq_mergeSort {sort : SortOrder Conversation.SortField} {kept sorted : List Conversation}
    (hids : (kept.map (·.id)).Nodup) (hperm : sorted.Perm kept)
    (hpairwise : sorted.Pairwise (MayPrecede
      [(Column.ofSortField sort.field, sort.direction), (.id, sort.direction)])) :
    sorted = kept.mergeSort sort.before := by
  have hbefore := (List.Pairwise.iff (mayPrecede_iff sort)).mp hpairwise
  have hstrict : sorted.Pairwise sort.precedes :=
    SortOrder.pairwise_precedes_of_before hbefore ((hperm.map _).nodup_iff.mpr hids)
  refine SortOrder.eq_of_mem_iff hstrict (SortOrder.pairwise_precedes_mergeSort sort hids)
    fun r => ?_
  rw [hperm.mem_iff, (List.mergeSort_perm kept sort.before).mem_iff]

theorem take_min_max63 {rows : List Conversation} (h : rows.length < 2 ^ 63) (limit : Nat) :
    rows.take (min limit Decimal.max63) = rows.take limit := by
  have hmax : Decimal.max63 + 1 = 2 ^ 63 := by decide
  rcases Nat.le_total limit Decimal.max63 with hle | hle
  · rw [Nat.min_eq_left hle]
  · rw [Nat.min_eq_right hle, List.take_of_length_le (by omega), List.take_of_length_le (by omega)]

/-- What a table may yield for a page is what the list fetches. -/
theorem yields_page_iff (hids : (table.map (·.id)).Nodup) (hlength : table.length < 2 ^ 63)
    (scope : Conversation.Scope) (query : PageQuery Conversation.SortField) (limit : Nat)
    (rows : List Conversation) :
    (Select.page scope query limit).Yields table rows ↔
      rows = (scope.view table).fetch query limit := by
  have hfilter : table.filter (Select.page scope query limit).keeps =
      (scope.view table).matching query := filter_keeps_matching rfl table
  have hnodup := RecordList.matching_ids_nodup (distinct_view hids scope) query
  have hperm := List.mergeSort_perm ((scope.view table).matching query) query.sort.before
  have hshort :
      (((scope.view table).matching query).mergeSort query.sort.before).length < 2 ^ 63 := by
    rw [hperm.length_eq, ← hfilter]
    exact lt_of_le_of_lt (List.length_filter_le _ _) hlength
  unfold Select.Yields RecordList.fetch
  rw [hfilter, ← take_min_max63 hshort]
  constructor
  · rintro ⟨sorted, hsorted, hpairwise, rfl⟩
    rw [eq_mergeSort hnodup hsorted hpairwise]
    rfl
  · rintro rfl
    refine ⟨_, hperm, (List.Pairwise.iff (mayPrecede_iff query.sort)).mpr ?_, rfl⟩
    exact List.pairwise_mergeSort SortOrder.before_trans SortOrder.before_total _

/-! ## Answers -/

theorem fits_inScope (scope : Conversation.Scope) (ids : IdFilter) :
    (inScope scope ids).all Condition.fits = true := by
  obtain ⟨app, principal, channel⟩ := scope
  obtain ⟨included, excluded⟩ := ids
  cases principal <;> cases included <;> cases excluded <;> rfl

theorem fits_matching (scope : Conversation.Scope) (query : PageQuery Conversation.SortField) :
    (matching scope query).all Condition.fits = true := by
  rw [matching, List.all_append, fits_inScope]
  cases query.boundary with
  | none => rfl
  | some b => cases query.sort.field <;> rfl

theorem truth_id {id : Uuid} :
    (Condition.equals .id (.uuid id)).truth c = some true ↔ c.id = id := by
  simp [Condition.truth, Conversation.value?, Truth.equal, Arg.value?]

/-- The conversation of an id is the only row that a selection by id keeps. -/
theorem filter_keeps_oneInScope (hids : (table.map (·.id)).Nodup) (scope : Conversation.Scope)
    (id : Uuid) (ids : IdFilter) :
    table.filter (Select.oneInScope scope id ids).keeps =
      ((scope.view table).find? id ids).toList := by
  have hkeeps : (Select.oneInScope scope id ids).keeps = fun c =>
      decide (c.id = id) && scope.admits c && ids.admits id := by
    funext c
    rw [Bool.eq_iff_iff, keeps_iff, Select.oneInScope, List.forall_mem_append, truth_inScope,
      List.forall_mem_singleton, truth_id]
    simp only [Bool.and_eq_true, decide_eq_true_eq]
    constructor
    · rintro ⟨⟨hscope, hids⟩, rfl⟩
      exact ⟨⟨rfl, hscope⟩, hids⟩
    · rintro ⟨⟨rfl, hscope⟩, hids⟩
      exact ⟨⟨hscope, hids⟩, rfl⟩
  have hfind : (scope.view table).find? id ids =
      (table.filter (Select.oneInScope scope id ids).keeps).head? := by
    rw [List.head?_filter, hkeeps]
    rfl
  have hone : ∀ c ∈ table.filter (Select.oneInScope scope id ids).keeps, c.id = id := by
    intro c hc
    have := (List.mem_filter.mp hc).2
    simp only [hkeeps, Bool.and_eq_true, decide_eq_true_eq] at this
    exact this.1.1
  have hnodup : ((table.filter (Select.oneInScope scope id ids).keeps).map (·.id)).Nodup :=
    List.Nodup.sublist (List.filter_sublist.map _) hids
  rw [hfind]
  match h : table.filter (Select.oneInScope scope id ids).keeps with
  | [] => rfl
  | [c] => rfl
  | c :: d :: rest =>
    rw [h] at hone hnodup
    have heq : c.id = d.id := (hone c (by simp)).trans (hone d (by simp)).symm
    simp [heq] at hnodup

theorem yields_oneInScope_iff (hids : (table.map (·.id)).Nodup) (scope : Conversation.Scope)
    (id : Uuid) (ids : IdFilter) (rows : List Conversation) :
    (Select.oneInScope scope id ids).Yields table rows ↔
      rows = ((scope.view table).find? id ids).toList := by
  unfold Select.Yields
  rw [filter_keeps_oneInScope hids]
  constructor
  · rintro ⟨sorted, hperm, -, rfl⟩
    cases h : (scope.view table).find? id ids with
    | none => rw [h] at hperm; exact hperm.eq_nil
    | some c => rw [h] at hperm; exact List.perm_singleton.mp hperm
  · rintro rfl
    refine ⟨_, .refl _, ?_, rfl⟩
    cases (scope.view table).find? id ids with
    | none => exact .nil
    | some c => exact List.pairwise_singleton _ _

theorem pageInScope_answers_iff (hids : (table.map (·.id)).Nodup) (hlength : table.length < 2 ^ 63)
    (scope : Conversation.Scope) (query : PageQuery Conversation.SortField) (limit : Nat)
    (reply : Reply) :
    (Statement.pageInScope scope query limit).prepared.Answers table reply ↔
      reply = .rows (((scope.view table).fetch query limit).map Row.ofConversation) := by
  have hfits : (Select.page scope query limit).fits = true := by
    have hsortable : (Column.ofSortField query.sort.field).isSortable = true := by
      cases query.sort.field <;> rfl
    simp only [Select.fits, Select.page, fits_matching, List.all_cons, hsortable, Bool.true_and]
    exact decide_eq_true (Nat.min_le_right _ _)
  show (Prepared.ofFragments (Select.page scope query limit).fragments).Answers table reply ↔ _
  rw [answers_ofFragments]
  show (_ ∧ ∃ rows, (Select.page scope query limit).Yields table rows ∧ _) ↔ _
  simp only [yields_page_iff hids hlength, hfits, exists_eq_left, true_and]

theorem countInScope_answers_iff (scope : Conversation.Scope)
    (query : PageQuery Conversation.SortField) (reply : Reply) :
    (Statement.countInScope scope query).prepared.Answers table reply ↔
      reply = .rows [[.int ((scope.view table).matching query).length]] := by
  have hfits : (Select.count scope query).fits = true := by
    simp only [Select.fits, Select.count, fits_matching, List.all_nil, Option.all_none,
      Bool.true_and]
  have hfilter : table.filter (Select.count scope query).keeps =
      (scope.view table).matching query := filter_keeps_matching rfl table
  show (Prepared.ofFragments (Select.count scope query).fragments).Answers table reply ↔ _
  rw [answers_ofFragments, ← hfilter]
  exact and_iff_right hfits

theorem findInScope_answers_iff (hids : (table.map (·.id)).Nodup) (scope : Conversation.Scope)
    (id : Uuid) (ids : IdFilter) (reply : Reply) :
    (Statement.findInScope scope id ids).prepared.Answers table reply ↔
      reply = .rows (((scope.view table).find? id ids).toList.map Row.ofConversation) := by
  have hfits : (Select.oneInScope scope id ids).fits = true := by
    simp only [Select.fits, Select.oneInScope, List.all_append, fits_inScope]
    rfl
  show (Prepared.ofFragments (Select.oneInScope scope id ids).fragments).Answers table reply ↔ _
  rw [answers_ofFragments, and_iff_right hfits]
  show (∃ rows, (Select.oneInScope scope id ids).Yields table rows ∧ _) ↔ _
  simp only [yields_oneInScope_iff hids, exists_eq_left]

/-! ## A database -/

/-- The statement looks for conversations of a scope. -/
def Statement.LooksInto (scope : Conversation.Scope) : Statement → Prop
  | .findInScope s _ _ | .pageInScope s _ _ | .countInScope s _ => s = scope
  | _ => False

/-- All that is asked about a scope is answered from a table. -/
def Serves (db : Statement → Reply) (table : List Conversation) (scope : Conversation.Scope) :
    Prop :=
  ∀ s, Statement.LooksInto scope s → s.prepared.Answers table (db s)

/-- A database that holds a table and answers what is asked about scopes. -/
def answerFrom (table : List Conversation) : Statement → Reply
  | .findInScope scope id ids =>
    .rows (((scope.view table).find? id ids).toList.map Row.ofConversation)
  | .pageInScope scope query limit =>
    .rows (((scope.view table).fetch query limit).map Row.ofConversation)
  | .countInScope scope query => .rows [[.int ((scope.view table).matching query).length]]
  | _ => .failure

theorem serves_answerFrom (hids : (table.map (·.id)).Nodup) (hlength : table.length < 2 ^ 63)
    (scope : Conversation.Scope) : Serves (answerFrom table) table scope := by
  intro s hs
  cases s with
  | findInScope scope id ids => exact (findInScope_answers_iff hids scope id ids _).mpr rfl
  | pageInScope scope query limit =>
    exact (pageInScope_answers_iff hids hlength scope query limit _).mpr rfl
  | countInScope scope query => exact (countInScope_answers_iff scope query _).mpr rfl
  | _ => exact hs.elim

end Store

end Parley
