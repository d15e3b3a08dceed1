import Parley.Proofs.Conversation.ListQuery
import Parley.Proofs.Service.Listing

/-!
# Listings asked for by a query

A request for a listing depends on its target only by the path and by what the query is read as.
The limit and the sort order are checked once the query is read, and the limit comes first.

* `handle_target`: targets of one path whose queries are read alike are served alike.
* `trim_mem_of_accepted`: a sort order that is accepted is one of four.
* `query_read_as_rendered`: what a query asks for, however it is written.
-/
namespace Parley

/-! ## Requests with another query -/

namespace Http.Request

def withQuery (r : Request) (query : List Char) : Request :=
  { r with target := String.ofList (r.path ++ '?' :: query) }

/-- The parts are those of a target without a fragment. -/
theorem exists_parts_eq (r : Request) : ∃ target, '#' ∉ target ∧
    r.parts = match Text.splitFirst? (· == '?') target with
      | some (path, query) => (path, some query)
      | none => (target, none) := by
  unfold parts
  cases h : Text.splitFirst? (· == '#') r.target.toList with
  | none => exact ⟨_, Text.splitFirst?_mark_eq_none_iff.mp h, rfl⟩
  | some cut => exact ⟨_, (Text.splitFirst?_mark_eq_some_iff.mp h).2, rfl⟩

theorem not_mem_path (r : Request) : '?' ∉ r.path ∧ '#' ∉ r.path := by
  obtain ⟨target, htarget, hparts⟩ := r.exists_parts_eq
  rw [path, hparts]
  cases h : Text.splitFirst? (· == '?') target with
  | none => exact ⟨Text.splitFirst?_mark_eq_none_iff.mp h, htarget⟩
  | some cut =>
    obtain ⟨hcut, hpath⟩ := Text.splitFirst?_mark_eq_some_iff.mp h
    exact ⟨hpath, fun hmem => htarget (hcut ▸ List.mem_append_left _ hmem)⟩

theorem parts_withQuery (r : Request) {query : List Char} (h : '#' ∉ query) :
    (r.withQuery query).parts = (r.path, some query) := by
  obtain ⟨hpath, hfragment⟩ := r.not_mem_path
  have hnone : Text.splitFirst? (· == '#') (r.path ++ '?' :: query) = none := by
    rw [Text.splitFirst?_mark_eq_none_iff]
    simp [h, hfragment]
  have hsome : Text.splitFirst? (· == '?') (r.path ++ '?' :: query) = some (r.path, query) :=
    Text.splitFirst?_mark_eq_some_iff.mpr ⟨rfl, hpath⟩
  unfold parts withQuery
  simp only [String.toList_ofList, hnone, hsome]

theorem path_withQuery (r : Request) {query : List Char} (h : '#' ∉ query) :
    (r.withQuery query).path = r.path := by
  rw [path, r.parts_withQuery h]

theorem query_withQuery (r : Request) {query : List Char} (h : '#' ∉ query) :
    (r.withQuery query).query = query := by
  rw [Request.query, r.parts_withQuery h]
  rfl

end Http.Request

namespace Service

open Conversation (ListQuery Scope SortField)
open Http (Method Request Response Route)

variable {r : Request} {q : ListQuery}

/-- What is done at the endpoints depends on the target only as far as a listing reads its query. -/
theorem endpoint?_target {target target' : String}
    (h : listQuery { r with target := target } = listQuery { r with target := target' })
    (ctx : Context) (route : Route) (m : Method) :
    endpoint? ctx { r with target := target } route m =
      endpoint? ctx { r with target := target' } route m := by
  cases route with
  | consoleConversations app =>
    cases m with
    | get =>
      rw [endpoint?, endpoint?, consoleList, consoleList, h]
      rfl
    | _ => rfl
  | webConversations =>
    cases m with
    | get =>
      rw [endpoint?, endpoint?, webList, webList, h]
      rfl
    | _ => rfl
  | _ => cases m <;> rfl

/-- Requests that differ in the target alone are answered alike if it has the same path and its
query is read alike. -/
theorem handle_target {target target' : String}
    (hpath : Request.path { r with target := target } = Request.path { r with target := target' })
    (h : listQuery { r with target := target } = listQuery { r with target := target' })
    (c : Config) (limiter : LoginLimiter) (e : Event) :
    handle c limiter { e with request := { r with target := target } } =
      handle c limiter { e with request := { r with target := target' } } := by
  have hanswer (ctx : Context) (x : Exchange) :
      answer ctx { r with target := target } x = answer ctx { r with target := target' } x := by
    unfold answer answerRoute
    rw [hpath]
    simp only [endpoint?_target h]
  simp only [handle, hanswer]
  rfl

theorem listConversations_of_outOfRange (scope : Scope) {q : ListQuery}
    (h : limitOf q < 1 ∨ 100 < limitOf q) : listConversations scope q =
      Handler.fail ⟨400, "invalid_param", "limit must be between 1 and 100"⟩ := by
  have hrequest : q.pageRequest = .error .limitOutOfRange := by
    rw [pageRequest_eq, if_pos h]
  rw [listConversations, hrequest]
  rfl

theorem sortOf_of_spells {sort : Option (SortOrder SortField)}
    (h : Option.Rel Conversation.SpellsSort q.sortBy sort) :
    sortOf q = .ok (sort.getD ⟨.updatedAt, .desc⟩) := by
  unfold sortOf
  generalize q.sortBy = raw at h
  cases h with
  | some hspells => exact Conversation.parseSort_of_spells hspells
  | none => rfl

/-- A sort order that is accepted is one of four, once it is trimmed. -/
theorem trim_mem_of_accepted {query : List Char} {request : PageRequest SortField} {value : String}
    (hquery : ListQuery.parse? query = some q) (hrequest : q.pageRequest = .ok request)
    (hvalue : ("sort_by", value) ∈ Percent.formPairs (Utf8.encode query)) :
    Text.trim value ∈ ["created_at", "-created_at", "updated_at", "-updated_at"] := by
  have hsortBy := ListQuery.sortBy_of_mem hquery hvalue
  rw [pageRequest_eq] at hrequest
  split at hrequest
  · cases hrequest
  cases hsort : sortOf q with
  | error e => simp [hsort] at hrequest
  | ok sort =>
    rw [sortOf, hsortBy, Option.getD_some, Conversation.parseSort_eq_ok_iff] at hsort
    rw [Text.trim, hsort]
    exact Conversation.sortText_mem sort

/-- A query is read as it was written, whatever the order of its pairs and the spelling of its
values. It is refused only for its limit, and the pairs that it does not know or in another order
change nothing, where queries that cannot be read are told apart by nothing but that
(`Rejection.message`). What is accepted as sort order is one of four. -/
theorem query_read_as_rendered (r : Request) :
    (∀ (query : List Char) (q : ListQuery) (sort : Option (SortOrder SortField)), '#' ∉ query →
      q.Rendered query → Option.Rel Conversation.SpellsSort q.sortBy sort →
      listQuery (r.withQuery query) = pure q ∧
      ((∀ n ∈ q.limit, 1 ≤ n ∧ n ≤ 100) → q.pageRequest = .ok
        { sort := sort.getD ⟨.updatedAt, .desc⟩, lastId := q.lastId, limit := q.limit.getD 20 }) ∧
      ((∃ n ∈ q.limit, n < 1 ∨ 100 < n) → ∀ scope, listConversations scope q =
        Handler.fail ⟨400, "invalid_param", "limit must be between 1 and 100"⟩)) ∧
    (∀ query query' : List Char, '#' ∉ query → '#' ∉ query' →
      ((ListQuery.pieces query).filter ListQuery.isKnown).Perm
        ((ListQuery.pieces query').filter ListQuery.isKnown) →
      listQuery (r.withQuery query) = listQuery (r.withQuery query') ∧
      ∀ (c : Config) (limiter : LoginLimiter) (e : Event),
        handle c limiter { e with request := r.withQuery query } =
          handle c limiter { e with request := r.withQuery query' }) ∧
    (∀ (query : List Char) (q : ListQuery) (request : PageRequest SortField) (value : String),
      '#' ∉ query → ListQuery.parse? (r.withQuery query).query = some q →
      q.pageRequest = .ok request →
      ("sort_by", value) ∈ Percent.formPairs (Utf8.encode query) →
      Text.trim value ∈ ["created_at", "-created_at", "updated_at", "-updated_at"]) := by
  refine ⟨?_, ?_, ?_⟩
  · intro query q sort hquery hrendered hsort
    have hparse := ListQuery.parse?_of_rendered hrendered
    refine ⟨listQuery_of_parse (by rw [r.query_withQuery hquery, hparse]), ?_, ?_⟩
    · intro hlimit
      have hrange : ¬ (limitOf q < 1 ∨ 100 < limitOf q) := by
        unfold limitOf
        cases h : q.limit with
        | none => decide
        | some n =>
          have := hlimit n h
          simp only [Option.getD_some]
          omega
      rw [pageRequest_eq, if_neg hrange, sortOf_of_spells hsort]
      rfl
    · rintro ⟨n, hn, hrange⟩ scope
      refine listConversations_of_outOfRange scope ?_
      rw [limitOf, Option.mem_def.mp hn]
      exact hrange
  · intro query query' hquery hquery' hperm
    have hsame : listQuery (r.withQuery query) = listQuery (r.withQuery query') := by
      rw [listQuery, listQuery, r.query_withQuery hquery, r.query_withQuery hquery',
        ListQuery.parse?_congr hperm]
    refine ⟨hsame, fun c limiter e => handle_target ?_ hsame c limiter e⟩
    exact (r.path_withQuery hquery).trans (r.path_withQuery hquery').symm
  · intro query q request value hquery hparse hrequest hvalue
    rw [r.query_withQuery hquery] at hparse
    exact trim_mem_of_accepted hparse hrequest hvalue

/-- A query with an unknown pair in front, blanks around its sort order, and a letter of a name in
hexadecimal digits. -/
def paddedQuery : List Char :=
  "x=1&sort_by=+-created_at&%6Cimit=5".toList

theorem query_read_in_paddedQuery :
    let r : Request := { method := "GET", target := "/api/conversations" }
    let q : ListQuery := { limit := some 5, sortBy := some " -created_at" }
    listQuery (r.withQuery paddedQuery) = pure q ∧
      q.pageRequest = .ok { sort := ⟨.createdAt, .desc⟩, lastId := none, limit := 5 } := by
  intro r q
  have hname : Percent.Written "limit".toList "%6Cimit".toList := by
    have hescaped : Percent.Escaped (Utf8.encodeChar 'l') "%6C".toList := .cons rfl rfl rfl .nil
    have hplain : Percent.Written "imit".toList "imit".toList :=
      Percent.written_of_plain (by decide)
    exact .escaped hescaped hplain
  have hnumber : Decimal.Unsigned Decimal.max64 "5".toList 5 :=
    Decimal.readNat?_eq_some_iff.mp (by decide)
  have hdigit : Percent.Written "5".toList "5".toList := Percent.written_of_plain (by decide)
  have hsortName : Percent.Written "sort_by".toList "sort_by".toList :=
    Percent.written_of_plain (by decide)
  have horder : Percent.Written " -created_at".toList "+-created_at".toList :=
    .plus (Percent.written_of_plain (by decide))
  have hlimit : ListQuery.StatedBy "limit" (fun n cs => Decimal.Unsigned Decimal.max64 cs n)
      q.limit ["%6Cimit".toList ++ '=' :: "5".toList] :=
    .present hnumber hname hdigit
  have hsortBy : ListQuery.StatedBy "sort_by" (fun s cs => cs = s.toList)
      q.sortBy ["sort_by".toList ++ '=' :: "+-created_at".toList] :=
    .present rfl hsortName horder
  have hunknown : ∀ piece ∈ ["x=1".toList], ListQuery.isKnown piece = false := by decide
  have hrendered : q.Rendered paddedQuery :=
    .mk .absent hlimit hsortBy .absent hunknown (by decide)
  have hsort : Option.Rel Conversation.SpellsSort q.sortBy (some ⟨.createdAt, .desc⟩) :=
    .some ⟨[' '], [], by simp [Text.isBlank], by simp, by decide⟩
  obtain ⟨hread, hrequest, -⟩ :=
    (query_read_as_rendered r).1 paddedQuery q _ (by decide) hrendered hsort
  exact ⟨hread, hrequest (by decide)⟩

end Service
end Parley
