import Parley.Proofs.Page.ChangingWalk

/-!
# Walking the default listing while conversations are renamed

Conversations are listed by the time of their last update, the latest first, unless
another order is asked for. To rename one makes it the latest of all. So what a walk has
met stays behind its boundary whatever is renamed, with one exception: the conversation
that its cursor names. If that one is renamed before the next page is asked for, the
boundary is at its new time, and what was met before lies ahead again.

* `Renamed.exists_before`: renamings only make conversations later, and leave the time of
  all others as it was.
* `keepsPlace_of_not_renamed`: the last conversation of a page keeps its place unless it
  is renamed.
* `repeated_only_behind_renamed`: nothing else makes a walk meet a conversation again.
* `walk_repeats_behind_renamed`: a walk that does.
-/
namespace Parley

open SortOrder RecordList
open Conversation (Scope SortField)
open Store (Statement)

/-! ## Renamings -/

/-- What a table becomes while conversations of an owner are renamed in turn, each at a
time later than all in the table. -/
inductive Renamed (app : Uuid) (principal : Principal) (table : List Conversation) :
    List Uuid → List Conversation → Prop where
  | none : Renamed app principal table [] table
  | rename {ids : List Uuid} {later : List Conversation}
    (h : Renamed app principal table ids later) (id : Uuid) (name : String) {now : Int}
    (hnow : ∀ c ∈ later, c.updatedAt < now) : Renamed app principal table (id :: ids)
      ((Statement.renameOwned app principal id name).effect now later)

section

variable {app : Uuid} {principal : Principal} {table later : List Conversation} {ids : List Uuid}

theorem Renamed.map_id (h : Renamed app principal table ids later) :
    later.map (·.id) = table.map (·.id) := by
  induction h with
  | none => rfl
  | rename h id name hnow ih => rw [Store.map_id_effect, ih]

/-- A conversation was there before, and was not updated later than it is now; nor was it
updated earlier if it was not renamed. -/
theorem Renamed.exists_before (h : Renamed app principal table ids later) {d : Conversation}
    (hd : d ∈ later) : ∃ c ∈ table, c.id = d.id ∧ c.updatedAt ≤ d.updatedAt ∧
      (d.id ∉ ids → d.updatedAt = c.updatedAt) := by
  induction h generalizing d with
  | none => exact ⟨d, hd, rfl, Int.le_refl _, fun _ => rfl⟩
  | @rename ids later h id name now hnow ih =>
    obtain ⟨e, he, heid, hsame | ⟨hid, htime⟩⟩ := Store.exists_of_mem_rename hd
    · obtain ⟨c, hc, hcid, hle, hkept⟩ := ih he
      subst hsame
      refine ⟨c, hc, hcid, hle, ?_⟩
      intro hnot
      exact hkept fun hmem => hnot (List.mem_cons_of_mem _ hmem)
    · obtain ⟨c, hc, hcid, hle, -⟩ := ih he
      have hlt := hnow e he
      refine ⟨c, hc, hcid.trans heid, by omega, ?_⟩
      intro hnot
      exact absurd (hid ▸ List.mem_cons_self) hnot

end

/-- A table as each request of a walk finds it, with the conversations that are renamed
before the next one. -/
structure RenamedTable (scope : Scope) where
  table : Nat → List Conversation
  renamed : Nat → List Uuid
  nodup_ids : ((table 0).map (·.id)).Nodup
  renames : ∀ n, Renamed scope.app scope.principal (table n) (renamed n) (table (n + 1))

namespace RenamedTable

variable {scope : Scope} (t : RenamedTable scope)

theorem nodup_ids_at (n : Nat) : ((t.table n).map (·.id)).Nodup := by
  induction n with
  | zero => exact t.nodup_ids
  | succ n ih =>
    rw [(t.renames n).map_id]
    exact ih

/-- Two conversations in the table of one request that have one id are the same. -/
theorem eq_of_id_eq {n : Nat} {c d : Conversation} (hc : c ∈ t.table n) (hd : d ∈ t.table n)
    (hid : c.id = d.id) : c = d :=
  List.inj_on_of_nodup_map (t.nodup_ids_at n) hc hd hid

/-- From one request to a later one conversations only become later. -/
theorem updatedAt_le {m n : Nat} (hmn : m ≤ n) {c d : Conversation} (hc : c ∈ t.table m)
    (hd : d ∈ t.table n) (hid : c.id = d.id) : c.updatedAt ≤ d.updatedAt := by
  induction hmn generalizing d with
  | refl =>
    obtain rfl := t.eq_of_id_eq hc hd hid
    exact Int.le_refl _
  | step _ ih =>
    obtain ⟨e, he, heid, hle, -⟩ := (t.renames _).exists_before hd
    have := ih he (hid.trans heid.symm)
    omega

/-- A conversation that is not renamed from one request to the next keeps its time. -/
theorem updatedAt_eq {n : Nat} {c d : Conversation} (hc : c ∈ t.table n)
    (hd : d ∈ t.table (n + 1)) (hid : c.id = d.id) (hnot : c.id ∉ t.renamed n) :
    d.updatedAt = c.updatedAt := by
  obtain ⟨e, he, heid, -, hkept⟩ := (t.renames n).exists_before hd
  obtain rfl := t.eq_of_id_eq hc he (hid.trans heid.symm)
  exact hkept (hid ▸ hnot)

end RenamedTable

/-! ## The default listing -/

/-- The order in which the conversation that was updated last comes first. -/
def latestFirst : SortOrder SortField :=
  ⟨.updatedAt, .desc⟩

example : Conversation.parseSort Conversation.defaultSort = .ok latestFirst := by cbv

namespace RenamedTable

variable {scope : Scope} (t : RenamedTable scope)

def walker (ids : IdFilter) (limits : Nat → Nat) : Walker Conversation SortField :=
  ⟨latestFirst, ids, fun n => scope.view (t.table n), limits⟩

theorem distinct_view (n : Nat) : (scope.view (t.table n)).Distinct :=
  Store.distinct_view (t.nodup_ids_at n) scope

variable {t} {ids : IdFilter} {limits : Nat → Nat} {start : Option Uuid}
  {pages : List (Page Conversation)} {ending : Ending}

/-- The last conversation of a page keeps its place unless it is renamed. -/
theorem keepsPlace_of_not_renamed (hw : Walk (t.walker ids limits) 0 start pages ending) {k : Nat}
    {page : Page Conversation} (hk : pages[k]? = some page)
    (hnot : ∀ id ∈ page.lastId?, id ∉ t.renamed k) :
    (t.walker ids limits).KeepsPlace (0 + k) page := by
  intro last ref hl href hid
  have hlast := (shows_of_mem hw hk (List.mem_of_getLast? hl)).1
  rw [Nat.zero_add] at hlast href
  have hkept : last.id ∉ t.renamed k := by
    apply hnot
    simp only [Page.lastId?, hl, Option.map_some, Option.mem_some_iff]
    rfl
  have htime := t.updatedAt_eq hlast href.1 hid.symm hkept
  show -last.updatedAt ≤ -ref.updatedAt
  omega

/-- A conversation that two pages have in common was met again because the last
conversation of a page from the one to the other was renamed. -/
theorem exists_renamed_of_repeated (hw : Walk (t.walker ids limits) 0 start pages ending)
    {i j : Nat} (hij : i < j) {page later : Page Conversation} (hi : pages[i]? = some page)
    (hj : pages[j]? = some later) {c d : Conversation} (hc : c ∈ page.data) (hd : d ∈ later.data)
    (hid : c.id = d.id) :
    ∃ k between, i ≤ k ∧ k < j ∧ pages[k]? = some between ∧
      ∃ id ∈ between.lastId?, id ∈ t.renamed k := by
  by_contra hnone
  push Not at hnone
  have hlt : -c.updatedAt < -d.updatedAt := by
    refine height_lt_of_lt t.distinct_view hw hij hi ?_ hc hj hd
    intro k between hik hkj hk
    exact keepsPlace_of_not_renamed hw hk (hnone k between hik hkj hk)
  have hc' := (shows_of_mem hw hi hc).1
  have hd' := (shows_of_mem hw hj hd).1
  rw [Nat.zero_add] at hc' hd'
  have hle := t.updatedAt_le (Nat.le_of_lt hij) hc' hd' hid
  omega

end RenamedTable

/-- While conversations of the caller are renamed between the requests of a walk along the
default listing, a conversation that was met on one page is met again on a later one only
if the last conversation of a page from the one to the other was renamed before the page
after it was asked for. A walk that has this happen to none of its pages meets no
conversation twice. -/
theorem repeated_only_behind_renamed {scope : Scope} (t : RenamedTable scope) (ids : IdFilter)
    (limits : Nat → Nat) (start : Option Uuid) (pages : List (Page Conversation)) (ending : Ending)
    (hw : Walk (t.walker ids limits) 0 start pages ending) :
    (∀ i j page later, i < j → pages[i]? = some page → pages[j]? = some later →
      ∀ c ∈ page.data, ∀ d ∈ later.data, c.id = d.id →
        ∃ k between, i ≤ k ∧ k < j ∧ pages[k]? = some between ∧
          ∃ id ∈ between.lastId?, id ∈ t.renamed k) ∧
    ((∀ k page, pages[k]? = some page → ∀ id ∈ page.lastId?, id ∉ t.renamed k) →
      ((records pages).map (·.id)).Nodup) := by
  have hrepeated : ∀ i j page later, i < j → pages[i]? = some page → pages[j]? = some later →
      ∀ c ∈ page.data, ∀ d ∈ later.data, c.id = d.id →
        ∃ k between, i ≤ k ∧ k < j ∧ pages[k]? = some between ∧
          ∃ id ∈ between.lastId?, id ∈ t.renamed k := by
    intro i j page later hij hi hj c hc d hd hid
    exact RenamedTable.exists_renamed_of_repeated hw hij hi hj hc hd hid
  refine ⟨hrepeated, ?_⟩
  intro hnot
  apply nodup_records (nodup_page t.distinct_view hw)
  rw [List.pairwise_iff_getElem]
  intro i j hi hj hij c hc d hd hid
  obtain ⟨k, between, -, -, hk, id, hlast, hrenamed⟩ := hrepeated i j _ _ hij
    (List.getElem?_eq_getElem hi) (List.getElem?_eq_getElem hj) c hc d hd hid
  exact hnot k between hk id hlast hrenamed

def agedConversations : List Conversation :=
  [accountConversation (.random 1) 0 30, accountConversation (.random 2) 0 20,
    accountConversation (.random 3) 0 10]

/-- These conversations, of which one is renamed once the first page was read. -/
def renamedOnce (id : Uuid) : RenamedTable accountScope where
  table
    | 0 => agedConversations
    | _ + 1 =>
      (Statement.renameOwned default (.internalUser default) id "x").effect 40 agedConversations
  renamed
    | 0 => [id]
    | _ + 1 => []
  nodup_ids := show (agedConversations.map (·.id)).Nodup by decide
  renames
    | 0 => .rename .none id "x" (show ∀ c ∈ agedConversations, c.updatedAt < 40 by decide)
    | _ + 1 => .none

/-- To rename the first conversation of a page does no harm. -/
theorem no_repetition_of_renamed_first :
    ∃ pages, Walk ((renamedOnce (.random 1)).walker {} fun _ => 2) 0 none pages .finished ∧
      (∀ k page, pages[k]? = some page →
        ∀ id ∈ page.lastId?, id ∉ (renamedOnce (.random 1)).renamed k) ∧
      (records pages).map (·.id) = [.random 1, .random 2, .random 3] ∧
      ((records pages).map (·.id)).Nodup := by
  let pages : List (Page Conversation) := [
    ⟨2, true, [accountConversation (.random 1) 0 30, accountConversation (.random 2) 0 20]⟩,
    ⟨2, false, [accountConversation (.random 3) 0 10]⟩]
  have hw : Walk ((renamedOnce (.random 1)).walker {} fun _ => 2) 0 none pages .finished :=
    .next (by cbv) rfl (.finish (by cbv) rfl)
  have hnot : ∀ k page, pages[k]? = some page →
      ∀ id ∈ page.lastId?, id ∉ (renamedOnce (.random 1)).renamed k := by
    intro k page hk id hid
    cases k with
    | zero =>
      cases hk
      cases hid
      decide
    | succ k => exact List.not_mem_nil
  refine ⟨pages, hw, hnot, by decide, ?_⟩
  exact (repeated_only_behind_renamed _ {} _ none pages .finished hw).2 hnot

/-- To rename the last one brings back the first. -/
theorem walk_repeats_behind_renamed :
    ∃ first second, Walk ((renamedOnce (.random 2)).walker {} fun _ => 2) 0 none
        [first, second] .finished ∧
      accountConversation (.random 1) 0 30 ∈ first.data ∧
      accountConversation (.random 1) 0 30 ∈ second.data := by
  let first : Page Conversation := ⟨2, true,
    [accountConversation (.random 1) 0 30, accountConversation (.random 2) 0 20]⟩
  let second : Page Conversation := ⟨2, false,
    [accountConversation (.random 1) 0 30, accountConversation (.random 3) 0 10]⟩
  have hw : Walk ((renamedOnce (.random 2)).walker {} fun _ => 2) 0 none [first, second]
      .finished := .next (by cbv) rfl (.finish (by cbv) rfl)
  exact ⟨first, second, hw, by decide, by decide⟩

end Parley
