import Parley.Proofs.Service.Login
import Parley.Proofs.Service.Unauthenticated
import Parley.Proofs.Store.Placeholder

/-!
# Which statements are sent

The statements that a request may give rise to are settled by a few choices in it: its route
and method, the order and the filter of a listing and whether it goes on from somewhere, and
whether a name is to be made or was given. Whatever else the request says and whatever the
database replies, the statements come in the order of the plan for these choices. The rest
only decides how far the plan is followed, and what the arguments are.

* `Handler.Covers`, `Handler.Follows`: a handler sends a plan as a whole, unless it fails; or
  the first part of one. `Covers.bind` and `Covers.bind_follows` put plans together.
* `follows_endpoint`: every endpoint follows the plan for its request.
* `texts_hold_no_data`: every text that is ever sent is one of a fixed list, and its
  placeholders are the numbers of its arguments; and requests that make the same choices send
  the same texts, as long as both go on.
-/
namespace Parley.Service

open Handler (Asks Quiet exec)
open Http (Method Request Response Route)
open Store (Cell Reply Row Statement blankFilter blankQuery blankScope)
open Conversation (ListQuery SortField)

/-! ## Following a plan -/

namespace Handler

variable {α β : Type} {h : Handler α} {plan : List Statement} {P : α → Prop}

/-- What a handler sends, but for the data in it, is related to how it ends. -/
def Logs (h : Handler α) (Q : List Statement → Except Failure α → Prop) : Prop :=
  ∀ x, ∃ sent, (exec h x).2.log = x.log ++ sent ∧ Q (sent.map Statement.blank) (exec h x).1

theorem logs_mono {Q R : List Statement → Except Failure α → Prop} (hh : Logs h Q)
    (hR : ∀ sent result, Q sent result → R sent result) : Logs h R := by
  intro x
  obtain ⟨sent, hlog, hQ⟩ := hh x
  exact ⟨sent, hlog, hR _ _ hQ⟩

theorem logs_bind {f : α → Handler β} {Q : List Statement → Except Failure β → Prop}
    (hh : Logs h fun sent result => match result with
      | .error e => Q sent (.error e)
      | .ok a => Logs (f a) fun sent' result' => Q (sent ++ sent') result') :
    Logs (h >>= f) Q := by
  intro x
  obtain ⟨sent, hlog, hQ⟩ := hh x
  rw [exec_bind]
  rcases hexec : exec h x with ⟨e | a, x'⟩
  · rw [hexec] at hlog hQ
    exact ⟨sent, hlog, hQ⟩
  · rw [hexec] at hlog hQ
    obtain ⟨sent', hlog', hQ'⟩ := hQ x'
    refine ⟨sent ++ sent', ?_, ?_⟩
    · rw [hlog', ← List.append_assoc, ← hlog]
    · rw [List.map_append]
      exact hQ'

theorem logs_of_exec {Q : List Statement → Except Failure α → Prop} {r : Except Failure α}
    (hexec : ∀ x, exec h x = (r, x)) (hQ : Q [] r) : Logs h Q := by
  intro x
  rw [hexec]
  exact ⟨[], (List.append_nil _).symm, hQ⟩

/-- A handler sends a whole plan and ends with a value of which `P` holds, or it sends the
first part of the plan and fails. -/
def Covers (h : Handler α) (plan : List Statement) (P : α → Prop) : Prop :=
  Logs h fun sent result => match result with
    | .ok a => sent = plan ∧ P a
    | .error _ => sent <+: plan

/-- A handler sends the first part of a plan. -/
def Follows (h : Handler α) (plan : List Statement) : Prop :=
  Logs h fun sent _ => sent <+: plan

theorem Covers.follows (hh : Covers h plan P) : Follows h plan := by
  refine logs_mono hh ?_
  intro sent result hsent
  cases result with
  | error e => exact hsent
  | ok a => exact hsent.1 ▸ List.prefix_refl _

/-! ### Steps -/

theorem covers_pure {a : α} (ha : P a) : Covers (pure a) [] P :=
  logs_of_exec (exec_pure a) ⟨rfl, ha⟩

theorem covers_throw (e : Failure) : Covers (throw e) plan P :=
  logs_of_exec (r := .error e) (fun _ => rfl) List.nil_prefix

theorem follows_pure (a : α) : Follows (pure a) plan :=
  logs_of_exec (exec_pure a) List.nil_prefix

theorem follows_throw (e : Failure) : Follows (throw e : Handler α) plan :=
  (covers_throw (P := fun _ => True) e).follows

theorem covers_of_asks {s : Statement} {read : Reply → Except Failure α} (hh : Asks h s read)
    (hP : ∀ reply a, read reply = .ok a → P a) : Covers h [s.blank] P := by
  intro x
  refine ⟨[s], ?_⟩
  cases hx : x.replies with
  | nil =>
    rw [hh.nil x hx]
    exact ⟨rfl, List.prefix_refl _⟩
  | cons reply rest =>
    rw [hh.cons x reply rest hx]
    refine ⟨rfl, ?_⟩
    cases hread : read reply with
    | error e => exact List.prefix_refl _
    | ok a => exact ⟨rfl, hP reply a hread⟩

theorem covers_ask {s : Statement} {read : Reply → Except Failure α} (hh : Asks h s read) :
    Covers h [s.blank] fun _ => True :=
  covers_of_asks hh fun _ _ _ => trivial

theorem covers_execute (s : Statement) : Covers (execute s) [s.blank] fun _ => True := by
  cases hs : s.isTransactional with
  | false => exact covers_ask (asks_execute hs)
  | true =>
    intro x
    rw [exec_execute_of_isTransactional hs]
    exact ⟨[s], rfl, rfl, trivial⟩

theorem covers_quiet (hh : Quiet h P) : Covers h [] P := by
  intro x
  obtain ⟨sent, used, hleads, rfl, -, hP⟩ := hh x
  refine ⟨[], hleads.log, ?_⟩
  cases hexec : (exec h x).1 with
  | error e => exact List.nil_prefix
  | ok a => exact ⟨rfl, hP a hexec⟩

theorem covers_orFail (e : ApiError) (a : Option α) :
    Covers (orFail e a) [] fun _ => True := by
  cases a with
  | none => exact covers_throw _
  | some a => exact covers_pure trivial

theorem covers_modifyLimiter (f : LoginLimiter → LoginLimiter) :
    Covers (modifyLimiter f) [] fun _ => True :=
  fun _ => ⟨[], (List.append_nil _).symm, rfl, trivial⟩

theorem covers_checkLimiter (now : Int) (email : String) :
    Covers (checkLimiter now email) [] fun _ => True := by
  intro x
  cases hcheck : (x.limiter.check now email).1 with
  | ok u =>
    rw [exec_checkLimiter_ok hcheck]
    exact ⟨[], (List.append_nil _).symm, rfl, trivial⟩
  | error e =>
    rw [exec_checkLimiter_error hcheck]
    exact ⟨[], (List.append_nil _).symm, List.nil_prefix⟩

/-! ### Plans put together -/

variable {f : α → Handler β} {more : List Statement}

theorem Covers.bind {R : β → Prop} (hh : Covers h plan P) (hf : ∀ a, P a → Covers (f a) more R) :
    Covers (h >>= f) (plan ++ more) R := by
  refine logs_bind (logs_mono hh ?_)
  intro sent result hsent
  cases result with
  | error e => exact hsent.trans (List.prefix_append _ _)
  | ok a =>
    obtain ⟨rfl, ha⟩ := hsent
    refine logs_mono (hf a ha) ?_
    intro sent' result' hsent'
    cases result' with
    | error e => exact (List.prefix_append_right_inj _).mpr hsent'
    | ok b => exact ⟨by rw [hsent'.1], hsent'.2⟩

/-- What comes behind a whole plan may break off. -/
theorem Covers.bind_follows (hh : Covers h plan P) (hf : ∀ a, P a → Follows (f a) more) :
    Follows (h >>= f) (plan ++ more) := by
  refine logs_bind (logs_mono hh ?_)
  intro sent result hsent
  cases result with
  | error e => exact hsent.trans (List.prefix_append _ _)
  | ok a =>
    obtain ⟨rfl, ha⟩ := hsent
    refine logs_mono (hf a ha) ?_
    intro sent' result' hsent'
    exact (List.prefix_append_right_inj _).mpr hsent'

/-- Behind a plan that may have been broken off nothing more is sent. -/
theorem Follows.bind (hh : Follows h plan) (hf : ∀ a, Follows (f a) []) :
    Follows (h >>= f) plan := by
  refine logs_bind (logs_mono hh ?_)
  intro sent result hsent
  cases result with
  | error e => exact hsent
  | ok a =>
    refine logs_mono (hf a) ?_
    intro sent' result' hsent'
    rwa [List.prefix_nil.mp hsent', List.append_nil]

end Handler

open Handler (Covers Follows covers_pure covers_throw covers_ask covers_of_asks covers_execute
  covers_quiet covers_orFail covers_modifyLimiter covers_checkLimiter follows_pure follows_throw)

/-! ## Plans -/

/-- What is asked at a gate, and of an app behind the gate of the console. -/
def Gate.plan : Gate → List Statement
  | session => [.sessionAccount "", .appForAccount default default]
  | passport => [.appById default, .endUserExists default]

/-- A new pair of tokens. -/
def pairPlan : List Statement :=
  [.openTransaction, .insertSession "" default none 0, .insertRefreshToken "" default 0,
    .commitTransaction]

/-- What is chosen for a listing: its order, whether pinned conversations matter, and whether it
goes on from one. -/
structure Wish where
  sort : SortOrder SortField
  pinned : Option Bool
  resumes : Bool
  deriving DecidableEq, Repr

/-- The boundary of a page, as far as it is chosen. -/
def Wish.boundary (w : Wish) : Boundary :=
  ⟨0, w.sort.direction⟩

/-- A page: the record to go on from, the records, and whether there are more. -/
def pagePlan (ids : IdFilter) (w : Wish) : List Statement :=
  (if w.resumes then [.findInScope blankScope default ids] else []) ++
    [.pageInScope blankScope ⟨ids, w.sort, if w.resumes then some w.boundary else none⟩ 0,
      .countInScope blankScope ⟨ids, w.sort, some w.boundary⟩]

/-- A listing: the pinned conversations where they matter, and a page. -/
def Wish.plan (w : Wish) : List Statement :=
  (if w.pinned.isSome then [.pinned default blankScope.principal] else []) ++
    pagePlan (Conversation.pinnedFilter w.pinned []) w

/-- What is chosen by a request. -/
inductive Shape where
  /-- Nothing is sent. -/
  | silent
  | login
  | logout
  | refresh
  | passport
  /-- A listing, if one can be made out in the query. -/
  | list (gate : Gate) (wish : Option Wish)
  | get (gate : Gate)
  /-- Another name, if the body can be read: one that is made, or one that is given. -/
  | rename (gate : Gate) (automatic : Option Bool)
  | delete (gate : Gate)
  deriving DecidableEq, Repr

/-- Another name for a conversation. -/
def renamePlan (automatic : Bool) : List Statement :=
  if automatic then
    [.getOwned default blankScope.principal default, .firstQuestion default default,
      .setName default ""]
  else [.renameOwned default blankScope.principal default ""]

/-- The statements that come of the choices, if all goes well. -/
def Shape.plan : Shape → List Statement
  | silent => []
  | login =>
    [.accountByEmail "", .tenantCount default, .recordLogin default none] ++ pairPlan
  | logout => [.sessionAccount "", .deleteSession ""]
  | refresh => .consumeRefreshToken "" :: pairPlan
  | passport =>
    [.accountName default, .activeSite "", .appById default,
      .linkEndUser default default default "" default]
  | list gate wish => gate.plan ++ wish.elim [] Wish.plan
  | get gate => gate.plan ++ [.getOwned default blankScope.principal default]
  | rename gate automatic => gate.plan ++ automatic.elim [] renamePlan
  | delete gate => gate.plan ++ [.deleteOwned default blankScope.principal default]

/-! ## Choices of a request -/

/-- The choices in the query of a listing, if a page is asked for in it. -/
def Wish.ofQuery? (q : ListQuery) : Option Wish :=
  q.pageRequest.toOption.map fun request => ⟨request.sort, q.pinned, request.lastId.isSome⟩

def Wish.of? (r : Request) : Option Wish :=
  (ListQuery.parse? r.query).bind Wish.ofQuery?

/-- Whether a request for another name wants it to be made. -/
def automatic? (r : Request) : Option Bool :=
  if saysJson r then (RenameForm.record.readText r.body).toOption.map (·.automatic) else none

/-- The choices of a request for a route and a method. -/
def Shape.ofRoute (r : Request) : Route → Method → Shape
  | .login, .post => .login
  | .logout, .post => .logout
  | .refreshToken, .post => .refresh
  | .passport, .get => .passport
  | .consoleConversations _, .get => .list .session (Wish.of? r)
  | .consoleConversation _ _, .get => .get .session
  | .consoleConversation _ _, .delete => .delete .session
  | .consoleConversationName _ _, .post => .rename .session (automatic? r)
  | .webConversations, .get => .list .passport (Wish.of? r)
  | .webConversation _, .get => .get .passport
  | .webConversation _, .delete => .delete .passport
  | .webConversationName _, .post => .rename .passport (automatic? r)
  | _, _ => .silent

def Shape.of (r : Request) : Shape :=
  match Route.ofPath? r.path with
  | some route => ofRoute r route (endpointMethod r)
  | none => .silent

/-! ## What is sent by the parts of a handler -/

theorem covers_requireCaller (r : Request) :
    Covers (requireCaller r) [.sessionAccount ""] fun _ => True := by
  rw [← bind_pure (requireCaller r), requireCaller_bind]
  split
  · exact covers_throw _
  · exact (covers_ask (Handler.asks_required rfl _ _)).bind fun _ _ => covers_pure trivial

theorem covers_requireApp (caller : Caller) (app : Uuid) :
    Covers (requireApp caller app) [.appForAccount default default] fun _ => True := by
  refine (covers_ask (Handler.asks_first? rfl _)).bind fun found _ => ?_
  exact (covers_orFail _ found).bind fun _ _ => covers_pure trivial

theorem covers_requireVisitor (ctx : Context) (r : Request) :
    Covers (requireVisitor ctx r) (Gate.plan .passport) fun _ => True := by
  unfold requireVisitor
  show Covers _ ([] ++ Gate.plan .passport) _
  refine (covers_orFail _ r.bearer?).bind fun token _ => ?_
  rw [← bind_pure (acceptPassport _ _ _), acceptPassport_bind]
  split
  · exact covers_throw _
  · split
    · refine (covers_ask (asks_publishedApp _)).bind fun app _ => ?_
      exact (covers_ask (asks_endUserExists _)).bind fun _ _ => covers_pure trivial
    · exact covers_throw _

theorem covers_listQuery (r : Request) :
    Covers (listQuery r) [] fun q => ListQuery.parse? r.query = some q := by
  unfold listQuery
  split
  · rename_i q hq
    exact covers_pure hq
  · exact covers_throw _

theorem covers_renameForm (r : Request) :
    Covers (renameForm r) [] fun form => automatic? r = some form.automatic := by
  unfold renameForm
  rcases body_cases RenameForm.record r with ⟨form, hjson, hread, hbody⟩ | ⟨rejection, hbody⟩
  · have hautomatic : automatic? r = some form.automatic := by
      rw [automatic?, if_pos hjson, hread]
      rfl
    rw [hbody, pure_bind]
    split
    · exact covers_throw _
    · exact covers_pure hautomatic
  · rw [hbody]
    exact covers_throw _

theorem covers_pathId (parameter : List Char) : Covers (pathId parameter) [] fun _ => True := by
  unfold pathId
  split
  · exact covers_pure trivial
  · exact covers_throw _

theorem covers_pathIds (first second : List Char) :
    Covers (pathIds first second) [] fun _ => True := by
  refine (covers_pathId first).bind fun _ _ => ?_
  exact (covers_pathId second).bind fun _ _ => covers_pure trivial

theorem covers_body {σ α : Type} (record : Json.Record σ α) (r : Request) :
    Covers (body record r) [] fun _ => True :=
  covers_quiet (quiet_body record r)

/-! ### Listings -/

theorem covers_lookUpFilter (scope : Conversation.Scope) (pinned : Option Bool) :
    Covers (lookUpFilter scope pinned)
      (if pinned.isSome then [.pinned default blankScope.principal] else [])
      fun ids => blankFilter ids = Conversation.pinnedFilter pinned [] := by
  unfold lookUpFilter
  cases pinned with
  | none => exact covers_pure rfl
  | some b =>
    refine (covers_ask (Handler.asks_all rfl _)).bind fun ids _ => ?_
    exact covers_pure (by cases b <;> rfl)

theorem follows_ofQuery (scope : Conversation.Scope) (query : PageQuery SortField) (limit : Nat) :
    Follows (Page.ofQuery (pageSource scope) query limit)
      [.pageInScope blankScope (blankQuery query) 0, .countInScope blankScope
        ⟨blankFilter query.ids, query.sort, some ⟨0, query.sort.direction⟩⟩] := by
  refine (covers_ask (Handler.asks_all rfl _)).bind_follows fun data _ => ?_
  split
  · rename_i last hlast
    split
    · have hcount : Covers ((pageSource scope).count
          { query with boundary := some (Boundary.after last query.sort) })
          [.countInScope blankScope
            ⟨blankFilter query.ids, query.sort, some ⟨0, query.sort.direction⟩⟩]
          fun _ => True :=
        (covers_ask (Handler.asks_one rfl _)).bind fun _ _ => covers_pure trivial
      exact hcount.follows.bind fun _ => follows_pure _
    · exact follows_pure _
  · exact follows_pure _

theorem follows_page (scope : Conversation.Scope) (request : PageRequest SortField)
    (pinned : Option Bool) :
    Follows (Page.get (pageSource scope) request)
      (pagePlan (blankFilter request.ids) ⟨request.sort, pinned, request.lastId.isSome⟩) := by
  unfold Page.get
  split
  · exact follows_pure _
  · split
    · rename_i hid
      rw [hid]
      exact (follows_ofQuery scope _ _).bind fun _ => follows_pure _
    · rename_i id hid
      rw [hid]
      refine (covers_ask (Handler.asks_first? rfl _)).bind_follows fun reference _ => ?_
      split
      · exact follows_pure _
      · exact (follows_ofQuery scope _ _).bind fun _ => follows_pure _

theorem follows_listConversations (scope : Conversation.Scope) (q : ListQuery) :
    Follows (listConversations scope q) ((Wish.ofQuery? q).elim [] Wish.plan) := by
  unfold listConversations Wish.ofQuery?
  cases hrequest : q.pageRequest with
  | error e => exact follows_throw _
  | ok request =>
    simp only [pure_bind]
    refine (covers_lookUpFilter scope q.pinned).bind_follows fun ids hids => ?_
    rw [← hids]
    refine (follows_page scope { request with ids := ids } q.pinned).bind fun result => ?_
    split
    · exact follows_pure _
    · exact follows_throw _

/-! ### Single conversations -/

theorem covers_getConversation (app : Uuid) (principal : Principal) (id : Uuid) :
    Covers (getConversation app principal id) [.getOwned default blankScope.principal default]
      fun _ => True :=
  covers_ask (Handler.asks_required rfl _ _)

theorem covers_setName (app : Uuid) (principal : Principal) (id : Uuid) (name : String) :
    Covers (setName app principal id name) [.renameOwned default blankScope.principal default ""]
      fun _ => True :=
  covers_ask (Handler.asks_required rfl _ _)

theorem follows_nameFromQuestion (c : Conversation) :
    Follows (nameFromQuestion c) [.firstQuestion default default, .setName default ""] := by
  refine (covers_ask (Handler.asks_first? rfl _)).bind_follows fun question _ => ?_
  refine (covers_orFail _ question).bind_follows fun question _ => ?_
  split
  · exact (covers_execute _).follows.bind fun _ => follows_pure _
  · exact follows_pure _

theorem follows_renameConversation (app : Uuid) (principal : Principal) (id : Uuid)
    (form : RenameForm) :
    Follows (renameConversation app principal id form) (renamePlan form.automatic) := by
  unfold renameConversation renamePlan
  split
  · exact (covers_getConversation app principal id).bind_follows fun c _ =>
      follows_nameFromQuestion c
  · exact (covers_setName app principal id _).follows

theorem follows_deleteConversation (app : Uuid) (principal : Principal) (id : Uuid) :
    Follows (deleteConversation app principal id)
      [.deleteOwned default blankScope.principal default] := by
  refine (covers_ask (Handler.asks_affected rfl)).follows.bind fun count => ?_
  split
  · exact follows_throw _
  · exact follows_pure _

/-! ### Sessions and passports -/

theorem covers_issueTokens (ctx : Context) (account : Uuid) (address : Option String) :
    Covers (issueTokens ctx account address) pairPlan fun _ => True := by
  refine (covers_execute _).bind fun _ _ => ?_
  refine (covers_execute _).bind fun _ _ => ?_
  refine (covers_execute _).bind fun _ _ => ?_
  exact (covers_execute _).bind fun _ _ => covers_pure trivial

theorem follows_signIn (ctx : Context) (r : Request) (form : LoginForm) (account : Account) :
    Follows (signIn ctx r form account) (.recordLogin default none :: pairPlan) := by
  refine (covers_execute _).bind_follows fun _ _ => ?_
  exact (covers_issueTokens _ _ _).follows.bind fun _ => follows_pure _

theorem follows_proceed (ctx : Context) (r : Request) (form : LoginForm) (email : String)
    (account : Account) :
    Follows (proceed ctx r form email account)
      (.tenantCount default :: .recordLogin default none :: pairPlan) := by
  unfold proceed
  split
  · exact follows_throw _
  · split
    · refine (covers_ask (Handler.asks_one rfl _)).bind_follows fun tenants _ => ?_
      unfold enter
      split
      · exact follows_throw _
      · exact (covers_modifyLimiter _).bind_follows fun _ _ => follows_signIn ctx r form account
    · exact (covers_modifyLimiter _).bind_follows fun _ _ => follows_throw _

theorem follows_login (ctx : Context) (r : Request) : Follows (login ctx r) Shape.login.plan := by
  rw [login_eq]
  refine (covers_body _ r).bind_follows fun form _ => ?_
  refine (covers_orFail _ (Email.normalize? form.email)).bind_follows fun email _ => ?_
  refine (covers_checkLimiter ctx.now email).bind_follows fun _ _ => ?_
  rw [attempt_eq]
  refine (covers_ask (Handler.asks_required rfl _ _)).bind_follows fun account _ => ?_
  exact follows_proceed ctx r form email account

theorem follows_logout (ctx : Context) (r : Request) :
    Follows (logout ctx r) Shape.logout.plan := by
  refine (covers_requireCaller r).bind_follows fun caller _ => ?_
  exact (covers_execute _).follows.bind fun _ => follows_pure _

theorem follows_refresh (ctx : Context) (r : Request) :
    Follows (refresh ctx r) Shape.refresh.plan := by
  refine (covers_body _ r).bind_follows fun token _ => ?_
  have hrenew : Follows (renewTokens ctx token) Shape.refresh.plan := by
    refine (covers_ask (Handler.asks_first? rfl _)).bind_follows fun account _ => ?_
    split
    · exact follows_pure _
    · exact (covers_issueTokens _ _ _).follows.bind fun _ => follows_pure _
  refine hrenew.bind fun pair => ?_
  split
  · exact follows_pure _
  · exact follows_pure _

theorem follows_getPassport (ctx : Context) (r : Request) :
    Follows (getPassport ctx r) Shape.passport.plan := by
  refine (covers_orFail _ (r.filled? "x-user-id")).bind_follows fun raw _ => ?_
  refine (covers_orFail _ (Uuid.parse? raw)).bind_follows fun account _ => ?_
  have hissue : Follows (issuePassport ctx account (r.filled? "x-app-code"))
      Shape.passport.plan := by
    refine (covers_ask (Handler.asks_first? rfl _)).bind_follows fun name _ => ?_
    refine (covers_orFail _ name).bind_follows fun name _ => ?_
    refine (covers_orFail _ (r.filled? "x-app-code")).bind_follows fun code _ => ?_
    refine (covers_ask (Handler.asks_first? rfl _)).bind_follows fun site _ => ?_
    refine (covers_orFail _ site).bind_follows fun site _ => ?_
    refine (covers_ask (asks_publishedApp site)).bind_follows fun app _ => ?_
    exact (covers_ask (Handler.asks_one rfl _)).follows.bind fun _ => follows_pure _
  exact hissue.bind fun _ => follows_pure _

/-! ## Endpoints -/

theorem follows_consoleList (r : Request) (app : List Char) :
    Follows (consoleList r app) (Shape.list .session (Wish.of? r)).plan := by
  refine (covers_requireCaller r).bind_follows fun caller _ => ?_
  refine (covers_pathId app).bind_follows fun id _ => ?_
  refine (covers_listQuery r).bind_follows fun q hq => ?_
  refine (covers_requireApp caller id).bind_follows fun _ _ => ?_
  rw [Wish.of?, hq]
  exact (follows_listConversations _ q).bind fun _ => follows_pure _

theorem follows_consoleGet (r : Request) (app id : List Char) :
    Follows (consoleGet r app id) (Shape.get .session).plan := by
  refine (covers_requireCaller r).bind_follows fun caller _ => ?_
  refine (covers_pathIds app id).bind_follows fun ids _ => ?_
  refine (covers_requireApp caller ids.1).bind_follows fun _ _ => ?_
  exact (covers_getConversation _ _ _).follows.bind fun _ => follows_pure _

theorem follows_consoleRename (r : Request) (app id : List Char) :
    Follows (consoleRename r app id) (Shape.rename .session (automatic? r)).plan := by
  refine (covers_requireCaller r).bind_follows fun caller _ => ?_
  refine (covers_pathIds app id).bind_follows fun ids _ => ?_
  refine (covers_renameForm r).bind_follows fun form hform => ?_
  refine (covers_requireApp caller ids.1).bind_follows fun _ _ => ?_
  rw [hform]
  exact (follows_renameConversation _ _ _ form).bind fun _ => follows_pure _

theorem follows_consoleDelete (r : Request) (app id : List Char) :
    Follows (consoleDelete r app id) (Shape.delete .session).plan := by
  refine (covers_requireCaller r).bind_follows fun caller _ => ?_
  refine (covers_pathIds app id).bind_follows fun ids _ => ?_
  refine (covers_requireApp caller ids.1).bind_follows fun _ _ => ?_
  exact (follows_deleteConversation _ _ _).bind fun _ => follows_pure _

theorem follows_webList (ctx : Context) (r : Request) :
    Follows (webList ctx r) (Shape.list .passport (Wish.of? r)).plan := by
  refine (covers_requireVisitor ctx r).bind_follows fun visitor _ => ?_
  refine (covers_listQuery r).bind_follows fun q hq => ?_
  rw [Wish.of?, hq]
  exact (follows_listConversations _ q).bind fun _ => follows_pure _

theorem follows_webGet (ctx : Context) (r : Request) (id : List Char) :
    Follows (webGet ctx r id) (Shape.get .passport).plan := by
  refine (covers_requireVisitor ctx r).bind_follows fun visitor _ => ?_
  refine (covers_pathId id).bind_follows fun id _ => ?_
  exact (covers_getConversation _ _ _).follows.bind fun _ => follows_pure _

theorem follows_webRename (ctx : Context) (r : Request) (id : List Char) :
    Follows (webRename ctx r id) (Shape.rename .passport (automatic? r)).plan := by
  refine (covers_requireVisitor ctx r).bind_follows fun visitor _ => ?_
  refine (covers_pathId id).bind_follows fun id _ => ?_
  refine (covers_renameForm r).bind_follows fun form hform => ?_
  rw [hform]
  exact (follows_renameConversation _ _ _ form).bind fun _ => follows_pure _

theorem follows_webDelete (ctx : Context) (r : Request) (id : List Char) :
    Follows (webDelete ctx r id) (Shape.delete .passport).plan := by
  refine (covers_requireVisitor ctx r).bind_follows fun visitor _ => ?_
  refine (covers_pathId id).bind_follows fun id _ => ?_
  exact (follows_deleteConversation _ _ _).bind fun _ => follows_pure _

/-- Every endpoint follows the plan for its request. -/
theorem follows_endpoint {ctx : Context} {r : Request} {route : Route} {method : Method}
    {h : Handler Response} (hh : endpoint? ctx r route method = some h) :
    Follows h (Shape.ofRoute r route method).plan := by
  cases route with
  | health => cases method <;> cases hh; exact follows_pure _
  | login => cases method <;> cases hh; exact follows_login ctx r
  | logout => cases method <;> cases hh; exact follows_logout ctx r
  | refreshToken => cases method <;> cases hh; exact follows_refresh ctx r
  | passport => cases method <;> cases hh; exact follows_getPassport ctx r
  | consoleConversations app => cases method <;> cases hh; exact follows_consoleList r app
  | consoleConversation app id =>
    cases method <;> cases hh
    · exact follows_consoleGet r app id
    · exact follows_consoleDelete r app id
  | consoleConversationName app id =>
    cases method <;> cases hh
    exact follows_consoleRename r app id
  | webConversations => cases method <;> cases hh; exact follows_webList ctx r
  | webConversation id =>
    cases method <;> cases hh
    · exact follows_webGet ctx r id
    · exact follows_webDelete ctx r id
  | webConversationName id => cases method <;> cases hh; exact follows_webRename ctx r id

/-! ## Requests -/

/-- What is sent for a request is, but for its data, the first part of its plan. -/
theorem log_follows (c : Config) (limiter : LoginLimiter) (e : Event) :
    (handle c limiter e).1.log.map Statement.blank <+: (Shape.of e.request).plan := by
  show (answer _ _ _).2.log.map _ <+: _
  rcases answer_cases (c.context e) e.request { limiter := limiter, replies := e.replies } with
    ⟨-, hsame⟩ | ⟨route, h, hroute, hh, hanswer⟩
  · rw [hsame]
    exact List.nil_prefix
  · obtain ⟨sent, hlog, hsent⟩ := follows_endpoint hh { limiter := limiter, replies := e.replies }
    rw [hanswer, run_snd, hlog, Shape.of, hroute]
    exact hsent

/-- The texts of what is sent for a request are the first ones of its plan. -/
theorem texts_follow (c : Config) (limiter : LoginLimiter) (e : Event) :
    (handle c limiter e).1.log.map Statement.sql <+:
      (Shape.of e.request).plan.map Statement.sql := by
  have hblank := (log_follows c limiter e).map Statement.sql
  rw [List.map_map] at hblank
  have hsql : Statement.sql ∘ Statement.blank = Statement.sql :=
    funext fun s => s.sql_blank
  rwa [hsql] at hblank

/-! ## All texts -/

def Wish.all : List Wish :=
  [SortField.createdAt, .updatedAt].flatMap fun field =>
    [Direction.asc, .desc].flatMap fun direction =>
      [none, some false, some true].flatMap fun pinned =>
        [false, true].map fun resumes => ⟨⟨field, direction⟩, pinned, resumes⟩

theorem Wish.mem_all (w : Wish) : w ∈ Wish.all := by
  obtain ⟨⟨field, direction⟩, pinned, resumes⟩ := w
  cases field <;> cases direction <;> rcases pinned with _ | _ | _ <;> cases resumes <;> decide

def Shape.all : List Shape :=
  [silent, login, logout, refresh, passport] ++
    [Gate.session, .passport].flatMap fun gate =>
      [get gate, delete gate] ++ (none :: Wish.all.map some).map (list gate) ++
        [none, some false, some true].map (rename gate)

theorem Shape.mem_all (shape : Shape) : shape ∈ Shape.all := by
  cases shape with
  | list gate wish =>
    cases wish with
    | none => cases gate <;> simp [Shape.all]
    | some w => cases gate <;> simp [Shape.all, w.mem_all]
  | rename gate automatic => cases gate <;> rcases automatic with _ | _ | _ <;> simp [Shape.all]
  | get gate => cases gate <;> simp [Shape.all]
  | delete gate => cases gate <;> simp [Shape.all]
  | _ => simp [Shape.all]

/-- The texts of all statements in all plans. -/
def texts : List String :=
  (Shape.all.flatMap Shape.plan).map Statement.sql

theorem sql_mem_texts {c : Config} {limiter : LoginLimiter} {e : Event} {s : Statement}
    (hs : s ∈ (handle c limiter e).1.log) : s.sql ∈ texts := by
  have hplan := (log_follows c limiter e).subset (List.mem_map_of_mem hs)
  rw [← s.sql_blank]
  apply List.mem_map_of_mem
  exact List.mem_flatMap.mpr ⟨_, Shape.mem_all _, hplan⟩

theorem exists_event_of_mem_handleAll {c : Config} {limiter : LoginLimiter} {es : List Event}
    {outcome : Outcome} (h : outcome ∈ handleAll c limiter es) :
    ∃ e ∈ es, ∃ limiter', outcome = (handle c limiter' e).1 := by
  induction es generalizing limiter with
  | nil => cases h
  | cons e es ih =>
    rcases List.mem_cons.mp h with rfl | hrest
    · exact ⟨e, by simp, limiter, rfl⟩
    · obtain ⟨e', he', limiter', rfl⟩ := ih hrest
      exact ⟨e', by simp [he'], limiter', rfl⟩

/-- No data gets into the text of a statement. In every run every text is one of a fixed list,
and the placeholders in it are the numbers of the arguments. Requests that make the same choices
send the same texts, under whatever settings, at whatever time and with whatever replies, as
long as both go on. -/
theorem texts_hold_no_data :
    (∀ c limiter es, ∀ outcome ∈ handleAll c limiter es, ∀ s ∈ outcome.log,
      s.sql ∈ texts ∧
        ∀ k, k ∈ Store.placeholders s.sql.toList ↔ 1 ≤ k ∧ k ≤ s.args.length) ∧
    ∀ c c' limiter limiter' e e', Shape.of e.request = Shape.of e'.request →
      (handle c limiter e).1.log.map Statement.sql <+:
          (handle c' limiter' e').1.log.map Statement.sql ∨
        (handle c' limiter' e').1.log.map Statement.sql <+:
          (handle c limiter e).1.log.map Statement.sql := by
  constructor
  · intro c limiter es outcome houtcome s hs
    obtain ⟨e, -, limiter', rfl⟩ := exists_event_of_mem_handleAll houtcome
    exact ⟨sql_mem_texts hs, s.mem_placeholders_iff⟩
  · intro c c' limiter limiter' e e' hshape
    have hfollows' := texts_follow c' limiter' e'
    rw [← hshape] at hfollows'
    exact List.prefix_or_prefix_of_prefix (texts_follow c limiter e) hfollows'

/-- A request for the same route with a token and ids that look like SQL. -/
def injectingEvent : Event :=
  { accountEvent with
    request := {
      method := "GET"
      target := "/console/api/apps/$1/conversations/0;--"
      headers := [("authorization", Utf8.ofString "Bearer ' OR TRUE --")] }
    replies := [.rows []] }

theorem texts_hold_no_data_of_injectingEvent :
    let c : Config := ⟨"key", 60, 30, 5, 900, false⟩
    (handle c c.limiter injectingEvent).1.log = [.sessionAccount "' OR TRUE --"] ∧
    (∀ outcome ∈ handleAll c c.limiter [accountEvent, injectingEvent], ∀ s ∈ outcome.log,
      s.sql ∈ texts ∧
        ∀ k, k ∈ Store.placeholders s.sql.toList ↔ 1 ≤ k ∧ k ≤ s.args.length) ∧
    Shape.of accountEvent.request = Shape.of injectingEvent.request ∧
    ((handle c c.limiter accountEvent).1.log.map Statement.sql <+:
        (handle c c.limiter injectingEvent).1.log.map Statement.sql ∨
      (handle c c.limiter injectingEvent).1.log.map Statement.sql <+:
        (handle c c.limiter accountEvent).1.log.map Statement.sql) := by
  intro c
  obtain ⟨hrun, htwo⟩ := texts_hold_no_data
  have hshape : Shape.of accountEvent.request = Shape.of injectingEvent.request := by
    decide +kernel
  exact ⟨by decide +kernel, hrun _ _ _, hshape, htwo _ _ _ _ _ _ hshape⟩

end Parley.Service
