import Parley.Proofs.Conversation.Json
import Parley.Proofs.Service.ErrorContract

/-!
# Listings as the database tells them

Behind the gates a listing is told by the replies: each of its statements is there because of
the query or of the replies before, has its arguments from them, and the response shows the
rows of the page as they came.

* `PageRead`, `PageLookup`, `FilterLookup`, `Listed`: a listing as statements, the replies to
  them and what is answered.
* `Obtains`: a handler ends with a value as such a relation says, or fails for the database;
  `ReadOff` is the relation for a single question.
* `LetIn`: what is asked and told at the gate, and the scope behind it.
* `listing_reports_replies`: so is every listing of a request that is let in, if nothing goes
  wrong with a statement.
-/
namespace Parley.Service

open Conversation (ListQuery Scope SortField)
open Handler (Asks Ensures exec)
open Http (Method Request Response Route)
open Store (Cell Reply Row Statement)

/-! ## What a listing sends and is told -/

/-- A page is read, and what lies past its last conversation is counted if it is full. -/
inductive PageRead (scope : Scope) (query : PageQuery SortField) (limit : Nat) :
    List Statement → List Reply → Page Conversation → Prop
  | short {reply : Reply} {data : List Conversation}
    (read : Handler.readAll Row.conversation? reply = .ok data) (length_lt : data.length < limit) :
    PageRead scope query limit [.pageInScope scope query limit] [reply] ⟨limit, false, data⟩
  | full {reply count : Reply} {data : List Conversation} {last : Conversation} {n : Int}
    (read : Handler.readAll Row.conversation? reply = .ok data) (le_length : limit ≤ data.length)
    (getLast : data.getLast? = some last)
    (counted : Handler.readOne (Row.single Cell.toInt?) count = .ok n) :
    PageRead scope query limit
      [.pageInScope scope query limit, .countInScope scope
        { query with boundary := some ⟨last.time query.sort.field, query.sort.direction⟩ }]
      [reply, count] ⟨limit, decide (0 < n), data⟩

/-- A page is looked up: the first one, or the one past the conversation to go on from, which
has to be found. -/
inductive PageLookup (scope : Scope) (request : PageRequest SortField) :
    List Statement → List Reply → Except ReferenceNotFound (Page Conversation) → Prop
  | first {sent : List Statement} {used : List Reply} {page : Page Conversation}
    (cursor : request.lastId = none)
    (read : PageRead scope ⟨request.ids, request.sort, none⟩ request.limit sent used page) :
    PageLookup scope request sent used (.ok page)
  | lost {id : Uuid} {reply : Reply} (cursor : request.lastId = some id)
    (missing : Handler.readFirst Row.conversation? reply = .ok none) :
    PageLookup scope request [.findInScope scope id request.ids] [reply] (.error ⟨id⟩)
  | past {id : Uuid} {reply : Reply} {c : Conversation} {sent : List Statement} {used : List Reply}
    {page : Page Conversation} (cursor : request.lastId = some id)
    (found : Handler.readFirst Row.conversation? reply = .ok (some c))
    (read : PageRead scope ⟨request.ids, request.sort,
      some ⟨c.time request.sort.field, request.sort.direction⟩⟩ request.limit sent used page) :
    PageLookup scope request (.findInScope scope id request.ids :: sent) (reply :: used) (.ok page)

/-- The pinned conversations are looked up if the query says whether they are wanted. -/
inductive FilterLookup (scope : Scope) :
    Option Bool → List Statement → List Reply → IdFilter → Prop
  | any : FilterLookup scope none [] [] {}
  | only {reply : Reply} {ids : List Uuid}
    (read : Handler.readAll (Row.single Cell.toUuid?) reply = .ok ids) :
    FilterLookup scope (some true) [.pinned scope.app scope.principal] [reply]
      { included := some ids }
  | others {reply : Reply} {ids : List Uuid}
    (read : Handler.readAll (Row.single Cell.toUuid?) reply = .ok ids) :
    FilterLookup scope (some false) [.pinned scope.app scope.principal] [reply]
      { excluded := some ids }

/-- The limit that a query states, or the usual one. -/
def limitOf (q : ListQuery) : Nat :=
  q.limit.getD Conversation.defaultPageSize

/-- The sort order that a query states, or the usual one. -/
def sortOf (q : ListQuery) : Except UnknownSortField (SortOrder SortField) :=
  Conversation.parseSort (q.sortBy.getD Conversation.defaultSort)

/-- A listing: the statements of a query in a scope, the replies to them, and what is answered.
Nothing is asked if the limit or the sort order is none. -/
inductive Listed (scope : Scope) (q : ListQuery) :
    List Statement → List Reply → Except ApiError (Page Conversation) → Prop
  | noLimit (limit : limitOf q < 1 ∨ 100 < limitOf q) :
    Listed scope q [] [] (.error ⟨400, "invalid_param", "limit must be between 1 and 100"⟩)
  | noSort {e : UnknownSortField} (limit : 1 ≤ limitOf q ∧ limitOf q ≤ 100)
    (sort : sortOf q = .error e) :
    Listed scope q [] [] (.error ⟨400, "invalid_param", "unsupported sort field: " ++ e.field⟩)
  | lookup {sort : SortOrder SortField} {ids : IdFilter} {asked sent : List Statement}
    {told used : List Reply} {result : Except ReferenceNotFound (Page Conversation)}
    (limit : 1 ≤ limitOf q ∧ limitOf q ≤ 100) (sort_eq : sortOf q = .ok sort)
    (filter : FilterLookup scope q.pinned asked told ids)
    (page : PageLookup scope ⟨sort, q.lastId, limitOf q, ids⟩ sent used result) :
    Listed scope q (asked ++ sent) (told ++ used) (result.mapError fun _ =>
      ⟨400, "last_conversation_not_exists", "Last conversation not exists."⟩)

/-! ## Handlers that obtain a value -/

/-- A handler ends with a value of which `Q` holds, with what was sent and used for it, or fails
for the database. -/
def Obtains {α : Type} (h : Handler α) (Q : List Statement → List Reply → α → Prop) : Prop :=
  Ensures h fun sent used result => match result with
    | .ok a => Q sent used a
    | .error e => e = .database

section

variable {α β : Type}

/-- One statement is sent, and the value is what is read off the reply to it. -/
def ReadOff (s : Statement) (read : Reply → Except Failure α) (sent : List Statement)
    (used : List Reply) (a : α) : Prop :=
  ∃ reply, read reply = .ok a ∧ sent = [s] ∧ used = [reply]

theorem obtains_pure {a : α} {Q : List Statement → List Reply → α → Prop} (h : Q [] [] a) :
    Obtains (pure a) Q :=
  Handler.ensures_pure h

theorem obtains_of_asks {h : Handler α} {s : Statement} {read : Reply → Except Failure α}
    (hh : Asks h s read) (herror : ∀ reply e, read reply = .error e → e = .database) :
    Obtains h (ReadOff s read) := by
  refine Handler.ensures_of_asks hh rfl fun reply => ?_
  cases hread : read reply with
  | ok a => exact ⟨reply, hread, rfl, rfl⟩
  | error e => exact herror reply e hread

theorem obtains_bind {h : Handler α} {f : α → Handler β}
    {P : List Statement → List Reply → α → Prop} {Q : List Statement → List Reply → β → Prop}
    (hh : Obtains h P) (hf : ∀ sent used a, P sent used a →
      Obtains (f a) fun sent' used' b => Q (sent ++ sent') (used ++ used') b) :
    Obtains (h >>= f) Q := by
  refine Handler.ensures_bind (Handler.ensures_mono hh fun sent used result hresult => ?_)
  cases result with
  | ok a => exact hf sent used a hresult
  | error e => exact hresult

theorem obtains_map {h : Handler α} {P : List Statement → List Reply → α → Prop}
    {Q : List Statement → List Reply → β → Prop} {f : α → β} (hh : Obtains h P)
    (hf : ∀ sent used a, P sent used a → Q sent used (f a)) :
    Obtains (h >>= fun a => pure (f a)) Q :=
  obtains_bind hh fun sent used a ha =>
    obtains_pure (by simpa only [List.append_nil] using hf sent used a ha)

theorem readAll_error {read : Row → Option α} {reply : Reply} {e : Failure}
    (h : Handler.readAll read reply = .error e) : e = .database := by
  cases reply with
  | failure => exact (Except.error.inj h).symm
  | affected n => cases h
  | rows rows =>
    unfold Handler.readAll at h
    cases hrows : rows.mapM read with
    | none =>
      simp only [hrows] at h
      exact (Except.error.inj h).symm
    | some as =>
      simp only [hrows] at h
      cases h

end

/-! ## Pages -/

variable {scope : Scope}

theorem obtains_fetch (query : PageQuery SortField) (limit : Nat) :
    Obtains ((pageSource scope).fetch query limit)
      (ReadOff (.pageInScope scope query limit) (Handler.readAll Row.conversation?)) :=
  obtains_of_asks (Handler.asks_all rfl _) fun _ _ => readAll_error

theorem obtains_find (id : Uuid) (ids : IdFilter) :
    Obtains ((pageSource scope).find id ids)
      (ReadOff (.findInScope scope id ids) (Handler.readFirst Row.conversation?)) :=
  obtains_of_asks (Handler.asks_first? rfl _) fun _ _ => Handler.readFirst_error

theorem obtains_count (query : PageQuery SortField) :
    Obtains ((pageSource scope).count query) fun sent used count => ∃ n, count = n.toNat ∧
      ReadOff (.countInScope scope query) (Handler.readOne (Row.single Cell.toInt?)) sent used n :=
  obtains_map (obtains_of_asks (Handler.asks_one rfl _) fun _ _ => Handler.readOne_error)
    fun _ _ n hread => ⟨n, rfl, hread⟩

theorem obtains_ofQuery (query : PageQuery SortField) {limit : Nat} (hlimit : 1 ≤ limit) :
    Obtains (Page.ofQuery (pageSource scope) query limit) (PageRead scope query limit) := by
  refine obtains_bind (obtains_fetch query limit) ?_
  rintro _ _ data ⟨reply, hread, rfl, rfl⟩
  cases hlast : data.getLast? with
  | none =>
    obtain rfl := List.getLast?_eq_none_iff.mp hlast
    exact obtains_pure (.short hread hlimit)
  | some last =>
    by_cases hfull : limit ≤ data.length
    · simp only [if_pos hfull]
      refine obtains_map (obtains_count _) ?_
      rintro _ _ _ ⟨n, rfl, count, hcount, rfl, rfl⟩
      have hpositive : decide (0 < n.toNat) = decide (0 < n) := by
        rw [decide_eq_decide]
        exact Int.lt_toNat
      rw [hpositive]
      exact .full hread hfull hlast hcount
    · simp only [if_neg hfull]
      exact obtains_pure (.short hread (Nat.lt_of_not_le hfull))

theorem obtains_get {request : PageRequest SortField} (hlimit : 1 ≤ request.limit) :
    Obtains (Page.get (pageSource scope) request) (PageLookup scope request) := by
  unfold Page.get
  rw [if_neg (Nat.ne_of_gt hlimit)]
  cases hcursor : request.lastId with
  | none => exact obtains_map (obtains_ofQuery _ hlimit) fun _ _ _ => .first hcursor
  | some id =>
    refine obtains_bind (obtains_find id request.ids) ?_
    rintro _ _ found ⟨reply, hread, rfl, rfl⟩
    cases found with
    | none => exact obtains_pure (.lost hcursor hread)
    | some reference =>
      exact obtains_map (obtains_ofQuery _ hlimit) fun _ _ _ => .past hcursor hread

theorem obtains_lookUpFilter (pinned : Option Bool) :
    Obtains (lookUpFilter scope pinned) (FilterLookup scope pinned) := by
  cases pinned with
  | none => exact obtains_pure .any
  | some wanted =>
    refine obtains_bind
      (obtains_of_asks (Handler.asks_all rfl _) fun _ _ => readAll_error) ?_
    rintro _ _ ids ⟨reply, hread, rfl, rfl⟩
    cases wanted with
    | true => exact obtains_pure (.only hread)
    | false => exact obtains_pure (.others hread)

theorem pageRequest_eq (q : ListQuery) :
    q.pageRequest = if limitOf q < 1 ∨ 100 < limitOf q then .error .limitOutOfRange
      else match sortOf q with
        | .ok sort => .ok { sort, lastId := q.lastId, limit := limitOf q }
        | .error e => .error (.unknownSortField e) := by
  unfold ListQuery.pageRequest
  by_cases hlimit : limitOf q < 1 ∨ 100 < limitOf q
  · rw [if_pos hlimit]
    exact if_pos hlimit
  · rw [if_neg hlimit]
    refine (if_neg hlimit).trans ?_
    change (match sortOf q with
      | .ok sort => _
      | .error e => _) = _
    cases sortOf q <;> rfl

theorem pageRequest_cases (scope : Scope) (q : ListQuery) :
    (∃ e, q.pageRequest = .error e ∧
      Listed scope q [] [] (.error ⟨400, "invalid_param", e.message⟩)) ∨
    ∃ sort, q.pageRequest = .ok { sort, lastId := q.lastId, limit := limitOf q } ∧
      (1 ≤ limitOf q ∧ limitOf q ≤ 100) ∧ sortOf q = .ok sort := by
  rw [pageRequest_eq]
  by_cases hlimit : limitOf q < 1 ∨ 100 < limitOf q
  · rw [if_pos hlimit]
    exact .inl ⟨_, rfl, .noLimit hlimit⟩
  · rw [if_neg hlimit]
    have hrange : 1 ≤ limitOf q ∧ limitOf q ≤ 100 := by omega
    cases hsort : sortOf q with
    | error e => exact .inl ⟨_, rfl, .noSort hrange hsort⟩
    | ok sort => exact .inr ⟨sort, rfl, hrange, rfl⟩

/-- A listing is told by the replies, or fails for the database. -/
theorem ensures_listConversations (scope : Scope) (q : ListQuery) :
    Ensures (listConversations scope q) fun sent used result => result = .error .database ∨
      ∃ told, Listed scope q sent used told ∧ result = told.mapError .api := by
  unfold listConversations
  rcases pageRequest_cases scope q with ⟨e, hrequest, hlisted⟩ | ⟨sort, hrequest, hlimit, hsort⟩
  · rw [hrequest]
    exact Handler.ensures_throw (.inr ⟨_, hlisted, rfl⟩)
  · rw [hrequest]
    simp only [pure_bind]
    refine Handler.ensures_bind (Handler.ensures_mono (obtains_lookUpFilter q.pinned)
      fun asked told result hfilter => ?_)
    cases result with
    | error e => exact .inl (congrArg _ hfilter)
    | ok ids =>
      refine Handler.ensures_bind (Handler.ensures_mono (obtains_get hlimit.1)
        fun sent used result hpage => ?_)
      cases result with
      | error e => exact .inl (congrArg _ hpage)
      | ok page =>
        have hlisted := Listed.lookup hlimit hsort hfilter hpage
        rw [← List.append_nil sent, ← List.append_nil used] at hlisted
        cases page with
        | error e => exact Handler.ensures_throw (.inr ⟨_, hlisted, rfl⟩)
        | ok page => exact Handler.ensures_pure (.inr ⟨_, hlisted, rfl⟩)

/-! ## Behind the gates -/

/-- What is asked and told before a listing: on the console whose session the token is, and
whether the app is within reach of that account; on the web whether the app of the passport is
published, and whether its end user exists. The scope is that of who is let in. -/
inductive LetIn (secretKey : String) (r : Request) :
    Route → Scope → List Statement → List Reply → Prop
  | console {parameter : List Char} {token : String} {account app : Uuid} {session lookup : Reply}
    {found : App} (shows : Shows r token)
    (known : Handler.readFirst (Row.single Cell.toUuid?) session = .ok (some account))
    (parameter_eq : idIn? parameter = some app)
    (reached : Handler.readFirst Row.app? lookup = .ok (some found)) :
    LetIn secretKey r (.consoleConversations parameter) ⟨app, .internalUser account, .explore⟩
      [.sessionAccount token, .appForAccount app account] [session, lookup]
  | web {token : String} {claims : Passport.Claims} {lookup existence : Reply} {app : App}
    (bears : r.bearer? = some token)
    (verified : Passport.verify (macOf secretKey) token = .ok claims)
    (code_eq : ∀ code ∈ r.filled? "x-app-code", code = claims.appCode)
    (known : Handler.readFirst Row.app? lookup = .ok (some app))
    (published : app.isPublished = true)
    (exists_true : Handler.readOne (Row.single Cell.toBool?) existence = .ok true) :
    LetIn secretKey r .webConversations ⟨claims.app, .externalVisitor claims.endUser, .webApp⟩
      [.appById claims.app, .endUserExists claims.endUser] [lookup, existence]

theorem listQuery_of_parse {r : Request} {q : ListQuery} (h : ListQuery.parse? r.query = some q) :
    listQuery r = pure q := by
  rw [listQuery, h]

theorem pathId_of_idIn? {parameter : List Char} {id : Uuid} (h : idIn? parameter = some id) :
    pathId parameter = pure id := by
  unfold idIn? at h
  rw [pathId, h]

/-- Whoever is let in gets to the listing, with the replies that are left. -/
theorem exec_of_letIn {ctx : Context} {r : Request} {route : Route} {scope : Scope}
    {asked : List Statement} {told behind : List Reply} {q : ListQuery} {h : Handler Response}
    (hin : LetIn ctx.secretKey r route scope asked told)
    (hh : endpoint? ctx r route .get = some h) (hq : ListQuery.parse? r.query = some q)
    {x : Exchange} (hx : x.replies = told ++ behind) :
    exec h x = exec
      (listConversations scope q >>= fun page => pure (.ofJson 200 (Conversation.pageToJson page)))
      { x with log := x.log ++ asked, replies := behind } := by
  cases hin with
  | console shows known parameter_eq reached =>
    cases hh
    obtain ⟨htoken, hshown⟩ := shownToken_of_shows shows
    unfold consoleList
    rw [Handler.exec_bind_ok (exec_requireCaller hshown hx known), pathId_of_idIn? parameter_eq,
      pure_bind, listQuery_of_parse hq, pure_bind,
      Handler.exec_bind_ok (exec_requireApp rfl reached)]
    simp only [htoken, List.append_assoc]
    rfl
  | web bears verified code_eq known published exists_true =>
    cases hh
    unfold webList
    rw [Handler.exec_bind_ok (exec_requireVisitor bears verified (matchesCode_of_code_eq code_eq)
      known published exists_true hx), listQuery_of_parse hq, pure_bind]
    rfl

/-- Whoever is let in is answered by the listing, unless it fails for the database. -/
theorem run_of_letIn {ctx : Context} {r : Request} {route : Route} {scope : Scope}
    {asked : List Statement} {told behind : List Reply} {q : ListQuery} {h : Handler Response}
    (hin : LetIn ctx.secretKey r route scope asked told)
    (hh : endpoint? ctx r route .get = some h) (hq : ListQuery.parse? r.query = some q)
    {x : Exchange} (hx : x.replies = told ++ behind) (hstatus : (run h x).1.status ≠ 500) :
    ∃ sent used rest result, behind = used ++ rest ∧ Listed scope q sent used result ∧
      (run h x).1 = respond Conversation.pageToJson result ∧
      (run h x).2.log = x.log ++ asked ++ sent := by
  have hexec := exec_of_letIn hin hh hq hx
  obtain ⟨sent, used, hleads, hlisted⟩ :=
    ensures_listConversations scope q { x with log := x.log ++ asked, replies := behind }
  rw [run_fst, hexec] at hstatus ⊢
  rw [run_snd, hexec]
  rw [Handler.exec_bind] at hstatus ⊢
  generalize exec (listConversations scope q) _ = ended at hstatus hleads hlisted ⊢
  obtain ⟨result, x'⟩ := ended
  rcases hlisted with hfailed | ⟨result, hlisted, hresult⟩
  · cases hfailed
    exact absurd rfl hstatus
  · refine ⟨sent, used, x'.replies, result, hleads.replies, hlisted, ?_⟩
    cases result with
    | ok page =>
      cases hresult
      exact ⟨rfl, hleads.log⟩
    | error e =>
      cases hresult
      exact ⟨rfl, hleads.log⟩

/-! ## Arguments -/

/-- The arguments for a scope and a filter by id. -/
def viewArgs (scope : Scope) (ids : IdFilter) : List Store.Arg :=
  ownerArgs scope.app scope.principal ++ [.text scope.channel.name] ++
    ids.included.toList.map .uuids ++ ids.excluded.toList.map .uuids

/-- The arguments for a boundary, which is the time at which it lies, in microseconds. -/
def boundaryArgs (boundary : Option Boundary) : List Store.Arg :=
  boundary.toList.map fun b => .time b.key

theorem args_findInScope (scope : Scope) (id : Uuid) (ids : IdFilter) :
    (Statement.findInScope scope id ids).args = viewArgs scope ids ++ [.uuid id] := by
  obtain ⟨included, excluded⟩ := ids
  cases included <;> cases excluded <;> rfl

theorem args_countInScope (scope : Scope) (query : PageQuery SortField) :
    (Statement.countInScope scope query).args =
      viewArgs scope query.ids ++ boundaryArgs query.boundary := by
  obtain ⟨⟨included, excluded⟩, sort, boundary⟩ := query
  cases included <;> cases excluded <;> cases boundary <;> rfl

theorem args_pageInScope (scope : Scope) (query : PageQuery SortField) (limit : Nat) :
    (Statement.pageInScope scope query limit).args = viewArgs scope query.ids ++
      boundaryArgs query.boundary ++ [.int (min limit Decimal.max63 : Nat)] := by
  obtain ⟨⟨included, excluded⟩, sort, boundary⟩ := query
  cases included <;> cases excluded <;> cases boundary <;> rfl

/-! ## Requests -/

theorem status_of_smooth {c : Config} {limiter : LoginLimiter} {e : Event}
    (h : Smooth (answered (handle c limiter e).1.log e.replies)) :
    (handle c limiter e).1.response.status ≠ 500 := by
  have hconcludes := (concludes_handle c limiter e).2
  generalize answered _ _ = answers at h hconcludes
  cases hconcludes with
  | smoothly _ status => exact status
  | badly _ mishap _ _ _ => exact absurd (h _ (List.mem_concat_self)) mishap

theorem handle_listing {c : Config} (limiter : LoginLimiter) {e : Event} {route : Route}
    {scope : Scope} {asked : List Statement} {told : List Reply}
    (hroute : Route.ofPath? e.request.path = some route)
    (hmethod : Method.ofName e.request.method = .get)
    (hin : LetIn c.secretKey e.request route scope asked told) :
    ∃ h, endpoint? (c.context e) e.request route .get = some h ∧
      let x : Exchange := { limiter := limiter, replies := e.replies }
      (handle c limiter e).1 =
        ⟨{ (run h x).1 with headers := commonHeaders (c.context e) ++ (run h x).1.headers },
          (run h x).2.log⟩ := by
  obtain ⟨h, hh⟩ : ∃ h, endpoint? (c.context e) e.request route .get = some h := by
    cases hin <;> exact ⟨_, rfl⟩
  have hget : endpointMethod e.request = .get := by simp [endpointMethod, hmethod]
  have hsent (response : Response) : sentFor e.request response = response := by
    simp [sentFor, hmethod]
  refine ⟨h, hh, ?_⟩
  rw [handle_of_endpoint c limiter hroute (hget ▸ hh)]
  simp only [hsent]

/-- Every listing of a request that is let in, if nothing goes wrong with a statement, is told by
the replies behind those at the gate. Its statements have their arguments from the scope, the
filter, the conversation to go on from or the last one of the page, and the limit. The response
tells the limit, whether there is more, and the conversations in the order of the rows, or why
there is no page. -/
theorem listing_reports_replies (c : Config) (limiter : LoginLimiter) {e : Event} {route : Route}
    {q : ListQuery} {scope : Scope} {asked : List Statement} {told behind : List Reply}
    (hroute : Route.ofPath? e.request.path = some route)
    (hmethod : Method.ofName e.request.method = .get)
    (hin : LetIn c.secretKey e.request route scope asked told)
    (hq : ListQuery.parse? e.request.query = some q) (hreplies : e.replies = told ++ behind)
    (hsmooth : Smooth (answered (handle c limiter e).1.log e.replies)) :
    (∃ sent used rest result, behind = used ++ rest ∧ Listed scope q sent used result ∧
      (handle c limiter e).1.log = asked ++ sent ∧
      Responds (c.context e) Page.ToldBy result (handle c limiter e).1.response) ∧
    (Statement.pinned scope.app scope.principal).args =
      [.uuid scope.app, .text scope.principal.role, .uuid scope.principal.id] ∧
    (∀ id ids, (Statement.findInScope scope id ids).args = viewArgs scope ids ++ [.uuid id]) ∧
    (∀ query limit, limit ≤ 100 → (Statement.pageInScope scope query limit).args =
      viewArgs scope query.ids ++ boundaryArgs query.boundary ++ [.int limit]) ∧
    ∀ query, (Statement.countInScope scope query).args =
      viewArgs scope query.ids ++ boundaryArgs query.boundary := by
  refine ⟨?_, rfl, args_findInScope scope, fun query limit hlimit => ?_, args_countInScope scope⟩
  · obtain ⟨h, hh, hhandle⟩ := handle_listing limiter hroute hmethod hin
    have hstatus := status_of_smooth hsmooth
    rw [hhandle] at hstatus ⊢
    obtain ⟨sent, used, rest, result, hbehind, hlisted, hresponse, hlog⟩ :=
      run_of_letIn hin hh hq (x := { limiter := limiter, replies := e.replies }) hreplies hstatus
    refine ⟨sent, used, rest, result, hbehind, hlisted, hlog, ?_⟩
    simp only [hresponse]
    exact responds_respond (fun page => Page.toldBy_iff.mpr rfl) _ result
  · have hsmall : limit ≤ Decimal.max63 := Nat.le_trans hlimit (by decide)
    rw [args_pageInScope, Nat.min_eq_left hsmall]

/-- A row of a conversation of an account. -/
def accountRow (id : String) (createdAt : Int) : Row :=
  [.text id, .text "00000000000000000000000000000001", .text "", .text "console", .null,
    .text "00000000000000000000000000000003", .null, .bool false, .int createdAt, .int 0]

/-- A request for one conversation that is not pinned, past one that was made before 1970. The
page comes with two rows and a count. -/
def listingEvent : Event where
  request := {
    method := "GET"
    target := "/console/api/apps/00000000000000000000000000000001/conversations" ++
      "?limit=1&sort_by=created_at&pinned=false&last_id=00000000000000000000000000000009"
    headers := [("authorization", Utf8.ofString "Bearer t")] }
  now := 0
  fresh := ⟨default, ⟨.replicate 32 0⟩, ⟨.replicate 32 0⟩, default⟩
  replies := [
    .rows [[.text "00000000000000000000000000000003"]],
    .rows [[.text "00000000000000000000000000000001", .text "00000000000000000000000000000004",
      .text "normal", .bool true]],
    .rows [[.text "00000000000000000000000000000007"]],
    .rows [accountRow "00000000000000000000000000000009" (-1500007)],
    .rows [accountRow "00000000000000000000000000000002" (-1500006),
      accountRow "00000000000000000000000000000005" 42],
    .rows [[.int 3]]]

theorem listing_reports_replies_of_listingEvent :
    let c : Config := ⟨"key", 60, 30, 5, 900, false⟩
    let scope : Scope := ⟨⟨1, by decide⟩, .internalUser ⟨3, by decide⟩, .explore⟩
    let sort : SortOrder SortField := ⟨.createdAt, .asc⟩
    let ids : IdFilter := { excluded := some [⟨7, by decide⟩] }
    let q : ListQuery := ⟨some ⟨9, by decide⟩, some 1, some "created_at", some false⟩
    let route := Route.consoleConversations "00000000000000000000000000000001".toList
    let asked := [Statement.sessionAccount "t", .appForAccount ⟨1, by decide⟩ ⟨3, by decide⟩]
    let told (id : String) (createdAt : Int) : Json := .obj [
      ("id", .str id), ("app_id", .str "00000000-0000-0000-0000-000000000001"), ("name", .str ""),
      ("from_source", .str "console"), ("from_end_user_id", .null),
      ("from_account_id", .str "00000000-0000-0000-0000-000000000003"), ("invoke_from", .null),
      ("created_at", .int createdAt), ("updated_at", .int 0)]
    Route.ofPath? listingEvent.request.path = some route ∧
    Method.ofName listingEvent.request.method = .get ∧
    LetIn c.secretKey listingEvent.request route scope asked (listingEvent.replies.take 2) ∧
    ListQuery.parse? listingEvent.request.query = some q ∧
    Smooth (answered (handle c c.limiter listingEvent).1.log listingEvent.replies) ∧
    (handle c c.limiter listingEvent).1.log = asked ++ [.pinned scope.app scope.principal,
      .findInScope scope ⟨9, by decide⟩ ids,
      .pageInScope scope ⟨ids, sort, some ⟨-1500007, .asc⟩⟩ 1,
      .countInScope scope ⟨ids, sort, some ⟨42, .asc⟩⟩] ∧
    (∃ sent used rest result, listingEvent.replies.drop 2 = used ++ rest ∧
      Listed scope q sent used result ∧
      (handle c c.limiter listingEvent).1.log = asked ++ sent ∧
      Responds (c.context listingEvent) Page.ToldBy result
        (handle c c.limiter listingEvent).1.response) ∧
    (handle c c.limiter listingEvent).1.response.status = 200 ∧
    (handle c c.limiter listingEvent).1.response.body = .json (.obj [
      ("limit", .int 1),
      ("has_more", .bool true),
      ("data", .arr [told "00000000-0000-0000-0000-000000000002" (-2),
        told "00000000-0000-0000-0000-000000000005" 0])]) := by
  intro c scope sort ids q route asked told
  have hroute : Route.ofPath? listingEvent.request.path = some route := by decide +kernel
  have hmethod : Method.ofName listingEvent.request.method = .get := by decide
  have hshows : Shows listingEvent.request "t" := ⟨by decide, .inl (by decide +kernel)⟩
  have hlookup : Handler.readFirst Row.app? (.rows [[.text "00000000000000000000000000000001",
      .text "00000000000000000000000000000004", .text "normal", .bool true]]) =
      .ok (some ⟨⟨1, by decide⟩, ⟨4, by decide⟩, "normal", true⟩) := by decide +kernel
  have hin : LetIn c.secretKey listingEvent.request route scope asked
      (listingEvent.replies.take 2) :=
    .console hshows (by decide +kernel) (by decide +kernel) hlookup
  have hq : ListQuery.parse? listingEvent.request.query = some q := by decide +kernel
  have hlog : (handle c c.limiter listingEvent).1.log = asked ++ [.pinned scope.app scope.principal,
      .findInScope scope ⟨9, by decide⟩ ids,
      .pageInScope scope ⟨ids, sort, some ⟨-1500007, .asc⟩⟩ 1,
      .countInScope scope ⟨ids, sort, some ⟨42, .asc⟩⟩] := by decide +kernel
  have hsmooth :
      Smooth (answered (handle c c.limiter listingEvent).1.log listingEvent.replies) := by
    rw [hlog]
    unfold Smooth
    decide +kernel
  have hreplies : listingEvent.replies =
      listingEvent.replies.take 2 ++ listingEvent.replies.drop 2 :=
    (List.take_append_drop 2 listingEvent.replies).symm
  obtain ⟨hreports, -⟩ :=
    listing_reports_replies c c.limiter hroute hmethod hin hq hreplies hsmooth
  exact ⟨hroute, hmethod, hin, hq, hsmooth, hlog, hreports, by decide +kernel⟩

end Parley.Service
