import Parley.Proofs.Service.Run
import Parley.Proofs.Store.Reading
import Parley.Proofs.Text.Blank
import Parley.Service.Server

/-!
# Access to conversations

Whatever a request for conversations says and whatever the database replies, the
statements it gives rise to are bound to the principal that it has been found to act
for. On the console that is the account of a session, once it reaches the app; on the
web it is the end user of a passport, once the app is published and the end user exists.

* `StaysWithin`: what a principal that has been let in may send.
* `ConsoleGate`, `WebGate`: what has to be sent and answered before.
* `exec_requireCaller`, `exec_requireApp`, `exec_requireVisitor`: who is let in.
* `access_is_bound`: every request for conversations goes through its gate.
-/
namespace Parley.Service

open Http (Method Request Response Route)
open Store (Cell Reply Row Statement)
open Handler (Ensures Quiet Sends)

/-! ## Statements of a principal -/

/-- The arguments that tell of an owner: the app, and the marks of the principal. -/
def ownerArgs (app : Uuid) (p : Principal) : List Store.Arg :=
  [.uuid app, .text p.source, .ofOption .uuid p.endUser?, .ofOption .uuid p.account?]

/-- The conditions of the statement begin with those on the owner, and the arguments for
these are the app and the marks of the principal. -/
def OwnerFiltered (app : Uuid) (p : Principal) (s : Statement) : Prop :=
  ∃ before conditions behind,
    s.prepared = .ofFragments
      (before ++ Store.Condition.whereAll (Store.ownedBy app p ++ conditions) ++ behind) ∧
    ∃ more, s.args = Store.Fragment.args before ++ ownerArgs app p ++ more

/-- What is sent for a principal concerns what it has pinned, what it owns, or a
conversation that was found among what it owns. -/
def StaysWithin (app : Uuid) (p : Principal) (sent : List Statement) (used : List Reply) : Prop :=
  ∀ s ∈ sent, s = .pinned app p ∨ OwnerFiltered app p s ∨
    ∃ id c, sent.head? = some (.getOwned app p id) ∧
      used.head?.map (Handler.readFirst Row.conversation?) = some (.ok (some c)) ∧
      (s = .firstQuestion c.app c.id ∨ ∃ name, s = .setName c.id name)

theorem ownerFiltered_of_prepared {app : Uuid} {p : Principal} {s : Statement}
    (before behind : List Store.Fragment) (conditions : List Store.Condition)
    (h : s.prepared = .ofFragments
      (before ++ Store.Condition.whereAll (Store.ownedBy app p ++ conditions) ++ behind)) :
    OwnerFiltered app p s := by
  obtain ⟨more, hwhere⟩ : ∃ more, Store.Fragment.args
      (Store.Condition.whereAll (Store.ownedBy app p ++ conditions)) = ownerArgs app p ++ more :=
    ⟨_, rfl⟩
  refine ⟨before, conditions, behind, h, more ++ Store.Fragment.args behind, ?_⟩
  unfold Statement.args
  rw [h]
  show Store.Fragment.args _ = _
  rw [Store.Fragment.args_append, Store.Fragment.args_append, hwhere]
  simp only [List.append_assoc]

theorem ownerFiltered_of_select {app : Uuid} {p : Principal} {s : Statement} {q : Store.Select}
    {conditions : List Store.Condition} (hs : s.prepared = .ofFragments q.fragments)
    (hq : q.conditions = Store.ownedBy app p ++ conditions) : OwnerFiltered app p s := by
  unfold Store.Select.fragments at hs
  rw [hq, List.append_assoc] at hs
  exact ownerFiltered_of_prepared [_] _ conditions hs

theorem ownerFiltered_find (scope : Conversation.Scope) (id : Uuid) (ids : IdFilter) :
    OwnerFiltered scope.app scope.principal (.findInScope scope id ids) :=
  ownerFiltered_of_select (q := .oneInScope scope id ids) rfl
    (by rw [Store.Select.oneInScope, Store.inScope, List.append_assoc])

theorem ownerFiltered_page (scope : Conversation.Scope)
    (query : PageQuery Conversation.SortField) (limit : Nat) :
    OwnerFiltered scope.app scope.principal (.pageInScope scope query limit) :=
  ownerFiltered_of_select (q := .page scope query limit) rfl
    (by rw [Store.Select.page, Store.matching, Store.inScope, List.append_assoc])

theorem ownerFiltered_count (scope : Conversation.Scope)
    (query : PageQuery Conversation.SortField) :
    OwnerFiltered scope.app scope.principal (.countInScope scope query) :=
  ownerFiltered_of_select (q := .count scope query) rfl
    (by rw [Store.Select.count, Store.matching, Store.inScope, List.append_assoc])

theorem ownerFiltered_get (app : Uuid) (p : Principal) (id : Uuid) :
    OwnerFiltered app p (.getOwned app p id) :=
  ownerFiltered_of_select (q := .owned app p id) rfl rfl

theorem ownerFiltered_rename (app : Uuid) (p : Principal) (id : Uuid) (name : String) :
    OwnerFiltered app p (.renameOwned app p id name) :=
  ownerFiltered_of_prepared [_, _, _] [_] [.equals .id (.uuid id)] rfl

theorem ownerFiltered_delete (app : Uuid) (p : Principal) (id : Uuid) :
    OwnerFiltered app p (.deleteOwned app p id) :=
  ownerFiltered_of_prepared [_] [] [.equals .id (.uuid id)] (by rw [List.append_nil]; rfl)

/-! ## What is done for a principal -/

section

variable {app : Uuid} {p : Principal}

/-- A handler stays within what belongs to a principal. -/
def Keeps {α : Type} (app : Uuid) (p : Principal) (h : Handler α) : Prop :=
  Ensures h fun sent used _ => StaysWithin app p sent used

theorem keeps_of_sends {α : Type} {h : Handler α}
    (hh : Sends h fun s => s = .pinned app p ∨ OwnerFiltered app p s) : Keeps app p h :=
  Handler.ensures_mono hh fun _ _ _ hs s hmem => (hs s hmem).imp_right Or.inl

theorem sends_ofQuery {scope : Conversation.Scope} {P : Statement → Prop}
    (hP : ∀ s, OwnerFiltered scope.app scope.principal s → P s)
    (query : PageQuery Conversation.SortField) (limit : Nat) :
    Sends (Page.ofQuery (pageSource scope) query limit) P := by
  refine Handler.sends_bind (Handler.sends_of_asks (Handler.asks_all rfl _)
    (hP _ (ownerFiltered_page scope query limit))) fun data => ?_
  cases data.getLast? with
  | none => exact Handler.sends_pure _
  | some last =>
    by_cases hfull : limit ≤ data.length
    · simp only [if_pos hfull]
      refine Handler.sends_bind (Handler.sends_bind (Handler.sends_of_asks (Handler.asks_one rfl _)
        (hP _ (ownerFiltered_count scope _))) fun _ => Handler.sends_pure _)
        fun _ => Handler.sends_pure _
    · simp only [if_neg hfull]
      exact Handler.sends_pure _

theorem sends_get {scope : Conversation.Scope} {P : Statement → Prop}
    (hP : ∀ s, OwnerFiltered scope.app scope.principal s → P s)
    (request : PageRequest Conversation.SortField) :
    Sends (Page.get (pageSource scope) request) P := by
  unfold Page.get
  split
  · exact Handler.sends_pure _
  · cases request.lastId with
    | none => exact Handler.sends_bind (sends_ofQuery hP _ _) fun _ => Handler.sends_pure _
    | some id =>
      refine Handler.sends_bind (Handler.sends_of_asks (Handler.asks_first? rfl _)
        (hP _ (ownerFiltered_find scope id request.ids))) fun found => ?_
      cases found with
      | none => exact Handler.sends_pure _
      | some reference =>
        exact Handler.sends_bind (sends_ofQuery hP _ _) fun _ => Handler.sends_pure _

theorem sends_lookUpFilter {P : Statement → Prop} (scope : Conversation.Scope)
    (hP : P (.pinned scope.app scope.principal)) (pinned : Option Bool) :
    Sends (lookUpFilter scope pinned) P := by
  unfold lookUpFilter
  split
  · exact Handler.sends_bind (Handler.sends_of_asks (Handler.asks_all rfl _) hP)
      fun _ => Handler.sends_pure _
  · exact Handler.sends_pure _

theorem keeps_listConversations (channel : Channel) (q : Conversation.ListQuery) :
    Keeps app p (listConversations ⟨app, p, channel⟩ q) := by
  refine keeps_of_sends ?_
  unfold listConversations
  cases q.pageRequest with
  | error e => exact Handler.sends_throw _
  | ok request =>
    refine Handler.sends_bind (Handler.sends_pure _) fun request => ?_
    refine Handler.sends_bind (sends_lookUpFilter _ (Or.inl rfl) _) fun ids => ?_
    refine Handler.sends_bind (sends_get (fun s hs => Or.inr hs) _) fun page => ?_
    cases page with
    | ok page => exact Handler.sends_pure _
    | error e => exact Handler.sends_throw _

theorem keeps_getConversation (id : Uuid) : Keeps app p (getConversation app p id) :=
  keeps_of_sends (Handler.sends_of_asks (Handler.asks_required rfl _ _)
    (Or.inr (ownerFiltered_get app p id)))

theorem keeps_setName (id : Uuid) (name : String) : Keeps app p (setName app p id name) :=
  keeps_of_sends (Handler.sends_of_asks (Handler.asks_required rfl _ _)
    (Or.inr (ownerFiltered_rename app p id name)))

theorem keeps_deleteConversation (id : Uuid) : Keeps app p (deleteConversation app p id) := by
  refine keeps_of_sends (Handler.sends_bind (Handler.sends_of_asks (Handler.asks_affected rfl)
    (Or.inr (ownerFiltered_delete app p id))) fun n => ?_)
  by_cases hn : n = 0
  · rw [if_pos hn]
    exact Handler.sends_throw _
  · rw [if_neg hn]
    exact Handler.sends_pure _

/-- What is sent to name a conversation concerns that conversation only. -/
theorem sends_nameFromQuestion (c : Conversation) :
    Sends (nameFromQuestion c) fun s =>
      s = .firstQuestion c.app c.id ∨ ∃ name, s = .setName c.id name := by
  refine Handler.sends_bind (Handler.sends_of_asks (Handler.asks_first? rfl _) (Or.inl rfl))
    fun question => ?_
  refine Handler.sends_bind (Handler.sends_orFail _ _) fun question => ?_
  cases Conversation.title Conversation.titleLength question with
  | error e => exact Handler.sends_pure _
  | ok name =>
    exact Handler.sends_bind (Handler.sends_of_asks (Handler.asks_execute rfl) (Or.inr ⟨name, rfl⟩))
      fun _ => Handler.sends_pure _

/-- A conversation is named after its first question only once it was found among what the
principal owns. -/
theorem keeps_nameFromQuestion (id : Uuid) :
    Keeps app p (getConversation app p id >>= nameFromQuestion) := by
  have hget (s : Statement) (hs : s ∈ [Statement.getOwned app p id]) :
      s = .pinned app p ∨ OwnerFiltered app p s := by
    rw [List.mem_singleton.mp hs]
    exact Or.inr (ownerFiltered_get app p id)
  refine Handler.ensures_bind (Handler.ensures_of_asks (Handler.asks_required rfl _ _) ?_ ?_)
  · exact fun s hs => (hget s hs).imp_right Or.inl
  intro reply
  cases hread : Handler.readRequired ConversationError.notFound.api Row.conversation? reply with
  | error e => exact fun s hs => (hget s hs).imp_right Or.inl
  | ok c =>
    refine Handler.ensures_mono (sends_nameFromQuestion c) fun sent _ _ hsent s hs => ?_
    rcases List.mem_append.mp hs with hs | hs
    · exact (hget s hs).imp_right Or.inl
    · refine Or.inr (Or.inr ⟨id, c, rfl, ?_, hsent s hs⟩)
      rw [List.singleton_append, List.head?_cons, Option.map_some,
        Handler.readRequired_eq_ok.mp hread]

theorem keeps_renameConversation (id : Uuid) (form : RenameForm) :
    Keeps app p (renameConversation app p id form) := by
  unfold renameConversation
  split
  · exact keeps_nameFromQuestion id
  · exact keeps_setName id _

end

/-- What is made of the result sends nothing. -/
theorem keeps_then {app : Uuid} {p : Principal} {α β : Type} {h : Handler α} (hh : Keeps app p h)
    (g : α → β) : Keeps app p (h >>= fun a => pure (g a)) := by
  refine Handler.ensures_bind (Handler.ensures_mono hh fun s u result hs => ?_)
  cases result with
  | error e => exact hs
  | ok a => exact Handler.ensures_pure (by rwa [List.append_nil, List.append_nil])

/-! ## Gates -/

/-- A statement, behind which others are sent only once its reply is accepted. -/
def After {α : Type} (s : Statement) (accepts : Reply → α → Prop)
    (next : α → List Statement → List Reply → Prop) (sent : List Statement)
    (used : List Reply) : Prop :=
  ∃ rest, sent = s :: rest ∧ (rest = [] ∨
    ∃ reply others a, used = reply :: others ∧ accepts reply a ∧ next a rest others)

theorem ensures_after {α β : Type} {h : Handler α} {f : α → Handler β} {s : Statement}
    {read : Reply → Except Failure α} {accepts : Reply → α → Prop}
    {next : α → List Statement → List Reply → Prop} (hh : Handler.Asks h s read)
    (haccepts : ∀ reply a, read reply = .ok a → accepts reply a)
    (hf : ∀ reply a, read reply = .ok a → Ensures (f a) fun sent used _ => next a sent used) :
    Ensures (h >>= f) fun sent used _ => After s accepts next sent used := by
  refine Handler.ensures_bind (Handler.ensures_of_asks hh ⟨[], rfl, Or.inl rfl⟩ fun reply => ?_)
  cases hread : read reply with
  | error e => exact ⟨[], rfl, Or.inl rfl⟩
  | ok a =>
    refine Handler.ensures_mono (hf reply a hread) fun sent used _ hnext => ?_
    exact ⟨sent, rfl, Or.inr ⟨reply, used, a, rfl, haccepts reply a hread, hnext⟩⟩

theorem After.append {α : Type} {s : Statement} {accepts : Reply → α → Prop}
    {next : α → List Statement → List Reply → Prop} {sent : List Statement} {used : List Reply}
    (h : After s accepts next sent used) (more : List Reply)
    (hnext : ∀ a sent used, next a sent used → next a sent (used ++ more)) :
    After s accepts next sent (used ++ more) := by
  obtain ⟨rest, hsent, hrest⟩ := h
  refine ⟨rest, hsent, hrest.imp_right ?_⟩
  rintro ⟨reply, others, a, rfl, ha, hothers⟩
  exact ⟨reply, others ++ more, a, rfl, ha, hnext _ _ _ hothers⟩

/-- The token that a request shows: the one it bears, or else the one in its cookie. -/
def Shows (r : Request) (token : String) : Prop :=
  token ≠ "" ∧ (r.bearer? = some token ∨
    r.bearer? = none ∧ Http.Cookie.get? r cookieName = some token)

/-- The id that a parameter of a path holds. -/
def idIn? (parameter : List Char) : Option Uuid :=
  (Http.percentDecoded? parameter).bind Uuid.parse?

/-- What an account sends that wants to get to an app: first whether it reaches the app,
and only if it does, what stays within its own conversations there. -/
def AppGate (parameter : List Char) (account : Uuid) (sent : List Statement)
    (used : List Reply) : Prop :=
  sent = [] ∨ ∃ app, idIn? parameter = some app ∧
    After (.appForAccount app account)
      (fun reply (found : App) => Handler.readFirst Row.app? reply = .ok (some found))
      (fun _ => StaysWithin app (.internalUser account)) sent used

/-- What a request on the console sends: first whose session its token is, and only if it
is someone's, what the account of the session sends. -/
def ConsoleGate (r : Request) (parameter : List Char) (sent : List Statement)
    (used : List Reply) : Prop :=
  sent = [] ∨ ∃ token, Shows r token ∧
    After (.sessionAccount token)
      (fun reply account => Handler.readFirst (Row.single Cell.toUuid?) reply = .ok (some account))
      (AppGate parameter) sent used

/-- What the bearer of a passport sends: whether the end user exists, and only if it does,
what stays within its own conversations. -/
def VisitorGate (claims : Passport.Claims) (sent : List Statement) (used : List Reply) : Prop :=
  After (.endUserExists claims.endUser)
    (fun reply (_ : Visitor) => Handler.readOne (Row.single Cell.toBool?) reply = .ok true)
    (fun _ => StaysWithin claims.app (.externalVisitor claims.endUser)) sent used

/-- What a request on the web sends: nothing unless it bears a valid passport, to the app
whose code it gives if it gives one; then whether that app is published, and only if it
is, what the bearer of the passport sends. -/
def WebGate (secretKey : String) (r : Request) (sent : List Statement) (used : List Reply) : Prop :=
  sent = [] ∨ ∃ token claims, r.bearer? = some token ∧
    Passport.verify (macOf secretKey) token = .ok claims ∧
    (∀ code ∈ r.filled? "x-app-code", code = claims.appCode) ∧
    After (.appById claims.app)
      (fun reply (app : App) =>
        Handler.readFirst Row.app? reply = .ok (some app) ∧ app.isPublished = true)
      (fun _ => VisitorGate claims) sent used

/-! ## Going through the gates -/

theorem quiet_pathId (parameter : List Char) :
    Quiet (pathId parameter) fun id => idIn? parameter = some id := by
  unfold pathId
  cases h : (Http.percentDecoded? parameter).bind Uuid.parse? with
  | none => exact Handler.quiet_throw _
  | some id => exact Handler.quiet_pure h

theorem quiet_pathIds (first second : List Char) :
    Quiet (pathIds first second) fun ids => idIn? first = some ids.1 := by
  refine Handler.quiet_bind (quiet_pathId first) fun a ha => ?_
  exact Handler.quiet_bind (quiet_pathId second) fun b _ => Handler.quiet_pure ha

theorem quiet_listQuery (r : Request) : Quiet (listQuery r) fun _ => True := by
  unfold listQuery
  cases Conversation.ListQuery.parse? r.query with
  | none => exact Handler.quiet_throw _
  | some q => exact Handler.quiet_pure trivial

theorem quiet_body {σ α : Type} (record : Json.Record σ α) (r : Request) :
    Quiet (body record r) fun _ => True := by
  rcases body_cases record r with ⟨a, -, -, hbody⟩ | ⟨rejection, hbody⟩
  · rw [hbody]
    exact Handler.quiet_pure trivial
  · rw [hbody]
    exact Handler.quiet_throw _

theorem quiet_renameForm (r : Request) : Quiet (renameForm r) fun _ => True := by
  refine Handler.quiet_bind (quiet_body _ r) fun form _ => ?_
  split
  · exact Handler.quiet_throw _
  · exact Handler.quiet_pure trivial

theorem shows_shownToken {r : Request} (h : (shownToken r).isEmpty = false) :
    Shows r (shownToken r) := by
  have hne : shownToken r ≠ "" := fun h' => by simp [h'] at h
  refine ⟨hne, ?_⟩
  unfold shownToken at h ⊢
  cases hb : r.bearer? with
  | some token => exact Or.inl rfl
  | none =>
    rw [hb] at h
    cases hc : Http.Cookie.get? r cookieName with
    | none => rw [hc] at h; cases h
    | some token => exact Or.inr ⟨rfl, rfl⟩

theorem requireCaller_bind {α : Type} (r : Request) (f : Caller → Handler α) :
    requireCaller r >>= f =
      if (shownToken r).isEmpty then Handler.fail (.unauthorized "Unauthorized.")
      else (Handler.first? (.sessionAccount (shownToken r)) (Row.single Cell.toUuid?) >>=
          Handler.orFail (.unauthorized "Invalid or expired session.")) >>=
        fun account => f ⟨account, shownToken r⟩ := by
  cases h : (shownToken r).isEmpty with
  | true => simp only [requireCaller, h, if_true, Handler.fail_bind]
  | false => simp only [requireCaller, h, Bool.false_eq_true, if_false, bind_assoc, pure_bind]

theorem sends_requireCaller (r : Request) {P : Statement → Prop}
    (hP : ∀ token, P (.sessionAccount token)) : Sends (requireCaller r) P := by
  rw [← bind_pure (requireCaller r), requireCaller_bind]
  split
  · exact Handler.sends_throw _
  · exact Handler.sends_bind (Handler.sends_of_asks (Handler.asks_required rfl _ _) (hP _))
      fun _ => Handler.sends_pure _

theorem shownToken_of_shows {r : Request} {token : String} (h : Shows r token) :
    shownToken r = token ∧ (shownToken r).isEmpty = false := by
  have htoken : shownToken r = token := by
    unfold shownToken
    rcases h.2 with hbearer | ⟨hbearer, hcookie⟩
    · rw [hbearer]
      rfl
    · rw [hbearer, hcookie]
      rfl
  refine ⟨htoken, ?_⟩
  rw [htoken]
  simpa using h.1

theorem exec_requireCaller {r : Request} {account : Uuid} {x : Exchange} {reply : Reply}
    {rest : List Reply} (htoken : (shownToken r).isEmpty = false) (hx : x.replies = reply :: rest)
    (hread : Handler.readFirst (Row.single Cell.toUuid?) reply = .ok (some account)) :
    Handler.exec (requireCaller r) x = (.ok ⟨account, shownToken r⟩,
      { x with log := x.log ++ [.sessionAccount (shownToken r)], replies := rest }) := by
  rw [← bind_pure (requireCaller r), requireCaller_bind, htoken, if_neg (by simp),
    Handler.exec_asks_bind (Handler.asks_required rfl _ _) hx
      (Handler.readRequired_eq_ok.mpr hread)]
  rfl

theorem ensures_requireCaller {α : Type} {r : Request} {parameter : List Char}
    {f : Caller → Handler α}
    (hf : ∀ account, Ensures (f ⟨account, shownToken r⟩) fun sent used _ =>
      AppGate parameter account sent used) :
    Ensures (requireCaller r >>= f) fun sent used _ => ConsoleGate r parameter sent used := by
  rw [requireCaller_bind]
  cases h : (shownToken r).isEmpty with
  | true => exact Handler.ensures_throw (Or.inl rfl)
  | false =>
    refine Handler.ensures_mono (ensures_after (Handler.asks_required rfl _ _)
      (fun reply a => Handler.readRequired_eq_ok.mp) fun _ a _ => hf a) fun sent used _ hafter => ?_
    exact Or.inr ⟨shownToken r, shows_shownToken h, hafter⟩

theorem requireApp_bind {α : Type} (caller : Caller) (app : Uuid) (f : Unit → Handler α) :
    requireApp caller app >>= f =
      (Handler.first? (.appForAccount app caller.account) Row.app? >>=
        Handler.orFail (.notFound "app_not_found" "App not found.")) >>= fun _ => f () := by
  simp only [requireApp, bind_assoc, pure_bind]

theorem exec_requireApp {caller : Caller} {app : Uuid} {x : Exchange} {reply : Reply}
    {rest : List Reply} {found : App} (hx : x.replies = reply :: rest)
    (hread : Handler.readFirst Row.app? reply = .ok (some found)) :
    Handler.exec (requireApp caller app) x = (.ok (),
      { x with log := x.log ++ [.appForAccount app caller.account], replies := rest }) := by
  rw [← bind_pure (requireApp caller app), requireApp_bind,
    Handler.exec_asks_bind (Handler.asks_required rfl _ _) hx
      (Handler.readRequired_eq_ok.mpr hread)]
  rfl

theorem ensures_requireApp {α : Type} {parameter : List Char} {caller : Caller} {app : Uuid}
    {f : Unit → Handler α} (hid : idIn? parameter = some app)
    (hf : Keeps app (.internalUser caller.account) (f ())) :
    Ensures (requireApp caller app >>= f) fun sent used _ =>
      AppGate parameter caller.account sent used := by
  rw [requireApp_bind]
  refine Handler.ensures_mono (ensures_after (Handler.asks_required rfl _ _)
    (fun reply a => Handler.readRequired_eq_ok.mp) fun _ _ _ => hf) fun sent used _ hafter => ?_
  exact Or.inr ⟨app, hid, hafter⟩

/-- A published app, as a reply tells of it. -/
def readPublished (reply : Reply) : Except Failure App :=
  match Handler.readFirst Row.app? reply with
  | .ok found => match found.filter App.isPublished with
    | some app => .ok app
    | none => .error (.api PassportError.siteNotFound.api)
  | .error e => .error e

theorem asks_publishedApp (id : Uuid) :
    Handler.Asks (publishedApp id) (.appById id) readPublished := by
  refine Handler.asks_bind (Handler.asks_first? rfl _) ?_ ?_
  · intro reply e h
    rw [readPublished, h]
  · intro reply found x h
    rw [readPublished, h]
    simp only
    cases found.filter App.isPublished <;> rfl

theorem readPublished_eq_ok {reply : Reply} {app : App} (h : readPublished reply = .ok app) :
    Handler.readFirst Row.app? reply = .ok (some app) ∧ app.isPublished = true := by
  unfold readPublished at h
  cases hread : Handler.readFirst Row.app? reply with
  | error e => rw [hread] at h; cases h
  | ok found =>
    rw [hread] at h
    cases hfound : found.filter App.isPublished with
    | none => simp only [hfound] at h; cases h
    | some a =>
      simp only [hfound] at h
      cases h
      obtain ⟨rfl, hp⟩ := Option.filter_eq_some_iff.mp hfound
      exact ⟨rfl, hp⟩

/-- The visitor of a passport, as the reply to its last question tells. -/
def readVisitor (claims : Passport.Claims) (reply : Reply) : Except Failure Visitor :=
  match Handler.readOne (Row.single Cell.toBool?) reply with
  | .ok true => .ok ⟨claims.app, claims.endUser⟩
  | .ok false => .error (.api PassportError.endUserNotFound.api)
  | .error e => .error e

theorem asks_endUserExists (claims : Passport.Claims) :
    Handler.Asks (Handler.one (.endUserExists claims.endUser) (Row.single Cell.toBool?) >>=
      fun found => if found then pure (⟨claims.app, claims.endUser⟩ : Visitor)
        else Handler.fail PassportError.endUserNotFound.api)
      (.endUserExists claims.endUser) (readVisitor claims) := by
  refine Handler.asks_bind (Handler.asks_one rfl _) ?_ ?_
  · intro reply e h
    rw [readVisitor, h]
  · intro reply found x h
    rw [readVisitor, h]
    cases found <;> rfl

theorem readVisitor_eq_ok {claims : Passport.Claims} {reply : Reply} {v : Visitor}
    (h : readVisitor claims reply = .ok v) :
    v = ⟨claims.app, claims.endUser⟩ ∧
      Handler.readOne (Row.single Cell.toBool?) reply = .ok true := by
  unfold readVisitor at h
  split at h
  · rename_i hread
    exact ⟨(Except.ok.inj h).symm, hread⟩
  · cases h
  · cases h

theorem acceptPassport_bind {α : Type} (ctx : Context) (token : String) (code : Option String)
    (f : Visitor → Handler α) :
    acceptPassport ctx token code >>= f =
      match Passport.verify (macOf ctx.secretKey) token with
      | .error e => Handler.fail (PassportError.invalidToken e).api
      | .ok claims =>
        if matchesCode claims code then
          publishedApp claims.app >>= fun _ =>
            (Handler.one (.endUserExists claims.endUser) (Row.single Cell.toBool?) >>=
              fun found => if found then pure ⟨claims.app, claims.endUser⟩
                else Handler.fail PassportError.endUserNotFound.api) >>= f
        else Handler.fail PassportError.appCodeMismatch.api := by
  unfold acceptPassport
  cases Passport.verify (macOf ctx.secretKey) token with
  | error e => rfl
  | ok claims =>
    cases hcode : matchesCode claims code with
    | false => simp [hcode]
    | true =>
      simp only [hcode, pure_bind, bind_assoc, Bool.not_true, Bool.false_eq_true, if_false, if_true]
      congr 1
      funext _
      congr 1
      funext found
      cases found <;> simp

theorem code_eq_of_matchesCode {r : Request} {claims : Passport.Claims}
    (h : matchesCode claims (r.filled? "x-app-code") = true) :
    ∀ code ∈ r.filled? "x-app-code", code = claims.appCode := by
  intro code hcode
  obtain ⟨htext, hne⟩ := Option.filter_eq_some_iff.mp hcode
  obtain ⟨raw, -, rfl⟩ := Option.map_eq_some_iff.mp htext
  have hmatch : matchesCode claims (some (Text.trim raw)) = true := by
    rwa [← show r.filled? "x-app-code" = some (Text.trim raw) from hcode]
  simp only [matchesCode, Option.map_some, Text.trim_trim, Bool.or_eq_true, beq_iff_eq] at hmatch
  exact hmatch.resolve_left (by simpa using hne)

theorem matchesCode_of_code_eq {r : Request} {claims : Passport.Claims}
    (h : ∀ code ∈ r.filled? "x-app-code", code = claims.appCode) :
    matchesCode claims (r.filled? "x-app-code") = true := by
  cases hcode : r.filled? "x-app-code" with
  | none => rfl
  | some code =>
    obtain ⟨raw, -, hraw⟩ := Option.map_eq_some_iff.mp (Option.filter_eq_some_iff.mp hcode).1
    rw [matchesCode, Option.map_some, ← hraw, Text.trim_trim, hraw, h code hcode]
    simp

/-- Whoever bears a valid passport that is good for the app is let in, if the app is published
and the end user exists. -/
theorem exec_requireVisitor {ctx : Context} {r : Request} {token : String}
    {claims : Passport.Claims} (htoken : r.bearer? = some token)
    (hverify : Passport.verify (macOf ctx.secretKey) token = .ok claims)
    (hcode : matchesCode claims (r.filled? "x-app-code") = true) {lookup found : Reply} {app : App}
    (hlookup : Handler.readFirst Row.app? lookup = .ok (some app))
    (hpublished : app.isPublished = true)
    (hfound : Handler.readOne (Row.single Cell.toBool?) found = .ok true) {x : Exchange}
    {rest : List Reply} (hx : x.replies = lookup :: found :: rest) :
    Handler.exec (requireVisitor ctx r) x = (.ok ⟨claims.app, claims.endUser⟩,
      { x with
        log := x.log ++ [.appById claims.app, .endUserExists claims.endUser]
        replies := rest }) := by
  have happ : readPublished lookup = .ok app := by
    rw [readPublished, hlookup]
    simp [Option.filter, hpublished]
  have hvisitor : readVisitor claims found = .ok ⟨claims.app, claims.endUser⟩ := by
    rw [readVisitor, hfound]
  rw [requireVisitor, htoken]
  simp only [Handler.orFail, pure_bind]
  rw [← bind_pure (acceptPassport _ _ _), acceptPassport_bind, hverify]
  simp only [hcode, if_true]
  rw [Handler.exec_asks_bind (asks_publishedApp claims.app) hx happ,
    Handler.exec_asks_bind (asks_endUserExists claims) rfl hvisitor]
  simp

theorem ensures_requireVisitor {α : Type} {ctx : Context} {r : Request} {f : Visitor → Handler α}
    (hf : ∀ app endUser, Keeps app (.externalVisitor endUser) (f ⟨app, endUser⟩)) :
    Ensures (requireVisitor ctx r >>= f) fun sent used _ => WebGate ctx.secretKey r sent used := by
  unfold requireVisitor
  cases hb : r.bearer? with
  | none => exact Handler.ensures_throw (Or.inl rfl)
  | some token =>
    simp only [Handler.orFail, pure_bind]
    rw [acceptPassport_bind]
    cases hverify : Passport.verify (macOf ctx.secretKey) token with
    | error e => exact Handler.ensures_throw (Or.inl rfl)
    | ok claims =>
      cases hcode : matchesCode claims (r.filled? "x-app-code") with
      | false =>
        simp only [hcode, Bool.false_eq_true, if_false]
        exact Handler.ensures_throw (Or.inl rfl)
      | true =>
        simp only [hcode, if_true]
        have hvisitor : Ensures ((Handler.one (.endUserExists claims.endUser)
            (Row.single Cell.toBool?) >>= fun found => if found then
              pure ⟨claims.app, claims.endUser⟩
              else Handler.fail PassportError.endUserNotFound.api) >>= f)
            fun sent used _ => VisitorGate claims sent used := by
          refine ensures_after (asks_endUserExists claims)
            (fun _ _ h => (readVisitor_eq_ok h).2) fun reply v hread => ?_
          rw [(readVisitor_eq_ok hread).1]
          exact hf claims.app claims.endUser
        refine Handler.ensures_mono (ensures_after (asks_publishedApp claims.app)
          (fun _ _ => readPublished_eq_ok) fun _ _ _ => hvisitor) fun sent used _ hafter => ?_
        exact Or.inr ⟨token, claims, hb, hverify, code_eq_of_matchesCode hcode, hafter⟩

/-! ## Endpoints -/

theorem gate_consoleList (r : Request) (app : List Char) :
    Ensures (consoleList r app) fun sent used _ => ConsoleGate r app sent used := by
  refine ensures_requireCaller fun account => ?_
  refine Handler.ensures_quiet_bind (quiet_pathId app) (fun e => Or.inl rfl) fun id hid => ?_
  refine Handler.ensures_quiet_bind (quiet_listQuery r) (fun e => Or.inl rfl) fun q _ => ?_
  exact ensures_requireApp hid (keeps_then (keeps_listConversations _ q) _)

theorem gate_consoleGet (r : Request) (app id : List Char) :
    Ensures (consoleGet r app id) fun sent used _ => ConsoleGate r app sent used := by
  refine ensures_requireCaller fun account => ?_
  refine Handler.ensures_quiet_bind (quiet_pathIds app id) (fun e => Or.inl rfl) fun ids hid => ?_
  exact ensures_requireApp hid (keeps_then (keeps_getConversation ids.2) _)

theorem gate_consoleRename (r : Request) (app id : List Char) :
    Ensures (consoleRename r app id) fun sent used _ => ConsoleGate r app sent used := by
  refine ensures_requireCaller fun account => ?_
  refine Handler.ensures_quiet_bind (quiet_pathIds app id) (fun e => Or.inl rfl) fun ids hid => ?_
  refine Handler.ensures_quiet_bind (quiet_renameForm r) (fun e => Or.inl rfl) fun form _ => ?_
  exact ensures_requireApp hid (keeps_then (keeps_renameConversation ids.2 form) _)

theorem gate_consoleDelete (r : Request) (app id : List Char) :
    Ensures (consoleDelete r app id) fun sent used _ => ConsoleGate r app sent used := by
  refine ensures_requireCaller fun account => ?_
  refine Handler.ensures_quiet_bind (quiet_pathIds app id) (fun e => Or.inl rfl) fun ids hid => ?_
  exact ensures_requireApp hid (keeps_then (keeps_deleteConversation ids.2) _)

/-- A quiet step before what stays within what belongs to a principal. -/
theorem keeps_quiet {app : Uuid} {p : Principal} {α β : Type} {h : Handler α} {P : α → Prop}
    {f : α → Handler β} (hh : Quiet h P) (hf : ∀ a, Keeps app p (f a)) : Keeps app p (h >>= f) :=
  Handler.ensures_quiet_bind hh (fun _ s hs => by cases hs) fun a _ => hf a

/-! ## Requests -/

/-- The parameter for the app in a console route to conversations. -/
def consoleApp? : Route → Option (List Char)
  | .consoleConversations app | .consoleConversation app _ | .consoleConversationName app _ =>
    some app
  | _ => none

def isForVisitors : Route → Bool
  | .webConversations | .webConversation _ | .webConversationName _ => true
  | _ => false

theorem gate_of_consoleApp? {ctx : Context} {r : Request} {route : Route} {app : List Char}
    (happ : consoleApp? route = some app) {method : Method} {h : Handler Response}
    (hh : endpoint? ctx r route method = some h) :
    Ensures h fun sent used _ => ConsoleGate r app sent used := by
  cases route <;> cases happ <;> cases method <;> cases hh
  · exact gate_consoleList r app
  · exact gate_consoleGet r app _
  · exact gate_consoleDelete r app _
  · exact gate_consoleRename r app _

/-- Behind the gate for visitors a request stays within what belongs to the visitor. -/
theorem keeps_of_isForVisitors {ctx : Context} {r : Request} {route : Route}
    (hroute : isForVisitors route = true) {method : Method} {h : Handler Response}
    (hh : endpoint? ctx r route method = some h) :
    ∃ f : Visitor → Handler Response, h = requireVisitor ctx r >>= f ∧
      ∀ v, Keeps v.app v.principal (f v) := by
  cases route <;> cases hroute <;> cases method <;> cases hh
  · refine ⟨_, rfl, fun v => ?_⟩
    exact keeps_quiet (quiet_listQuery r) fun q => keeps_then (keeps_listConversations _ q) _
  · refine ⟨_, rfl, fun v => ?_⟩
    exact keeps_quiet (quiet_pathId _) fun id => keeps_then (keeps_getConversation id) _
  · refine ⟨_, rfl, fun v => ?_⟩
    exact keeps_quiet (quiet_pathId _) fun id => keeps_then (keeps_deleteConversation id) _
  · refine ⟨_, rfl, fun v => ?_⟩
    refine keeps_quiet (quiet_pathId _) fun id => ?_
    refine keeps_quiet (quiet_renameForm r) fun form => ?_
    exact keeps_then (keeps_renameConversation id form) _

theorem gate_of_isForVisitors {ctx : Context} {r : Request} {route : Route}
    (hroute : isForVisitors route = true) {method : Method} {h : Handler Response}
    (hh : endpoint? ctx r route method = some h) :
    Ensures h fun sent used _ => WebGate ctx.secretKey r sent used := by
  obtain ⟨f, rfl, hf⟩ := keeps_of_isForVisitors hroute hh
  exact ensures_requireVisitor fun app endUser => hf ⟨app, endUser⟩

/-! ## Replies behind those that were used -/

theorem StaysWithin.append {app : Uuid} {p : Principal} {sent : List Statement} {used : List Reply}
    (h : StaysWithin app p sent used) (more : List Reply) :
    StaysWithin app p sent (used ++ more) := by
  intro s hs
  refine (h s hs).imp_right (Or.imp_right ?_)
  rintro ⟨id, c, hsent, hused, hc⟩
  refine ⟨id, c, hsent, ?_, hc⟩
  cases used with
  | nil => cases hused
  | cons reply used => exact hused

theorem ConsoleGate.append {r : Request} {parameter : List Char} {sent : List Statement}
    {used : List Reply} (h : ConsoleGate r parameter sent used) (more : List Reply) :
    ConsoleGate r parameter sent (used ++ more) := by
  refine h.imp_right ?_
  rintro ⟨token, htoken, hafter⟩
  refine ⟨token, htoken, hafter.append more fun account sent used hgate => ?_⟩
  refine hgate.imp_right ?_
  rintro ⟨app, happ, hafter⟩
  exact ⟨app, happ, hafter.append more fun _ _ _ hstays => hstays.append more⟩

theorem WebGate.append {secretKey : String} {r : Request} {sent : List Statement}
    {used : List Reply} (h : WebGate secretKey r sent used) (more : List Reply) :
    WebGate secretKey r sent (used ++ more) := by
  refine h.imp_right ?_
  rintro ⟨token, claims, hb, hverify, hcode, hafter⟩
  refine ⟨token, claims, hb, hverify, hcode, hafter.append more fun app sent used hgate => ?_⟩
  exact After.append hgate more fun _ _ _ hstays => hstays.append more

/-- Every request for conversations goes through its gate, whatever it says and whatever
the database replies; what is asked at the gates has these arguments and no others. -/
theorem access_is_bound (c : Config) (limiter : LoginLimiter) (e : Event) {route : Route}
    (hroute : Route.ofPath? e.request.path = some route) :
    (∀ parameter ∈ consoleApp? route,
      ConsoleGate e.request parameter (handle c limiter e).1.log e.replies) ∧
    (isForVisitors route = true →
      WebGate c.secretKey e.request (handle c limiter e).1.log e.replies) ∧
    (∀ token, (Statement.sessionAccount token).args = [.text token]) ∧
    (∀ app account, (Statement.appForAccount app account).args =
      [.uuid app, .uuid account, .text "normal"]) ∧
    (∀ app, (Statement.appById app).args = [.uuid app]) ∧
    (∀ endUser, (Statement.endUserExists endUser).args = [.uuid endUser]) ∧
    ∀ app p, (Statement.pinned app p).args = [.uuid app, .text p.role, .uuid p.id] := by
  refine ⟨fun parameter happ => ?_, fun hvisitors => ?_, fun _ => rfl, fun _ _ => rfl,
    fun _ => rfl, fun _ => rfl, fun _ _ => rfl⟩
  · obtain ⟨-, used, rest, hreplies, hgate⟩ := ensures_handle (c := c) (e := e)
      (Q := ConsoleGate e.request parameter) (Or.inl rfl) (fun route' method h hroute' _ => by
        rw [hroute] at hroute'
        cases hroute'
        exact gate_of_consoleApp? happ) limiter
    rw [hreplies]
    exact hgate.append rest
  · obtain ⟨-, used, rest, hreplies, hgate⟩ := ensures_handle (c := c) (e := e)
      (Q := WebGate c.secretKey e.request) (Or.inl rfl) (fun route' method h hroute' _ => by
        rw [hroute] at hroute'
        cases hroute'
        exact gate_of_isForVisitors hvisitors) limiter
    rw [hreplies]
    exact hgate.append rest

/-- A request of an account for one conversation of an app, which the account reaches. -/
def accountEvent : Event where
  request := {
    method := "GET"
    target := "/console/api/apps/00000000000000000000000000000001/conversations/" ++
      "00000000000000000000000000000002"
    headers := [("authorization", Utf8.ofString "Bearer t")] }
  now := 0
  fresh := ⟨default, ⟨.replicate 32 0⟩, ⟨.replicate 32 0⟩, default⟩
  replies := [
    .rows [[.text "00000000000000000000000000000003"]],
    .rows [[.text "00000000000000000000000000000001", .text "00000000000000000000000000000004",
      .text "normal", .bool true]],
    .rows []]

theorem access_is_bound_for_accountEvent :
    let c : Config := ⟨"key", 60, 30, 5, 900, false⟩
    let id : List Char := "00000000000000000000000000000001".toList
    Route.ofPath? accountEvent.request.path =
      some (.consoleConversation id "00000000000000000000000000000002".toList) ∧
    (handle c c.limiter accountEvent).1.log =
      [.sessionAccount "t", .appForAccount ⟨1, by decide⟩ ⟨3, by decide⟩,
        .getOwned ⟨1, by decide⟩ (.internalUser ⟨3, by decide⟩) ⟨2, by decide⟩] ∧
    ConsoleGate accountEvent.request id (handle c c.limiter accountEvent).1.log
      accountEvent.replies := by
  intro c id
  have hroute : Route.ofPath? accountEvent.request.path =
    some (.consoleConversation id "00000000000000000000000000000002".toList) := by
    decide +kernel
  exact ⟨hroute, by decide +kernel, (access_is_bound c c.limiter accountEvent hroute).1 id rfl⟩

end Parley.Service
