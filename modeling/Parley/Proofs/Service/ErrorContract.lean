import Parley.Proofs.Service.Access
import Parley.Proofs.Service.Mishap

/-!
# What clients are told of errors

* `reports_endpoint`: every endpoint ends in a failure of the database right behind its first
  mishap, and nowhere else.
* `internal_error_iff_mishap`: so the status is 500 if and only if something went wrong with a
  statement, which is then the last one, and the client is told nothing of it. All other
  errors that are told as JSON have the one form, but for refresh tokens.
* `illegible_row_fails`: rows that cannot be read are among the mishaps.
-/
namespace Parley.Service

open Http (Method Request Response Route)
open Store (Cell Reply Row Statement)
open Handler (Reports exec)

/-! ## Requests and pages -/

/-- The statuses of the refusals behind the gates. -/
def conversationStatuses : List Nat := [400, 404, 415, 422]

def refusalStatuses : List Nat := [400, 401, 403, 404, 415, 422, 429]

theorem conversationStatuses_subset : conversationStatuses ⊆ refusalStatuses := by decide

section

variable {statuses : List Nat}

theorem reports_pathId (h : 400 ∈ statuses) (parameter : List Char) :
    Reports statuses (fun _ => True) (pathId parameter) := by
  unfold pathId
  split
  · exact Handler.reports_pure trivial
  · exact Handler.reports_reject h

theorem reports_pathIds (h : 400 ∈ statuses) (first second : List Char) :
    Reports statuses (fun _ => True) (pathIds first second) :=
  Handler.reports_bind (reports_pathId h first) fun _ _ =>
    Handler.reports_map (reports_pathId h second) fun _ _ => trivial

theorem reports_listQuery (h : 400 ∈ statuses) (r : Request) :
    Reports statuses (fun _ => True) (listQuery r) := by
  unfold listQuery
  split
  · exact Handler.reports_pure trivial
  · exact Handler.reports_reject h

theorem reports_body (h : [400, 415, 422] ⊆ statuses) {σ α : Type} (record : Json.Record σ α)
    (r : Request) : Reports statuses (fun _ => True) (body record r) := by
  rcases body_cases record r with ⟨a, -, -, hbody⟩ | ⟨rejection, hbody⟩
  · rw [hbody]
    exact Handler.reports_pure trivial
  · rw [hbody]
    refine Handler.reports_reject (h ?_)
    cases rejection <;> decide

end

/-! ## Conversations -/

theorem reports_renameForm (r : Request) :
    Reports conversationStatuses (fun _ => True) (renameForm r) := by
  refine Handler.reports_bind (reports_body (by decide) _ r) fun form _ => ?_
  split
  · exact Handler.reports_fail (by decide)
  · exact Handler.reports_pure trivial

theorem reports_getConversation (app : Uuid) (p : Principal) (id : Uuid) :
    Reports conversationStatuses (fun _ => True) (getConversation app p id) :=
  Handler.reports_bind (Handler.reports_first? rfl rfl) fun found _ =>
    Handler.reports_orFail (by decide) found

theorem reports_deleteConversation (app : Uuid) (p : Principal) (id : Uuid) :
    Reports conversationStatuses (fun _ => True) (deleteConversation app p id) := by
  refine Handler.reports_bind (Handler.reports_affected rfl rfl) fun count _ => ?_
  split
  · exact Handler.reports_fail (by decide)
  · exact Handler.reports_pure trivial

theorem reports_nameFromQuestion (c : Conversation) :
    Reports conversationStatuses (fun _ => True) (nameFromQuestion c) := by
  refine Handler.reports_bind (Handler.reports_first? rfl rfl) fun question _ => ?_
  refine Handler.reports_bind (Handler.reports_orFail (by decide) question) fun question _ => ?_
  split
  · exact Handler.reports_map (Handler.reports_execute rfl) fun _ _ => trivial
  · exact Handler.reports_pure trivial

theorem reports_renameConversation (app : Uuid) (p : Principal) (id : Uuid) (form : RenameForm) :
    Reports conversationStatuses (fun _ => True) (renameConversation app p id form) := by
  unfold renameConversation
  split
  · exact Handler.reports_bind (reports_getConversation app p id) fun c _ =>
      reports_nameFromQuestion c
  · exact Handler.reports_bind (Handler.reports_first? rfl rfl) fun renamed _ =>
      Handler.reports_orFail (by decide) renamed

theorem reports_ofQuery (scope : Conversation.Scope) (query : PageQuery Conversation.SortField)
    (limit : Nat) : Reports conversationStatuses (fun _ => True)
      (Page.ofQuery (pageSource scope) query limit) := by
  refine Handler.reports_bind (Handler.reports_all rfl rfl) fun data _ => ?_
  cases data.getLast? with
  | none => exact Handler.reports_pure trivial
  | some last =>
    by_cases hfull : limit ≤ data.length
    · simp only [if_pos hfull]
      refine Handler.reports_map (P := fun _ => True) ?_ fun _ _ => trivial
      exact Handler.reports_map (Handler.reports_one rfl rfl) fun _ _ => trivial
    · simp only [if_neg hfull]
      exact Handler.reports_pure trivial

theorem reports_get (scope : Conversation.Scope) (request : PageRequest Conversation.SortField) :
    Reports conversationStatuses (fun _ => True) (Page.get (pageSource scope) request) := by
  unfold Page.get
  split
  · exact Handler.reports_pure trivial
  · cases request.lastId with
    | none => exact Handler.reports_map (reports_ofQuery scope _ _) fun _ _ => trivial
    | some id =>
      refine Handler.reports_bind (Handler.reports_first? rfl rfl) fun found _ => ?_
      cases found with
      | none => exact Handler.reports_pure trivial
      | some reference => exact Handler.reports_map (reports_ofQuery scope _ _) fun _ _ => trivial

theorem reports_listConversations (scope : Conversation.Scope) (q : Conversation.ListQuery) :
    Reports conversationStatuses (fun _ => True) (listConversations scope q) := by
  unfold listConversations
  cases q.pageRequest with
  | error e => exact Handler.reports_fail (show 400 ∈ conversationStatuses by decide)
  | ok request =>
    refine Handler.reports_bind (Handler.reports_pure (P := fun _ => True) trivial)
      fun request _ => ?_
    have hlookUp : Reports conversationStatuses (fun _ => True) (lookUpFilter scope q.pinned) := by
      unfold lookUpFilter
      split
      · exact Handler.reports_map (Handler.reports_all rfl rfl) fun _ _ => trivial
      · exact Handler.reports_pure trivial
    refine Handler.reports_bind hlookUp fun ids _ => ?_
    refine Handler.reports_bind (reports_get scope _) fun page _ => ?_
    cases page with
    | ok page => exact Handler.reports_pure trivial
    | error e => exact Handler.reports_fail (show 400 ∈ conversationStatuses by decide)

/-! ## Gates -/

theorem reports_requireCaller (r : Request) :
    Reports refusalStatuses (fun _ => True) (requireCaller r) := by
  rw [← bind_pure (requireCaller r), requireCaller_bind]
  cases (shownToken r).isEmpty with
  | true => exact Handler.reports_fail (by decide)
  | false =>
    refine Handler.reports_map (P := fun _ => True) ?_ fun _ _ => trivial
    exact Handler.reports_bind (Handler.reports_first? rfl rfl) fun account _ =>
      Handler.reports_orFail (by decide) account

theorem reports_requireApp (caller : Caller) (app : Uuid) :
    Reports refusalStatuses (fun _ => True) (requireApp caller app) :=
  Handler.reports_bind (Handler.reports_first? rfl rfl) fun found _ =>
    Handler.reports_map (Handler.reports_orFail (by decide) found) fun _ _ => trivial

theorem reports_publishedApp (id : Uuid) :
    Reports refusalStatuses (fun _ => True) (publishedApp id) :=
  Handler.reports_bind (Handler.reports_first? rfl rfl) fun app _ =>
    Handler.reports_orFail (by decide) _

theorem reports_requireVisitor (ctx : Context) (r : Request) :
    Reports refusalStatuses (fun _ => True) (requireVisitor ctx r) := by
  refine Handler.reports_bind (Handler.reports_orFail (by decide) r.bearer?) fun token _ => ?_
  rw [← bind_pure (acceptPassport _ _ _), acceptPassport_bind]
  cases Passport.verify (macOf ctx.secretKey) token with
  | error e => exact Handler.reports_fail (show 401 ∈ refusalStatuses by decide)
  | ok claims =>
    cases hcode : matchesCode claims (r.filled? "x-app-code") with
    | false =>
      simp only [hcode, Bool.false_eq_true, if_false]
      exact Handler.reports_fail (by decide)
    | true =>
      simp only [hcode, if_true]
      refine Handler.reports_bind (reports_publishedApp _) fun _ _ => ?_
      refine Handler.reports_map (P := fun _ => True) ?_ fun _ _ => trivial
      refine Handler.reports_bind (Handler.reports_one rfl rfl) fun found _ => ?_
      cases found with
      | true => exact Handler.reports_pure trivial
      | false => exact Handler.reports_fail (by decide)

/-! ## Endpoints -/

/-- A response that shows what was asked for, or tells that it was done. -/
def Shown (response : Response) : Prop :=
  response.status = 200 ∨ response.status = 204

/-- Behind the gate for visitors no request is refused for who made it. -/
theorem reports_of_isForVisitors {ctx : Context} {r : Request} {route : Route}
    (hroute : isForVisitors route = true) {method : Method} {h : Handler Response}
    (hh : endpoint? ctx r route method = some h) :
    ∃ f : Visitor → Handler Response, h = requireVisitor ctx r >>= f ∧
      ∀ v, Reports conversationStatuses Shown (f v) := by
  cases route <;> cases hroute <;> cases method <;> cases hh
  · refine ⟨_, rfl, fun v => ?_⟩
    refine Handler.reports_bind (reports_listQuery (by decide) r) fun q _ => ?_
    exact Handler.reports_map (reports_listConversations _ q) fun _ _ => .inl rfl
  · refine ⟨_, rfl, fun v => ?_⟩
    refine Handler.reports_bind (reports_pathId (by decide) _) fun id _ => ?_
    exact Handler.reports_map (reports_getConversation _ _ id) fun _ _ => .inl rfl
  · refine ⟨_, rfl, fun v => ?_⟩
    refine Handler.reports_bind (reports_pathId (by decide) _) fun id _ => ?_
    exact Handler.reports_map (reports_deleteConversation _ _ id) fun _ _ => .inr rfl
  · refine ⟨_, rfl, fun v => ?_⟩
    refine Handler.reports_bind (reports_pathId (by decide) _) fun id _ => ?_
    refine Handler.reports_bind (reports_renameForm r) fun form _ => ?_
    exact Handler.reports_map (reports_renameConversation _ _ id form) fun _ _ => .inl rfl

/-- A response that tells of no error, or of a refresh token that is not good. -/
def Fine (route : Route) (response : Response) : Prop :=
  response.status < 400 ∨ route = .refreshToken ∧ response = refreshRefused

theorem Shown.fine {response : Response} (h : Shown response) (route : Route) :
    Fine route response :=
  .inl (by rcases h with h | h <;> omega)

theorem fine_of_status {route : Route} {response : Response} (h : response.status = 200) :
    Fine route response :=
  .inl (by omega)

/-- What may be refused behind a gate may be refused by the endpoint. -/
theorem reports_shown {h : Handler Response} (hh : Reports conversationStatuses Shown h)
    (route : Route) : Reports refusalStatuses (Fine route) h :=
  hh.mono conversationStatuses_subset fun _ hshown => hshown.fine route

theorem reports_modifyLimiter (f : LoginLimiter → LoginLimiter) :
    Reports refusalStatuses (fun _ => True) (Handler.modifyLimiter f) :=
  fun _ => ⟨[], (List.append_nil _).symm, rfl, .done smooth_nil trivial⟩

theorem reports_checkLimiter (now : Int) (email : String) :
    Reports refusalStatuses (fun _ => True) (Handler.checkLimiter now email) := by
  intro x
  refine ⟨[], ?_⟩
  cases hcheck : (x.limiter.check now email).1 with
  | ok _ =>
    rw [exec_checkLimiter_ok hcheck]
    exact ⟨(List.append_nil _).symm, rfl, .done smooth_nil trivial⟩
  | error e =>
    rw [exec_checkLimiter_error hcheck]
    exact ⟨(List.append_nil _).symm, rfl,
      .refused smooth_nil (by simp) (show 429 ∈ refusalStatuses by decide)⟩

theorem reports_issueTokens (ctx : Context) (account : Uuid) (address : Option String) :
    Reports refusalStatuses (fun _ => True) (issueTokens ctx account address) :=
  Handler.reports_bind (Handler.reports_execute rfl) fun _ _ =>
    Handler.reports_bind (Handler.reports_execute rfl) fun _ _ =>
      Handler.reports_bind (Handler.reports_execute rfl) fun _ _ =>
        Handler.reports_map (Handler.reports_execute rfl) fun _ _ => trivial

theorem reports_attempt (ctx : Context) (r : Request) (form : LoginForm) (email : String) :
    Reports refusalStatuses (Fine .login) (attempt ctx r form email) := by
  rw [attempt_eq]
  have hfound : Reports refusalStatuses (fun _ => True)
      (Handler.first? (.accountByEmail email) Row.account? >>=
        Handler.orFail AccountError.notFound.api) :=
    Handler.reports_bind (Handler.reports_first? rfl rfl) fun found _ =>
      Handler.reports_orFail (by decide) found
  refine Handler.reports_bind hfound fun account _ => ?_
  unfold proceed
  split
  · exact Handler.reports_fail (by decide)
  split
  · refine Handler.reports_bind (Handler.reports_one rfl rfl) fun tenants _ => ?_
    unfold enter
    split
    · exact Handler.reports_fail (by decide)
    · refine Handler.reports_bind (reports_modifyLimiter _) fun _ _ => ?_
      refine Handler.reports_bind (Handler.reports_execute rfl) fun _ _ => ?_
      exact Handler.reports_map (reports_issueTokens _ _ _) fun _ _ =>
        fine_of_status rfl
  · exact Handler.reports_bind (reports_modifyLimiter _) fun _ _ =>
      Handler.reports_fail (by decide)

theorem reports_login (ctx : Context) (r : Request) :
    Reports refusalStatuses (Fine .login) (login ctx r) := by
  rw [login_eq]
  refine Handler.reports_bind (reports_body (by decide) _ r) fun form _ => ?_
  refine Handler.reports_bind (Handler.reports_orFail (by decide) _) fun email _ => ?_
  exact Handler.reports_bind (reports_checkLimiter _ _) fun _ _ => reports_attempt ctx r form email

theorem reports_logout (ctx : Context) (r : Request) :
    Reports refusalStatuses (Fine .logout) (logout ctx r) :=
  Handler.reports_bind (reports_requireCaller r) fun _ _ =>
    Handler.reports_map (Handler.reports_execute rfl) fun _ _ => fine_of_status rfl

theorem reports_refresh (ctx : Context) (r : Request) :
    Reports refusalStatuses (Fine .refreshToken) (refresh ctx r) := by
  rw [refresh_eq]
  refine Handler.reports_bind (reports_body (by decide) _ r) fun token _ => ?_
  refine Handler.reports_bind (Handler.reports_first? rfl rfl) fun found _ => ?_
  cases found with
  | none => exact Handler.reports_pure (.inr ⟨rfl, rfl⟩)
  | some account =>
    exact Handler.reports_map (reports_issueTokens _ _ _) fun _ _ =>
      fine_of_status rfl

theorem reports_getPassport (ctx : Context) (r : Request) :
    Reports refusalStatuses (Fine .passport) (getPassport ctx r) := by
  refine Handler.reports_bind (Handler.reports_orFail (by decide) _) fun raw _ => ?_
  refine Handler.reports_bind (Handler.reports_orFail (by decide) _) fun account _ => ?_
  refine Handler.reports_map (P := fun _ => True) ?_ fun _ _ => fine_of_status rfl
  refine Handler.reports_bind (Handler.reports_first? rfl rfl) fun name _ => ?_
  refine Handler.reports_bind (Handler.reports_orFail (by decide) name) fun name _ => ?_
  refine Handler.reports_bind (Handler.reports_orFail (by decide) _) fun code _ => ?_
  refine Handler.reports_bind (Handler.reports_first? rfl rfl) fun site _ => ?_
  refine Handler.reports_bind (Handler.reports_orFail (by decide) site) fun site _ => ?_
  refine Handler.reports_bind (reports_publishedApp site) fun app _ => ?_
  exact Handler.reports_map (Handler.reports_one rfl rfl) fun _ _ => trivial

section

variable (route : Route) (r : Request) (app id : List Char)

theorem reports_consoleList : Reports refusalStatuses (Fine route) (consoleList r app) := by
  refine Handler.reports_bind (reports_requireCaller r) fun caller _ => ?_
  refine Handler.reports_bind (reports_pathId (by decide) app) fun app _ => ?_
  refine Handler.reports_bind (reports_listQuery (by decide) r) fun q _ => ?_
  refine Handler.reports_bind (reports_requireApp caller app) fun _ _ => ?_
  exact reports_shown
    (Handler.reports_map (reports_listConversations _ q) fun _ _ => .inl rfl) route

theorem reports_consoleGet : Reports refusalStatuses (Fine route) (consoleGet r app id) := by
  refine Handler.reports_bind (reports_requireCaller r) fun caller _ => ?_
  refine Handler.reports_bind (reports_pathIds (by decide) app id) fun ids _ => ?_
  refine Handler.reports_bind (reports_requireApp caller ids.1) fun _ _ => ?_
  exact reports_shown
    (Handler.reports_map (reports_getConversation _ _ ids.2) fun _ _ => .inl rfl) route

theorem reports_consoleRename : Reports refusalStatuses (Fine route) (consoleRename r app id) := by
  refine Handler.reports_bind (reports_requireCaller r) fun caller _ => ?_
  refine Handler.reports_bind (reports_pathIds (by decide) app id) fun ids _ => ?_
  have hform := (reports_renameForm r).mono conversationStatuses_subset fun _ h => h
  refine Handler.reports_bind hform fun form _ => ?_
  refine Handler.reports_bind (reports_requireApp caller ids.1) fun _ _ => ?_
  exact reports_shown
    (Handler.reports_map (reports_renameConversation _ _ ids.2 form) fun _ _ => .inl rfl) route

theorem reports_consoleDelete : Reports refusalStatuses (Fine route) (consoleDelete r app id) := by
  refine Handler.reports_bind (reports_requireCaller r) fun caller _ => ?_
  refine Handler.reports_bind (reports_pathIds (by decide) app id) fun ids _ => ?_
  refine Handler.reports_bind (reports_requireApp caller ids.1) fun _ _ => ?_
  exact reports_shown
    (Handler.reports_map (reports_deleteConversation _ _ ids.2) fun _ _ => .inr rfl) route

end

/-- Every endpoint ends in a failure of the database right behind its first mishap, and
nowhere else. -/
theorem reports_endpoint {ctx : Context} {r : Request} {route : Route} {method : Method}
    {h : Handler Response} (hh : endpoint? ctx r route method = some h) :
    Reports refusalStatuses (Fine route) h := by
  cases hvisitors : isForVisitors route with
  | true =>
    obtain ⟨f, rfl, hf⟩ := reports_of_isForVisitors hvisitors hh
    exact Handler.reports_bind (reports_requireVisitor ctx r) fun v _ =>
      reports_shown (hf v) route
  | false =>
    cases route <;> cases hvisitors <;> cases method <;> cases hh
    · exact Handler.reports_pure (fine_of_status rfl)
    · exact reports_login ctx r
    · exact reports_logout ctx r
    · exact reports_refresh ctx r
    · exact reports_consoleList _ r _
    · exact reports_consoleGet _ r _ _
    · exact reports_consoleDelete _ r _ _
    · exact reports_consoleRename _ r _ _
    · exact reports_getPassport ctx r

/-! ## Requests -/

theorem map_fst_answered (log : List Statement) (replies : List Reply) :
    (answered log replies).map Prod.fst = log := by
  induction log generalizing replies with
  | nil => rfl
  | cons s log ih =>
    rw [answered]
    split <;> rw [List.map_cons, ih]

@[simp] theorem sentFor_status (r : Request) (response : Response) :
    (sentFor r response).status = response.status := by
  unfold sentFor
  split <;> rfl

theorem sentFor_body (r : Request) (response : Response) : (sentFor r response).body =
    if Method.ofName r.method = .head then .empty else response.body := by
  unfold sentFor
  split <;> rfl

theorem setCookies_sentFor (r : Request) (response : Response) :
    setCookies (sentFor r response) = setCookies response := by
  unfold sentFor
  split <;> rfl

def internalBody : Json :=
  .obj [("code", .str "internal_server_error"), ("message", .str "Internal Server Error"),
    ("status", .int 500)]

def refusedTokenBody : Json :=
  .obj [("result", .str "fail"), ("data", .str "Invalid refresh token.")]

/-- An error that is told as JSON has the one form: its code, its message and the status. Only
a refresh token that is not good is told of in another way. -/
def Formed (r : Request) (response : Response) : Prop :=
  ∀ v, response.body = .json v → 400 ≤ response.status →
    (Route.ofPath? r.path = some .refreshToken ∧ response.status = 401 ∧ v = refusedTokenBody) ∨
      ∃ code message, v = .obj [("code", .str code), ("message", .str message),
        ("status", .int response.status)]

theorem formed_of_body_empty {r : Request} {response : Response} (h : response.body = .empty) :
    Formed r response := by
  intro v hv
  rw [h] at hv
  cases hv

theorem formed_of_fine {r : Request} {route : Route} {response : Response}
    (hroute : Route.ofPath? r.path = some route) (h : Fine route response) :
    Formed r response := by
  intro v hv hstatus
  rcases h with h | ⟨rfl, rfl⟩
  · omega
  · cases hv
    exact .inl ⟨hroute, rfl, rfl⟩

theorem formed_failure (r : Request) (f : Failure) : Formed r f.response := by
  intro v hv _
  cases f with
  | api e =>
    cases hv
    exact .inr ⟨e.code, e.message, rfl⟩
  | rejected rejection => cases hv
  | database =>
    cases hv
    exact .inr ⟨_, _, rfl⟩

theorem Formed.sentFor {r : Request} {response : Response} (h : Formed r response) :
    Formed r (sentFor r response) := by
  unfold Service.sentFor
  split
  · exact formed_of_body_empty rfl
  · exact h

/-- The headers of a response in JSON that sets no cookie. -/
def jsonHeaders (ctx : Context) : List (String × String) :=
  commonHeaders ctx ++ [("content-type", "application/json")]

/-- The response tells of a result: by a value for it, or by the status, the code and the message
of the error. -/
inductive Responds {α : Type} (ctx : Context) (toldBy : α → Json → Prop) :
    Except ApiError α → Response → Prop
  | shown {a : α} {v : Json} (told : toldBy a v) :
    Responds ctx toldBy (.ok a) ⟨200, jsonHeaders ctx, .json v⟩
  | refused {status : Nat} {code message : String} :
    Responds ctx toldBy (.error ⟨status, code, message⟩) ⟨status, jsonHeaders ctx,
      .json (.obj [("code", .str code), ("message", .str message), ("status", .int status)])⟩

/-- The response that a result is made into. -/
def respond {α : Type} (write : α → Json) : Except ApiError α → Response
  | .ok a => .ofJson 200 (write a)
  | .error e => e.response

theorem responds_respond {α : Type} {toldBy : α → Json → Prop} {write : α → Json}
    (h : ∀ a, toldBy a (write a)) (ctx : Context) (result : Except ApiError α) :
    Responds ctx toldBy result { respond write result with
      headers := commonHeaders ctx ++ (respond write result).headers } := by
  cases result with
  | ok a => exact .shown (h a)
  | error e => exact .refused

/-- What a request comes to, as far as errors go: nothing goes wrong and the status is another
one than 500, or the last statement is the first that goes wrong and this is not told. -/
inductive Concludes (r : Request) : List (Statement × Option Reply) → Response → Prop
  | smoothly {answers : List (Statement × Option Reply)} {response : Response}
    (smooth : Smooth answers) (status : response.status ≠ 500) : Concludes r answers response
  | badly {before : List (Statement × Option Reply)} {s : Statement} {reply : Option Reply}
    {response : Response} (smooth : Smooth before) (mishap : mishap? s reply ≠ none)
    (status : response.status = 500)
    (body : response.body = if Method.ofName r.method = .head then .empty else .json internalBody)
    (cookies : setCookies response = []) : Concludes r (before ++ [(s, reply)]) response

theorem ne_internal_of_mem {status : Nat} (h : status ∈ refusalStatuses) : status ≠ 500 := by
  rintro rfl
  exact absurd h (by decide)

theorem Fine.status_ne {route : Route} {response : Response} (h : Fine route response) :
    response.status ≠ 500 := by
  rcases h with h | ⟨-, rfl⟩
  · omega
  · decide

theorem Concludes.withCommonHeaders {r : Request} {answers : List (Statement × Option Reply)}
    {response : Response} (h : Concludes r answers response) (ctx : Context) :
    Concludes r answers { response with headers := commonHeaders ctx ++ response.headers } := by
  cases h with
  | smoothly smooth status => exact .smoothly smooth status
  | badly smooth mishap status body cookies =>
    exact .badly smooth mishap status body (by rw [setCookies_withCommonHeaders, cookies])

theorem concludes_run {r : Request} {route : Route} {h : Handler Response}
    (hroute : Route.ofPath? r.path = some route)
    (hh : Reports refusalStatuses (Fine route) h) (x : Exchange) :
    ∃ sent, (run h x).2.log = x.log ++ sent ∧ Formed r (sentFor r (run h x).1) ∧
      Concludes r (answered sent x.replies) (sentFor r (run h x).1) := by
  obtain ⟨sent, hlog, -, htold⟩ := hh x
  refine ⟨sent, by rw [run_snd, hlog], ?_⟩
  rw [run_fst]
  generalize (exec h x).1 = result at htold
  generalize answered sent x.replies = answers at htold
  cases htold with
  | done smooth hfine =>
    refine ⟨(formed_of_fine hroute hfine).sentFor, .smoothly smooth ?_⟩
    rw [sentFor_status]
    exact hfine.status_ne
  | refused smooth ne status =>
    refine ⟨(formed_failure r _).sentFor, .smoothly smooth ?_⟩
    rw [sentFor_status]
    exact ne_internal_of_mem status
  | failed smooth mishap =>
    refine ⟨(formed_failure r .database).sentFor, .badly smooth mishap ?_ ?_ ?_⟩
    · rw [sentFor_status]
      rfl
    · rw [sentFor_body]
      rfl
    · rw [setCookies_sentFor]
      rfl

/-- Whatever a request says and the database replies, the request concludes in one of the two
ways. -/
theorem concludes_handle (c : Config) (limiter : LoginLimiter) (e : Event) :
    Formed e.request (handle c limiter e).1.response ∧
      Concludes e.request (answered (handle c limiter e).1.log e.replies)
        (handle c limiter e).1.response := by
  have hanswer : Formed e.request (answer (c.context e) e.request ⟨limiter, e.replies, []⟩).1 ∧
      Concludes e.request
        (answered (answer (c.context e) e.request ⟨limiter, e.replies, []⟩).2.log e.replies)
        (answer (c.context e) e.request ⟨limiter, e.replies, []⟩).1 := by
    rcases answer_cases (c.context e) e.request ⟨limiter, e.replies, []⟩ with
      ⟨hunserved, hsame⟩ | ⟨route, h, hroute, hh, hanswer⟩
    · rw [hsame]
      refine ⟨formed_of_body_empty hunserved.body, .smoothly smooth_nil ?_⟩
      rcases hunserved.status with h | h | h <;> omega
    · obtain ⟨sent, hlog, hformed, hconcludes⟩ :=
        concludes_run hroute (reports_endpoint hh) ⟨limiter, e.replies, []⟩
      rw [hanswer, hlog]
      exact ⟨hformed, hconcludes⟩
  exact ⟨hanswer.1, hanswer.2.withCommonHeaders _⟩

/-- The status is 500 if and only if something goes wrong with a statement. That statement is
the last one, nothing is told of what went wrong, and no cookie is set. All other errors that
are told as JSON have the one form, but for refresh tokens that are not good. What opens or ends
a transaction takes no reply (`Handler.send`), so its own failures are not among the mishaps. -/
theorem internal_error_iff_mishap (c : Config) (limiter : LoginLimiter) (e : Event) :
    let o := (handle c limiter e).1
    (o.response.status = 500 ↔ ∃ a ∈ answered o.log e.replies, mishap? a.1 a.2 ≠ none) ∧
    (∀ a ∈ answered o.log e.replies, mishap? a.1 a.2 ≠ none →
      (∃ before, answered o.log e.replies = before ++ [a] ∧ Smooth before ∧
        o.log.getLast? = some a.1) ∧
      o.response.body =
        (if Method.ofName e.request.method = .head then .empty else .json internalBody) ∧
      setCookies o.response = []) ∧
    Formed e.request o.response := by
  intro o
  obtain ⟨hformed, hconcludes⟩ := concludes_handle c limiter e
  have hlog : (answered o.log e.replies).map Prod.fst = o.log := map_fst_answered _ _
  change Concludes e.request (answered o.log e.replies) o.response at hconcludes
  generalize answered o.log e.replies = answers at hconcludes hlog ⊢
  cases hconcludes with
  | smoothly smooth status =>
    refine ⟨iff_of_false status ?_, fun a ha hmishap => absurd (smooth a ha) hmishap, hformed⟩
    rintro ⟨a, ha, hmishap⟩
    exact hmishap (smooth a ha)
  | @badly before s reply _ smooth mishap status body cookies =>
    refine ⟨iff_of_true status ⟨(s, reply), by simp, mishap⟩, fun a ha hmishap => ?_, hformed⟩
    obtain rfl : a = (s, reply) := by
      rcases List.mem_append.1 ha with ha | ha
      · exact absurd (smooth a ha) hmishap
      · exact List.mem_singleton.1 ha
    refine ⟨⟨before, rfl, smooth, ?_⟩, body, cookies⟩
    rw [← hlog, List.map_append, List.map_singleton, List.getLast?_concat]

/-- A request on the console whose session is found in a row without an account. -/
def strayEvent : Event where
  request := {
    method := "GET"
    target := "/console/api/apps/00000000-0000-0000-0000-000000000001/conversations"
    headers := [("authorization", Utf8.ofString "Bearer t")] }
  now := 0
  fresh := ⟨default, ⟨.replicate 32 0⟩, ⟨.replicate 32 0⟩, default⟩
  replies := [.rows [[.null]]]

/-- The status is 500 although no reply is a failure, none is lacking and no row is missing
where one has to come: the one row that comes cannot be read. -/
theorem illegible_row_fails :
    let c : Config := ⟨"key", 60, 30, 5, 900, false⟩
    let o := (handle c c.limiter strayEvent).1
    o.response.status = 500 ∧
      answered o.log strayEvent.replies = [(.sessionAccount "t", some (.rows [[.null]]))] ∧
      ¬ ∃ a ∈ answered o.log strayEvent.replies,
        mishap? a.1 a.2 ∈ [some .failed, some .exhausted, some .missing] := by
  decide +kernel

end Parley.Service
