import Parley.Proofs.Service.Access

/-!
# Requests that are not authenticated

The endpoints for logging out and for conversations are behind a gate: a session on the
console, a passport on the web. The gate comes first. It looks at the headers and at the
replies to its own questions, and everything else that a request says, which is the
parameters of its path, its query and its body, is read only behind it. Whoever does not
get through is therefore told the same and leaves the same statements behind, whatever
else the request says.

* `authenticated_iff_passes`: what a request has to bear, and the database to reply, is
  just what lets it through the gate.
* `fails_of_not_authenticated`: without that, every endpoint behind the gate fails in one
  way, which depends on the key, the headers and the replies.
* `unauthenticated_answered_alike`: two requests that differ in parameters, query and body
  are answered alike, but for the number of the request, and with the same statements.
-/
namespace Parley

/-! ## Routes and responses -/

namespace Http

/-- The route with its parameters blanked. -/
def Route.pattern : Route → Route
  | consoleConversations _ => consoleConversations []
  | consoleConversation _ _ => consoleConversation [] []
  | consoleConversationName _ _ => consoleConversationName [] []
  | webConversation _ => webConversation []
  | webConversationName _ => webConversationName []
  | route => route

theorem Route.allowed_pattern (route : Route) : route.pattern.allowed = route.allowed := by
  cases route <;> rfl

/-- The response without the number of its request. -/
def Response.unnumbered (response : Response) : Response :=
  { response with headers := response.headers.filter fun h => h.1 ≠ "x-request-id" }

end Http

namespace Service

open Handler (Asks exec)
open Http (Method Request Response Route)
open Store (Cell Reply Row Statement)

/-- Which methods a route takes does not depend on its parameters. -/
theorem isSome_endpoint_pattern (ctx ctx' : Context) (r r' : Request) (route : Route)
    (method : Method) :
    (endpoint? ctx' r' route.pattern method).isSome = (endpoint? ctx r route method).isSome := by
  cases route <;> cases method <;> simp only [Route.pattern, endpoint?, Option.isSome_some,
    Option.isSome_none]

/-- Of the headers that every response has, only the number depends on the request. -/
theorem unnumbered_withCommonHeaders (ctx ctx' : Context) (response : Response) :
    Response.unnumbered { response with headers := commonHeaders ctx ++ response.headers } =
      Response.unnumbered { response with headers := commonHeaders ctx' ++ response.headers } := by
  simp [Response.unnumbered, commonHeaders]

/-! ## Handlers that fail -/

namespace Handler

variable {α β : Type} {h : Handler α} {replies : List Reply} {sent : List Statement} {e : Failure}

/-- Where these replies come, a handler fails, having sent these statements. -/
def Fails (h : Handler α) (replies : List Reply) (sent : List Statement) (e : Failure) : Prop :=
  ∀ x, x.replies = replies →
    ∃ rest, exec h x = (.error e, { x with log := x.log ++ sent, replies := rest })

theorem fails_throw (e : Failure) : Fails (throw e : Handler α) replies [] e := by
  intro x hx
  refine ⟨x.replies, ?_⟩
  rw [List.append_nil]
  rfl

/-- What would come after a failure does not matter. -/
theorem Fails.bind (hh : Fails h replies sent e) (f : α → Handler β) :
    Fails (h >>= f) replies sent e := by
  intro x hx
  obtain ⟨rest, hexec⟩ := hh x hx
  exact ⟨rest, exec_bind_error hexec⟩

/-- A handler that asks once fails, unless the reply lets it go on and what comes then does
not fail. -/
theorem exists_fails_asks_bind {s : Statement} {read : Reply → Except Failure α}
    (hh : Asks h s read) {k : α → Handler β}
    (hk : ∀ reply rest a, replies = reply :: rest → read reply = .ok a →
      ∃ sent e, Fails (k a) rest sent e) : ∃ sent e, Fails (h >>= k) replies sent e := by
  cases replies with
  | nil =>
    refine ⟨[s], .database, fun x hx => ⟨[], ?_⟩⟩
    rw [exec_bind_error (hh.nil x hx), ← hx]
  | cons reply rest =>
    cases hread : read reply with
    | error e =>
      refine ⟨[s], e, fun x hx => ⟨rest, ?_⟩⟩
      apply exec_bind_error
      rw [hh.cons x reply rest hx, hread]
    | ok a =>
      obtain ⟨sent, e, hfails⟩ := hk reply rest a rfl hread
      refine ⟨s :: sent, e, fun x hx => ?_⟩
      rw [exec_asks_bind hh hx hread]
      obtain ⟨rest', hexec⟩ := hfails { x with log := x.log ++ [s], replies := rest } rfl
      refine ⟨rest', ?_⟩
      rw [hexec]
      simp

end Handler

/-! ## Gates -/

/-- What a request has to show before anything else of it is read. -/
inductive Gate where
  | session
  | passport
  deriving DecidableEq, Repr

/-- The gate in front of a route, if there is one. -/
def gate? : Route → Option Gate
  | .logout | .consoleConversations _ | .consoleConversation _ _ | .consoleConversationName _ _ =>
    some .session
  | .webConversations | .webConversation _ | .webConversationName _ => some .passport
  | _ => none

theorem gate?_pattern (route : Route) : gate? route.pattern = gate? route := by
  cases route <;> rfl

/-- A request is authenticated: it shows a token, and the database knows an account in whose
session it is; or it bears a valid passport, to the app whose code it gives if it gives one,
and the database knows the app, as a published one, and the end user. -/
def Authenticated (secretKey : String) (r : Request) (replies : List Reply) : Gate → Prop
  | .session => ∃ token reply rest account, Shows r token ∧ replies = reply :: rest ∧
      Handler.readFirst (Row.single Cell.toUuid?) reply = .ok (some account)
  | .passport => ∃ token claims lookup found rest app, r.bearer? = some token ∧
      Passport.verify (macOf secretKey) token = .ok claims ∧
      (∀ code ∈ r.filled? "x-app-code", code = claims.appCode) ∧
      replies = lookup :: found :: rest ∧
      (Handler.readFirst Row.app? lookup = .ok (some app) ∧ app.isPublished = true) ∧
      Handler.readOne (Row.single Cell.toBool?) found = .ok true

variable {ctx ctx' : Context} {r r' : Request} {replies : List Reply}

/-! ## Failing at a gate -/

theorem exists_fails_requireCaller (h : ¬ Authenticated ctx.secretKey r replies .session) :
    ∃ sent e, Handler.Fails (requireCaller r) replies sent e := by
  rw [← bind_pure (requireCaller r), requireCaller_bind]
  by_cases htoken : (shownToken r).isEmpty = true
  · rw [if_pos htoken]
    exact ⟨_, _, Handler.fails_throw _⟩
  · rw [if_neg htoken]
    apply Handler.exists_fails_asks_bind (Handler.asks_required rfl _ _)
    intro reply rest account hreplies hread
    exfalso
    apply h
    exact ⟨shownToken r, reply, rest, account, shows_shownToken (by simpa using htoken), hreplies,
      Handler.readRequired_eq_ok.mp hread⟩

theorem exists_fails_requireVisitor (h : ¬ Authenticated ctx.secretKey r replies .passport) :
    ∃ sent e, Handler.Fails (requireVisitor ctx r) replies sent e := by
  unfold requireVisitor
  cases hbearer : r.bearer? with
  | none => exact ⟨_, _, Handler.fails_throw _⟩
  | some token =>
    simp only [Handler.orFail, pure_bind]
    rw [← bind_pure (acceptPassport _ _ _), acceptPassport_bind]
    cases hverify : Passport.verify (macOf ctx.secretKey) token with
    | error e => exact ⟨_, _, Handler.fails_throw _⟩
    | ok claims =>
      by_cases hcode : matchesCode claims (r.filled? "x-app-code") = true
      · simp only [hcode, if_true]
        apply Handler.exists_fails_asks_bind (asks_publishedApp claims.app)
        intro lookup behind app hreplies happ
        apply Handler.exists_fails_asks_bind (asks_endUserExists claims)
        intro found rest visitor hbehind hfound
        exfalso
        apply h
        rw [hbehind] at hreplies
        exact ⟨token, claims, lookup, found, rest, app, hbearer, hverify,
          code_eq_of_matchesCode hcode, hreplies, readPublished_eq_ok happ,
          (readVisitor_eq_ok hfound).2⟩
      · simp only [hcode]
        exact ⟨_, _, Handler.fails_throw _⟩

/-- A gate sees nothing of a request but its headers. -/
theorem requireCaller_congr (h : r.headers = r'.headers) : requireCaller r = requireCaller r' := by
  obtain ⟨method, target, headers, body⟩ := r
  obtain ⟨method', target', headers', body'⟩ := r'
  subst h
  rfl

theorem requireVisitor_congr (h : r.headers = r'.headers) (hkey : ctx.secretKey = ctx'.secretKey) :
    requireVisitor ctx r = requireVisitor ctx' r' := by
  obtain ⟨method, target, headers, body⟩ := r
  obtain ⟨method', target', headers', body'⟩ := r'
  subst h
  unfold requireVisitor acceptPassport
  rw [hkey]
  rfl

/-- Every endpoint begins with the gate in front of its route. -/
theorem endpoint_begins {route : Route} {method : Method} {h : Handler Response}
    (hh : endpoint? ctx r route method = some h) :
    (gate? route = some .session → ∃ f, h = requireCaller r >>= f) ∧
    (gate? route = some .passport → ∃ f, h = requireVisitor ctx r >>= f) := by
  constructor
  · intro hgate
    cases route <;> cases hgate <;> cases method <;> cases hh <;> exact ⟨_, rfl⟩
  · intro hgate
    cases route <;> cases hgate <;> cases method <;> cases hh <;> exact ⟨_, rfl⟩

/-- Without authentication, every endpoint behind a gate fails in one way, which depends on
the key, the headers and the replies. -/
theorem fails_of_not_authenticated (ctx : Context) {gate : Gate}
    (hauth : ¬ Authenticated ctx.secretKey r replies gate) :
    ∃ sent e, ∀ ctx' r' route method h, r.headers = r'.headers → ctx.secretKey = ctx'.secretKey →
      gate? route = some gate → endpoint? ctx' r' route method = some h →
      Handler.Fails h replies sent e := by
  cases gate with
  | session =>
    obtain ⟨sent, e, hfails⟩ := exists_fails_requireCaller hauth
    refine ⟨sent, e, ?_⟩
    intro ctx' r' route method h hheaders hkey hgate hh
    obtain ⟨f, rfl⟩ := (endpoint_begins hh).1 hgate
    rw [← requireCaller_congr hheaders]
    exact hfails.bind f
  | passport =>
    obtain ⟨sent, e, hfails⟩ := exists_fails_requireVisitor hauth
    refine ⟨sent, e, ?_⟩
    intro ctx' r' route method h hheaders hkey hgate hh
    obtain ⟨f, rfl⟩ := (endpoint_begins hh).2 hgate
    rw [← requireVisitor_congr hheaders hkey]
    exact hfails.bind f

/-! ## Getting through a gate -/

/-- The gate as a handler, which tells who gets through. -/
def Gate.pass (ctx : Context) (r : Request) : Gate → Handler Principal
  | session => requireCaller r >>= fun caller => pure caller.principal
  | passport => requireVisitor ctx r >>= fun visitor => pure visitor.principal

theorem exists_fails_pass {gate : Gate} (hauth : ¬ Authenticated ctx.secretKey r replies gate) :
    ∃ sent e, Handler.Fails (gate.pass ctx r) replies sent e := by
  cases gate with
  | session =>
    obtain ⟨sent, e, hfails⟩ := exists_fails_requireCaller hauth
    exact ⟨sent, e, hfails.bind _⟩
  | passport =>
    obtain ⟨sent, e, hfails⟩ := exists_fails_requireVisitor hauth
    exact ⟨sent, e, hfails.bind _⟩

theorem passes_of_authenticated {gate : Gate} (hauth : Authenticated ctx.secretKey r replies gate)
    {x : Exchange} (hx : x.replies = replies) : ∃ p x', exec (gate.pass ctx r) x = (.ok p, x') := by
  cases gate with
  | session =>
    obtain ⟨token, reply, rest, account, htoken, hreplies, hread⟩ := hauth
    have hexec := exec_requireCaller (shownToken_of_shows htoken).2 (hx.trans hreplies) hread
    exact ⟨_, _, Handler.exec_bind_ok hexec⟩
  | passport =>
    obtain ⟨token, claims, lookup, found, rest, app, hbearer, hverify, hcode, hreplies,
      ⟨happ, hpublished⟩, hfound⟩ := hauth
    have hexec := exec_requireVisitor hbearer hverify (matchesCode_of_code_eq hcode) happ hpublished
      hfound (hx.trans hreplies)
    exact ⟨_, _, Handler.exec_bind_ok hexec⟩

/-- A request gets through a gate exactly if it is authenticated. -/
theorem authenticated_iff_passes {gate : Gate} :
    Authenticated ctx.secretKey r replies gate ↔
      ∀ x, x.replies = replies → ∃ p x', exec (gate.pass ctx r) x = (.ok p, x') := by
  constructor
  · intro hauth x hx
    exact passes_of_authenticated hauth hx
  · intro hpasses
    by_contra hauth
    obtain ⟨sent, e, hfails⟩ := exists_fails_pass hauth
    let x : Exchange := ⟨⟨0, 0, []⟩, replies, []⟩
    obtain ⟨rest, hexec⟩ := hfails x rfl
    obtain ⟨p, x', hpass⟩ := hpasses x rfl
    rw [hexec] at hpass
    cases hpass

/-! ## Two requests -/

/-- Where the endpoint fails, the response and the statements are those of the failure. -/
theorem handle_of_fails (c : Config) (limiter : LoginLimiter) {e : Event} {route : Route}
    {h : Handler Response} {sent : List Statement} {failure : Failure}
    (hroute : Route.ofPath? e.request.path = some route)
    (hh : endpoint? (c.context e) e.request route (endpointMethod e.request) = some h)
    (hfails : Handler.Fails h e.replies sent failure) :
    (handle c limiter e).1 =
      ⟨{ sentFor e.request failure.response with
          headers := commonHeaders (c.context e) ++ (sentFor e.request failure.response).headers },
        sent⟩ := by
  obtain ⟨rest, hexec⟩ := hfails { limiter := limiter, replies := e.replies } rfl
  rw [handle_of_endpoint c limiter hroute hh]
  simp only [run_fst, run_snd, hexec, List.nil_append]

/-- Whoever is not authenticated is answered alike, and with the same statements, whatever the
parameters of the path, the query and the body. -/
theorem unauthenticated_answered_alike {c : Config} {e e' : Event} {route route' : Route}
    {gate : Gate} (hroute : Route.ofPath? e.request.path = some route)
    (hroute' : Route.ofPath? e'.request.path = some route')
    (hpattern : route.pattern = route'.pattern) (hgate : gate? route = some gate)
    (hmethod : Method.ofName e.request.method = Method.ofName e'.request.method)
    (hheaders : e.request.headers = e'.request.headers) (hreplies : e.replies = e'.replies)
    (hauth : ¬ Authenticated c.secretKey e.request e.replies gate)
    (limiter limiter' : LoginLimiter) :
    (handle c limiter e).1.response.unnumbered = (handle c limiter' e').1.response.unnumbered ∧
      (handle c limiter e).1.log = (handle c limiter' e').1.log := by
  have hendpointMethod : endpointMethod e.request = endpointMethod e'.request := by
    simp only [endpointMethod, hmethod]
  have hgate' : gate? route' = some gate := by
    rw [← gate?_pattern, ← hpattern, gate?_pattern, hgate]
  have hsome : (endpoint? (c.context e) e.request route (endpointMethod e.request)).isSome =
      (endpoint? (c.context e') e'.request route' (endpointMethod e'.request)).isSome := by
    rw [← isSome_endpoint_pattern (c.context e) (c.context e) e.request e.request, hpattern,
      hendpointMethod, isSome_endpoint_pattern]
  cases hh : endpoint? (c.context e) e.request route (endpointMethod e.request) with
  | none =>
    rw [hh] at hsome
    have hh' := Option.isNone_iff_eq_none.mp (Option.isSome_eq_false_iff.mp hsome.symm)
    have hallowed : route.allowed = route'.allowed := by
      rw [← Route.allowed_pattern, hpattern, Route.allowed_pattern]
    simp only [handle, answer_eq_of_none hroute hh, answer_eq_of_none hroute' hh', hmethod,
      preflight, notAllowed, hallowed]
    exact ⟨unnumbered_withCommonHeaders _ _ _, trivial⟩
  | some h =>
    rw [hh] at hsome
    obtain ⟨h', hh'⟩ := Option.isSome_iff_exists.mp hsome.symm
    obtain ⟨sent, failure, hfails⟩ := fails_of_not_authenticated (c.context e) hauth
    have hfails' := hfails (c.context e') _ _ _ _ hheaders rfl hgate' hh'
    rw [hreplies] at hfails'
    rw [handle_of_fails c limiter hroute hh (hfails (c.context e) _ _ _ _ rfl rfl hgate hh),
      handle_of_fails c limiter' hroute' hh' hfails']
    have hsent : sentFor e'.request failure.response = sentFor e.request failure.response := by
      simp only [sentFor, hmethod]
    rw [hsent]
    exact ⟨unnumbered_withCommonHeaders _ _ _, rfl⟩

/-- A request to rename a conversation with a token that the database knows no session for. -/
def strangerEvent (target body : String) (request : Uuid) : Event where
  request := {
    method := "POST"
    target := target
    headers := [("authorization", Utf8.ofString "Bearer t")]
    body := Utf8.ofString body }
  now := 0
  fresh := ⟨request, ⟨.replicate 32 0⟩, ⟨.replicate 32 0⟩, default⟩
  replies := [.rows []]

theorem stranger_answered_alike :
    let c : Config := ⟨"key", 60, 30, 5, 900, false⟩
    let e := strangerEvent ("/console/api/apps/00000000000000000000000000000001/conversations/" ++
      "00000000000000000000000000000002/name") "\x7b\"name\": \"Ada\"\x7d" default
    let e' := strangerEvent "/console/api/apps/1/conversations/2/name?limit=none" "Ada" (.random 1)
    ¬ Authenticated c.secretKey e.request e.replies .session ∧
    (handle c c.limiter e).1.response.unnumbered =
      (handle c c.limiter e').1.response.unnumbered ∧
    (handle c c.limiter e).1.log = (handle c c.limiter e').1.log := by
  intro c e e'
  have hroute : Route.ofPath? e.request.path = some (.consoleConversationName
      "00000000000000000000000000000001".toList "00000000000000000000000000000002".toList) := by
    decide +kernel
  have hroute' : Route.ofPath? e'.request.path = some (.consoleConversationName ['1'] ['2']) := by
    decide +kernel
  have hauth : ¬ Authenticated c.secretKey e.request e.replies .session := by
    rintro ⟨token, reply, rest, account, -, hreplies, hread⟩
    cases hreplies
    cases hread
  exact ⟨hauth, unauthenticated_answered_alike hroute hroute' rfl rfl rfl rfl rfl hauth _ _⟩

end Service

end Parley
