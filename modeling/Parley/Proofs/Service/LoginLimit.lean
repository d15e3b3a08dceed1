import Parley.Proofs.Account.FailureHistory
import Parley.Proofs.Service.Access
import Parley.Proofs.Service.Login

/-!
# Limiting logins over a run

While the server runs, the limiter is used by logins only: a login that reaches it checks
its address, a wrong password records a failure, and a login that meets all conditions up
to the number of tenants resets the address. So whether a login is refused can be read
off the requests before it and their responses.

* `steady_endpoint`: every other endpoint leaves the limiter alone.
* `tracks_handle`: one request keeps the limiter true to the history of failures.
* `login_refused_iff`: a login is refused exactly if so many of the logins of its address
  since the last one that reset it have failed within the window as the limit says.
-/
namespace Parley.Service

open Http (Method Request Response Route)
open Store (Reply)
open Handler (Ensures Sends exec)

/-! ## Logins in a run -/

/-- Whether a request was a login of an address that failed for its password. -/
def failsFor (email : String) (eo : Event × Outcome) : Bool :=
  loginEmail? eo.1.request == some email &&
    tells eo.2.response 401 "email_or_password_mismatch"

/-- Whether a request was a login of an address that was not refused, and whose password
and number of tenants were accepted. -/
def clearsFor (email : String) (eo : Event × Outcome) : Bool :=
  loginEmail? eo.1.request == some email && !tells eo.2.response 429 "login_limit" &&
    (loginForm? eo.1.request).any fun form => passes form eo.1.replies

/-- What came after the last login that cleared an address. -/
def sinceCleared (email : String) (past : List (Event × Outcome)) : List (Event × Outcome) :=
  past.rtakeWhile fun eo => !clearsFor email eo

/-! ## Other requests -/

theorem sends_issueTokens (ctx : Context) (account : Uuid) (address : Option String) :
    Sends (issueTokens ctx account address) fun _ => True :=
  Handler.ensures_mono (completes_issueTokens ctx account address) fun _ _ _ _ _ _ => trivial

theorem sends_quiet {α : Type} {h : Handler α} {P : α → Prop} (hh : Handler.Quiet h P) :
    Sends h fun _ => True :=
  Handler.ensures_mono hh fun _ _ _ _ _ _ => trivial

theorem sends_logout (ctx : Context) (r : Request) : Sends (logout ctx r) fun _ => True := by
  refine Handler.sends_bind (sends_requireCaller r fun _ => trivial) fun caller => ?_
  refine Handler.sends_bind (Handler.sends_of_asks (Handler.asks_execute rfl) trivial) fun _ => ?_
  exact Handler.sends_pure _

theorem sends_refresh (ctx : Context) (r : Request) : Sends (refresh ctx r) fun _ => True := by
  refine Handler.sends_bind (sends_quiet (quiet_body _ r)) fun token => ?_
  refine Handler.sends_bind (Handler.sends_bind
    (Handler.sends_of_asks (Handler.asks_first? rfl _) trivial) fun account => ?_) fun pair => ?_
  · cases account with
    | none => exact Handler.sends_pure _
    | some account =>
      exact Handler.sends_bind (sends_issueTokens ctx account none) fun _ => Handler.sends_pure _
  · cases pair with
    | none => exact Handler.sends_pure _
    | some pair => exact Handler.sends_pure _

theorem sends_getPassport (ctx : Context) (r : Request) :
    Sends (getPassport ctx r) fun _ => True := by
  refine Handler.sends_bind (Handler.sends_orFail _ _) fun raw => ?_
  refine Handler.sends_bind (Handler.sends_orFail _ _) fun account => ?_
  refine Handler.sends_bind ?_ fun token => Handler.sends_pure _
  refine Handler.sends_bind (Handler.sends_of_asks (Handler.asks_first? rfl _) trivial) fun _ => ?_
  refine Handler.sends_bind (Handler.sends_orFail _ _) fun name => ?_
  refine Handler.sends_bind (Handler.sends_orFail _ _) fun code => ?_
  refine Handler.sends_bind (Handler.sends_of_asks (Handler.asks_first? rfl _) trivial) fun _ => ?_
  refine Handler.sends_bind (Handler.sends_orFail _ _) fun site => ?_
  refine Handler.sends_bind (Handler.sends_of_asks (asks_publishedApp site) trivial) fun app => ?_
  refine Handler.sends_bind (Handler.sends_of_asks (Handler.asks_one rfl _) trivial) fun link => ?_
  exact Handler.sends_pure _

/-- Every endpoint but that for logins leaves the limiter alone. -/
theorem steady_endpoint {ctx : Context} {r : Request} {route : Route} {method : Method}
    {h : Handler Response} (hroute : route ≠ .login) (hh : endpoint? ctx r route method = some h) :
    Ensures h fun _ _ _ => True := by
  have hsends {h : Handler Response} (hs : Sends h fun _ => True) : Ensures h fun _ _ _ => True :=
    Handler.ensures_mono hs fun _ _ _ _ => trivial
  cases happ : consoleApp? route with
  | some app => exact Handler.ensures_mono (gate_of_consoleApp? happ hh) fun _ _ _ _ => trivial
  | none =>
    cases hvisitors : isForVisitors route with
    | true => exact Handler.ensures_mono (gate_of_isForVisitors hvisitors hh) fun _ _ _ _ => trivial
    | false =>
      cases route <;> cases happ <;> cases hvisitors <;> cases method <;> cases hh
      · exact hsends (Handler.sends_pure _)
      · exact absurd rfl hroute
      · exact hsends (sends_logout ctx r)
      · exact hsends (sends_refresh ctx r)
      · exact hsends (sends_getPassport ctx r)

/-! ## One request -/

theorem handle_of_not_login {c : Config} {l : LoginLimiter} {e : Event}
    (h : loginEmail? e.request = none) : (handle c l e).2 = l := by
  refine (ensures_handle (Q := fun _ _ => True) trivial
    (fun route method h' hroute hmethod hh => ?_) l).1
  by_cases hlogin : route = .login
  · subst hlogin
    cases method <;> cases hh
    have hpost : Method.ofName e.request.method = .post := by
      rcases hmethod with hmethod | hmethod
      · exact hmethod.symm
      · cases hmethod
    exact steady_login hroute hpost h
  · exact steady_endpoint hlogin hh

theorem handle_login (c : Config) (l : LoginLimiter) {e : Event}
    (hroute : Route.ofPath? e.request.path = some .login)
    (hmethod : Method.ofName e.request.method = .post) :
    handle c l e =
      let (response, x) :=
        run (login (c.context e) e.request) { limiter := l, replies := e.replies }
      (⟨{ response with headers := commonHeaders (c.context e) ++ response.headers }, x.log⟩,
        x.limiter) :=
  handle_post c l hroute hmethod rfl

theorem handle_refused {c : Config} {l : LoginLimiter} {e : Event} {email : String}
    (hemail : loginEmail? e.request = some email) {refusal : LoginRefused}
    (hcheck : (l.check e.now email).1 = .error refusal) :
    tells (handle c l e).1.response 429 "login_limit" = true ∧ (handle c l e).1.log = [] ∧
      (handle c l e).2 = (l.check e.now email).2 := by
  obtain ⟨form, hform, hnormal⟩ := loginEmail?_eq_some hemail
  obtain ⟨hroute, hmethod, -, -⟩ := loginForm?_eq_some hform
  have hexec : exec (login (c.context e) e.request) { limiter := l, replies := e.replies } =
      (.error (.api (.ofLoginRefused refusal)),
        { limiter := (l.check e.now email).2, replies := e.replies }) := by
    rw [login_of_form hform hnormal]
    exact Handler.exec_bind_error (exec_checkLimiter_error hcheck)
  have hrun : run (login (c.context e) e.request) { limiter := l, replies := e.replies } =
      (Failure.response (.api (.ofLoginRefused refusal)),
        { limiter := (l.check e.now email).2, replies := e.replies }) :=
    Prod.ext (by rw [run_fst, hexec]) (by rw [run_snd, hexec])
  rw [handle_login c l hroute hmethod, hrun]
  exact ⟨rfl, rfl, rfl⟩

theorem handle_passed {c : Config} {l : LoginLimiter} {e : Event} {form : LoginForm}
    {email : String} (hform : loginForm? e.request = some form)
    (hemail : Email.normalize? form.email = some email)
    (hcheck : (l.check e.now email).1 = .ok ()) :
    Ended e.now email (l.check e.now email).2 (passes form e.replies)
      ((handle c l e).1.response, (handle c l e).2) := by
  obtain ⟨hroute, hmethod, -, -⟩ := loginForm?_eq_some hform
  let x : Exchange := { limiter := (l.check e.now email).2, replies := e.replies }
  have hexec : exec (login (c.context e) e.request) { limiter := l, replies := e.replies } =
      exec (attempt (c.context e) e.request form email) x := by
    rw [login_of_form hform hemail]
    exact Handler.exec_bind_ok (exec_checkLimiter_ok hcheck)
  have hfinish : finish (login (c.context e) e.request) { limiter := l, replies := e.replies } =
      finish (attempt (c.context e) e.request form email) x := by
    simp only [finish, run_fst, run_snd, hexec]
  have hended := ended_attempt (c.context e) e.request form email x
  rw [← hfinish] at hended
  rw [handle_login c l hroute hmethod]
  exact hended.withHeaders _

/-- A login is refused where the limiter says so, and nowhere else. -/
theorem refused_iff_check {c : Config} {l : LoginLimiter} {e : Event} {email : String}
    (hemail : loginEmail? e.request = some email) :
    (tells (handle c l e).1.response 429 "login_limit" = true ∧ (handle c l e).1.log = [] ↔
      (l.check e.now email).1 ≠ .ok ()) ∧
    ((handle c l e).1.response.status = 429 ↔ (l.check e.now email).1 ≠ .ok ()) := by
  cases hverdict : (l.check e.now email).1 with
  | error refusal =>
    have hne : (.error refusal : Except LoginRefused Unit) ≠ .ok () := fun h => by cases h
    obtain ⟨htells, hlog, -⟩ := handle_refused (c := c) hemail hverdict
    exact ⟨iff_of_true ⟨htells, hlog⟩ hne, iff_of_true (tells_status htells) hne⟩
  | ok _ =>
    obtain ⟨form, hform, hnormal⟩ := loginEmail?_eq_some hemail
    have hstatus := (handle_passed (c := c) hform hnormal hverdict).status_ne
    exact ⟨iff_of_false (fun h => hstatus (tells_status h.1)) fun h => h rfl,
      iff_of_false hstatus fun h => h rfl⟩

/-! ## The history of a run -/

/-- The times of the failures of an address since it was last cleared. -/
def failureTimes (past : List (Event × Outcome)) (email : String) : List Int :=
  ((sinceCleared email past).filter (failsFor email)).map fun eo => eo.1.now

theorem failureTimes_concat (past : List (Event × Outcome)) (eo : Event × Outcome)
    (email : String) : failureTimes (past ++ [eo]) email =
      if clearsFor email eo then []
      else failureTimes past email ++ if failsFor email eo then [eo.1.now] else [] := by
  unfold failureTimes sinceCleared
  rw [List.rtakeWhile_concat]
  cases hclears : clearsFor email eo with
  | true => rfl
  | false =>
    simp only [Bool.not_false, if_true, Bool.false_eq_true, if_false, List.filter_append,
      List.map_append]
    cases hfails : failsFor email eo <;> simp [hfails]

theorem failureTimes_of_ne {email : String} {eo : Event × Outcome}
    (h : loginEmail? eo.1.request ≠ some email) (past : List (Event × Outcome)) :
    failureTimes (past ++ [eo]) email = failureTimes past email := by
  have hne : (loginEmail? eo.1.request == some email) = false := by simpa using h
  rw [failureTimes_concat]
  simp [clearsFor, failsFor, hne]

/-- Only the failures of the address of a login change by it. -/
theorem failureTimes_update {email : String} {eo : Event × Outcome}
    (h : loginEmail? eo.1.request = some email) (past : List (Event × Outcome)) :
    failureTimes (past ++ [eo]) = Function.update (failureTimes past) email
      (failureTimes (past ++ [eo]) email) := by
  funext email'
  by_cases he : email' = email
  · rw [he, Function.update_self]
  · rw [Function.update_of_ne he, failureTimes_of_ne]
    rw [h]
    exact fun h' => he (Option.some.inj h').symm

theorem Ended.settings {now : Int} {email : String} {l : LoginLimiter} {accepted : Bool}
    {last : Response × LoginLimiter} (h : Ended now email l accepted last) :
    last.2.limit = l.limit ∧ last.2.window = l.window := by
  cases h <;> exact ⟨rfl, rfl⟩

theorem settings_handle (c : Config) (l : LoginLimiter) (e : Event) :
    (handle c l e).2.limit = l.limit ∧ (handle c l e).2.window = l.window := by
  cases hemail : loginEmail? e.request with
  | none =>
    rw [handle_of_not_login hemail]
    exact ⟨rfl, rfl⟩
  | some email =>
    have hsettings := LoginLimiter.settings_check l e.now email
    cases hcheck : (l.check e.now email).1 with
    | error refusal =>
      rw [(handle_refused hemail hcheck).2.2]
      exact hsettings
    | ok _ =>
      obtain ⟨form, hform, hnormal⟩ := loginEmail?_eq_some hemail
      have hended := (handle_passed (c := c) hform hnormal hcheck).settings
      exact ⟨hended.1.trans hsettings.1, hended.2.trans hsettings.2⟩

theorem clearsFor_eq {email : String} {eo : Event × Outcome} {form : LoginForm}
    (hform : loginForm? eo.1.request = some form) (hemail : loginEmail? eo.1.request = some email) :
    clearsFor email eo =
      (!tells eo.2.response 429 "login_limit" && passes form eo.1.replies) := by
  rw [clearsFor, hemail, hform]
  simp

theorem failsFor_eq {email : String} {eo : Event × Outcome}
    (hemail : loginEmail? eo.1.request = some email) :
    failsFor email eo = tells eo.2.response 401 "email_or_password_mismatch" := by
  rw [failsFor, hemail]
  simp

/-- What a login adds to the failures of its address that the limiter lets pass. -/
theorem Ended.tracks {now : Int} {email : String} {l : LoginLimiter} {form : LoginForm}
    {past : List (Event × Outcome)} {eo : Event × Outcome} {l' : LoginLimiter}
    (h : Ended now email l (passes form eo.1.replies) (eo.2.response, l'))
    (hform : loginForm? eo.1.request = some form) (hemail : loginEmail? eo.1.request = some email)
    (hnow : eo.1.now = now) (htracks : LoginLimiter.Tracks l now (failureTimes past)) :
    LoginLimiter.Tracks l' now (failureTimes (past ++ [eo])) := by
  have hclears := clearsFor_eq hform hemail
  have hfails := failsFor_eq hemail
  rw [failureTimes_update hemail, failureTimes_concat, hclears, hfails]
  generalize passes form eo.1.replies = accepted at h ⊢
  cases h with
  | cleared haccepted hresponse =>
    rw [haccepted, tells_of_status_ne hresponse.2]
    exact htracks.reset email
  | failed haccepted hresponse =>
    rw [haccepted, hresponse, hnow, Bool.and_false]
    exact htracks.recordFailure email
  | other haccepted hresponse =>
    rw [haccepted, tells_of_status_ne hresponse.1, Bool.and_false]
    simpa using htracks

/-- A refusal is no failure, and clears no address. -/
theorem failureTimes_refused {eo : Event × Outcome}
    (h : tells eo.2.response 429 "login_limit" = true) (past : List (Event × Outcome)) :
    failureTimes (past ++ [eo]) = failureTimes past := by
  funext email
  have hne : eo.2.response.status ≠ 401 := by
    rw [tells_status h]
    decide
  rw [failureTimes_concat, clearsFor, failsFor, h, tells_of_status_ne hne]
  simp

/-- One request keeps the limiter true to the history of failures. -/
theorem tracks_handle {c : Config} {l : LoginLimiter} {now : Int} {past : List (Event × Outcome)}
    (h : LoginLimiter.Tracks l now (failureTimes past)) {e : Event} (hle : now ≤ e.now) :
    LoginLimiter.Tracks (handle c l e).2 e.now
      (failureTimes (past ++ [(e, (handle c l e).1)])) := by
  have hlater := h.mono hle
  cases hemail : loginEmail? e.request with
  | none =>
    have hsame : failureTimes (past ++ [(e, (handle c l e).1)]) = failureTimes past := by
      funext email
      exact failureTimes_of_ne (by simp [hemail]) past
    rw [handle_of_not_login hemail, hsame]
    exact hlater
  | some email =>
    have hchecked := hlater.check email
    obtain ⟨form, hform, hnormal⟩ := loginEmail?_eq_some hemail
    cases hcheck : (l.check e.now email).1 with
    | ok _ => exact (handle_passed hform hnormal hcheck).tracks hform hemail rfl hchecked
    | error refusal =>
      obtain ⟨htells, -, hlimiter⟩ := handle_refused (c := c) hemail hcheck
      rw [hlimiter, failureTimes_refused htells]
      exact hchecked

/-! ## Runs -/

/-- At each request of a run the limiter is true to the requests before it. -/
theorem tracks_run {c : Config} {l : LoginLimiter} {now : Int} {past : List (Event × Outcome)}
    (h : LoginLimiter.Tracks l now (failureTimes past)) {es : List Event}
    (hle : ∀ e ∈ es, now ≤ e.now) (hclock : es.Pairwise fun e e' => e.now ≤ e'.now) {i : Nat}
    {e : Event} (hi : es[i]? = some e) :
    ∃ l', (handleAll c l es)[i]? = some (handle c l' e).1 ∧
      LoginLimiter.Tracks l' e.now (failureTimes (past ++ (es.zip (handleAll c l es)).take i)) ∧
      l'.limit = l.limit ∧ l'.window = l.window := by
  -- the past grows by the first request, to whose history the limiter behind it is true
  induction es generalizing l now past i with
  | nil => cases hi
  | cons e₀ es ih =>
    cases i with
    | zero =>
      cases hi
      refine ⟨l, rfl, ?_, rfl, rfl⟩
      rw [List.take_zero, List.append_nil]
      exact h.mono (hle e (List.mem_cons_self ..))
    | succ i =>
      obtain ⟨hfirst, hrest⟩ := List.pairwise_cons.mp hclock
      have hstep := tracks_handle (c := c) h (hle e₀ (List.mem_cons_self ..))
      obtain ⟨l', ho, htracks, hlimit, hwindow⟩ := ih hstep hfirst hrest hi
      have hsettings := settings_handle c l e₀
      refine ⟨l', ho, ?_, hlimit.trans hsettings.1, hwindow.trans hsettings.2⟩
      rw [List.append_assoc] at htracks
      exact htracks

/-- What came before a request of a run of a server that was just started. -/
def earlier (c : Config) (es : List Event) (i : Nat) : List (Event × Outcome) :=
  (es.zip (handleAll c c.limiter es)).take i

/-- How many of the logins of an address since the last one that cleared it have failed for
the password within the window. -/
def recentFailures (c : Config) (now : Int) (email : String)
    (past : List (Event × Outcome)) : Nat :=
  (sinceCleared email past).countP fun eo =>
    failsFor email eo && decide (now - eo.1.now ≤ 1000 * (c.loginErrorWindowSeconds : Int))

theorem recent_failureTimes (c : Config) (now : Int) (email : String)
    (past : List (Event × Outcome)) :
    LoginLimiter.recent c.limiter.window now (failureTimes past email) =
      recentFailures c now email past := by
  unfold LoginLimiter.recent failureTimes recentFailures
  rw [List.countP_map, List.countP_filter]
  refine List.countP_congr fun eo _ => ?_
  have hwindow : (c.limiter.window : Int) = 1000 * (c.loginErrorWindowSeconds : Int) := by
    show ((1000 * c.loginErrorWindowSeconds : Nat) : Int) = _
    omega
  rw [Function.comp_apply, hwindow, Bool.and_comm]

/-- A login is refused, and then without a word to the database, exactly if so many of the
logins of its address since the last one that cleared it have failed for the password
within the window as the limit says. -/
theorem login_refused_iff (c : Config) (hlimit : 1 ≤ c.loginErrorLimit) {es : List Event}
    (hclock : es.Pairwise fun e e' => e.now ≤ e'.now) {i : Nat} {e : Event}
    (hi : es[i]? = some e) {email : String} (hemail : loginEmail? e.request = some email) :
    ∃ o, (handleAll c c.limiter es)[i]? = some o ∧
      (tells o.response 429 "login_limit" = true ∧ o.log = [] ↔
        c.loginErrorLimit ≤ recentFailures c e.now email (earlier c es i)) ∧
      (o.response.status = 429 ↔
        c.loginErrorLimit ≤ recentFailures c e.now email (earlier c es i)) := by
  have hstart : ∃ now, ∀ e ∈ es, now ≤ e.now := by
    cases es with
    | nil => exact ⟨0, fun _ h => by cases h⟩
    | cons e₀ es =>
      obtain ⟨hfirst, -⟩ := List.pairwise_cons.mp hclock
      refine ⟨e₀.now, fun e' he' => ?_⟩
      rcases List.mem_cons.mp he' with rfl | he'
      · exact Int.le_refl _
      · exact hfirst e' he'
  obtain ⟨now, hle⟩ := hstart
  have htracks₀ : LoginLimiter.Tracks c.limiter now (failureTimes []) :=
    LoginLimiter.tracks_start _ _ now
  obtain ⟨l, ho, htracks, hl, hwindow⟩ := tracks_run htracks₀ hle hclock hi
  have hcheck : (l.check e.now email).1 =
      if c.loginErrorLimit ≤ recentFailures c e.now email (earlier c es i)
      then .error l.refusal else .ok () := by
    rw [LoginLimiter.check_eq htracks (hl ▸ hlimit), hl, hwindow, recent_failureTimes]
    rfl
  have hverdict : (l.check e.now email).1 ≠ .ok () ↔
      c.loginErrorLimit ≤ recentFailures c e.now email (earlier c es i) := by
    rw [hcheck]
    split
    · rename_i hmany
      exact iff_of_true (fun h => by cases h) hmany
    · rename_i hfew
      exact iff_of_false (fun h => h rfl) hfew
  obtain ⟨hrefused, hstatus⟩ := refused_iff_check (c := c) (l := l) hemail
  exact ⟨_, ho, hrefused.trans hverdict, hstatus.trans hverdict⟩

def loginEvent (email : String) (now : Int) (replies : List Reply) : Event where
  request := {
    method := "POST"
    target := "/console/api/login"
    headers := [("content-type", Utf8.ofString "application/json")]
    body := Utf8.ofString ("\x7b\"email\":\"" ++ email ++ "\",\"password\":\"p\"\x7d") }
  now := now
  fresh := ⟨default, ⟨.replicate 32 0⟩, ⟨.replicate 32 0⟩, default⟩
  replies := replies

/-- A login of an account without a password, one of an unknown account, and one of the
first address in another spelling at the end of the window. -/
def mistypedLogins : List Event := [
  loginEvent "ann@example.org" 0
    [.rows [[.text "00000000000000000000000000000001", .null, .null, .text "active"]]],
  loginEvent "bob@example.org" 500 [.rows []],
  loginEvent " Ann@Example.org " 900000 []]

theorem login_refused_iff_of_mistypedLogins :
    let c : Config := ⟨"key", 60, 30, 1, 900, false⟩
    1 ≤ c.loginErrorLimit ∧ (mistypedLogins.Pairwise fun e e' => e.now ≤ e'.now) ∧
    recentFailures c 900000 "ann@example.org" (earlier c mistypedLogins 2) = 1 ∧
    ∃ e, mistypedLogins[2]? = some e ∧ loginEmail? e.request = some "ann@example.org" ∧
      ∃ o, (handleAll c c.limiter mistypedLogins)[2]? = some o ∧
        tells o.response 429 "login_limit" = true ∧ o.log = [] := by
  intro c
  have hclock : mistypedLogins.Pairwise fun e e' => e.now ≤ e'.now := by decide
  have hemail : loginEmail? (loginEvent " Ann@Example.org " 900000 []).request =
      some "ann@example.org" := by decide +kernel
  have hrecent : recentFailures c 900000 "ann@example.org" (earlier c mistypedLogins 2) = 1 := by
    decide +kernel
  have hlimit : 1 ≤ c.loginErrorLimit := by decide
  obtain ⟨o, ho, hrefused, -⟩ := login_refused_iff c hlimit hclock (i := 2) rfl hemail
  exact ⟨hlimit, hclock, hrecent, _, rfl, hemail, o, ho, hrefused.mpr hrecent.ge⟩

end Parley.Service
