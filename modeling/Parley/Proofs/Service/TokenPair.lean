import Parley.Proofs.Service.Login

/-!
# Token pairs

A login and a refresh token both buy a pair of tokens. Either way the pair is stored
first, in a transaction that ends the log of the request, and the client is told of the
pair if that transaction was committed. Otherwise nothing is committed and the response
would have been the same for any other pair.

* `StoredPair`: what is bound in the transaction.
* `Settles`: what comes of a request for tokens, over all pairs that may be drawn for it.
* `settles_handOut`: the one place where a pair is stored and handed out.
* `handed_out_iff_stored`: which requests hand out a pair, and which pair it is.
-/
namespace Parley.Service

open Http (Cookie.set Method Request Response Route)
open Store (Arg Cell Reply Row Statement)
open Handler (Asks exec)

/-! ## What a client is told -/

/-- The access token and the refresh token that a response hands out. -/
def handedOut? (r : Response) : Option (String × String) :=
  match r.body with
  | .json v => do
    let data ← v.get? "data"
    match data.get? "access_token", data.get? "refresh_token" with
    | some (.str access), some (.str refresh) => some (access, refresh)
    | _, _ => none
  | _ => none

/-- The cookies that a response sets. -/
def setCookies (r : Response) : List String :=
  (r.headers.filter fun h => h.1 == "set-cookie").map Prod.snd

/-- A response that hands out nothing. -/
def Withholds (r : Response) : Prop :=
  handedOut? r = none ∧ setCookies r = []

theorem withholds_failure (e : Failure) : Withholds e.response := by
  cases e with
  | api e => exact ⟨rfl, rfl⟩
  | rejected r => exact ⟨rfl, rfl⟩
  | database => exact ⟨rfl, rfl⟩

theorem withholds_refreshRefused : Withholds refreshRefused :=
  ⟨rfl, rfl⟩

theorem setCookies_withCommonHeaders (ctx : Context) (r : Response) :
    setCookies { r with headers := commonHeaders ctx ++ r.headers } = setCookies r := by
  unfold setCookies
  rw [List.filter_append]
  rfl

/-- The cookie of a session, in full. -/
theorem set_cookieName (token : String) (secure remember : Bool) (seconds : Int) :
    Cookie.set cookieName token secure (if remember then some seconds else none) =
      "access_token=" ++ token ++ "; HttpOnly; SameSite=Lax" ++
        (if secure then "; Secure" else "") ++ "; Path=/" ++
        (if remember then "; Max-Age=" ++ Decimal.ofInt seconds else "") := by
  have hname : cookieName ++ "=" = "access_token=" := by decide
  unfold Cookie.set
  rw [hname]
  cases remember <;> rfl

/-! ## What is stored -/

/-- What is bound where a pair is stored: the access token with its account, the address
and its lifetime, and the refresh token with its own account and lifetime. -/
structure StoredPair where
  access : String
  account : Uuid
  address : Option String
  minutes : Int
  refresh : String
  owner : Uuid
  days : Int

namespace StoredPair

/-- The transaction that stores a pair. -/
def statements (p : StoredPair) : List Statement := [
  .openTransaction,
  .insertSession p.access p.account p.address p.minutes,
  .insertRefreshToken p.refresh p.owner p.days,
  .commitTransaction]

/-- The transaction in the words of the database. -/
def sent (p : StoredPair) : List (String × List Arg) := [
  ("BEGIN", []),
  ("INSERT INTO sessions (token, account_id, ip, expires_at) VALUES ($1, $2, $3, " ++
    "now() + make_interval(mins => $4::int))",
    [.text p.access, .uuid p.account, Arg.ofOption .text p.address, .int p.minutes]),
  ("INSERT INTO refresh_tokens (token, account_id, expires_at) VALUES ($1, $2, " ++
    "now() + make_interval(days => $3::int))",
    [.text p.refresh, .uuid p.owner, .int p.days]),
  ("COMMIT", [])]

theorem sent_eq (p : StoredPair) : p.statements.map (fun s => (s.sql, s.args)) = p.sent := by
  rfl

theorem commit_mem (p : StoredPair) : .commitTransaction ∈ p.statements := by
  simp [statements]

theorem statements_injective {p q : StoredPair} (h : p.statements = q.statements) : p = q := by
  cases p
  cases q
  simp only [statements, List.cons.injEq, Statement.insertSession.injEq,
    Statement.insertRefreshToken.injEq] at h
  simp_all

/-- A log ends with one pair at most. -/
theorem eq_of_suffix {p q : StoredPair} {log : List Statement} (hp : p.statements <:+ log)
    (hq : q.statements <:+ log) : p = q := by
  have hsuffix : p.statements <:+ q.statements :=
    List.suffix_of_suffix_length_le hp hq (Nat.le_refl _)
  exact statements_injective (hsuffix.eq_of_length rfl)

end StoredPair

/-! ## Issuing a pair -/

/-- The context in which this pair is drawn. -/
def Context.drawing (ctx : Context) (p : TokenPair) : Context :=
  { ctx with fresh := { ctx.fresh with accessToken := p.access, refreshToken := p.refresh } }

@[simp] theorem Context.drawing_now (ctx : Context) (p : TokenPair) :
    (ctx.drawing p).now = ctx.now := rfl

def Event.drawing (e : Event) (p : TokenPair) : Event :=
  { e with fresh := { e.fresh with accessToken := p.access, refreshToken := p.refresh } }

/-- The account that a pair is issued to, the address that asked for it, and the response
that hands the pair out. -/
structure Grant where
  account : Uuid
  address : Option String
  response : TokenPair → Response
  status : ∀ p, (response p).status = 200
  tells : ∀ p, handedOut? (response p) = some (p.access.text, p.refresh.text)

def Grant.stored (g : Grant) (ctx : Context) (p : TokenPair) : StoredPair where
  access := p.access.text
  account := g.account
  address := g.address
  minutes := ctx.accessTokenMinutes
  refresh := p.refresh.text
  owner := g.account
  days := ctx.refreshTokenDays

def handOut (ctx : Context) (g : Grant) : Handler Response :=
  issueTokens ctx g.account g.address >>= fun pair => pure (g.response pair)

def succeeds : List Reply → Bool
  | [] => false
  | reply :: _ => reply != .failure

/-- Whether the two statements that store a pair succeed. -/
def storesPair (replies : List Reply) : Bool :=
  succeeds replies && succeeds replies.tail

theorem exec_execute {s : Statement} (hs : s.isTransactional = false) (x : Exchange) :
    exec (Handler.execute s) x = (if succeeds x.replies then .ok () else .error .database,
      { x with log := x.log ++ [s], replies := x.replies.tail }) := by
  obtain ⟨limiter, replies, log⟩ := x
  cases replies with
  | nil => exact (Handler.asks_execute hs).nil _ rfl
  | cons reply rest =>
    rw [(Handler.asks_execute hs).cons _ reply rest rfl]
    cases reply <;> rfl

section

variable (ctx : Context) (g : Grant) {x : Exchange}

theorem exec_handOut (hx : storesPair x.replies = true) (p : TokenPair) :
    exec (handOut (ctx.drawing p) g) x = (.ok (g.response p),
      { x with log := x.log ++ (g.stored ctx p).statements, replies := x.replies.tail.tail }) := by
  obtain ⟨hfirst, hsecond⟩ := Bool.and_eq_true_iff.mp hx
  have hlog : x.log ++ (g.stored ctx p).statements = x.log ++ [.openTransaction] ++
      [.insertSession p.access.text g.account g.address ctx.accessTokenMinutes] ++
      [.insertRefreshToken p.refresh.text g.account ctx.refreshTokenDays] ++
      [.commitTransaction] := by
    simp only [List.append_assoc]
    rfl
  unfold handOut issueTokens
  simp only [bind_assoc, pure_bind]
  rw [Handler.exec_bind_ok (Handler.exec_execute_of_isTransactional rfl x),
    Handler.exec_bind_ok ((exec_execute rfl _).trans (by rw [if_pos hfirst])),
    Handler.exec_bind_ok ((exec_execute rfl _).trans (by rw [if_pos hsecond])),
    Handler.exec_bind_ok (Handler.exec_execute_of_isTransactional rfl _), hlog]
  rfl

/-- A pair that is not stored is not handed out, and nothing is committed. -/
theorem exec_handOut_error (hx : storesPair x.replies = false) (p : TokenPair) :
    ∃ x' sent, exec (handOut (ctx.drawing p) g) x = (.error .database, x') ∧
      x'.log = x.log ++ sent ∧ .commitTransaction ∉ sent := by
  unfold handOut issueTokens
  simp only [bind_assoc, pure_bind]
  rw [Handler.exec_bind_ok (Handler.exec_execute_of_isTransactional rfl x)]
  cases hfirst : succeeds x.replies with
  | false =>
    rw [Handler.exec_bind_error ((exec_execute rfl _).trans (by rw [hfirst]; rfl))]
    exact ⟨_, _, rfl, List.append_assoc _ _ _, by simp⟩
  | true =>
    have hsecond : succeeds x.replies.tail = false := by
      simpa [storesPair, hfirst] using hx
    rw [Handler.exec_bind_ok ((exec_execute rfl _).trans (by rw [if_pos hfirst])),
      Handler.exec_bind_error ((exec_execute rfl _).trans (by rw [hsecond]; rfl))]
    exact ⟨_, _, rfl, by simp only [List.append_assoc]; rfl, by simp⟩

end

/-! ## What comes of a request -/

/-- What comes of a request for tokens, over all pairs that may be drawn for it. Either
nothing is committed and the response is the same for all pairs, or a grant is made behind
statements of which none commits. -/
inductive Settles (ctx : Context) (x : Exchange) (G : List Statement → Grant → Prop)
    (h : TokenPair → Handler Response) : Prop
  | withheld {response : Response} (hresponse : Withholds response)
      (hrun : ∀ p, (run (h p) x).1 = response)
      (hlog : ∀ p, ∃ sent, (run (h p) x).2.log = x.log ++ sent ∧ .commitTransaction ∉ sent)
  | granted {before : List Statement} {g : Grant} (hbefore : .commitTransaction ∉ before)
      (hgrant : G before g) (hrun : ∀ p, (run (h p) x).1 = g.response p)
      (hlog : ∀ p, (run (h p) x).2.log = x.log ++ (before ++ (g.stored ctx p).statements))

section

variable {α : Type} {ctx : Context} {x : Exchange} {G : List Statement → Grant → Prop}

theorem settles_error {h : TokenPair → Handler Response} (e : Failure)
    (herror : ∀ p, ∃ x' sent, exec (h p) x = (.error e, x') ∧ x'.log = x.log ++ sent ∧
      .commitTransaction ∉ sent) : Settles ctx x G h := by
  refine .withheld (withholds_failure e) (fun p => ?_) (fun p => ?_)
  · obtain ⟨x', sent, hexec, -, -⟩ := herror p
    rw [run_fst, hexec]
  · obtain ⟨x', sent, hexec, hlog, hsent⟩ := herror p
    rw [run_snd, hexec]
    exact ⟨sent, hlog, hsent⟩

theorem settles_throw {h : TokenPair → Handler Response} {x' : Exchange} (e : Failure)
    (herror : ∀ p, exec (h p) x = (.error e, x')) (hlog : x'.log = x.log) : Settles ctx x G h :=
  settles_error e fun p =>
    ⟨x', [], herror p, hlog.trans (List.append_nil _).symm, List.not_mem_nil⟩

theorem settles_fail (e : ApiError) : Settles ctx x G fun _ => Handler.fail e :=
  settles_throw (.api e) (fun _ => rfl) rfl

/-- Where a pair can be handed out, it is stored, or else it is withheld. -/
theorem settles_handOut {g : Grant} (hg : G [] g) :
    Settles ctx x G fun p => handOut (ctx.drawing p) g := by
  cases hx : storesPair x.replies with
  | false =>
    exact settles_error .database (exec_handOut_error ctx g hx)
  | true =>
    refine .granted List.not_mem_nil hg (fun p => ?_) (fun p => ?_)
    · rw [run_fst, exec_handOut ctx g hx]
    · rw [run_snd, exec_handOut ctx g hx]
      rfl

theorem settles_bind {f : Handler α} {k : TokenPair → α → Handler Response} {a : α}
    {x' : Exchange} {sent : List Statement} (hf : exec f x = (.ok a, x'))
    (hlog : x'.log = x.log ++ sent) (hsent : .commitTransaction ∉ sent)
    (hk : Settles ctx x' (fun before => G (sent ++ before)) fun p => k p a) :
    Settles ctx x G fun p => f >>= k p := by
  have hrun (p : TokenPair) : run (f >>= k p) x = run (k p a) x' :=
    Prod.ext (by rw [run_fst, run_fst, Handler.exec_bind_ok hf])
      (by rw [run_snd, run_snd, Handler.exec_bind_ok hf])
  cases hk with
  | withheld hresponse hresult hlog' =>
    refine .withheld hresponse (fun p => (congrArg Prod.fst (hrun p)).trans (hresult p)) fun p => ?_
    obtain ⟨sent', hsent', hcommit⟩ := hlog' p
    rw [hrun, hsent', hlog, List.append_assoc]
    exact ⟨_, rfl, List.not_mem_append hsent hcommit⟩
  | granted hbefore hgrant hresult hlog' =>
    refine .granted (List.not_mem_append hsent hbefore) hgrant
      (fun p => (congrArg Prod.fst (hrun p)).trans (hresult p)) fun p => ?_
    rw [hrun, hlog' p, hlog]
    simp only [List.append_assoc]

theorem settles_asks {f : Handler α} {k : TokenPair → α → Handler Response} {s : Statement}
    {read : Reply → Except Failure α} (hf : Asks f s read) (hs : s ≠ .commitTransaction)
    (hk : ∀ reply rest a, x.replies = reply :: rest → read reply = .ok a →
      Settles ctx { x with log := x.log ++ [s], replies := rest }
        (fun before => G (s :: before)) fun p => k p a) :
    Settles ctx x G fun p => f >>= k p := by
  have hsent : .commitTransaction ∉ [s] := by
    simpa using hs.symm
  rcases hr : x.replies with _ | ⟨reply, rest⟩
  · exact settles_error .database fun p =>
      ⟨_, [s], Handler.exec_bind_error (hf.nil x hr), rfl, hsent⟩
  · have hcons := hf.cons x reply rest hr
    cases hread : read reply with
    | error e =>
      rw [hread] at hcons
      exact settles_error e fun p => ⟨_, [s], Handler.exec_bind_error hcons, rfl, hsent⟩
    | ok a =>
      rw [hread] at hcons
      exact settles_bind hcons rfl hsent (hk reply rest a hr hread)

theorem settles_quiet_bind {f : Handler α} {k : TokenPair → α → Handler Response} {a : α}
    {x' : Exchange} (hf : exec f x = (.ok a, x')) (hlog : x'.log = x.log)
    (hk : Settles ctx x' G fun p => k p a) : Settles ctx x G fun p => f >>= k p :=
  settles_bind hf (hlog.trans (List.append_nil _).symm) List.not_mem_nil hk

theorem settles_modifyLimiter {f : LoginLimiter → LoginLimiter}
    {h : TokenPair → Handler Response}
    (hh : Settles ctx { x with limiter := f x.limiter } G h) :
    Settles ctx x G fun p => Handler.modifyLimiter f >>= fun _ => h p :=
  settles_quiet_bind (a := ()) rfl rfl hh

theorem settles_body {σ : Type} {record : Json.Record σ α} {r : Request}
    {k : TokenPair → α → Handler Response} (hk : ∀ a, saysJson r = true →
      record.readText r.body = .ok a → Settles ctx x G fun p => k p a) :
    Settles ctx x G fun p => body record r >>= k p := by
  rcases body_cases record r with ⟨a, hjson, hread, hbody⟩ | ⟨rejection, hbody⟩
  · rw [hbody]
    exact hk a hjson hread
  · rw [hbody]
    exact settles_throw (.rejected rejection) (fun _ => rfl) rfl

end

/-! ## Logging in -/

/-- What a login is granted. -/
def loginGrant (ctx : Context) (r : Request) (form : LoginForm) (account : Account) : Grant where
  account := account.id
  address := r.clientAddress?
  response p := sessionResponse ctx p.access.text (rememberedSeconds ctx form) (some p.toJson)
  status _ := rfl
  tells _ := rfl

/-- What is sent at a login before its pair is stored. -/
def loginStatements (r : Request) (email : String) (account : Account) : List Statement := [
  .accountByEmail email,
  .tenantCount account.id,
  .recordLogin account.id r.clientAddress?]

/-- A grant that is made to the account of an address, which is not barred and has the
password. -/
def GrantedAtLogin (ctx : Context) (r : Request) (replies : List Reply)
    (before : List Statement) (g : Grant) : Prop :=
  ∃ form email account, loginForm? r = some form ∧ Email.normalize? form.email = some email ∧
    replies.head?.map (Handler.readFirst Row.account?) = some (.ok (some account)) ∧
    account.isBarred = false ∧ account.hasPassword form.password = true ∧
    before = loginStatements r email account ∧ g = loginGrant ctx r form account

section

variable {ctx : Context} {r : Request} {x : Exchange} {G : List Statement → Grant → Prop}

theorem signIn_drawing (form : LoginForm) (account : Account) (p : TokenPair) :
    signIn (ctx.drawing p) r form account =
      Handler.execute (.recordLogin account.id r.clientAddress?) >>= fun _ =>
        handOut (ctx.drawing p) (loginGrant ctx r form account) := rfl

theorem settles_signIn {form : LoginForm} {account : Account}
    (hg : G [.recordLogin account.id r.clientAddress?] (loginGrant ctx r form account)) :
    Settles ctx x G fun p => signIn (ctx.drawing p) r form account := by
  simp only [signIn_drawing]
  exact settles_asks (Handler.asks_execute rfl) Statement.noConfusion
    fun _ _ _ _ _ => settles_handOut hg

theorem settles_enter {form : LoginForm} {email : String} {account : Account} {tenants : Int}
    (hg : G [.recordLogin account.id r.clientAddress?] (loginGrant ctx r form account)) :
    Settles ctx x G fun p => enter (ctx.drawing p) r form email account tenants := by
  unfold enter
  split
  · exact settles_fail _
  · exact settles_modifyLimiter (settles_signIn hg)

theorem settles_proceed {form : LoginForm} {email : String} {account : Account}
    (hg : account.isBarred = false → account.hasPassword form.password = true →
      G [.tenantCount account.id, .recordLogin account.id r.clientAddress?]
        (loginGrant ctx r form account)) :
    Settles ctx x G fun p => proceed (ctx.drawing p) r form email account := by
  unfold proceed
  cases hbarred : account.isBarred with
  | true => exact settles_fail _
  | false =>
    simp only [Bool.false_eq_true, if_false]
    cases hpassword : account.hasPassword form.password with
    | false =>
      simp only [Bool.false_eq_true, if_false, Context.drawing_now]
      exact settles_modifyLimiter (settles_fail _)
    | true =>
      exact settles_asks (Handler.asks_one rfl _) Statement.noConfusion
        fun _ _ _ _ _ => settles_enter (hg hbarred hpassword)

theorem settles_attempt {form : LoginForm} {email : String} (hform : loginForm? r = some form)
    (hemail : Email.normalize? form.email = some email) :
    Settles ctx x (GrantedAtLogin ctx r x.replies)
      fun p => attempt (ctx.drawing p) r form email := by
  simp only [attempt_eq]
  refine settles_asks (Handler.asks_required rfl _ _) Statement.noConfusion
    fun reply rest account hx hread => settles_proceed fun hbarred hpassword => ?_
  refine ⟨form, email, account, hform, hemail, ?_, hbarred, hpassword, rfl, rfl⟩
  rw [hx]
  exact congrArg some (Handler.readRequired_eq_ok.mp hread)

theorem settles_login (hroute : Route.ofPath? r.path = some .login)
    (hmethod : Method.ofName r.method = .post) :
    Settles ctx x (GrantedAtLogin ctx r x.replies) fun p => login (ctx.drawing p) r := by
  simp only [login_eq]
  refine settles_body fun form hjson hread => ?_
  have hform : loginForm? r = some form := by
    simp [loginForm?, hroute, hmethod, hjson, hread, Except.toOption]
  cases hemail : Email.normalize? form.email with
  | none => exact settles_fail _
  | some email =>
    simp only [Handler.orFail, pure_bind]
    cases hcheck : (x.limiter.check ctx.now email).1 with
    | error refusal =>
      exact settles_throw _ (fun _ => Handler.exec_bind_error (exec_checkLimiter_error hcheck)) rfl
    | ok _ =>
      exact settles_quiet_bind (exec_checkLimiter_ok hcheck) rfl (settles_attempt hform hemail)

end

/-! ## Refresh tokens -/

/-- The refresh token that a request presents, if it is a request for a new pair whose body
can be read. -/
def presentedToken? (r : Request) : Option String :=
  if Route.ofPath? r.path = some .refreshToken ∧ Method.ofName r.method = .post ∧
      saysJson r = true then
    (refreshForm.readText r.body).toOption
  else none

/-- What a refresh token is traded for. -/
def refreshGrant (account : Uuid) : Grant where
  account := account
  address := none
  response p := .ofJson 200 (successBody (some p.toJson))
  status _ := rfl
  tells _ := rfl

/-- A grant that is made to the account of the refresh token that is presented. -/
def GrantedForToken (r : Request) (replies : List Reply) (before : List Statement) (g : Grant) :
    Prop :=
  ∃ token account, presentedToken? r = some token ∧
    replies.head?.map (Handler.readFirst (Row.single Cell.toUuid?)) = some (.ok (some account)) ∧
    before = [.consumeRefreshToken token] ∧ g = refreshGrant account

/-- What is left of a request for a new pair once its token was looked up. -/
def renew (ctx : Context) : Option Uuid → Handler Response
  | none => pure refreshRefused
  | some account => handOut ctx (refreshGrant account)

theorem refresh_eq (ctx : Context) (r : Request) :
    refresh ctx r = body refreshForm r >>= fun token =>
      Handler.first? (.consumeRefreshToken token) (Row.single Cell.toUuid?) >>= renew ctx := by
  unfold refresh renewTokens
  simp only [bind_assoc]
  congr 1
  funext token
  congr 1
  funext account
  cases account with
  | none => rfl
  | some account =>
    simp only [bind_assoc, pure_bind]
    rfl

theorem settles_refresh {ctx : Context} {r : Request} {x : Exchange}
    (hroute : Route.ofPath? r.path = some .refreshToken)
    (hmethod : Method.ofName r.method = .post) :
    Settles ctx x (GrantedForToken r x.replies) fun p => refresh (ctx.drawing p) r := by
  simp only [refresh_eq]
  refine settles_body fun token hjson hread => ?_
  have htoken : presentedToken? r = some token := by
    simp [presentedToken?, hroute, hmethod, hjson, hread, Except.toOption]
  refine settles_asks (Handler.asks_first? rfl _) Statement.noConfusion
    fun reply rest found hx hread => ?_
  cases found with
  | none =>
    exact .withheld withholds_refreshRefused (fun _ => rfl)
      fun _ => ⟨[], (List.append_nil _).symm, List.not_mem_nil⟩
  | some account =>
    refine settles_handOut ⟨token, account, htoken, ?_, rfl, rfl⟩
    rw [hx]
    exact congrArg some hread

/-! ## Requests -/

/-- A login or a request for a new pair. -/
def AsksForTokens (r : Request) : Prop :=
  Method.ofName r.method = .post ∧
    (Route.ofPath? r.path = some .login ∨ Route.ofPath? r.path = some .refreshToken)

/-- The pair that is drawn in an event. -/
def Event.drawn (e : Event) : TokenPair :=
  ⟨e.fresh.accessToken, e.fresh.refreshToken⟩

/-- A grant that is made in an event, at a login or for a refresh token. -/
def Granted (c : Config) (e : Event) (before : List Statement) (g : Grant) : Prop :=
  GrantedAtLogin (c.context e) e.request e.replies before g ∨
    GrantedForToken e.request e.replies before g

theorem Settles.mono {ctx : Context} {x : Exchange} {G G' : List Statement → Grant → Prop}
    {h : TokenPair → Handler Response} (hs : Settles ctx x G h)
    (hG : ∀ before g, G before g → G' before g) : Settles ctx x G' h := by
  cases hs with
  | withheld hresponse hrun hlog => exact .withheld hresponse hrun hlog
  | granted hbefore hgrant hrun hlog => exact .granted hbefore (hG _ _ hgrant) hrun hlog

/-- How a request for tokens is answered, whatever pair is drawn. -/
theorem settles_handle (c : Config) (limiter : LoginLimiter) {e : Event}
    (h : AsksForTokens e.request) : ∃ hs : TokenPair → Handler Response,
      Settles (c.context e) { limiter := limiter, replies := e.replies } (Granted c e) hs ∧
      ∀ p, (handle c limiter (e.drawing p)).1 =
        let (response, x) := run (hs p) { limiter := limiter, replies := e.replies }
        ⟨{ response with headers := commonHeaders (c.context e) ++ response.headers }, x.log⟩ := by
  obtain ⟨hmethod, hroute | hroute⟩ := h
  · exact ⟨_, (settles_login hroute hmethod).mono fun _ _ => Or.inl,
      fun p => congrArg Prod.fst (handle_post c limiter (e := e.drawing p) hroute hmethod rfl)⟩
  · exact ⟨_, (settles_refresh hroute hmethod).mono fun _ _ => Or.inr,
      fun p => congrArg Prod.fst (handle_post c limiter (e := e.drawing p) hroute hmethod rfl)⟩

/-- A pair that is handed out at a login: to the account of the address, which has the
password, and in a session that the cookie holds. -/
def LoggedIn (c : Config) (e : Event) (o : Outcome) (p : StoredPair) : Prop :=
  ∃ form email account, loginForm? e.request = some form ∧
    Email.normalize? form.email = some email ∧
    e.replies.head?.map (Handler.readFirst Row.account?) = some (.ok (some account)) ∧
    account.isBarred = false ∧ account.hasPassword form.password = true ∧
    p.account = account.id ∧
    o.log = loginStatements e.request email account ++ p.statements ∧
    setCookies o.response = ["access_token=" ++ p.access ++ "; HttpOnly; SameSite=Lax" ++
      (if c.secureCookies then "; Secure" else "") ++ "; Path=/" ++
      (if form.remember then "; Max-Age=" ++ Decimal.ofInt (c.accessTokenMinutes * 60) else "")]

/-- A pair that is handed out for a refresh token: to the account whose token was taken out
of store. -/
def Renewed (e : Event) (o : Outcome) (p : StoredPair) : Prop :=
  ∃ token, presentedToken? e.request = some token ∧
    e.replies.head?.map (Handler.readFirst (Row.single Cell.toUuid?)) =
      some (.ok (some p.account)) ∧
    o.log = .consumeRefreshToken token :: p.statements ∧ setCookies o.response = []

/-- A pair that is stored in an event and told of in the response. -/
structure Issued (c : Config) (e : Event) (o : Outcome) (p : StoredPair) : Prop where
  told : handedOut? o.response = some (p.access, p.refresh)
  drawn : p.access = e.fresh.accessToken.text ∧ p.refresh = e.fresh.refreshToken.text
  bound : p.statements.map (fun s => (s.sql, s.args)) = p.sent
  owner : p.owner = p.account
  lifetimes : p.minutes = c.accessTokenMinutes ∧ p.days = c.refreshTokenDays
  bought : LoggedIn c e o p ∨ Renewed e o p

/-- An event in which nothing is committed and no token is told of: the response sets no
cookie, and stays the same whatever pair is drawn. -/
structure Withheld (c : Config) (limiter : LoginLimiter) (e : Event) (o : Outcome) : Prop where
  uncommitted : .commitTransaction ∉ o.log
  withholds : Withholds o.response
  blind : ∀ p, (handle c limiter (e.drawing p)).1.response = o.response

theorem issued_of_granted {c : Config} {e : Event} {o : Outcome} {before : List Statement}
    {g : Grant} (hg : Granted c e before g)
    (hresponse : o.response = { g.response e.drawn with
      headers := commonHeaders (c.context e) ++ (g.response e.drawn).headers })
    (hlog : o.log = before ++ (g.stored (c.context e) e.drawn).statements) :
    Issued c e o (g.stored (c.context e) e.drawn) where
  told := by
    rw [hresponse]
    exact g.tells e.drawn
  drawn := ⟨rfl, rfl⟩
  bound := StoredPair.sent_eq _
  owner := rfl
  lifetimes := ⟨rfl, rfl⟩
  bought := by
    have hcookies : setCookies o.response = setCookies (g.response e.drawn) := by
      rw [hresponse, setCookies_withCommonHeaders]
    rcases hg with ⟨form, email, account, hform, hemail, hreply, hbarred, hpassword, rfl, rfl⟩ |
      ⟨token, account, htoken, hreply, rfl, rfl⟩
    · exact Or.inl ⟨form, email, account, hform, hemail, hreply, hbarred, hpassword, rfl, hlog,
        hcookies.trans (congrArg (fun cookie => [cookie]) (set_cookieName _ _ _ _))⟩
    · exact Or.inr ⟨token, htoken, hreply, hlog, hcookies⟩

/-- A request for tokens hands out the pair that it has committed, or commits nothing and
tells of no pair. -/
theorem issued_or_withheld (c : Config) (limiter : LoginLimiter) {e : Event}
    (h : AsksForTokens e.request) :
    let o := (handle c limiter e).1
    (o.response.status = 200 ∧ ∃ p : StoredPair, p.statements <:+ o.log ∧ Issued c e o p) ∨
      Withheld c limiter e o := by
  intro o
  obtain ⟨hs, hsettles, hhandle⟩ := settles_handle c limiter h
  have ho : o = _ := hhandle e.drawn
  cases hsettles with
  | @withheld response hresponse hrun hlog =>
    have hsame (p : TokenPair) : (handle c limiter (e.drawing p)).1.response =
        { response with headers := commonHeaders (c.context e) ++ response.headers } := by
      rw [hhandle p, ← hrun p]
    obtain ⟨sent, hsent, hcommit⟩ := hlog e.drawn
    refine Or.inr ⟨?_, ?_, fun p => (hsame p).trans (hsame e.drawn).symm⟩
    · have hlog : o.log = sent := by
        rw [ho]
        exact hsent
      rwa [hlog]
    · have hcookies := setCookies_withCommonHeaders (c.context e) response
      rw [show o.response = _ from hsame e.drawn]
      exact ⟨hresponse.1, hcookies.trans hresponse.2⟩
  | @granted before g hbefore hgrant hrun hlog =>
    have hresponse : o.response = { g.response e.drawn with
        headers := commonHeaders (c.context e) ++ (g.response e.drawn).headers } := by
      rw [ho, ← hrun e.drawn]
    have hlog : o.log = before ++ (g.stored (c.context e) e.drawn).statements := by
      rw [ho]
      exact hlog e.drawn
    refine Or.inl ⟨?_, _, ⟨before, hlog.symm⟩, issued_of_granted hgrant hresponse hlog⟩
    rw [hresponse]
    exact g.status e.drawn

theorem Withheld.no_suffix {c : Config} {limiter : LoginLimiter} {e : Event} {o : Outcome}
    (h : Withheld c limiter e o) (p : StoredPair) : ¬ p.statements <:+ o.log :=
  fun hp => h.uncommitted (hp.subset p.commit_mem)

/-- A login or a request for a new pair hands out a pair exactly if its log ends with the
transaction that stores one. It is then the stored pair that is handed out, and otherwise
nothing is committed and the response says nothing of any pair. A transaction is opened and
committed without a reply (`Handler.send`): of a commit that fails nothing is said. -/
theorem handed_out_iff_stored (c : Config) (limiter : LoginLimiter) (e : Event)
    (h : AsksForTokens e.request) :
    let o := (handle c limiter e).1
    (o.response.status = 200 ∧ (handedOut? o.response).isSome = true ↔
      ∃ p : StoredPair, p.statements <:+ o.log) ∧
    (∀ p : StoredPair, p.statements <:+ o.log → Issued c e o p) ∧
    ((∀ p : StoredPair, ¬ p.statements <:+ o.log) → Withheld c limiter e o) := by
  intro o
  rcases issued_or_withheld c limiter h with ⟨hstatus, p, hp, hissued⟩ | hwithheld
  · refine ⟨⟨fun _ => ⟨p, hp⟩, fun _ => ⟨hstatus, ?_⟩⟩, ?_, fun hnone => absurd hp (hnone p)⟩
    · rw [hissued.told]
      rfl
    · intro q hq
      rw [← StoredPair.eq_of_suffix hp hq]
      exact hissued
  · refine ⟨⟨?_, ?_⟩, ?_, fun _ => hwithheld⟩
    · rintro ⟨-, hsome⟩
      rw [hwithheld.withholds.1] at hsome
      cases hsome
    · rintro ⟨p, hp⟩
      exact absurd hp (hwithheld.no_suffix p)
    · intro p hp
      exact absurd hp (hwithheld.no_suffix p)

/-- A login that is to be remembered, of an account whose password is stored without salt. -/
def rememberedLogin : Event where
  request := {
    method := "POST"
    target := "/console/api/login"
    headers := [("content-type", Utf8.ofString "application/json")]
    body := Utf8.ofString
      "\x7b\"email\":\"ann@example.org\",\"password\":\"p\",\"remember_me\":true\x7d" }
  now := 0
  fresh := ⟨default, ⟨.replicate 32 1⟩, ⟨.replicate 32 2⟩, default⟩
  replies := [
    .rows [[.text "00000000000040008000000000000001",
      .text "148de9c5a7a44d19e56cd9ae1a554bf67847afb0c58f6e12fa29ac7ddfca9940", .text "",
      .text "active"]],
    .rows [[.int 1]], .affected 1, .affected 1, .affected 1]

def rememberedPair : StoredPair where
  access := rememberedLogin.fresh.accessToken.text
  account := .random 1
  address := none
  minutes := 60
  refresh := rememberedLogin.fresh.refreshToken.text
  owner := .random 1
  days := 30

theorem handed_out_at_rememberedLogin :
    let c : Config := ⟨"key", 60, 30, 5, 900, true⟩
    let o := (handle c c.limiter rememberedLogin).1
    AsksForTokens rememberedLogin.request ∧ rememberedPair.statements <:+ o.log ∧
      Issued c rememberedLogin o rememberedPair := by
  intro c o
  have hasks : AsksForTokens rememberedLogin.request := by
    unfold AsksForTokens
    decide +kernel
  have hstored : rememberedPair.statements <:+ o.log := by decide +kernel
  exact ⟨hasks, hstored,
    (handed_out_iff_stored c c.limiter rememberedLogin hasks).2.1 rememberedPair hstored⟩

end Parley.Service
