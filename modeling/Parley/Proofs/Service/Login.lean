import Parley.Proofs.Service.Run

/-!
# Logins

A login that was let pass by the limiter ends in one of three ways. If the account is not
barred and has the password, and has joined a tenant, its address is cleared, whatever
the database says to the rest. If only the password is wrong a failure is recorded. In
every other case the limiter is left alone.

* `login_of_form`: behind the reading of its form a login is a check and an attempt.
* `Completes`: what comes behind the clearing fails for the database only.
* `ended_attempt`: which of the ways an attempt takes, read off the replies.
-/
namespace Parley.Service

open Http (Method Request Response Route)
open Store (Cell Reply Row Statement)
open Handler (Ensures exec)

/-! ## Reading a login -/

/-- The form of a login, if the request is a login whose body can be read. -/
def loginForm? (r : Request) : Option LoginForm :=
  if Route.ofPath? r.path = some .login ∧ Method.ofName r.method = .post ∧ saysJson r = true then
    (LoginForm.record.readText r.body).toOption
  else none

def loginEmail? (r : Request) : Option String :=
  (loginForm? r).bind fun form => Email.normalize? form.email

/-- What is left of a login once the limiter has let it pass. -/
def attempt (ctx : Context) (r : Request) (form : LoginForm) (email : String) :
    Handler Response := do
  let account ← authenticate ctx email form.password
  let tenants ← Handler.one (.tenantCount account.id) (Row.single Cell.toInt?)
  if tenants = 0 then
    Handler.fail (.badRequest "workspace_not_found" "Workspace not found.")
  Handler.modifyLimiter (·.reset email)
  let address := r.clientAddress?
  Handler.execute (.recordLogin account.id address)
  let pair ← issueTokens ctx account.id address
  return sessionResponse ctx pair.access.text (rememberedSeconds ctx form) (some pair.toJson)

theorem login_eq (ctx : Context) (r : Request) :
    login ctx r = body LoginForm.record r >>= fun form =>
      Handler.orFail (.badRequest "invalid_email" "Invalid email address.")
        (Email.normalize? form.email) >>= fun email =>
      Handler.checkLimiter ctx.now email >>= fun _ => attempt ctx r form email := rfl

theorem loginForm?_eq_some {r : Request} {form : LoginForm} (h : loginForm? r = some form) :
    Route.ofPath? r.path = some .login ∧ Method.ofName r.method = .post ∧
      saysJson r = true ∧ LoginForm.record.readText r.body = .ok form := by
  unfold loginForm? at h
  split at h
  · rename_i hlogin
    obtain ⟨hroute, hmethod, hjson⟩ := hlogin
    cases hread : LoginForm.record.readText r.body with
    | error fault => rw [hread] at h; cases h
    | ok form' =>
      rw [hread] at h
      cases h
      exact ⟨hroute, hmethod, hjson, rfl⟩
  · cases h

theorem loginEmail?_eq_some {r : Request} {email : String} (h : loginEmail? r = some email) :
    ∃ form, loginForm? r = some form ∧ Email.normalize? form.email = some email :=
  Option.bind_eq_some_iff.mp h

theorem login_of_form {ctx : Context} {r : Request} {form : LoginForm} {email : String}
    (hform : loginForm? r = some form) (hemail : Email.normalize? form.email = some email) :
    login ctx r = Handler.checkLimiter ctx.now email >>= fun _ => attempt ctx r form email := by
  obtain ⟨-, -, hjson, hread⟩ := loginForm?_eq_some hform
  rw [login_eq, body_of_readText hjson hread, pure_bind, hemail]
  rfl

/-- A login that cannot be read or has no address fails before the limiter. -/
theorem steady_login {ctx : Context} {r : Request} (hroute : Route.ofPath? r.path = some .login)
    (hmethod : Method.ofName r.method = .post) (h : loginEmail? r = none) :
    Ensures (login ctx r) fun _ _ _ => True := by
  rw [login_eq]
  rcases body_cases LoginForm.record r with ⟨form, hjson, hread, hbody⟩ | ⟨_, hbody⟩
  · have hnone : Email.normalize? form.email = none := by
      simpa [loginEmail?, loginForm?, hroute, hmethod, hjson, hread, Except.toOption] using h
    rw [hbody, pure_bind, hnone]
    exact Handler.ensures_throw trivial
  · rw [hbody]
    exact Handler.ensures_throw trivial

/-! ## The limiter -/

theorem exec_checkLimiter (now : Int) (email : String) (x : Exchange) :
    exec (Handler.checkLimiter now email) x =
      exec (match (x.limiter.check now email).1 with
        | .ok () => pure ()
        | .error e => Handler.fail (.ofLoginRefused e))
        { x with limiter := (x.limiter.check now email).2 } := rfl

theorem exec_checkLimiter_ok {now : Int} {email : String} {x : Exchange}
    (h : (x.limiter.check now email).1 = .ok ()) : exec (Handler.checkLimiter now email) x =
      (.ok (), { x with limiter := (x.limiter.check now email).2 }) := by
  rw [exec_checkLimiter, h]
  rfl

theorem exec_checkLimiter_error {now : Int} {email : String} {x : Exchange} {e : LoginRefused}
    (h : (x.limiter.check now email).1 = .error e) : exec (Handler.checkLimiter now email) x =
      (.error (.api (.ofLoginRefused e)),
        { x with limiter := (x.limiter.check now email).2 }) := by
  rw [exec_checkLimiter, h]
  rfl

/-! ## Signing in -/

/-- A handler that ends with a value of which `P` holds, or fails for the database. -/
def Completes {α : Type} (h : Handler α) (P : α → Prop) : Prop :=
  Ensures h fun _ _ result => match result with
    | .ok a => P a
    | .error e => e = .database

theorem completes_bind {α β : Type} {h : Handler α} {f : α → Handler β} {P : α → Prop}
    {R : β → Prop} (hh : Completes h P) (hf : ∀ a, P a → Completes (f a) R) :
    Completes (h >>= f) R := by
  refine Handler.ensures_bind (Handler.ensures_mono hh fun s u result hresult => ?_)
  cases result with
  | error e => exact hresult
  | ok a => exact hf a hresult

theorem completes_execute (s : Statement) : Completes (Handler.execute s) fun _ => True := by
  cases hs : s.isTransactional with
  | false =>
    refine Handler.ensures_of_asks (Handler.asks_execute hs) rfl fun reply => ?_
    cases reply
    · exact trivial
    · exact trivial
    · rfl
  | true =>
    intro x
    rw [Handler.exec_execute_of_isTransactional hs]
    exact ⟨[s], [], ⟨rfl, rfl, rfl⟩, trivial⟩

theorem completes_issueTokens (ctx : Context) (account : Uuid) (address : Option String) :
    Completes (issueTokens ctx account address) fun _ => True := by
  refine completes_bind (completes_execute _) fun _ _ => ?_
  refine completes_bind (completes_execute _) fun _ _ => ?_
  refine completes_bind (completes_execute _) fun _ _ => ?_
  refine completes_bind (completes_execute _) fun _ _ => ?_
  exact Handler.ensures_pure trivial

/-- What is left of a login once the limiter has forgotten the failures of its address. -/
def signIn (ctx : Context) (r : Request) (form : LoginForm) (account : Account) :
    Handler Response := do
  Handler.execute (.recordLogin account.id r.clientAddress?)
  let pair ← issueTokens ctx account.id r.clientAddress?
  return sessionResponse ctx pair.access.text (rememberedSeconds ctx form) (some pair.toJson)

theorem completes_signIn (ctx : Context) (r : Request) (form : LoginForm) (account : Account) :
    Completes (signIn ctx r form account) fun response => response.status = 200 := by
  refine completes_bind (completes_execute _) fun _ _ => ?_
  refine completes_bind (completes_issueTokens _ _ _) fun pair _ => ?_
  exact Handler.ensures_pure rfl

/-- What is left of a login once the tenants of its account were counted. -/
def enter (ctx : Context) (r : Request) (form : LoginForm) (email : String) (account : Account)
    (tenants : Int) : Handler Response :=
  if tenants = 0 then Handler.fail (.badRequest "workspace_not_found" "Workspace not found.")
  else Handler.modifyLimiter (·.reset email) >>= fun _ => signIn ctx r form account

/-- What is left of a login once its account was found. -/
def proceed (ctx : Context) (r : Request) (form : LoginForm) (email : String) (account : Account) :
    Handler Response :=
  if account.isBarred then Handler.fail AccountError.barred.api
  else if account.hasPassword form.password then
    Handler.one (.tenantCount account.id) (Row.single Cell.toInt?) >>=
      enter ctx r form email account
  else Handler.modifyLimiter (·.recordFailure ctx.now email) >>= fun _ =>
    Handler.fail AccountError.passwordMismatch.api

theorem attempt_eq (ctx : Context) (r : Request) (form : LoginForm) (email : String) :
    attempt ctx r form email =
      (Handler.first? (.accountByEmail email) Row.account? >>=
        Handler.orFail AccountError.notFound.api) >>= proceed ctx r form email := by
  simp only [attempt, authenticate, bind_assoc]
  congr 1
  funext found
  congr 1
  funext account
  unfold proceed enter signIn
  cases account.isBarred with
  | true => rfl
  | false =>
    cases account.hasPassword form.password with
    | false => rfl
    | true =>
      simp only [Bool.false_eq_true, if_false, if_true, Bool.not_true, pure_bind]
      rfl

/-! ## Responses and replies -/

def code? (r : Response) : Option String :=
  match r.body with
  | .json (.obj (("code", .str code) :: _)) => some code
  | _ => none

/-- Whether a response has a status and tells a code. -/
def tells (r : Response) (status : Nat) (code : String) : Bool :=
  r.status == status && code? r == some code

/-- Whether the next reply is a number of tenants that is not zero. -/
def countsTenants : List Reply → Bool
  | [] => false
  | reply :: _ =>
    match Handler.readOne (Row.single Cell.toInt?) reply with
    | .ok n => decide (n ≠ 0)
    | .error _ => false

/-- Whether the replies to a login are an account that is not barred and has the password,
and a number of tenants that is not zero. -/
def passes (form : LoginForm) : List Reply → Bool
  | [] => false
  | reply :: rest =>
    match Handler.readFirst Row.account? reply with
    | .ok (some account) =>
      !account.isBarred && account.hasPassword form.password && countsTenants rest
    | _ => false

theorem tells_status {response : Response} {status : Nat} {code : String}
    (h : tells response status code = true) : response.status = status := by
  unfold tells at h
  rw [Bool.and_eq_true, beq_iff_eq] at h
  exact h.1

theorem tells_of_status_ne {response : Response} {status : Nat} (h : response.status ≠ status)
    (code : String) : tells response status code = false := by
  cases htells : tells response status code with
  | false => rfl
  | true => exact absurd (tells_status htells) h

/-! ## How a login ends -/

/-- A response that is neither that to a wrong password nor a refusal. -/
def Neutral (response : Response) : Prop :=
  response.status ≠ 401 ∧ response.status ≠ 429

/-- How a login ends that the limiter has let pass: it clears its address, fails for its
password, or ends in another way. -/
inductive Ended (now : Int) (email : String) (l : LoginLimiter) (accepted : Bool) :
    Response × LoginLimiter → Prop
  | cleared {response : Response} (haccepted : accepted = true) (hresponse : Neutral response) :
      Ended now email l accepted (response, l.reset email)
  | failed {response : Response} (haccepted : accepted = false)
      (hresponse : tells response 401 "email_or_password_mismatch" = true) :
      Ended now email l accepted (response, l.recordFailure now email)
  | other {response : Response} (haccepted : accepted = false) (hresponse : Neutral response) :
      Ended now email l accepted (response, l)

/-- The response of an endpoint and the limiter that it leaves. -/
def finish (h : Handler Response) (x : Exchange) : Response × LoginLimiter :=
  ((run h x).1, (run h x).2.limiter)

theorem finish_ok {h : Handler Response} {x x' : Exchange} {response : Response}
    (hexec : exec h x = (.ok response, x')) : finish h x = (response, x'.limiter) := by
  rw [finish, run_fst, run_snd, hexec]

theorem finish_error {h : Handler Response} {x x' : Exchange} {e : Failure}
    (hexec : exec h x = (.error e, x')) : finish h x = (e.response, x'.limiter) := by
  rw [finish, run_fst, run_snd, hexec]

theorem finish_bind_ok {α : Type} {h : Handler α} {f : α → Handler Response} {a : α}
    {x x' : Exchange} (hexec : exec h x = (.ok a, x')) : finish (h >>= f) x = finish (f a) x' := by
  simp only [finish, run_fst, run_snd, Handler.exec_bind_ok hexec]

theorem finish_fail (e : ApiError) (x : Exchange) :
    finish (Handler.fail e) x = (e.response, x.limiter) := rfl

theorem finish_modifyLimiter (f : LoginLimiter → LoginLimiter) (h : Handler Response)
    (x : Exchange) : finish (Handler.modifyLimiter f >>= fun _ => h) x =
      finish h { x with limiter := f x.limiter } := rfl

theorem neutral_database : Neutral Failure.database.response :=
  ⟨by decide, by decide⟩

theorem neutral_signIn (ctx : Context) (r : Request) (form : LoginForm) (account : Account)
    (x : Exchange) : ∃ response, Neutral response ∧
      finish (signIn ctx r form account) x = (response, x.limiter) := by
  obtain ⟨sent, used, hleads, hresult⟩ := completes_signIn ctx r form account x
  rcases hexec : exec (signIn ctx r form account) x with ⟨e | response, x'⟩
  · rw [hexec] at hleads hresult
    obtain rfl : e = .database := hresult
    exact ⟨_, neutral_database, by rw [finish_error hexec, hleads.limiter]⟩
  · rw [hexec] at hleads hresult
    have hstatus : response.status = 200 := hresult
    exact ⟨response, by simp [Neutral, hstatus], by rw [finish_ok hexec, hleads.limiter]⟩

/-- The address is cleared by the number of tenants, before anything is written. -/
theorem ended_count (ctx : Context) (r : Request) (form : LoginForm) (email : String)
    (account : Account) (x : Exchange) :
    Ended ctx.now email x.limiter (countsTenants x.replies)
      (finish (Handler.one (.tenantCount account.id) (Row.single Cell.toInt?) >>=
        enter ctx r form email account) x) := by
  have hasks := Handler.asks_one (s := .tenantCount account.id) rfl (Row.single Cell.toInt?)
  rcases hr : x.replies with _ | ⟨reply, rest⟩
  · rw [finish_error (Handler.exec_bind_error (hasks.nil x hr))]
    exact .other rfl neutral_database
  have hcons := hasks.cons x reply rest hr
  cases hread : Handler.readOne (Row.single Cell.toInt?) reply with
  | error e =>
    rw [hread] at hcons
    have hcounts : countsTenants (reply :: rest) = false := by
      simp only [countsTenants, hread]
    rw [finish_error (Handler.exec_bind_error hcons), Handler.readOne_error hread, hcounts]
    exact .other rfl neutral_database
  | ok n =>
    rw [hread] at hcons
    have hcounts : countsTenants (reply :: rest) = decide (n ≠ 0) := by
      simp only [countsTenants, hread]
    rw [finish_bind_ok hcons, hcounts]
    by_cases hn : n = 0
    · rw [enter, if_pos hn, finish_fail]
      exact .other (by simpa using hn) ⟨by decide, by decide⟩
    · rw [enter, if_neg hn, finish_modifyLimiter]
      obtain ⟨response, hresponse, hfinish⟩ := neutral_signIn ctx r form account
        ⟨x.limiter.reset email, rest, x.log ++ [.tenantCount account.id]⟩
      rw [hfinish]
      exact .cleared (by simpa using hn) hresponse

theorem ended_proceed (ctx : Context) (r : Request) (form : LoginForm) (email : String)
    (account : Account) (x : Exchange) :
    Ended ctx.now email x.limiter
      (!account.isBarred && account.hasPassword form.password && countsTenants x.replies)
      (finish (proceed ctx r form email account) x) := by
  unfold proceed
  cases account.isBarred with
  | true =>
    rw [if_pos rfl, finish_fail]
    exact .other rfl ⟨by decide, by decide⟩
  | false =>
    rw [if_neg Bool.false_ne_true]
    cases account.hasPassword form.password with
    | false =>
      rw [if_neg Bool.false_ne_true, finish_modifyLimiter, finish_fail]
      exact .failed rfl (by decide)
    | true => exact ended_count ctx r form email account x

theorem ended_attempt (ctx : Context) (r : Request) (form : LoginForm) (email : String)
    (x : Exchange) :
    Ended ctx.now email x.limiter (passes form x.replies)
      (finish (attempt ctx r form email) x) := by
  have hasks := Handler.asks_required (s := .accountByEmail email) rfl
    AccountError.notFound.api Row.account?
  rw [attempt_eq]
  rcases hr : x.replies with _ | ⟨reply, rest⟩
  · rw [finish_error (Handler.exec_bind_error (hasks.nil x hr))]
    exact .other rfl neutral_database
  have hcons := hasks.cons x reply rest hr
  unfold Handler.readRequired at hcons
  cases hread : Handler.readFirst Row.account? reply with
  | error e =>
    have hpasses : passes form (reply :: rest) = false := by simp only [passes, hread]
    simp only [hread] at hcons
    rw [finish_error (Handler.exec_bind_error hcons), Handler.readFirst_error hread, hpasses]
    exact .other rfl neutral_database
  | ok found =>
    cases found with
    | none =>
      have hpasses : passes form (reply :: rest) = false := by simp only [passes, hread]
      simp only [hread] at hcons
      rw [finish_error (Handler.exec_bind_error hcons), hpasses]
      exact .other rfl ⟨by decide, by decide⟩
    | some account =>
      have hpasses : passes form (reply :: rest) =
          (!account.isBarred && account.hasPassword form.password && countsTenants rest) := by
        simp only [passes, hread]
      simp only [hread] at hcons
      rw [finish_bind_ok hcons, hpasses]
      exact ended_proceed ctx r form email account
        ⟨x.limiter, rest, x.log ++ [.accountByEmail email]⟩

theorem Ended.withHeaders {now : Int} {email : String} {l l' : LoginLimiter} {accepted : Bool}
    {response : Response} (h : Ended now email l accepted (response, l'))
    (headers : List (String × String)) :
    Ended now email l accepted ({ response with headers := headers }, l') := by
  cases h with
  | cleared haccepted hresponse => exact .cleared haccepted hresponse
  | failed haccepted hresponse => exact .failed haccepted hresponse
  | other haccepted hresponse => exact .other haccepted hresponse

theorem Ended.status_ne {now : Int} {email : String} {l l' : LoginLimiter} {accepted : Bool}
    {response : Response} (h : Ended now email l accepted (response, l')) :
    response.status ≠ 429 := by
  cases h with
  | cleared _ hresponse => exact hresponse.2
  | failed _ hresponse =>
    rw [tells_status hresponse]
    decide
  | other _ hresponse => exact hresponse.2

end Parley.Service
