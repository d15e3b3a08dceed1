import Parley.Proofs.Account.Password
import Parley.Proofs.Service.Listing
import Parley.Proofs.Service.TokenPair

/-!
# What decides a login

A login has six conditions to meet, and the first that it does not meet is its answer. They
depend on the form, on the limiter, and on the first rows of two replies. Until all of them are
met nothing is sent but the questions that they need, so a refusal leaves nothing behind in the
database; and an account that is barred is told so before its password is looked at.

* `LoginCondition`, `LoginFacts`: the conditions in their order, and what they depend on.
* `EndsIn`: how a handler ends unless it fails for the database, with a rule for each kind of
  step that it may begin with.
* `endsIn_login_of_decides`, `endsIn_login_of_meets`: how a login ends that does not meet all
  conditions, and one that does.
* `login_decided_by_first_unmet`: the answer and the statements of every login.
-/
namespace Parley.Service

open Http (Request Response)
open Store (Arg Cell Reply Row Statement)
open Handler (Asks exec)

/-! ## The conditions -/

/-- What a login has to meet. -/
inductive LoginCondition where
  /-- The address has a normal form. -/
  | address
  /-- The limiter lets the address pass. -/
  | limit
  /-- There is an account with the address. -/
  | account
  /-- The account is neither banned nor closed. -/
  | standing
  /-- The text stored for the account is that of the password. -/
  | password
  /-- The account has joined a tenant. -/
  | tenant
  deriving DecidableEq, Repr

namespace LoginCondition

def all : List LoginCondition := [address, limit, account, standing, password, tenant]

theorem mem_all (k : LoginCondition) : k ∈ all := by
  cases k <;> decide

/-- The conditions that are looked at before this one. -/
def before (k : LoginCondition) : List LoginCondition :=
  all.takeWhile fun j => decide (j ≠ k)

theorem before_of_address {k : LoginCondition} : k = address ∨ address ∈ k.before := by
  cases k <;> decide

theorem before_of_limit {k : LoginCondition} (h : address ∈ k.before) :
    k = limit ∨ limit ∈ k.before := by
  revert h
  cases k <;> decide

theorem before_of_account {k : LoginCondition} (h : limit ∈ k.before) :
    k = account ∨ account ∈ k.before := by
  revert h
  cases k <;> decide

/-- What a client is told whose login does not meet the condition. -/
def error (limiter : LoginLimiter) : LoginCondition → ApiError
  | address => ⟨400, "invalid_email", "Invalid email address."⟩
  | limit => ⟨429, "login_limit", "too many failed logins (max " ++ Decimal.ofNat limiter.limit ++
      " per " ++ Decimal.ofNat (limiter.window / 1000) ++ "s)"⟩
  | account => ⟨400, "account_not_found", "account not found"⟩
  | standing => ⟨403, "account_banned", "account is banned or closed"⟩
  | password => ⟨401, "email_or_password_mismatch", "email or password mismatch"⟩
  | tenant => ⟨400, "workspace_not_found", "Workspace not found."⟩

theorem error_limit (limiter : LoginLimiter) :
    limit.error limiter = .ofLoginRefused limiter.refusal := by
  unfold error ApiError.ofLoginRefused LoginRefused.message LoginLimiter.refusal
  dsimp only

end LoginCondition

/-- The first row of a reply, if there is one that can be read. -/
def firstRow? {α : Type} (read : Row → Option α) : Option Reply → Option α
  | some (.rows (row :: _)) => read row
  | _ => none

/-- What the conditions of a login depend on. -/
structure LoginFacts where
  /-- The normal form of the address. -/
  email? : Option String
  password : String
  refused : Bool
  account? : Option Account
  tenants? : Option Int

def loginFacts (limiter : LoginLimiter) (e : Event) (form : LoginForm) : LoginFacts where
  email? := Email.normalize? form.email
  password := form.password
  refused := (Email.normalize? form.email).any fun email => !(limiter.check e.now email).1.isOk
  account? := firstRow? Row.account? e.replies.head?
  tenants? := firstRow? (Row.single Cell.toInt?) e.replies.tail.head?

namespace LoginFacts

variable (f : LoginFacts)

def Meets : LoginCondition → Prop
  | .address => f.email? ≠ none
  | .limit => f.refused = false
  | .account => f.account? ≠ none
  | .standing => ∀ a ∈ f.account?, a.status ≠ "banned" ∧ a.status ≠ "closed"
  | .password => ∀ a ∈ f.account?, ∃ text ∈ a.password, ∃ salt ∈ a.salt,
      text = String.ofList (Hex.encode
        (Sha256.hash (Utf8.ofString salt ++ Utf8.ofString f.password)))
  | .tenant => f.tenants? ≠ some 0

instance decidableMeets : DecidablePred f.Meets
  | .address => inferInstanceAs (Decidable (f.email? ≠ none))
  | .limit => inferInstanceAs (Decidable (f.refused = false))
  | .account => inferInstanceAs (Decidable (f.account? ≠ none))
  | .standing => inferInstanceAs (Decidable (∀ a ∈ f.account?, _))
  | .password => inferInstanceAs (Decidable (∀ a ∈ f.account?, _))
  | .tenant => inferInstanceAs (Decidable (f.tenants? ≠ some 0))

/-- The condition is the first that is not met. -/
structure Decides (k : LoginCondition) : Prop where
  unmet : ¬ f.Meets k
  before : ∀ j ∈ k.before, f.Meets j

/-- If not all conditions are met, one of them is the first that is not. -/
theorem all_met_or_decided : (∀ k, f.Meets k) ∨ ∃ k, f.Decides k := by
  cases hfind : LoginCondition.all.find? fun k => decide (¬ f.Meets k) with
  | none =>
    left
    intro k
    simpa using List.find?_eq_none.mp hfind k k.mem_all
  | some k =>
    obtain ⟨hk, as, bs, hall, has⟩ := List.find?_eq_some_iff_append.mp hfind
    have hunmet : ¬ f.Meets k := by simpa using hk
    have hmet : ∀ j ∈ as, f.Meets j := by simpa using has
    have hne : ∀ j ∈ as, decide (j ≠ k) = true := by
      intro j hj
      rw [decide_eq_true_eq]
      rintro rfl
      exact hunmet (hmet j hj)
    refine .inr ⟨k, hunmet, ?_⟩
    rwa [LoginCondition.before, hall, List.takeWhile_append_of_pos hne,
      List.takeWhile_cons_of_neg (by simp), List.append_nil]

variable {f}

theorem meets_standing_iff {a : Account} (ha : f.account? = some a) :
    f.Meets .standing ↔ a.isBarred = false := by
  simp [Meets, ha, Account.isBarred]

theorem meets_password_iff {a : Account} (ha : f.account? = some a) :
    f.Meets .password ↔ a.hasPassword f.password = true := by
  simp only [Meets, ha, Option.mem_some_iff, forall_eq', Account.hasPassword_iff]
  constructor
  · rintro ⟨text, htext, salt, hsalt, heq⟩
    exact ⟨text, salt, htext, hsalt, heq⟩
  · rintro ⟨text, salt, htext, hsalt, heq⟩
    exact ⟨text, htext, salt, hsalt, heq⟩

variable (f)

/-- The question for the account, as it is sent. -/
def lookup : List (String × List Arg) :=
  f.email?.toList.map fun email =>
    ("SELECT id, password, password_salt, status FROM accounts WHERE email = $1", [.text email])

/-- The question for the tenants of the account, as it is sent. -/
def count : List (String × List Arg) :=
  f.account?.toList.map fun a =>
    ("SELECT COUNT(*) FROM tenant_account_joins WHERE account_id = $1", [.uuid a.id])

/-- What is sent where a condition is the first that is not met. -/
def asked : LoginCondition → List (String × List Arg)
  | .address | .limit => []
  | .account | .standing | .password => f.lookup
  | .tenant => f.lookup ++ f.count

end LoginFacts

/-! ## How a handler ends -/

/-- Unless it fails for the database, a handler ends with this result, and has sent these
statements. -/
def EndsIn {α : Type} (h : Handler α) (x : Exchange) (sent : List Statement)
    (result : Except Failure α) : Prop :=
  (exec h x).1 = .error .database ∨ (exec h x).1 = result ∧ (exec h x).2.log = x.log ++ sent

section

variable {α β : Type} {x : Exchange} {sent : List Statement} {result : Except Failure β}

theorem endsIn_fail (e : ApiError) (x : Exchange) :
    EndsIn (Handler.fail e : Handler α) x [] (.error (.api e)) :=
  .inr ⟨rfl, (List.append_nil _).symm⟩

theorem endsIn_quiet_bind {h : Handler α} {k : α → Handler β} {a : α} {x' : Exchange}
    (hh : exec h x = (.ok a, x')) (hlog : x'.log = x.log) (hk : EndsIn (k a) x' sent result) :
    EndsIn (h >>= k) x sent result := by
  unfold EndsIn at *
  rwa [Handler.exec_bind_ok hh, ← hlog]

theorem endsIn_quiet_bind_error {h : Handler α} {k : α → Handler β} {e : Failure} {x' : Exchange}
    (hh : exec h x = (.error e, x')) (hlog : x'.log = x.log) :
    EndsIn (h >>= k) x [] (.error e) := by
  unfold EndsIn
  rw [Handler.exec_bind_error hh, List.append_nil]
  exact .inr ⟨rfl, hlog⟩

theorem endsIn_asks_bind {h : Handler α} {k : α → Handler β} {s : Statement}
    {read : Reply → Except Failure α} (hh : Asks h s read)
    (hk : ∀ reply rest, x.replies = reply :: rest → match read reply with
      | .error e => e = .database ∨ sent = [] ∧ result = .error e
      | .ok a => EndsIn (k a) { x with log := x.log ++ [s], replies := rest } sent result) :
    EndsIn (h >>= k) x (s :: sent) result := by
  unfold EndsIn
  rcases hx : x.replies with _ | ⟨reply, rest⟩
  · exact .inl (congrArg Prod.fst (Handler.exec_bind_error (hh.nil x hx)))
  · have hcons := hh.cons x reply rest hx
    have hreply := hk reply rest hx
    cases hread : read reply with
    | error e =>
      rw [hread] at hcons hreply
      rw [Handler.exec_bind_error hcons]
      rcases hreply with rfl | ⟨rfl, rfl⟩
      · exact .inl rfl
      · exact .inr ⟨rfl, rfl⟩
    | ok a =>
      rw [hread] at hcons hreply
      rw [Handler.exec_bind_ok hcons]
      simpa [EndsIn] using hreply

theorem firstRow?_of_readFirst {read : Row → Option α} {reply : Reply} {found : Option α}
    (h : Handler.readFirst read reply = .ok found) : firstRow? read (some reply) = found := by
  unfold Handler.readFirst at h
  split at h
  · cases h
  · exact Except.ok.inj h
  · exact Except.ok.inj h
  · rename_i row rows
    cases hrow : read row with
    | none => simp [hrow] at h
    | some a => simpa [firstRow?, hrow] using h

theorem firstRow?_of_readOne {read : Row → Option α} {reply : Reply} {a : α}
    (h : Handler.readOne read reply = .ok a) : firstRow? read (some reply) = some a := by
  unfold Handler.readOne at h
  split at h
  · rename_i hfirst
    rw [firstRow?_of_readFirst hfirst, Except.ok.inj h]
  · cases h
  · cases h

/-- A question comes first to which a row has to come. -/
theorem endsIn_one_bind {s : Statement} (hs : s.isTransactional = false)
    {read : Row → Option α} {k : α → Handler β}
    (hk : ∀ a, firstRow? read x.replies.head? = some a →
      EndsIn (k a) { x with log := x.log ++ [s], replies := x.replies.tail } sent result) :
    EndsIn (Handler.one s read >>= k) x (s :: sent) result := by
  refine endsIn_asks_bind (Handler.asks_one hs read) fun reply rest hx => ?_
  rw [hx] at hk
  cases hread : Handler.readOne read reply with
  | error e => exact .inl (Handler.readOne_error hread)
  | ok a => exact hk a (firstRow?_of_readOne hread)

/-- A question comes first that is answered with an error if no row comes. -/
theorem endsIn_required_bind {s : Statement} (hs : s.isTransactional = false)
    {read : Row → Option α} {k : α → Handler β} {e : ApiError}
    (hnone : firstRow? read x.replies.head? = none → sent = [] ∧ result = .error (.api e))
    (hk : ∀ a, firstRow? read x.replies.head? = some a →
      EndsIn (k a) { x with log := x.log ++ [s], replies := x.replies.tail } sent result) :
    EndsIn ((Handler.first? s read >>= Handler.orFail e) >>= k) x (s :: sent) result := by
  refine endsIn_asks_bind (Handler.asks_required hs e read) fun reply rest hx => ?_
  rw [hx] at hnone hk
  unfold Handler.readRequired
  cases hread : Handler.readFirst read reply with
  | error e => exact .inl (Handler.readFirst_error hread)
  | ok found =>
    have hrow := firstRow?_of_readFirst hread
    cases found with
    | none => exact .inr (hnone hrow)
    | some a => exact hk a hrow

end

/-! ## How a login ends -/

section

variable {ctx : Context} {r : Request} {form : LoginForm} {email : String} {account : Account}
  {x : Exchange} {sent : List Statement} {result : Except Failure Response}

theorem check_eq_error {l : LoginLimiter} {now : Int} {refusal : LoginRefused}
    (h : (l.check now email).1 = .error refusal) : refusal = l.refusal := by
  unfold LoginLimiter.check at h
  split at h
  · cases h
  · dsimp only at h
    split at h
    · exact (Except.error.inj h).symm
    · split at h <;> cases h

theorem endsIn_handOut (ctx : Context) (g : Grant) (p : TokenPair) (x : Exchange) :
    EndsIn (handOut (ctx.drawing p) g) x (g.stored ctx p).statements (.ok (g.response p)) := by
  unfold EndsIn
  cases hx : storesPair x.replies with
  | false =>
    obtain ⟨x', sent, hexec, -, -⟩ := exec_handOut_error ctx g hx p
    exact .inl (congrArg Prod.fst hexec)
  | true =>
    rw [exec_handOut ctx g hx]
    exact .inr ⟨rfl, rfl⟩

theorem endsIn_signIn (ctx : Context) (r : Request) (form : LoginForm) (account : Account)
    (p : TokenPair) (x : Exchange) :
    EndsIn (signIn (ctx.drawing p) r form account) x
      (.recordLogin account.id r.clientAddress? ::
        ((loginGrant ctx r form account).stored ctx p).statements)
      (.ok ((loginGrant ctx r form account).response p)) := by
  rw [signIn_drawing]
  refine endsIn_asks_bind (Handler.asks_execute rfl) fun reply rest hx => ?_
  cases reply with
  | failure => exact .inl rfl
  | rows _ => exact endsIn_handOut ctx _ p _
  | affected _ => exact endsIn_handOut ctx _ p _

end

section

variable {c : Config} {limiter : LoginLimiter} {e : Event} {form : LoginForm} {email : String}
  {account : Account} {sent : List Statement} {result : Except Failure Response}

theorem meets_limit_iff (hemail : Email.normalize? form.email = some email) :
    (loginFacts limiter e form).Meets .limit ↔ (limiter.check e.now email).1.isOk = true := by
  simp [LoginFacts.Meets, loginFacts, hemail]

/-- A login of an address that the limiter lets pass goes on with an attempt. -/
theorem endsIn_login (hform : loginForm? e.request = some form)
    (hemail : Email.normalize? form.email = some email)
    (hlimit : (limiter.check e.now email).1.isOk = true)
    (h : EndsIn (attempt (c.context e) e.request form email)
      { limiter := (limiter.check e.now email).2, replies := e.replies } sent result) :
    EndsIn (login (c.context e) e.request) { limiter := limiter, replies := e.replies } sent
      result := by
  rw [login_of_form hform hemail]
  cases hcheck : (limiter.check e.now email).1 with
  | error refusal =>
    rw [hcheck] at hlimit
    cases hlimit
  | ok _ => exact endsIn_quiet_bind (exec_checkLimiter_ok hcheck) rfl h

/-- An attempt at an account that comes goes on with the account. -/
theorem endsIn_attempt {ctx : Context} {r : Request} {x : Exchange}
    (haccount : firstRow? Row.account? x.replies.head? = some account)
    (h : EndsIn (proceed ctx r form email account)
      { x with log := x.log ++ [.accountByEmail email], replies := x.replies.tail } sent result) :
    EndsIn (attempt ctx r form email) x (.accountByEmail email :: sent) result := by
  rw [attempt_eq]
  refine endsIn_required_bind rfl (fun hnone => ?_) fun a ha => ?_
  · rw [haccount] at hnone
    cases hnone
  · rw [haccount] at ha
    cases ha
    exact h

/-- How a login ends whose account is known, but which does not meet all conditions. -/
theorem endsIn_proceed_of_decides (c : Config) (email : String) {x : Exchange}
    (hx : x.replies = e.replies.tail) {k : LoginCondition}
    (haccount : (loginFacts limiter e form).account? = some account)
    (h : (loginFacts limiter e form).Decides k) (hk : .account ∈ k.before) :
    ∃ sent, EndsIn (proceed (c.context e) e.request form email account) x sent
        (.error (.api (k.error limiter))) ∧
      (loginFacts limiter e form).asked k =
        (loginFacts limiter e form).lookup ++ sent.map fun s => (s.sql, s.args) := by
  have hstanding := LoginFacts.meets_standing_iff haccount
  have hpassword : (loginFacts limiter e form).Meets .password ↔
      account.hasPassword form.password = true := LoginFacts.meets_password_iff haccount
  unfold proceed
  cases k with
  | address | limit | account => exact absurd hk (by decide)
  | standing =>
    rw [if_pos (Bool.not_eq_false _ ▸ hstanding.not.mp h.unmet)]
    exact ⟨[], endsIn_fail _ _, (List.append_nil _).symm⟩
  | password =>
    rw [if_neg (Bool.not_eq_true _ ▸ hstanding.mp (h.before _ (by decide))),
      if_neg (hpassword.not.mp h.unmet)]
    exact ⟨[], endsIn_quiet_bind (a := ()) rfl rfl (endsIn_fail _ _), (List.append_nil _).symm⟩
  | tenant =>
    have hcount : firstRow? (Row.single Cell.toInt?) x.replies.head? = some 0 := by
      rw [hx]
      exact not_not.mp h.unmet
    rw [if_neg (Bool.not_eq_true _ ▸ hstanding.mp (h.before _ (by decide))),
      if_pos (hpassword.mp (h.before _ (by decide)))]
    refine ⟨[.tenantCount account.id], endsIn_one_bind rfl fun n hn => ?_, ?_⟩
    · rw [hcount] at hn
      cases hn
      exact endsIn_fail _ _
    · rw [LoginFacts.asked, LoginFacts.count, haccount]
      rfl

/-- How a login ends that the limiter has let pass, but which does not meet all conditions. -/
theorem endsIn_attempt_of_decides (c : Config) (hemail : Email.normalize? form.email = some email)
    {x : Exchange} (hx : x.replies = e.replies) {k : LoginCondition}
    (h : (loginFacts limiter e form).Decides k) (hk : .limit ∈ k.before) :
    ∃ sent, EndsIn (attempt (c.context e) e.request form email) x sent
        (.error (.api (k.error limiter))) ∧
      sent.map (fun s => (s.sql, s.args)) = (loginFacts limiter e form).asked k := by
  have hlookup : (loginFacts limiter e form).lookup =
      [((Statement.accountByEmail email).sql, (Statement.accountByEmail email).args)] := by
    rw [LoginFacts.lookup, show (loginFacts limiter e form).email? = some email from hemail]
    rfl
  have hrow : firstRow? Row.account? x.replies.head? = (loginFacts limiter e form).account? := by
    rw [hx]
    rfl
  rcases LoginCondition.before_of_account hk with rfl | hk
  · have hnone : firstRow? Row.account? x.replies.head? = none := hrow.trans (not_not.mp h.unmet)
    refine ⟨[.accountByEmail email], ?_, hlookup.symm⟩
    rw [attempt_eq]
    refine endsIn_required_bind rfl (fun _ => ⟨rfl, rfl⟩) fun a ha => ?_
    rw [hnone] at ha
    cases ha
  · obtain ⟨account, haccount⟩ := Option.ne_none_iff_exists'.mp (h.before _ hk)
    obtain ⟨sent, hends, hasked⟩ := endsIn_proceed_of_decides c email
      (x := ⟨x.limiter, x.replies.tail, x.log ++ [.accountByEmail email]⟩)
      (congrArg List.tail hx) haccount h hk
    refine ⟨_, endsIn_attempt (hrow.trans haccount) hends, ?_⟩
    rw [hasked, hlookup]
    rfl

/-- A login that does not meet all conditions is answered as the first that it does not meet
says, and nothing is sent but the questions up to there. -/
theorem endsIn_login_of_decides (c : Config) (limiter : LoginLimiter)
    (hform : loginForm? e.request = some form) {k : LoginCondition}
    (h : (loginFacts limiter e form).Decides k) :
    ∃ sent, EndsIn (login (c.context e) e.request) { limiter := limiter, replies := e.replies } sent
        (.error (.api (k.error limiter))) ∧
      sent.map (fun s => (s.sql, s.args)) = (loginFacts limiter e form).asked k := by
  rcases LoginCondition.before_of_address (k := k) with rfl | hk
  · have hemail : Email.normalize? form.email = none := not_not.mp h.unmet
    obtain ⟨-, -, hjson, hread⟩ := loginForm?_eq_some hform
    refine ⟨[], ?_, rfl⟩
    rw [login_eq, body_of_readText hjson hread, pure_bind, hemail]
    exact endsIn_fail _ _
  obtain ⟨email, hemail⟩ : ∃ email, Email.normalize? form.email = some email :=
    Option.ne_none_iff_exists'.mp (h.before _ hk)
  have hmeets : (loginFacts limiter e form).Meets .limit ↔
      (limiter.check e.now email).1.isOk = true := meets_limit_iff hemail
  rcases LoginCondition.before_of_limit hk with rfl | hk
  · cases hcheck : (limiter.check e.now email).1 with
    | ok _ => exact absurd (hmeets.mpr (by rw [hcheck]; rfl)) h.unmet
    | error refusal =>
      obtain rfl := check_eq_error hcheck
      refine ⟨[], ?_, rfl⟩
      rw [login_of_form hform hemail, LoginCondition.error_limit]
      exact endsIn_quiet_bind_error (exec_checkLimiter_error hcheck) rfl
  · obtain ⟨sent, hends, hasked⟩ := endsIn_attempt_of_decides c hemail
      (x := ⟨(limiter.check e.now email).2, e.replies, []⟩) rfl h hk
    exact ⟨sent, endsIn_login hform hemail (hmeets.mp (h.before _ hk)) hends, hasked⟩

/-- A login that meets all conditions is recorded, and stores a pair and hands it out. -/
theorem endsIn_login_of_meets (c : Config) (limiter : LoginLimiter)
    (hform : loginForm? e.request = some form)
    (h : ∀ k, (loginFacts limiter e form).Meets k) :
    ∃ email account, (loginFacts limiter e form).email? = some email ∧
      (loginFacts limiter e form).account? = some account ∧
      let g := loginGrant (c.context e) e.request form account
      EndsIn (login (c.context e) e.request) { limiter := limiter, replies := e.replies }
        (loginStatements e.request email account ++ (g.stored (c.context e) e.drawn).statements)
        (.ok (g.response e.drawn)) := by
  obtain ⟨email, hemail⟩ := Option.ne_none_iff_exists'.mp (h .address)
  obtain ⟨account, haccount⟩ := Option.ne_none_iff_exists'.mp (h .account)
  have hlimit := (meets_limit_iff hemail).mp (h .limit)
  refine ⟨email, account, hemail, haccount, endsIn_login hform hemail hlimit ?_⟩
  refine endsIn_attempt haccount ?_
  have hstanding : account.isBarred = false := (LoginFacts.meets_standing_iff haccount).mp (h _)
  have hpassword : account.hasPassword form.password = true :=
    (LoginFacts.meets_password_iff haccount).mp (h _)
  rw [proceed, if_neg (Bool.not_eq_true _ ▸ hstanding), if_pos hpassword]
  refine endsIn_one_bind rfl fun n hn => ?_
  have hzero : n ≠ 0 := by
    rintro rfl
    exact h .tenant hn
  rw [enter, if_neg hzero]
  exact endsIn_quiet_bind (a := ()) rfl rfl (endsIn_signIn (c.context e) _ _ _ e.drawn _)

end

/-! ## Every login -/

/-- What is sent at a login that meets all conditions before its pair is stored, in the words of
the database. -/
def loginSent (email : String) (account : Uuid) (address : Option String) :
    List (String × List Arg) := [
  ("SELECT id, password, password_salt, status FROM accounts WHERE email = $1", [.text email]),
  ("SELECT COUNT(*) FROM tenant_account_joins WHERE account_id = $1", [.uuid account]),
  ("UPDATE accounts SET last_login_at = now(), last_login_ip = $2, " ++
    "status = CASE WHEN status = $3 THEN $4 ELSE status END WHERE id = $1",
    [.uuid account, Arg.ofOption .text address, .text "pending", .text "active"])]

def responseOf : Except Failure Response → Response
  | .ok response => response
  | .error failure => failure.response

/-- How a login is answered, if nothing goes wrong with a statement. -/
theorem handle_of_endsIn {c : Config} {limiter : LoginLimiter} {e : Event} {form : LoginForm}
    {sent : List Statement} {result : Except Failure Response}
    (hform : loginForm? e.request = some form)
    (hsmooth : Smooth (answered (handle c limiter e).1.log e.replies))
    (h : EndsIn (login (c.context e) e.request) { limiter := limiter, replies := e.replies } sent
      result) :
    (handle c limiter e).1 = ⟨{ responseOf result with
      headers := commonHeaders (c.context e) ++ (responseOf result).headers }, sent⟩ := by
  obtain ⟨hroute, hmethod, -, -⟩ := loginForm?_eq_some hform
  have hstatus := status_of_smooth hsmooth
  have hrun (x : Exchange) : (run (login (c.context e) e.request) x).1 =
      responseOf (exec (login (c.context e) e.request) x).1 := run_fst _ x
  rw [handle_post c limiter hroute hmethod rfl] at hstatus ⊢
  rcases h with hdatabase | ⟨hexec, hlog⟩
  · refine absurd ?_ hstatus
    show (run _ _).1.status = 500
    rw [hrun, hdatabase]
    rfl
  · show Outcome.mk { (run _ _).1 with headers := _ ++ (run _ _).1.headers } (run _ _).2.log = _
    rw [hrun, run_snd, hexec, hlog]
    rfl

section

variable {c : Config} {limiter : LoginLimiter} {e : Event} {form : LoginForm}

/-- What comes of a login that does not meet all conditions. -/
theorem handle_of_decides (hform : loginForm? e.request = some form)
    (hsmooth : Smooth (answered (handle c limiter e).1.log e.replies)) {k : LoginCondition}
    (hk : (loginFacts limiter e form).Decides k) :
    (handle c limiter e).1.response = ⟨(k.error limiter).status, jsonHeaders (c.context e),
      .json (.obj [("code", .str (k.error limiter).code),
        ("message", .str (k.error limiter).message),
        ("status", .int (k.error limiter).status)])⟩ ∧
    (handle c limiter e).1.log.map (fun s => (s.sql, s.args)) =
      (loginFacts limiter e form).asked k := by
  obtain ⟨sent, hends, hasked⟩ := endsIn_login_of_decides c limiter hform hk
  rw [handle_of_endsIn hform hsmooth hends]
  exact ⟨rfl, hasked⟩

/-- What comes of a login that meets all conditions. -/
theorem handle_of_meets (hform : loginForm? e.request = some form)
    (hsmooth : Smooth (answered (handle c limiter e).1.log e.replies))
    (hmeets : ∀ k, (loginFacts limiter e form).Meets k) :
    (handle c limiter e).1.response.status = 200 ∧
    ∃ email account, (loginFacts limiter e form).email? = some email ∧
      (loginFacts limiter e form).account? = some account ∧
      ∃ p : StoredPair, handedOut? (handle c limiter e).1.response = some (p.access, p.refresh) ∧
        (handle c limiter e).1.log.map (fun s => (s.sql, s.args)) =
          loginSent email account.id e.request.clientAddress? ++ p.sent ∧
        p.account = account.id ∧ p.owner = account.id ∧
        p.address = e.request.clientAddress? := by
  obtain ⟨email, account, hemail, haccount, hends⟩ := endsIn_login_of_meets c limiter hform hmeets
  let g := loginGrant (c.context e) e.request form account
  rw [handle_of_endsIn hform hsmooth hends]
  refine ⟨g.status e.drawn, email, account, hemail, haccount, g.stored (c.context e) e.drawn,
    g.tells e.drawn, ?_, rfl, rfl, rfl⟩
  rw [List.map_append, StoredPair.sent_eq]
  rfl

end

/-- Every login whose body can be read, whatever the limiter counts and the database replies, is
answered as the first condition says that it does not meet, and then sends nothing but the
questions that the conditions up to there need. A login that meets all is recorded and stores a
pair, all for the account of the address and from the address of the client, and is the only kind
that is answered with 200. -/
theorem login_decided_by_first_unmet (c : Config) (limiter : LoginLimiter) {e : Event}
    {form : LoginForm} (hform : loginForm? e.request = some form)
    (hsmooth : Smooth (answered (handle c limiter e).1.log e.replies)) :
    let f := loginFacts limiter e form
    let o := (handle c limiter e).1
    let log := o.log.map fun s => (s.sql, s.args)
    (∀ k, f.Decides k →
      let error := k.error limiter
      o.response = ⟨error.status, jsonHeaders (c.context e),
        .json (.obj [("code", .str error.code), ("message", .str error.message),
          ("status", .int error.status)])⟩ ∧
      log = f.asked k) ∧
    ((∀ k, f.Meets k) → ∃ email account, f.email? = some email ∧ f.account? = some account ∧
      ∃ p : StoredPair, handedOut? o.response = some (p.access, p.refresh) ∧
        log = loginSent email account.id e.request.clientAddress? ++ p.sent ∧
        p.account = account.id ∧ p.owner = account.id ∧
        p.address = e.request.clientAddress?) ∧
    (o.response.status = 200 ↔ ∀ k, f.Meets k) := by
  intro f o log
  refine ⟨fun k hk => handle_of_decides hform hsmooth hk,
    fun hmeets => (handle_of_meets hform hsmooth hmeets).2, fun hstatus => ?_,
    fun hmeets => (handle_of_meets hform hsmooth hmeets).1⟩
  rcases f.all_met_or_decided with hmeets | ⟨k, hk⟩
  · exact hmeets
  · -- no condition is answered with 200
    rw [(handle_of_decides hform hsmooth hk).1] at hstatus
    cases k <;> cases hstatus

def rememberedAccount (status : String) : Account where
  id := ⟨0x40008000000000000001, by decide⟩
  password := some "148de9c5a7a44d19e56cd9ae1a554bf67847afb0c58f6e12fa29ac7ddfca9940"
  salt := some ""
  status := status

/-- A login with the right password of an account that is closed. -/
def closedLogin : Event where
  request := rememberedLogin.request
  now := 0
  fresh := rememberedLogin.fresh
  replies := [.rows [[.text "00000000000040008000000000000001",
    .text "148de9c5a7a44d19e56cd9ae1a554bf67847afb0c58f6e12fa29ac7ddfca9940", .text "",
    .text "closed"]]]

theorem login_decided_at_closedLogin :
    let c : Config := ⟨"key", 60, 30, 5, 900, true⟩
    let form : LoginForm := ⟨"ann@example.org", "p", true⟩
    loginForm? closedLogin.request = some form ∧
    Smooth (answered (handle c c.limiter rememberedLogin).1.log rememberedLogin.replies) ∧
    Smooth (answered (handle c c.limiter closedLogin).1.log closedLogin.replies) ∧
    (∀ k, (loginFacts c.limiter rememberedLogin form).Meets k) ∧
    (handle c c.limiter rememberedLogin).1.response.status = 200 ∧
    (loginFacts c.limiter closedLogin form).Decides .standing ∧
    (loginFacts c.limiter closedLogin form).Meets .password ∧
    (handle c c.limiter closedLogin).1.response.status = 403 ∧
    (handle c c.limiter closedLogin).1.response.body = .json (.obj [
      ("code", .str "account_banned"), ("message", .str "account is banned or closed"),
      ("status", .int 403)]) ∧
    (handle c c.limiter closedLogin).1.log.map (fun s => (s.sql, s.args)) =
      [("SELECT id, password, password_salt, status FROM accounts WHERE email = $1",
        [.text "ann@example.org"])] := by
  intro c form
  have hform : loginForm? closedLogin.request = some form := by decide +kernel
  have hgranted : Smooth (answered (handle c c.limiter rememberedLogin).1.log
      rememberedLogin.replies) := by
    unfold Smooth
    decide +kernel
  have hrefused : Smooth (answered (handle c c.limiter closedLogin).1.log closedLogin.replies) := by
    unfold Smooth
    decide +kernel
  have hactive : (loginFacts c.limiter rememberedLogin form).account? =
      some (rememberedAccount "active") := by decide +kernel
  have hclosed : (loginFacts c.limiter closedLogin form).account? =
      some (rememberedAccount "closed") := by decide +kernel
  have hmeets : ∀ k, (loginFacts c.limiter rememberedLogin form).Meets k := by
    intro k
    cases k with
    | password => exact (LoginFacts.meets_password_iff hactive).mpr (by decide +kernel)
    | _ => decide +kernel
  have hdecides : (loginFacts c.limiter closedLogin form).Decides .standing :=
    ⟨by decide +kernel, by decide +kernel⟩
  have hpassword : (loginFacts c.limiter closedLogin form).Meets .password :=
    (LoginFacts.meets_password_iff hclosed).mpr (by decide +kernel)
  have hremembered : loginForm? rememberedLogin.request = some form := hform
  obtain ⟨-, -, hstatus⟩ := login_decided_by_first_unmet c c.limiter hremembered hgranted
  obtain ⟨hunmet, -, -⟩ := login_decided_by_first_unmet c c.limiter hform hrefused
  obtain ⟨hresponse, hlog⟩ := hunmet .standing hdecides
  have hasked : (loginFacts c.limiter closedLogin form).asked .standing =
      [("SELECT id, password, password_salt, status FROM accounts WHERE email = $1",
        [.text "ann@example.org"])] := by decide +kernel
  refine ⟨hform, hgranted, hrefused, hmeets, hstatus.mpr hmeets, hdecides, hpassword, ?_, ?_,
    hlog.trans hasked⟩
  · rw [hresponse]
    rfl
  · rw [hresponse]
    rfl

end Parley.Service
