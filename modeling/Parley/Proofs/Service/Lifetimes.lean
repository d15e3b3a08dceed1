import Parley.Proofs.Http.Bearer
import Parley.Proofs.Service.ErrorContract
import Parley.Proofs.Settings

/-!
# Lifetimes of tokens

The lifetimes that are set have 64 bits, but the statements that store a pair of tokens cast them
to integers of 32 bits. A database fails a statement that casts what does not fit, so with a
lifetime that is too large nobody can log in.

That lifetimes have no other part in the handling of a request is seen by running two handlers
side by side, which send the same statements but for the lifetimes in them.

* `Handler.Mirrors`: the second handler goes the way of the first.
* `log_withLifetimes`: with other lifetimes a request for tokens is handled alike.
* `fit_of_stored`: a pair is stored only with lifetimes that fit.
* `accepted_iff_fitsLong`: all lifetimes of 64 bits are accepted.
* `tokens_need_fitting_lifetimes`: the lifetimes that are accepted, and those that are of use.
* `no_tokens_with_oversized_lifetime`: a lifetime that is accepted and keeps everybody out.
-/
namespace Parley.Service

open Http (Method Request Response Route)
open Store (Cell Reply Row Statement)
open Handler (Asks exec)

/-! ## Handlers side by side -/

/-- The exchange with other statements in place of those that are logged. -/
def Exchange.relog (f : Statement → Statement) (x : Exchange) : Exchange :=
  { x with log := x.log.map f }

namespace Handler

variable {α β γ : Type} {f : Statement → Statement}

/-- Two handlers end alike: with values that are related, or in the same failure. -/
inductive EndAlike (R : α → β → Prop) : Except Failure α → Except Failure β → Prop
  | ok {a : α} {b : β} (h : R a b) : EndAlike R (.ok a) (.ok b)
  | error (e : Failure) : EndAlike R (.error e) (.error e)

/-- The second handler goes the way of the first, but sends `f s` in place of `s`. -/
def Mirrors (f : Statement → Statement) (R : α → β → Prop) (h : Handler α) (h' : Handler β) :
    Prop :=
  ∀ x, (exec h' (x.relog f)).2 = (exec h x).2.relog f ∧
    EndAlike R (exec h x).1 (exec h' (x.relog f)).1

variable {R : α → β → Prop}

theorem mirrors_pure {a : α} {b : β} (h : R a b) : Mirrors f R (pure a) (pure b) :=
  fun _ => ⟨rfl, .ok h⟩

theorem mirrors_throw (e : Failure) : Mirrors f R (throw e) (throw e) :=
  fun _ => ⟨rfl, .error e⟩

theorem mirrors_bind {h h' : Handler γ} {k : γ → Handler α} {k' : γ → Handler β}
    (hh : Mirrors f Eq h h') (hk : ∀ c, Mirrors f R (k c) (k' c)) :
    Mirrors f R (h >>= k) (h' >>= k') := by
  intro x
  obtain ⟨hstate, hend⟩ := hh x
  rw [exec_bind, exec_bind]
  generalize exec h x = ended at hstate hend
  generalize exec h' (x.relog f) = ended' at hstate hend
  obtain ⟨result, y⟩ := ended
  obtain ⟨result', y'⟩ := ended'
  obtain rfl : y' = y.relog f := hstate
  cases hend with
  | ok heq =>
    subst heq
    exact hk _ y
  | error e => exact ⟨rfl, .error e⟩

theorem endAlike_rfl (result : Except Failure α) : EndAlike Eq result result := by
  cases result with
  | ok a => exact .ok rfl
  | error e => exact .error e

theorem mirrors_asks {h h' : Handler α} {s : Statement} {read : Reply → Except Failure α}
    (hh : Asks h s read) (hh' : Asks h' (f s) read) : Mirrors f Eq h h' := by
  intro x
  cases hx : x.replies with
  | nil =>
    rw [hh.nil x hx, hh'.nil (x.relog f) hx]
    exact ⟨by simp [Exchange.relog], .error _⟩
  | cons reply rest =>
    rw [hh.cons x reply rest hx, hh'.cons (x.relog f) reply rest hx]
    exact ⟨by simp [Exchange.relog], endAlike_rfl _⟩

/-- A step that has nothing to do with statements goes its own way. -/
theorem mirrors_quiet {h : Handler α}
    (hh : ∀ x, exec h (x.relog f) = ((exec h x).1, (exec h x).2.relog f)) :
    Mirrors f Eq h h := by
  intro x
  rw [hh x]
  exact ⟨rfl, endAlike_rfl _⟩

theorem mirrors_execute (s : Statement) (hs : (f s).isTransactional = s.isTransactional) :
    Mirrors f Eq (execute s) (execute (f s)) := by
  cases hopen : s.isTransactional with
  | false => exact mirrors_asks (asks_execute hopen) (asks_execute (hs.trans hopen))
  | true =>
    intro x
    rw [exec_execute_of_isTransactional hopen, exec_execute_of_isTransactional (hs.trans hopen)]
    exact ⟨by simp [Exchange.relog], .ok rfl⟩

end Handler

/-! ## Other lifetimes -/

/-- The statement with other lifetimes. -/
def retime (minutes days : Int) : Statement → Statement
  | .insertSession token account address _ => .insertSession token account address minutes
  | .insertRefreshToken token account _ => .insertRefreshToken token account days
  | s => s

def Context.withLifetimes (ctx : Context) (minutes days : Int) : Context :=
  { ctx with accessTokenMinutes := minutes, refreshTokenDays := days }

def Config.withLifetimes (c : Config) (minutes days : Int) : Config :=
  { c with accessTokenMinutes := minutes, refreshTokenDays := days }

section

variable (ctx : Context) (minutes days : Int)

theorem mirrors_issueTokens (account : Uuid) (address : Option String) :
    Handler.Mirrors (retime minutes days) Eq (issueTokens ctx account address)
      (issueTokens (ctx.withLifetimes minutes days) account address) := by
  refine Handler.mirrors_bind (Handler.mirrors_execute .openTransaction rfl) fun _ => ?_
  refine Handler.mirrors_bind
    (Handler.mirrors_execute (.insertSession _ _ _ ctx.accessTokenMinutes) rfl) fun _ => ?_
  refine Handler.mirrors_bind
    (Handler.mirrors_execute (.insertRefreshToken _ _ ctx.refreshTokenDays) rfl) fun _ => ?_
  refine Handler.mirrors_bind (Handler.mirrors_execute .commitTransaction rfl) fun _ => ?_
  exact Handler.mirrors_pure rfl

variable (r : Request)

theorem mirrors_signIn (form : LoginForm) (account : Account) :
    Handler.Mirrors (retime minutes days) (fun _ _ => True) (signIn ctx r form account)
      (signIn (ctx.withLifetimes minutes days) r form account) := by
  refine Handler.mirrors_bind (Handler.mirrors_execute (.recordLogin _ _) rfl) fun _ => ?_
  refine Handler.mirrors_bind (mirrors_issueTokens ctx minutes days _ _) fun _ => ?_
  exact Handler.mirrors_pure trivial

theorem mirrors_proceed (form : LoginForm) (email : String) (account : Account) :
    Handler.Mirrors (retime minutes days) (fun _ _ => True) (proceed ctx r form email account)
      (proceed (ctx.withLifetimes minutes days) r form email account) := by
  unfold proceed
  split
  · exact Handler.mirrors_throw _
  split
  · refine Handler.mirrors_bind
      (Handler.mirrors_asks (Handler.asks_one rfl _) (Handler.asks_one rfl _)) fun tenants => ?_
    unfold enter
    split
    · exact Handler.mirrors_throw _
    · exact Handler.mirrors_bind (Handler.mirrors_quiet fun _ => rfl) fun _ =>
        mirrors_signIn ctx minutes days r form account
  · exact Handler.mirrors_bind (Handler.mirrors_quiet fun _ => rfl) fun _ =>
      Handler.mirrors_throw _

theorem mirrors_orFail {α : Type} {f : Statement → Statement} (e : ApiError) (a : Option α) :
    Handler.Mirrors f Eq (Handler.orFail e a) (Handler.orFail e a) := by
  cases a with
  | none => exact Handler.mirrors_throw _
  | some a => exact Handler.mirrors_pure rfl

theorem mirrors_body {σ α : Type} {f : Statement → Statement} (record : Json.Record σ α) :
    Handler.Mirrors f Eq (body record r) (body record r) := by
  rcases body_cases record r with ⟨a, -, -, hbody⟩ | ⟨rejection, hbody⟩
  · rw [hbody]
    exact Handler.mirrors_pure rfl
  · rw [hbody]
    exact Handler.mirrors_throw _

theorem mirrors_checkLimiter {f : Statement → Statement} (now : Int) (email : String) :
    Handler.Mirrors f Eq (Handler.checkLimiter now email) (Handler.checkLimiter now email) := by
  refine Handler.mirrors_quiet fun x => ?_
  have hlimiter : (x.relog f).limiter = x.limiter := rfl
  rw [exec_checkLimiter, exec_checkLimiter, hlimiter]
  cases (x.limiter.check now email).1 <;> rfl

theorem mirrors_login : Handler.Mirrors (retime minutes days) (fun _ _ => True) (login ctx r)
    (login (ctx.withLifetimes minutes days) r) := by
  rw [login_eq, login_eq]
  refine Handler.mirrors_bind (mirrors_body r _) fun form => ?_
  refine Handler.mirrors_bind (mirrors_orFail _ _) fun email => ?_
  refine Handler.mirrors_bind (mirrors_checkLimiter _ _) fun _ => ?_
  rw [attempt_eq, attempt_eq]
  refine Handler.mirrors_bind ?_ fun account =>
    mirrors_proceed ctx minutes days r form email account
  exact Handler.mirrors_bind
    (Handler.mirrors_asks (Handler.asks_first? rfl _) (Handler.asks_first? rfl _)) fun found =>
      mirrors_orFail _ _

theorem mirrors_refresh : Handler.Mirrors (retime minutes days) (fun _ _ => True) (refresh ctx r)
    (refresh (ctx.withLifetimes minutes days) r) := by
  rw [refresh_eq, refresh_eq]
  refine Handler.mirrors_bind (mirrors_body r _) fun token => ?_
  refine Handler.mirrors_bind
    (Handler.mirrors_asks (Handler.asks_first? rfl _) (Handler.asks_first? rfl _)) fun found => ?_
  cases found with
  | none => exact Handler.mirrors_pure trivial
  | some account =>
    exact Handler.mirrors_bind (mirrors_issueTokens ctx minutes days _ _) fun _ =>
      Handler.mirrors_pure trivial

end

variable {c : Config} {limiter : LoginLimiter} {e : Event}

/-- With other lifetimes a request for tokens goes the same way, and its statements are the same
but for these. -/
theorem log_withLifetimes (minutes days : Int) (h : AsksForTokens e.request) :
    (handle (c.withLifetimes minutes days) limiter e).1.log =
      (handle c limiter e).1.log.map (retime minutes days) := by
  have hlog {h h' : Handler Response}
      (hh : Handler.Mirrors (retime minutes days) (fun _ _ => True) h h') :
      (run h' { limiter := limiter, replies := e.replies }).2.log =
        (run h { limiter := limiter, replies := e.replies }).2.log.map (retime minutes days) := by
    rw [run_snd, run_snd]
    exact congrArg Exchange.log (hh { limiter := limiter, replies := e.replies }).1
  obtain ⟨hmethod, hroute | hroute⟩ := h
  · rw [handle_post _ limiter hroute hmethod rfl, handle_post c limiter hroute hmethod rfl]
    exact hlog (mirrors_login (c.context e) minutes days e.request)
  · rw [handle_post _ limiter hroute hmethod rfl, handle_post c limiter hroute hmethod rfl]
    exact hlog (mirrors_refresh (c.context e) minutes days e.request)

/-- Whether a pair is stored does not depend on the lifetimes, as long as the replies do not. -/
theorem stored_withLifetimes_iff (minutes days : Int) (h : AsksForTokens e.request) :
    (∃ p : StoredPair, p.statements <:+ (handle (c.withLifetimes minutes days) limiter e).1.log) ↔
      ∃ p : StoredPair, p.statements <:+ (handle c limiter e).1.log := by
  have hkept (c : Config) (minutes days : Int) {p : StoredPair}
      (hp : p.statements <:+ (handle c limiter e).1.log) : ∃ q : StoredPair,
        q.statements <:+ (handle (c.withLifetimes minutes days) limiter e).1.log := by
    refine ⟨{ p with minutes := minutes, days := days }, ?_⟩
    rw [log_withLifetimes minutes days h]
    exact hp.map (retime minutes days)
  constructor
  · rintro ⟨p, hp⟩
    exact hkept (c.withLifetimes minutes days) c.accessTokenMinutes c.refreshTokenDays hp
  · rintro ⟨p, hp⟩
    exact hkept c minutes days hp

/-! ## Numbers of 32 bits -/

/-- An integer of 32 bits holds the number. -/
def FitsInt (z : Int) : Prop :=
  -0x80000000 ≤ z ∧ z ≤ 0x7FFFFFFF

/-- An integer of 64 bits holds the number. -/
def FitsLong (z : Int) : Prop :=
  -0x8000000000000000 ≤ z ∧ z ≤ 0x7FFFFFFFFFFFFFFF

instance : DecidablePred FitsInt :=
  fun _ => inferInstanceAs (Decidable (_ ∧ _))

instance : DecidablePred FitsLong :=
  fun _ => inferInstanceAs (Decidable (_ ∧ _))

/-- The numbers that a statement casts to an integer of 32 bits: the lifetimes of a stored pair. -/
def casts : Statement → List Int
  | .insertSession _ _ _ minutes => [minutes]
  | .insertRefreshToken _ _ days => [days]
  | _ => []

/-- The database fails every statement that casts a number to an integer that does not hold it. -/
def RefusesOverflow (answers : List (Statement × Option Reply)) : Prop :=
  ∀ a ∈ answers, (∃ z ∈ casts a.1, ¬ FitsInt z) → ∀ reply ∈ a.2, reply = .failure

instance (answers : List (Statement × Option Reply)) : Decidable (RefusesOverflow answers) :=
  inferInstanceAs (Decidable (∀ a ∈ answers, _ → _))

/-- Both lifetimes fit. -/
def LifetimesFit (c : Config) : Prop :=
  FitsInt c.accessTokenMinutes ∧ FitsInt c.refreshTokenDays

instance : DecidablePred LifetimesFit :=
  fun _ => inferInstanceAs (Decidable (_ ∧ _))

/-- The number is one of the lifetimes that are set. -/
def Config.IsLifetime (c : Config) (z : Int) : Prop :=
  z = c.accessTokenMinutes ∨ z = c.refreshTokenDays

theorem fits_of_isLifetime {z : Int} (hfit : LifetimesFit c) (hz : c.IsLifetime z) : FitsInt z := by
  rcases hz with rfl | rfl
  · exact hfit.1
  · exact hfit.2

/-- The lifetimes of a session and of a refresh token are those that are set. -/
theorem lifetime_of_mem_log (h : AsksForTokens e.request) {s : Statement}
    (hs : s ∈ (handle c limiter e).1.log) :
    (∀ token account address minutes, s = .insertSession token account address minutes →
      minutes = c.accessTokenMinutes) ∧
    ∀ token account days, s = .insertRefreshToken token account days →
      days = c.refreshTokenDays := by
  -- with its own lifetimes the service sends what it sends
  have hlog : (handle c limiter e).1.log = (handle c limiter e).1.log.map
      (retime c.accessTokenMinutes c.refreshTokenDays) :=
    log_withLifetimes c.accessTokenMinutes c.refreshTokenDays h
  rw [hlog, List.mem_map] at hs
  obtain ⟨s, -, rfl⟩ := hs
  constructor
  · intro token account address minutes hs
    cases s <;> cases hs
    rfl
  · intro token account days hs
    cases s <;> cases hs
    rfl

/-- What is cast to an integer is a lifetime that is set. -/
theorem isLifetime_of_mem_casts (h : AsksForTokens e.request) {s : Statement}
    (hs : s ∈ (handle c limiter e).1.log) {z : Int} (hz : z ∈ casts s) : c.IsLifetime z := by
  obtain ⟨hminutes, hdays⟩ := lifetime_of_mem_log h hs
  cases s with
  | insertSession token account address minutes =>
    obtain rfl := List.mem_singleton.1 hz
    exact Or.inl (hminutes _ _ _ _ rfl)
  | insertRefreshToken token account days =>
    obtain rfl := List.mem_singleton.1 hz
    exact Or.inr (hdays _ _ _ rfl)
  | _ => cases hz

/-- With lifetimes that fit, a database has nothing to refuse. -/
theorem refusesOverflow_of_fit (h : AsksForTokens e.request) (hfit : LifetimesFit c) :
    RefusesOverflow (answered (handle c limiter e).1.log e.replies) := by
  rintro ⟨s, reply?⟩ hmem ⟨z, hz, hnot⟩
  have hlog : s ∈ (handle c limiter e).1.log := by
    rw [← map_fst_answered (handle c limiter e).1.log e.replies]
    exact List.mem_map_of_mem hmem
  exact absurd (fits_of_isLifetime hfit (isLifetime_of_mem_casts h hlog hz)) hnot

theorem fits_of_smooth {log : List Statement} {replies : List Reply} {s : Statement} {z : Int}
    (hdatabase : RefusesOverflow (answered log replies)) (hsmooth : Smooth (answered log replies))
    (hs : s ∈ log) (hz : z ∈ casts s) : FitsInt z := by
  rw [← map_fst_answered log replies, List.mem_map] at hs
  obtain ⟨⟨s, reply?⟩, hmem, rfl⟩ := hs
  have hopen : s.isTransactional = false := by
    cases s <;> first | rfl | cases hz
  have hnone := hsmooth _ hmem
  rw [mishap?.eq_def, if_neg (ne_true_of_eq_false hopen)] at hnone
  by_contra hnot
  have hfailure := hdatabase _ hmem ⟨z, hz, hnot⟩
  cases reply? with
  | none => cases hnone
  | some reply =>
    obtain rfl := hfailure reply rfl
    cases hnone

theorem smooth_of_stored (h : AsksForTokens e.request) {p : StoredPair}
    (hp : p.statements <:+ (handle c limiter e).1.log) :
    Smooth (answered (handle c limiter e).1.log e.replies) := by
  have hstatus : (handle c limiter e).1.response.status = 200 := by
    rcases issued_or_withheld c limiter h with ⟨hstatus, -⟩ | hwithheld
    · exact hstatus
    · exact absurd hp (hwithheld.no_suffix p)
  have hconcludes := (concludes_handle c limiter e).2
  generalize answered (handle c limiter e).1.log e.replies = answers at hconcludes ⊢
  cases hconcludes with
  | smoothly smooth status => exact smooth
  | badly smooth mishap status body cookies =>
    rw [hstatus] at status
    cases status

theorem fit_of_stored (h : AsksForTokens e.request)
    (hdatabase : RefusesOverflow (answered (handle c limiter e).1.log e.replies)) {p : StoredPair}
    (hp : p.statements <:+ (handle c limiter e).1.log) : LifetimesFit c := by
  have hsmooth := smooth_of_stored h hp
  have hsession : .insertSession p.access p.account p.address p.minutes ∈
      (handle c limiter e).1.log :=
    hp.subset (by simp [StoredPair.statements])
  have hrefresh : .insertRefreshToken p.refresh p.owner p.days ∈ (handle c limiter e).1.log :=
    hp.subset (by simp [StoredPair.statements])
  constructor
  · rw [← (lifetime_of_mem_log h hsession).1 _ _ _ _ rfl]
    exact fits_of_smooth hdatabase hsmooth hsession (List.mem_singleton_self _)
  · rw [← (lifetime_of_mem_log h hrefresh).2 _ _ _ rfl]
    exact fits_of_smooth hdatabase hsmooth hrefresh (List.mem_singleton_self _)

theorem withheld_of_not_fit (h : AsksForTokens e.request)
    (hdatabase : RefusesOverflow (answered (handle c limiter e).1.log e.replies))
    (hfit : ¬ LifetimesFit c) : Withheld c limiter e (handle c limiter e).1 := by
  rcases issued_or_withheld c limiter h with ⟨-, p, hp, -⟩ | hwithheld
  · exact absurd (fit_of_stored h hdatabase hp) hfit
  · exact hwithheld

/-! ## Lifetimes that are accepted -/

/-- There is an environment from which the service is set up so. -/
def Accepted (c : Config) : Prop :=
  ∃ env s, Settings.read env = .ok s ∧ c = Config.ofSettings s

theorem fitsLong_iff {z : Int} :
    FitsLong z ↔ -(Decimal.max63 + 1) ≤ z ∧ z ≤ Decimal.max63 := by
  have hmax : Decimal.max63 = 0x7FFFFFFFFFFFFFFF := rfl
  rw [FitsLong]
  omega

theorem fitsLong_of_read {env : Environment} {s : Settings} (h : Settings.read env = .ok s) :
    FitsLong s.accessTokenMinutes ∧ FitsLong s.refreshTokenDays := by
  have hsettles := Settings.read_eq_ok_iff.mp h
  constructor
  · cases hsettles .accessTokenMinutes with
    | text set denotes => exact fitsLong_iff.mpr denotes.bounds
    | default unset default =>
      have hminutes : 60 = s.accessTokenMinutes := Option.some.inj default
      rw [FitsLong, ← hminutes]
      decide
  · cases hsettles .refreshTokenDays with
    | text set denotes => exact fitsLong_iff.mpr denotes.bounds
    | default unset default =>
      have hdays : 30 = s.refreshTokenDays := Option.some.inj default
      rw [FitsLong, ← hdays]
      decide

/-- An environment that sets the lifetimes, and what has no default. -/
def lifetimesEnvironment (minutes days : Int) : Environment := fun key =>
  [("DATABASE_URL", Utf8.ofString "postgres://db"), ("SECRET_KEY", Utf8.ofString "key"),
    ("ACCESS_TOKEN_EXPIRE_MINUTES", Utf8.ofString (Decimal.ofInt minutes)),
    ("REFRESH_TOKEN_EXPIRE_DAYS", Utf8.ofString (Decimal.ofInt days))].lookup key

def lifetimesSettings (minutes days : Int) : Settings where
  databaseUrl := "postgres://db"
  secretKey := "key"
  tcpPort := 3000
  maxConnections := 5
  accessTokenMinutes := minutes
  refreshTokenDays := days
  loginErrorLimit := 5
  loginErrorWindowSeconds := 86400
  logLevel := .info
  secureCookies := false

theorem isVisible_of_isDigit {c : Char} (h : c.isDigit = true) : Http.IsVisible c := by
  simp only [Char.isDigit, Bool.and_eq_true, decide_eq_true_eq, UInt32.le_iff_toNat_le] at h
  exact ⟨Nat.lt_of_lt_of_le (by decide) h.1, Nat.lt_of_le_of_lt h.2 (by decide)⟩

theorem trim_ofInt (z : Int) : Text.trim (Decimal.ofInt z) = Decimal.ofInt z := by
  have hnotBlank : ∀ c ∈ (Decimal.ofInt z).toList, Text.isBlank c = false := by
    intro c hc
    rcases Decimal.mem_ofInt hc with rfl | hdigit
    · decide
    · exact (isVisible_of_isDigit hdigit).not_blank
  rw [Text.trim, Text.trimChars_of_not_blank hnotBlank, String.ofList_toList]

/-- A lifetime of 64 bits is written in a text that stands for it. -/
theorem signed_trim_ofInt {z : Int} (h : FitsLong z) :
    Decimal.Signed Decimal.max63 (Text.trim (Decimal.ofInt z)).toList z := by
  obtain ⟨hleast, hgreatest⟩ := fitsLong_iff.mp h
  rw [trim_ofInt]
  exact Decimal.signed_ofInt hleast hgreatest

theorem read_lifetimesEnvironment {minutes days : Int} (hminutes : FitsLong minutes)
    (hdays : FitsLong days) :
    Settings.read (lifetimesEnvironment minutes days) = .ok (lifetimesSettings minutes days) := by
  refine Settings.read_eq_ok_iff.mpr fun v => ?_
  have hunset {v : Settings.Variable} (h : lifetimesEnvironment minutes days v.key = none)
      (raw : String) : ¬ v.IsSetTo (lifetimesEnvironment minutes days) raw := by
    rw [Settings.Variable.IsSetTo, h]
    simp
  cases v with
  | databaseUrl => exact .text rfl ⟨rfl, 'p', by decide, by decide⟩
  | secretKey => exact .text rfl ⟨rfl, 'k', by decide, by decide⟩
  | accessTokenMinutes => exact .text rfl (signed_trim_ofInt hminutes)
  | refreshTokenDays => exact .text rfl (signed_trim_ofInt hdays)
  | _ => exact .default (hunset rfl) rfl

theorem accepted_lifetimesSettings {minutes days : Int} (hminutes : FitsLong minutes)
    (hdays : FitsLong days) : Accepted (Config.ofSettings (lifetimesSettings minutes days)) :=
  ⟨_, _, read_lifetimesEnvironment hminutes hdays, rfl⟩

theorem accepted_iff_fitsLong {minutes days : Int} :
    (∃ c, Accepted c ∧ c.accessTokenMinutes = minutes ∧ c.refreshTokenDays = days) ↔
      FitsLong minutes ∧ FitsLong days := by
  constructor
  · rintro ⟨_, ⟨env, s, hread, rfl⟩, rfl, rfl⟩
    exact fitsLong_of_read hread
  · rintro ⟨hminutes, hdays⟩
    exact ⟨_, accepted_lifetimesSettings hminutes hdays, rfl, rfl⟩

/-- The lifetimes that are accepted are numbers of 64 bits, and they are sent as they are. Only
those that fit an integer of 32 bits are of use: with others no request for tokens gets any, if the
database does not cast what does not fit; with these it has nothing to refuse, the lifetime of
a cookie can be counted in seconds, and whether tokens are issued does not depend on the
lifetimes. -/
theorem tokens_need_fitting_lifetimes {c : Config} (hc : Accepted c) (limiter : LoginLimiter)
    {e : Event} (h : AsksForTokens e.request) :
    let o := (handle c limiter e).1
    (FitsLong c.accessTokenMinutes ∧ FitsLong c.refreshTokenDays) ∧
    (∀ s ∈ o.log,
      (∀ token account address minutes,
        s = .insertSession token account address minutes → minutes = c.accessTokenMinutes) ∧
      ∀ token account days,
        s = .insertRefreshToken token account days → days = c.refreshTokenDays) ∧
    (¬ LifetimesFit c → RefusesOverflow (answered o.log e.replies) → Withheld c limiter e o) ∧
    (LifetimesFit c → RefusesOverflow (answered o.log e.replies) ∧
      FitsLong (c.accessTokenMinutes * 60) ∧
      ∀ minutes days, (∃ p : StoredPair, p.statements <:+ o.log) ↔
        ∃ p : StoredPair,
          p.statements <:+ (handle (c.withLifetimes minutes days) limiter e).1.log) := by
  refine ⟨accepted_iff_fitsLong.mp ⟨c, hc, rfl, rfl⟩, fun _ => lifetime_of_mem_log h,
    fun hfit hdatabase => withheld_of_not_fit h hdatabase hfit, fun hfit => ?_⟩
  refine ⟨refusesOverflow_of_fit h hfit, ?_, fun minutes days =>
    (stored_withLifetimes_iff minutes days h).symm⟩
  obtain ⟨⟨hleast, hgreatest⟩, -⟩ := hfit
  constructor <;> omega

/-- A login whose session the database does not store. -/
def refusedLogin : Event :=
  { rememberedLogin with replies := rememberedLogin.replies.take 3 ++ [.failure] }

/-- With lifetimes at the ends of 32 bits the login is answered as with the usual ones. A minute
more is accepted as well, but then the login gets an internal error. -/
theorem tokens_need_fitting_lifetimes_at_rememberedLogin :
    let usual := Config.ofSettings (lifetimesSettings 60 30)
    let oversized := Config.ofSettings (lifetimesSettings 0x80000000 30)
    let o := (handle oversized usual.limiter refusedLogin).1
    (∃ p : StoredPair, p.statements <:+
      (handle (usual.withLifetimes 0x7FFFFFFF (-0x80000000)) usual.limiter rememberedLogin).1.log) ∧
    Accepted oversized ∧ RefusesOverflow (answered o.log refusedLogin.replies) ∧
    o.response.status = 500 ∧ Withheld oversized usual.limiter refusedLogin o := by
  intro usual oversized o
  have hasks : AsksForTokens rememberedLogin.request := by
    unfold AsksForTokens
    decide +kernel
  have hstored : rememberedPair.statements <:+
      (handle usual usual.limiter rememberedLogin).1.log := by
    decide +kernel
  have hrefused : RefusesOverflow (answered o.log refusedLogin.replies) ∧
      o.response.status = 500 := by
    decide +kernel
  have husual : Accepted usual := accepted_lifetimesSettings (by decide) (by decide)
  have haccepted : Accepted oversized := accepted_lifetimesSettings (by decide) (by decide)
  obtain ⟨-, -, -, hfitting⟩ :=
    tokens_need_fitting_lifetimes husual usual.limiter (e := rememberedLogin) hasks
  obtain ⟨-, -, hoversized, -⟩ :=
    tokens_need_fitting_lifetimes haccepted usual.limiter (e := refusedLogin) hasks
  obtain ⟨-, -, hsame⟩ := hfitting (by decide)
  exact ⟨(hsame 0x7FFFFFFF (-0x80000000)).1 ⟨rememberedPair, hstored⟩, haccepted, hrefused.1,
    hrefused.2, hoversized (by decide) hrefused.1⟩

/-- With a lifetime that is one too large the settings are accepted, but no login can succeed: the
lifetime is sent as it is, and a database that does not cast it fails each request for tokens. -/
theorem no_tokens_with_oversized_lifetime :
    let c := Config.ofSettings (lifetimesSettings 0x80000000 30)
    Settings.read (lifetimesEnvironment 0x80000000 30) = .ok (lifetimesSettings 0x80000000 30) ∧
    (∃ s ∈ (handle c c.limiter refusedLogin).1.log, ∃ z ∈ casts s, ¬ FitsInt z) ∧
    ∀ (limiter : LoginLimiter) (e : Event), AsksForTokens e.request →
      RefusesOverflow (answered (handle c limiter e).1.log e.replies) →
      Withheld c limiter e (handle c limiter e).1 := by
  intro c
  refine ⟨read_lifetimesEnvironment (by decide) (by decide), by decide +kernel,
    fun limiter e h hdatabase => ?_⟩
  exact withheld_of_not_fit h hdatabase (by decide)

end Parley.Service
