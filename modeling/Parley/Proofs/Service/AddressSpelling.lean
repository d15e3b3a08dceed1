import Parley.Proofs.Account.Email
import Parley.Proofs.Service.ConcurrentLogins
import Parley.Proofs.Service.StatementPlan

/-!
# Spellings of an address at a login

A login is made under one key, the normal form of its address: the limiter is asked about it, what
is recorded or reset is recorded or reset for it, and the account is looked up by it. So it does
not matter how the address is spelled, and addresses that differ in more than their spelling have
nothing to do with each other.

* `handle_respelled`: logins that differ in the spelling of their address are handled alike.
* `servedUnder_of_normalize?`: a login uses no key but its own.
* `one_key_for_all_spellings`: which spellings there are of a key, and what logins do with it.
-/
namespace Parley.Service

open Email (Canonical IsAddress SameAddress normalize?)
open Handler (exec)
open Http (Request)
open Store (Row Statement)

/-! ## One key -/

/-- What a login does with the limiter and which account it asks for, under one key. -/
structure ServedUnder (c : Config) (limiter : LoginLimiter) (e : Event) (key : String) : Prop where
  refused : (handle c limiter e).1.response.status = 429 ↔ (limiter.check e.now key).1 ≠ .ok ()
  counted : ∃ ending : Ending,
    (handle c limiter e).2 = ending.apply key (limiter.check e.now key).2
  silent : (limiter.check e.now key).1 ≠ .ok () → (handle c limiter e).1.log = []
  lookedUp : (limiter.check e.now key).1 = .ok () → ∃ rest,
    (handle c limiter e).1.log = .accountByEmail key :: rest ∧
      ∀ other, .accountByEmail other ∉ rest

/-- What is left of a login behind its check begins with the question for the account, and what
follows asks for no other. -/
theorem log_attempt (ctx : Context) (r : Request) (form : LoginForm) (key : String)
    (x : Exchange) : ∃ rest,
      (exec (attempt ctx r form key) x).2.log = x.log ++ .accountByEmail key :: rest ∧
        rest.map Statement.blank <+:
          (.tenantCount default :: .recordLogin default none :: pairPlan) := by
  have hasks := Handler.asks_required (s := .accountByEmail key) rfl
    AccountError.notFound.api Row.account?
  rw [attempt_eq]
  rcases hx : x.replies with _ | ⟨reply, replies⟩
  · rw [Handler.exec_bind_error (hasks.nil x hx)]
    exact ⟨[], rfl, List.nil_prefix⟩
  have hcons := hasks.cons x reply replies hx
  cases hread : Handler.readRequired AccountError.notFound.api Row.account? reply with
  | error failure =>
    rw [hread] at hcons
    rw [Handler.exec_bind_error hcons]
    exact ⟨[], rfl, List.nil_prefix⟩
  | ok account =>
    rw [hread] at hcons
    obtain ⟨sent, hlog, hsent⟩ := follows_proceed ctx r form key account
      { x with log := x.log ++ [.accountByEmail key], replies := replies }
    rw [Handler.exec_bind_ok hcons, hlog]
    exact ⟨sent, List.append_assoc .., hsent⟩

section

variable {c : Config} {limiter : LoginLimiter} {e : Event} {form : LoginForm} {key : String}

theorem loginEmail?_of_form (hform : loginForm? e.request = some form)
    (hkey : normalize? form.email = some key) : loginEmail? e.request = some key := by
  rw [loginEmail?, hform]
  exact hkey

/-- What a login does to the limiter behind its check it does under its key. -/
theorem exists_ending (hform : loginForm? e.request = some form)
    (hkey : normalize? form.email = some key) : ∃ ending : Ending,
      (handle c limiter e).2 = ending.apply key (limiter.check e.now key).2 := by
  cases hcheck : (limiter.check e.now key).1 with
  | error refusal =>
    exact ⟨.silent, (handle_refused (loginEmail?_of_form hform hkey) hcheck).2.2⟩
  | ok _ =>
    have hended := handle_passed (c := c) hform hkey hcheck
    generalize (handle c limiter e).1.response = response at hended
    generalize (handle c limiter e).2 = limiter' at hended ⊢
    cases hended with
    | cleared => exact ⟨.cleared, rfl⟩
    | failed => exact ⟨.failed e.now, rfl⟩
    | other => exact ⟨.silent, rfl⟩

/-- A login that is let pass asks for the account of its key first, and for no other account. -/
theorem log_of_passed (hform : loginForm? e.request = some form)
    (hkey : normalize? form.email = some key) (hcheck : (limiter.check e.now key).1 = .ok ()) :
    ∃ rest, (handle c limiter e).1.log = .accountByEmail key :: rest ∧
      ∀ other, .accountByEmail other ∉ rest := by
  obtain ⟨hroute, hmethod, -, -⟩ := loginForm?_eq_some hform
  obtain ⟨rest, hrest, hplan⟩ := log_attempt (c.context e) e.request form key
    { limiter := (limiter.check e.now key).2, replies := e.replies }
  refine ⟨rest, ?_, fun other hother => ?_⟩
  · rw [handle_login c limiter hroute hmethod, login_of_form hform hkey]
    show (run _ _).2.log = _
    rw [run_snd, Handler.exec_bind_ok (exec_checkLimiter_ok hcheck)]
    exact hrest
  · have hmem := hplan.subset (List.mem_map_of_mem hother)
    simp [pairPlan, Statement.blank] at hmem

/-- A login uses no key but the normal form of its address. -/
theorem servedUnder_of_normalize? (hform : loginForm? e.request = some form)
    (hkey : normalize? form.email = some key) : ServedUnder c limiter e key where
  refused := (refused_iff_check (loginEmail?_of_form hform hkey)).2
  counted := exists_ending hform hkey
  silent h := ((refused_iff_check (loginEmail?_of_form hform hkey)).1.mpr h).2
  lookedUp := log_of_passed hform hkey

end

/-! ## Other spellings -/

/-- The same login but for the spelling of its address. -/
structure Respelled (r r' : Request) (form : LoginForm) (address : String) : Prop where
  reads : loginForm? r = some form
  rereads : loginForm? r' = some { form with email := address }
  same : SameAddress form.email address
  client : r'.clientAddress? = r.clientAddress?

theorem Respelled.login_eq {r r' : Request} {form : LoginForm} {address : String}
    (h : Respelled r r' form address) (ctx : Context) : login ctx r' = login ctx r := by
  have hattempt (email : String) :
      attempt ctx r' { form with email := address } email = attempt ctx r form email := by
    simp only [attempt, h.client, rememberedSeconds]
  obtain ⟨-, -, hjson, hread⟩ := loginForm?_eq_some h.reads
  obtain ⟨-, -, hjson', hread'⟩ := loginForm?_eq_some h.rereads
  rw [Service.login_eq, Service.login_eq, body_of_readText hjson hread,
    body_of_readText hjson' hread', pure_bind, pure_bind]
  simp only [hattempt, Email.normalize?_congr h.same]

/-- Logins that differ in the spelling of their address only are handled alike. -/
theorem handle_respelled {e : Event} {r : Request} {form : LoginForm} {address : String}
    (h : Respelled e.request r form address) (c : Config) (limiter : LoginLimiter) :
    handle c limiter { e with request := r } = handle c limiter e := by
  obtain ⟨hroute, hmethod, -, -⟩ := loginForm?_eq_some h.reads
  obtain ⟨hroute', hmethod', -, -⟩ := loginForm?_eq_some h.rereads
  have hcontext : c.context { e with request := r } = c.context e := rfl
  rw [handle_login c limiter hroute hmethod,
    handle_login c limiter (e := { e with request := r }) hroute' hmethod']
  simp only [hcontext, h.login_eq]

/-- There is a key for just those texts that have one `@` between their blanks, with something on
either side of it. A key is in canonical form and its own key, and two texts have the same one if
they are the same between their blanks up to the case of letters, and not else. A login uses no key
but its own with the limiter and in asking for its account, and logins whose addresses have the
same key are handled alike. -/
theorem one_key_for_all_spellings :
    (∀ raw, (∃ key, normalize? raw = some key) ↔ IsAddress (Text.trimChars raw.toList)) ∧
    (∀ raw key, normalize? raw = some key → Canonical key ∧ normalize? key = some key) ∧
    (∀ raw raw' key key', normalize? raw = some key → normalize? raw' = some key' →
      (key = key' ↔ SameAddress raw raw')) ∧
    (∀ c limiter e form key, loginForm? e.request = some form →
      normalize? form.email = some key → ServedUnder c limiter e key) ∧
    (∀ c limiter e r form address, Respelled e.request r form address →
      handle c limiter { e with request := r } = handle c limiter e) :=
  ⟨fun _ => Email.exists_normalize?_iff,
    fun _ _ h => ⟨Email.canonical_of_normalize? h, Email.normalize?_normalize? h⟩,
    fun _ _ _ _ => Email.normalize?_eq_iff,
    fun _ _ _ _ _ => servedUnder_of_normalize?,
    fun c limiter _ _ _ _ h => handle_respelled h c limiter⟩

/-- An address with capital letters and blanks around it, of which one is not in ASCII. -/
def wideSpelling : String := "\u3000Ann@Example.ORG "

theorem one_key_for_wideSpelling :
    let c : Config := ⟨"key", 60, 30, 1, 900, false⟩
    let e := loginEvent "ann@example.org" 0 [.rows []]
    let r := (loginEvent wideSpelling 0 []).request
    let form : LoginForm := ⟨"ann@example.org", "p", false⟩
    normalize? wideSpelling = some "ann@example.org" ∧ Canonical "ann@example.org" ∧
    normalize? "anne@example.org" = some "anne@example.org" ∧
    ¬ SameAddress wideSpelling "anne@example.org" ∧
    Respelled e.request r form wideSpelling ∧
    handle c c.limiter { e with request := r } = handle c c.limiter e ∧
    loginForm? e.request = some form ∧ normalize? form.email = some "ann@example.org" ∧
    ServedUnder c c.limiter e "ann@example.org" := by
  intro c e r form
  obtain ⟨-, hcanonical, hsame, hserved, hrespelled⟩ := one_key_for_all_spellings
  have hwide : normalize? wideSpelling = some "ann@example.org" := by decide +kernel
  have hother : normalize? "anne@example.org" = some "anne@example.org" := by decide +kernel
  obtain ⟨hform, hkey⟩ := hcanonical _ _ hwide
  have hreads : loginForm? e.request = some form := by decide +kernel
  have hspelled : Respelled e.request r form wideSpelling := {
    reads := hreads
    rereads := by decide +kernel
    same := (hsame _ _ _ _ hkey hwide).mp rfl
    client := by decide +kernel }
  exact ⟨hwide, hform, hother, fun h => absurd ((hsame _ _ _ _ hwide hother).mpr h) (by decide),
    hspelled, hrespelled c _ e r form _ hspelled, hreads, hkey, hserved c _ e form _ hreads hkey⟩

end Parley.Service
