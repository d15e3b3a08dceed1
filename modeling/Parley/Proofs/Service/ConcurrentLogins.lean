import Parley.Proofs.Service.LoginLimit

/-!
# Logins at one time

A login checks its address first and records a failure or resets the address later, with
words to the database in between, while other logins are under way. So more failures can be
recorded than the limit says: each login that has passed its check may add one.

A login is taken as an attempt that makes two moves. It checks its address, at a time that it
reads by itself, and if it passes it ends later in some way. The moves of all attempts may
come in any order.

* `login_cut`: a login is such an attempt, cut behind its check.
* `Bounded.step`: what is stored for an address and what is under way for it stay below the
  limit, but for as many as may be under way.
* `stored_failures_le`: so the limit is exceeded by less than may be under way at one time.
-/
namespace Parley

namespace LoginLimiter

variable {l : LoginLimiter}

theorem length_prune_le (window : Nat) (now : Int) (q : FailureQueue) :
    (q.prune window now).length ≤ q.length :=
  List.length_dropWhile_le _ _

theorem length_queue_check_le (l : LoginLimiter) (now : Int) (e e' : String) :
    ((l.check now e).2.queue e').length ≤ (l.queue e').length := by
  rw [queue_check]
  split
  · rename_i he
    exact he ▸ length_prune_le l.window now _
  · exact Nat.le_refl _

/-- An address that is let pass has less failures than the limit says. -/
theorem length_queue_check_lt (hlimit : 1 ≤ l.limit) {now : Int} {e : String}
    (h : (l.check now e).1 = .ok ()) : ((l.check now e).2.queue e).length < l.limit := by
  rw [check_eq_prune hlimit] at h
  rw [queue_check, if_pos rfl]
  by_contra hfull
  rw [if_pos (Nat.le_of_not_lt hfull)] at h
  cases h

theorem length_queue_recordFailure_le (h : (l.failures.map Prod.fst).Nodup) (now : Int)
    (e e' : String) : ((l.recordFailure now e).queue e').length ≤
      (l.queue e').length + if e = e' then 1 else 0 := by
  rw [recordFailure, queue_setQueue, queue_pruneAll h, queue_pruneAll h]
  have hprune := length_prune_le l.window now
  by_cases he : e' = e
  · subst he
    simpa using hprune (l.queue e')
  · rw [if_neg he]
    exact Nat.le_add_right_of_le (hprune (l.queue e'))

theorem length_queue_reset_le (l : LoginLimiter) (e e' : String) :
    ((l.reset e).queue e').length ≤ (l.queue e').length := by
  rw [queue_reset]
  split
  · exact Nat.zero_le _
  · exact Nat.le_refl _

end LoginLimiter

namespace Service

open Http (Request Response)
open Store (Reply)

/-! ## Attempts -/

/-- How an attempt ends that was let pass: it records a failure, at a time that it reads by
itself, resets its address, or leaves the limiter alone. -/
inductive Ending where
  | failed (now : Int)
  | cleared
  | silent
  deriving DecidableEq, Repr

def Ending.apply (email : String) (l : LoginLimiter) : Ending → LoginLimiter
  | failed now => l.recordFailure now email
  | cleared => l.reset email
  | silent => l

/-- How far an attempt has come. -/
inductive Stage where
  | waiting
  | passed
  | over
  deriving DecidableEq, Repr

structure Attempt where
  email : String
  stage : Stage := .waiting
  deriving DecidableEq, Repr

/-- Whether an attempt for an address has passed its check and is not over. -/
def Attempt.isUnderWay (email : String) (a : Attempt) : Bool :=
  decide (a.email = email) && decide (a.stage = .passed)

/-- What an attempt does at one time. -/
inductive Move where
  | check (now : Int)
  | finish (ending : Ending)
  deriving DecidableEq, Repr

/-- An attempt makes a move: the attempt and the limiter afterwards. Nothing comes of a move
that is not its next one. -/
def Attempt.move (a : Attempt) (l : LoginLimiter) : Move → Attempt × LoginLimiter
  | .check now =>
    if a.stage = .waiting then
      match l.check now a.email with
      | (.ok (), l) => ({ a with stage := .passed }, l)
      | (.error _, l) => ({ a with stage := .over }, l)
    else (a, l)
  | .finish ending =>
    if a.stage = .passed then ({ a with stage := .over }, ending.apply a.email l) else (a, l)

/-- A limiter, and the attempts that it is there for. -/
structure Traffic where
  limiter : LoginLimiter
  attempts : List Attempt
  deriving DecidableEq, Repr

namespace Traffic

/-- Attempts for some addresses, of which none has made a move. -/
def start (limit window : Nat) (emails : List String) : Traffic where
  limiter := { limit := limit, window := window }
  attempts := emails.map fun email => { email := email }

def step (t : Traffic) (i : Nat) (move : Move) : Traffic :=
  match t.attempts[i]? with
  | some a =>
    let (a, l) := a.move t.limiter move
    ⟨l, t.attempts.set i a⟩
  | none => t

/-- All that moves lead to, one after the other. -/
def states (t : Traffic) (moves : List (Nat × Move)) : List Traffic :=
  moves.scanl (fun t (i, move) => t.step i move) t

/-- How many attempts for an address have passed their check and are not over. -/
def underWay (t : Traffic) (email : String) : Nat :=
  t.attempts.countP (·.isUnderWay email)

end Traffic

/-! ## One move -/

theorem Ending.keys_apply {l : LoginLimiter} (h : (l.failures.map Prod.fst).Nodup) (email : String)
    (ending : Ending) : ((ending.apply email l).failures.map Prod.fst).Nodup := by
  cases ending with
  | failed now => exact LoginLimiter.keys_setQueue (LoginLimiter.keys_pruneAll h now) email _
  | cleared => exact LoginLimiter.keys_reset h email
  | silent => exact h

theorem Ending.limit_apply (email : String) (l : LoginLimiter) (ending : Ending) :
    (ending.apply email l).limit = l.limit := by
  cases ending <;> rfl

/-- An ending adds to what is stored for its own address only, and not more than one failure. -/
theorem Ending.length_apply_le {l : LoginLimiter} (h : (l.failures.map Prod.fst).Nodup)
    (email email' : String) (ending : Ending) : ((ending.apply email l).queue email').length ≤
      (l.queue email').length + if email = email' then 1 else 0 := by
  cases ending with
  | failed now => exact LoginLimiter.length_queue_recordFailure_le h now email email'
  | cleared => exact Nat.le_add_right_of_le (LoginLimiter.length_queue_reset_le l email email')
  | silent => exact Nat.le_add_right _ _

/-- An attempt makes no move that it is not at, or it checks its address and passes or is over,
or it ends. -/
theorem Attempt.move_cases (a : Attempt) (l : LoginLimiter) (move : Move) :
    a.move l move = (a, l) ∨
    (∃ now stage, a.move l move = ({ a with stage := stage }, (l.check now a.email).2) ∧
      a.stage = .waiting ∧ (stage = .over ∨ (l.check now a.email).1 = .ok ())) ∨
    ∃ ending, a.move l move = ({ a with stage := .over }, Ending.apply a.email l ending) ∧
      a.stage = .passed := by
  cases move with
  | check now =>
    by_cases hstage : a.stage = .waiting
    · refine .inr (.inl ?_)
      rw [Attempt.move, if_pos hstage]
      rcases hcheck : l.check now a.email with ⟨_ | _, l'⟩
      · exact ⟨now, .over, by rw [hcheck], hstage, .inl rfl⟩
      · exact ⟨now, .passed, by rw [hcheck], hstage, .inr (by rw [hcheck])⟩
    · exact .inl (if_neg hstage)
  | finish ending =>
    by_cases hstage : a.stage = .passed
    · exact .inr (.inr ⟨ending, if_pos hstage, hstage⟩)
    · exact .inl (if_neg hstage)

theorem Attempt.keys_move {l : LoginLimiter} (h : (l.failures.map Prod.fst).Nodup) (a : Attempt)
    (move : Move) : ((a.move l move).2.failures.map Prod.fst).Nodup ∧
      (a.move l move).2.limit = l.limit := by
  rcases a.move_cases l move with hmove | ⟨now, _, hmove, -⟩ | ⟨ending, hmove, -⟩ <;> rw [hmove]
  · exact ⟨h, rfl⟩
  · exact ⟨LoginLimiter.keys_check h a.email, (LoginLimiter.settings_check l now a.email).1⟩
  · exact ⟨ending.keys_apply h a.email, ending.limit_apply a.email l⟩

/-- A move does not add to what is stored and under way together, unless less is stored after
it than the limit says. -/
theorem Attempt.stored_move {l : LoginLimiter} (hkeys : (l.failures.map Prod.fst).Nodup)
    (hlimit : 1 ≤ l.limit) (a : Attempt) (move : Move) (email : String) :
    ((a.move l move).2.queue email).length + ((a.move l move).1.isUnderWay email).toNat ≤
        (l.queue email).length + (a.isUnderWay email).toNat ∨
      ((a.move l move).2.queue email).length < l.limit := by
  rcases a.move_cases l move with hmove | ⟨now, stage, hmove, -, hstage⟩ | ⟨ending, hmove, hpassed⟩
  · rw [hmove]
    exact .inl (Nat.le_refl _)
  · rw [hmove]
    by_cases hlow : ((l.check now a.email).2.queue email).length < l.limit
    · exact .inr hlow
    · -- so it was not let pass, or not for this address, and is not under way for it
      have hidle : Attempt.isUnderWay email { a with stage := stage } = false := by
        rcases hstage with rfl | hok
        · exact Bool.and_false _
        · have hemail : a.email ≠ email := fun h =>
            hlow (h ▸ LoginLimiter.length_queue_check_lt hlimit hok)
          simp [Attempt.isUnderWay, hemail]
      rw [hidle]
      exact .inl (Nat.le_add_right_of_le (LoginLimiter.length_queue_check_le l now a.email email))
  · rw [hmove]
    have hover : Attempt.isUnderWay email { a with stage := .over } = false := Bool.and_false _
    have hcounted : (a.isUnderWay email).toNat = if a.email = email then 1 else 0 := by
      by_cases hemail : a.email = email <;> simp [Attempt.isUnderWay, hpassed, hemail]
    rw [hover, hcounted]
    exact .inl (ending.length_apply_le hkeys a.email email)

/-! ## Runs -/

/-- No address is tracked twice, and what is stored for an address and under way for it stays
below the limit but for so many. -/
structure Bounded (limit m : Nat) (email : String) (t : Traffic) : Prop where
  keys : (t.limiter.failures.map Prod.fst).Nodup
  limit_eq : t.limiter.limit = limit
  few : (t.limiter.queue email).length + t.underWay email < limit + m

variable {limit m : Nat} {email : String}

theorem bounded_start (hlimit : 1 ≤ limit) (window : Nat) (emails : List String) (m : Nat)
    (email : String) : Bounded limit m email (Traffic.start limit window emails) where
  keys := .nil
  limit_eq := rfl
  few := by
    have hidle : (Traffic.start limit window emails).underWay email = 0 := by
      simp [Traffic.start, Traffic.underWay, Attempt.isUnderWay]
    rw [hidle]
    exact Nat.lt_of_lt_of_le hlimit (Nat.le_add_right _ _)

/-- What a move changes of how many are under way is what it changes of its own attempt. -/
theorem underWay_set {t : Traffic} {i : Nat} {a : Attempt} (hi : t.attempts[i]? = some a)
    (l : LoginLimiter) (a' : Attempt) (email : String) :
    (Traffic.mk l (t.attempts.set i a')).underWay email + (a.isUnderWay email).toNat =
      t.underWay email + (a'.isUnderWay email).toNat := by
  obtain ⟨hlt, hget⟩ := List.getElem?_eq_some_iff.mp hi
  have hcounted : (a.isUnderWay email).toNat ≤ t.attempts.countP (·.isUnderWay email) := by
    cases ha : a.isUnderWay email with
    | false => exact Nat.zero_le _
    | true => exact List.countP_pos_iff.mpr ⟨a, List.mem_of_getElem? hi, ha⟩
  have hite (b : Bool) : (if b = true then 1 else 0) = b.toNat := by cases b <;> rfl
  rw [Traffic.underWay, Traffic.underWay, List.countP_set hlt, hget, hite, hite]
  omega

/-- A move keeps the bound, if after it not too many are under way. -/
theorem Bounded.step {t : Traffic} (h : Bounded limit m email t) (hlimit : 1 ≤ limit) {i : Nat}
    {move : Move} (hm : (t.step i move).underWay email ≤ m) :
    Bounded limit m email (t.step i move) := by
  cases hi : t.attempts[i]? with
  | none =>
    have hstep : t.step i move = t := by rw [Traffic.step, hi]
    rwa [hstep]
  | some a =>
    have hstep : t.step i move =
        ⟨(a.move t.limiter move).2, t.attempts.set i (a.move t.limiter move).1⟩ := by
      rw [Traffic.step, hi]
    rw [hstep] at hm ⊢
    obtain ⟨hkeys, hsame⟩ := a.keys_move h.keys move
    refine ⟨hkeys, hsame.trans h.limit_eq, ?_⟩
    rcases a.stored_move h.keys (h.limit_eq ▸ hlimit) move email with hstored | hlow
    · have hfew := h.few
      have hset := underWay_set hi (a.move t.limiter move).2 (a.move t.limiter move).1 email
      dsimp only
      omega
    · exact Nat.add_lt_add_of_lt_of_le (h.limit_eq ▸ hlow) hm

theorem self_mem_states (t : Traffic) (moves : List (Nat × Move)) : t ∈ t.states moves := by
  cases moves with
  | nil => exact List.mem_singleton_self t
  | cons first moves =>
    rw [Traffic.states, List.scanl_cons]
    exact List.mem_cons_self

/-- The bound is kept by all moves, if not too many are ever under way. -/
theorem Bounded.states {t : Traffic} (h : Bounded limit m email t) (hlimit : 1 ≤ limit)
    {moves : List (Nat × Move)} (hm : ∀ t' ∈ t.states moves, t'.underWay email ≤ m) :
    ∀ t' ∈ t.states moves, Bounded limit m email t' := by
  induction moves generalizing t with
  | nil => simpa [Traffic.states] using h
  | cons first moves ih =>
    obtain ⟨i, move⟩ := first
    have hstates : t.states ((i, move) :: moves) = t :: (t.step i move).states moves :=
      List.scanl_cons
    rw [hstates] at hm ⊢
    obtain ⟨-, hrest⟩ := List.forall_mem_cons.mp hm
    have hfirst := h.step hlimit (hrest _ (self_mem_states _ moves))
    exact List.forall_mem_cons.mpr ⟨h, ih hfirst hrest⟩

/-! ## Logins -/

/-- A login is an attempt: it checks its address, and whatever others have done to the limiter
by then, what is left of it does to it what some ending does. -/
theorem login_cut {ctx : Context} {r : Request} {email : String} (h : loginEmail? r = some email) :
    ∃ rest, login ctx r = (Handler.checkLimiter ctx.now email >>= fun _ => rest) ∧
      ∀ x, ∃ ending : Ending, (run rest x).2.limiter = ending.apply email x.limiter := by
  obtain ⟨form, hform, hnormal⟩ := loginEmail?_eq_some h
  refine ⟨attempt ctx r form email, login_of_form hform hnormal, fun x => ?_⟩
  have hended := ended_attempt ctx r form email x
  change ∃ ending : Ending, (finish (attempt ctx r form email) x).2 = ending.apply email x.limiter
  generalize finish (attempt ctx r form email) x = last at hended ⊢
  cases hended with
  | cleared => exact ⟨.cleared, rfl⟩
  | failed => exact ⟨.failed ctx.now, rfl⟩
  | other => exact ⟨.silent, rfl⟩

/-- Each login is an attempt. When attempts for any addresses make their moves in any order, at
any times, and no more than so many of those for one address are ever under way, then what is
stored for it is never more than one less than the limit and as many again. -/
theorem stored_failures_le :
    (∀ (ctx : Context) (r : Request) (email : String), loginEmail? r = some email →
      ∃ rest, login ctx r = (Handler.checkLimiter ctx.now email >>= fun _ => rest) ∧
        ∀ x, ∃ ending : Ending, (run rest x).2.limiter = ending.apply email x.limiter) ∧
    ∀ (limit window : Nat) (emails : List String) (moves : List (Nat × Move)) (email : String)
      (m : Nat), 1 ≤ limit →
      (∀ t ∈ (Traffic.start limit window emails).states moves, t.underWay email ≤ m) →
      ∀ t ∈ (Traffic.start limit window emails).states moves,
        (t.limiter.queue email).length ≤ limit - 1 + m := by
  refine ⟨fun _ _ _ => login_cut, fun limit window emails moves email m hlimit hm t ht => ?_⟩
  have hfew := ((bounded_start hlimit window emails m email).states hlimit hm t ht).few
  omega

/-- A failure that is recorded alone, and three attempts that pass their checks before any of
them ends, two of them for the address that has failed. The clock goes back between moves. -/
def crowdedMoves : List (Nat × Move) := [
  (0, .check 0), (0, .finish (.failed 0)), (1, .check 5), (2, .check 3), (3, .check 4),
  (1, .finish (.failed 9)), (3, .finish (.failed 1)), (2, .finish (.failed 2)), (4, .check 9)]

theorem stored_failures_le_of_crowdedMoves :
    let ann := "ann@example.org"
    let e := loginEvent ann 0 []
    let c : Config := ⟨"key", 60, 30, 2, 60, false⟩
    let t := Traffic.start 2 60000 [ann, ann, ann, "bob@example.org", ann]
    loginEmail? e.request = some ann ∧
    (∃ rest, login (c.context e) e.request = (Handler.checkLimiter 0 ann >>= fun _ => rest)) ∧
    1 ≤ 2 ∧ (∀ s ∈ t.states crowdedMoves, s.underWay ann ≤ 2) ∧
    (∀ s ∈ t.states crowdedMoves, (s.limiter.queue ann).length ≤ 2 - 1 + 2) ∧
    ∃ s ∈ t.states crowdedMoves, (s.limiter.queue ann).length = 3 := by
  intro ann e c t
  obtain ⟨hcut, hstored⟩ := stored_failures_le
  have hemail : loginEmail? e.request = some ann := by decide +kernel
  have hm : ∀ s ∈ t.states crowdedMoves, s.underWay ann ≤ 2 := by decide
  obtain ⟨rest, hlogin, -⟩ := hcut (c.context e) e.request ann hemail
  exact ⟨hemail, ⟨rest, hlogin⟩, by decide, hm,
    hstored 2 60000 _ crowdedMoves ann 2 (by decide) hm, by decide⟩

end Service

end Parley
