import Parley.Proofs.Account.SlidingWindow

/-!
# Whether addresses are isolated from each other

A failure of any address prunes the queues of all of them and drops those of which nothing is
left. With a limit of one or more this does not show in a check of an address. With the limit
zero it does: there an address is refused for as long as it is tracked, even with an empty
queue, and whether it is still tracked depends on the failures of the others.

* `Lingers`: a failure of the address had not aged out at any failure since, of whomever.
* `StandsShut.answer_check`: with the limit zero an address is refused exactly if one lingers.
* `isolated_iff`: leaving out what was done to the others changes no answer exactly if the
  limit is one or more, or no failure that lingers without the others fails to linger with them.
-/
namespace Parley

namespace LoginLimiter

variable {l : LoginLimiter}

/-- An address is still tracked after the queues were pruned exactly if one of its failures has
not aged out. -/
theorem Tracks.tracked_pruneAll {now : Int} {history : String → List Int}
    (h : Tracks l now history) (e : String) :
    ((l.pruneAll now).failures.lookup e).isSome = true ↔
      ∃ t ∈ history e, now - t ≤ l.window := by
  rw [(occupied_pruneAll l now).isSome_lookup_iff, queue_pruneAll h.keys, h.prune_queue,
    inWindow_ne_nil_iff]

/-- With the limit zero a tracked address is refused, and is tracked as long as it was. -/
theorem check_of_limit_zero (h : l.limit = 0) (now : Int) (e : String) :
    (l.check now e).1 = (if (l.failures.lookup e).isSome then .error l.refusal else .ok ()) ∧
    ∀ e', ((l.check now e).2.failures.lookup e').isSome = (l.failures.lookup e').isSome := by
  cases hq : l.failures.lookup e with
  | none =>
    rw [check_of_untracked hq]
    exact ⟨rfl, fun _ => rfl⟩
  | some q =>
    have hcheck : l.check now e = (.error l.refusal, l.setQueue e (q.prune l.window now)) := by
      unfold check
      rw [hq]
      exact if_pos (h ▸ Nat.zero_le _)
    rw [hcheck]
    refine ⟨rfl, fun e' => ?_⟩
    rw [lookup_setQueue]
    split
    · rename_i he
      rw [he, hq]
      rfl
    · rfl

end LoginLimiter

namespace SharedLimiter

/-! ## What is done to one address -/

/-- Whether an act is done to an address. Cloning is done to none, and counts for each. -/
def Act.concerns (email : String) : Act → Bool
  | clone => true
  | fail e _ => decide (e = email)
  | check e _ => decide (e = email)
  | reset e => decide (e = email)

/-- What is left when the operations on all other addresses are left out. -/
def alone (email : String) (ops : List Op) : List Op :=
  ops.filter (·.act.concerns email)

/-- The time of an act that checks an address. -/
def Act.check? (email : String) : Act → Option Int
  | check e now => if e = email then some now else none
  | _ => none

/-- The answers to the checks of an address, in order. -/
def checkAnswers (email : String) (s : SharedLimiter) (ops : List Op) :
    List (Option (Except LoginRefused Unit)) :=
  ((ops.zip (answers s ops)).filter fun (op, _) => (op.act.check? email).isSome).map Prod.snd

/-- The checks of an address among operations that follow others, each with all that was done
before it and its time. -/
def checksOf (email : String) : List Op → List Op → List (List Op × Int)
  | _, [] => []
  | past, op :: ops =>
    (op.act.check? email).toList.map (past, ·) ++ checksOf email (past ++ [op]) ops

theorem Act.eq_check {email : String} {act : Act} {t : Int} (h : act.check? email = some t) :
    act = .check email t := by
  cases act with
  | check e now =>
    obtain ⟨rfl, ⟨⟩⟩ := Option.ite_none_right_eq_some.mp h
    rfl
  | _ => cases h

/-- What is done to another address does not clone, is no check of this one and leaves no mark
on it. -/
theorem Act.other {email : String} {act : Act} (h : act.concerns email = false) :
    act ≠ .clone ∧ act.check? email = none ∧ act.mark? email = none := by
  cases act with
  | clone => cases h
  | _ => simp_all [concerns, check?, mark?]

theorem alone_cons_of_concerns {email : String} {op : Op} (h : op.act.concerns email = true)
    (ops : List Op) : alone email (op :: ops) = op :: alone email ops :=
  List.filter_cons_of_pos h

theorem alone_cons_of_not_concerns {email : String} {op : Op} (h : op.act.concerns email = false)
    (ops : List Op) : alone email (op :: ops) = alone email ops :=
  List.filter_cons_of_neg (ne_true_of_eq_false h)

theorem alone_append_singleton (email : String) (past : List Op) (op : Op) :
    alone email (past ++ [op]) =
      alone email past ++ if op.act.concerns email then [op] else [] := by
  rw [alone, List.filter_append, List.filter_singleton]
  cases op.act.concerns email <;> rfl

theorem failureTimes_alone (email : String) (ops : List Op) :
    failureTimes (alone email ops) email = failureTimes ops email := by
  have hmarks : marks (alone email ops) email = marks ops email := by
    rw [marks, alone, List.filterMap_filter]
    refine List.filterMap_congr fun op _ => ?_
    cases h : op.act.concerns email with
    | true => rfl
    | false => exact (Act.other h).2.2.symm
  rw [failureTimes, hmarks]
  rfl

/-- Alone an address is checked at the same times, after less. -/
theorem checksOf_alone (email : String) (past ops : List Op) :
    checksOf email (alone email past) (alone email ops) =
      (checksOf email past ops).map fun (before, t) => (alone email before, t) := by
  induction ops generalizing past with
  | nil => rfl
  | cons op ops ih =>
    rw [checksOf, List.map_append, ← ih, alone_append_singleton]
    cases h : op.act.concerns email with
    | true =>
      rw [alone_cons_of_concerns h, checksOf, List.map_map]
      rfl
    | false =>
      rw [alone_cons_of_not_concerns h, (Act.other h).2.1, if_neg Bool.false_ne_true,
        List.append_nil]
      rfl

theorem usesClones_alone {email : String} {count : Nat} {ops : List Op}
    (h : usesClones count ops = true) : usesClones count (alone email ops) = true := by
  induction ops generalizing count with
  | nil => rfl
  | cons op ops ih =>
    obtain ⟨hvia, hrest⟩ := Bool.and_eq_true_iff.mp h
    cases hop : op.act.concerns email with
    | true =>
      rw [alone_cons_of_concerns hop]
      exact Bool.and_eq_true_iff.mpr ⟨hvia, ih hrest⟩
    | false =>
      rw [alone_cons_of_not_concerns hop]
      rw [clonesAfter, if_neg (Act.other hop).1] at hrest
      exact ih hrest

theorem Orderly.alone {ops : List Op} (h : Orderly ops) (email : String) :
    Orderly (alone email ops) where
  clones := usesClones_alone h.clones
  clock := h.clock.sublist (List.filter_sublist.filterMap _)

/-! ## The limit zero -/

variable {window : Nat} {s : SharedLimiter} {now : Int} {past : List Op}

/-- The time of an act that records a failure. -/
def Act.recorded? : Act → Option Int
  | fail _ now => some now
  | _ => none

def recorded (ops : List Op) : List Int :=
  ops.filterMap (·.act.recorded?)

/-- Some failure of an address, since it was last reset, had not aged out at any of the
failures that were recorded. -/
def Lingers (window : Nat) (past : List Op) (email : String) : Prop :=
  ∃ t ∈ failureTimes past email, ∀ u ∈ recorded past, u - t ≤ window

instance (window : Nat) (past : List Op) (email : String) :
    Decidable (Lingers window past email) :=
  inferInstanceAs (Decidable (∃ t ∈ failureTimes past email, ∀ u ∈ recorded past, u - t ≤ window))

theorem recorded_append_singleton (past : List Op) (op : Op) :
    recorded (past ++ [op]) = recorded past ++ op.act.recorded?.toList := by
  cases h : op.act.recorded? <;> simp [recorded, h]

theorem lingers_unmarked {op : Op} {email : String} (hmark : op.act.mark? email = none)
    (hrecorded : op.act.recorded? = none) :
    Lingers window (past ++ [op]) email ↔ Lingers window past email := by
  rw [Lingers, failureTimes_unmarked hmark, recorded_append_singleton, hrecorded,
    Option.toList_none, List.append_nil]
  rfl

theorem lingers_fail (hearlier : ∀ u ∈ recorded past, u ≤ now) (via : Nat) (email : String) :
    Lingers window (past ++ [⟨via, .fail email now⟩]) email := by
  rw [Lingers, failureTimes_fail, Function.update_self, recorded_append_singleton]
  refine ⟨now, List.mem_append_right _ List.mem_cons_self, fun u hu => ?_⟩
  rcases List.mem_append.mp hu with hu | hu
  · have := hearlier u hu
    omega
  · cases List.mem_singleton.mp hu
    omega

/-- Once another address has failed, those failures linger that have not aged out then. -/
theorem lingers_fail_other (hearlier : ∀ u ∈ recorded past, u ≤ now) (via : Nat)
    {e email : String} (he : email ≠ e) : Lingers window (past ++ [⟨via, .fail e now⟩]) email ↔
      ∃ t ∈ failureTimes past email, now - t ≤ window := by
  rw [Lingers, failureTimes_fail, Function.update_of_ne he, recorded_append_singleton]
  refine exists_congr fun t => and_congr_right fun _ => ⟨fun h => ?_, fun h u hu => ?_⟩
  · exact h now (List.mem_append_right _ List.mem_cons_self)
  · rcases List.mem_append.mp hu with hu | hu
    · have := hearlier u hu
      omega
    · cases List.mem_singleton.mp hu
      exact h

theorem not_lingers_reset (via : Nat) (email : String) :
    ¬ Lingers window (past ++ [⟨via, .reset email⟩]) email := by
  rw [Lingers, failureTimes_reset, Function.update_self]
  exact fun ⟨_, ht, _⟩ => by cases ht

/-- With the limit zero the clones stand for the history, and an address is tracked for as long
as one of its failures lingers. -/
structure StandsShut (window : Nat) (s : SharedLimiter) (now : Int) (past : List Op) : Prop
    extends Stands 0 window s now past where
  earlier : ∀ u ∈ recorded past, u ≤ now
  tracked : ∀ email, (s.failures.lookup email).isSome = true ↔ Lingers window past email

theorem standsShut_start (window : Nat) (now : Int) :
    StandsShut window (start 0 window) now [] where
  toStands := stands_start 0 window now
  earlier _ h := by cases h
  tracked email := by simp [start, Lingers, failureTimes, marks]

theorem Act.le_after {act : Act} (hle : ∀ t ∈ act.clock?, now ≤ t) : now ≤ act.after now := by
  rw [after]
  cases ht : act.clock? with
  | none => exact Int.le_refl _
  | some t => exact hle t ht

theorem recorded_le_after {op : Op} (hearlier : ∀ u ∈ recorded past, u ≤ now)
    (hle : now ≤ op.act.after now) : ∀ u ∈ recorded (past ++ [op]), u ≤ op.act.after now := by
  intro u hu
  rw [recorded_append_singleton] at hu
  rcases List.mem_append.mp hu with hu | hu
  · exact Int.le_trans (hearlier u hu) hle
  · obtain ⟨via, act⟩ := op
    cases act with
    | fail e t => exact Int.le_of_eq (List.mem_singleton.mp hu)
    | _ => cases hu

/-- An operation keeps the clones true to the history, and the right addresses tracked. -/
theorem StandsShut.step (h : StandsShut window s now past) {op : Op}
    (hvia : op.via < s.clones.length) (hle : ∀ t ∈ op.act.clock?, now ≤ t) :
    StandsShut window (s.step op).2 (op.act.after now) (past ++ [op]) ∧
      (s.step op).2.clones.length = clonesAfter s.clones.length op.act := by
  obtain ⟨hstands, hlength⟩ := h.toStands.step hvia hle
  have hlater := Act.le_after hle
  refine ⟨⟨hstands, recorded_le_after h.earlier hlater, fun email => ?_⟩, hlength⟩
  rw [h.toStands.step_eq hvia]
  obtain ⟨via, act⟩ := op
  cases act with
  | clone => exact (h.tracked email).trans (lingers_unmarked rfl rfl).symm
  | fail e t =>
    have hearlier (u : Int) (hu : u ∈ recorded past) : u ≤ t :=
      Int.le_trans (h.earlier u hu) hlater
    change ((LoginLimiter.setQueue _ e _).failures.lookup email).isSome = true ↔ _
    rw [LoginLimiter.lookup_setQueue]
    by_cases he : email = e
    · rw [if_pos he, he]
      exact iff_of_true rfl (lingers_fail hearlier via e)
    · rw [if_neg he, lingers_fail_other hearlier via he]
      exact (h.tracks.mono hlater).tracked_pruneAll email
  | check e t =>
    have hkept := (LoginLimiter.check_of_limit_zero (l := ⟨0, window, s.failures⟩) rfl t e).2 email
    exact (Bool.eq_iff_iff.mp hkept).trans
      ((h.tracked email).trans (lingers_unmarked rfl rfl).symm)
  | reset e =>
    change ((LoginLimiter.reset _ e).failures.lookup email).isSome = true ↔ _
    rw [LoginLimiter.reset, LoginLimiter.lookup_filter_ne]
    by_cases he : email = e
    · rw [if_pos he, he]
      exact iff_of_false Bool.false_ne_true (not_lingers_reset via e)
    · have hmark : (Act.reset e).mark? email = none := if_neg (Ne.symm he)
      rw [if_neg he, lingers_unmarked hmark rfl]
      exact h.tracked email

/-- The answer that the history of an address calls for with the limit zero. -/
def shutVerdict (window : Nat) (past : List Op) (email : String) : Except LoginRefused Unit :=
  if Lingers window past email then .error ⟨0, window / 1000⟩ else .ok ()

/-- With the limit zero a check is refused exactly if a failure of its address lingers. -/
theorem StandsShut.answer_check (h : StandsShut window s now past) {via : Nat} {email : String}
    {t : Int} (hvia : via < s.clones.length) :
    (s.step ⟨via, .check email t⟩).1 = some (shutVerdict window past email) := by
  rw [h.toStands.step_eq hvia]
  have hcheck := (LoginLimiter.check_of_limit_zero (l := ⟨0, window, s.failures⟩) rfl t email).1
  simp only [h.tracked] at hcheck
  exact congrArg some hcheck

/-! ## The checks of an address -/

/-- The checks of an address in a run are answered by the history, if each check is and the
other operations keep what that rests on. -/
theorem checkAnswers_eq {I : SharedLimiter → Int → List Op → Prop} {email : String}
    {judge : List Op → Int → Except LoginRefused Unit}
    (hstep : ∀ {s now past op}, I s now past → op.via < s.clones.length →
      (∀ t ∈ op.act.clock?, now ≤ t) → I (s.step op).2 (op.act.after now) (past ++ [op]) ∧
        (s.step op).2.clones.length = clonesAfter s.clones.length op.act)
    (hanswer : ∀ {s now past via t}, I s now past → via < s.clones.length → now ≤ t →
      (s.step ⟨via, .check email t⟩).1 = some (judge past t))
    (h : I s now past) {ops : List Op} (hops : Continues s.clones.length now ops) :
    checkAnswers email s ops =
      (checksOf email past ops).map fun (before, t) => some (judge before t) := by
  induction ops generalizing s now past with
  | nil => rfl
  | cons op ops ih =>
    obtain ⟨hvia, hnow, hrest⟩ := hops.cons
    obtain ⟨hkept, hlength⟩ := hstep h hvia hnow
    have hothers := ih hkept (hlength ▸ hrest)
    obtain ⟨via, act⟩ := op
    rw [checksOf, List.map_append, ← hothers]
    cases hact : act.check? email with
    | none => simp [checkAnswers, answers, hact]
    | some t =>
      cases Act.eq_check hact
      simp [checkAnswers, answers, hact, hanswer h hvia (hnow t rfl)]

variable {limit : Nat} {email : String} {ops : List Op}

theorem checkAnswers_start (hlimit : 1 ≤ limit) (h : Orderly ops) :
    checkAnswers email (start limit window) ops = (checksOf email [] ops).map fun (before, t) =>
      some (verdict limit window before email t) := by
  obtain ⟨now, hops⟩ := h.continues
  exact checkAnswers_eq (fun h => h.step) (fun h => h.answer_check hlimit)
    (stands_start limit window now) hops

theorem checkAnswers_start_zero (h : Orderly ops) :
    checkAnswers email (start 0 window) ops = (checksOf email [] ops).map fun (before, _) =>
      some (shutVerdict window before email) := by
  obtain ⟨now, hops⟩ := h.continues
  exact checkAnswers_eq (fun h => h.step) (fun h hvia _ => h.answer_check hvia)
    (standsShut_start window now) hops

/-- The failures of the others can only make less linger. -/
theorem Lingers.alone (h : Lingers window past email) :
    Lingers window (alone email past) email := by
  obtain ⟨t, ht, hfresh⟩ := h
  refine ⟨t, failureTimes_alone email past ▸ ht, fun u hu => hfresh u ?_⟩
  exact (List.filter_sublist.filterMap _).subset hu

/-- An address gets the same answer without the others exactly if what lingers without them does
so with them. -/
theorem shutVerdict_alone : shutVerdict window (alone email past) email =
    shutVerdict window past email ↔
      (Lingers window (alone email past) email → Lingers window past email) := by
  unfold shutVerdict
  by_cases hpast : Lingers window past email
  · simp [hpast, hpast.alone]
  · simp [hpast]

/-- The answers to the checks of an address stay as they are when everything that is done to
other addresses is left out, exactly if the limit is one or more, or else each time the address
is checked, a failure of its own that lingers without the others lingers with them. -/
theorem isolated_iff (limit window : Nat) (email : String) {ops : List Op} (h : Orderly ops) :
    checkAnswers email (start limit window) (alone email ops) =
        checkAnswers email (start limit window) ops ↔
      1 ≤ limit ∨ ∀ before t, (before, t) ∈ checksOf email [] ops →
        Lingers window (alone email before) email → Lingers window before email := by
  have hchecks : checksOf email [] (alone email ops) = _ := checksOf_alone email [] ops
  rcases Nat.eq_zero_or_pos limit with rfl | hlimit
  · rw [checkAnswers_start_zero h, checkAnswers_start_zero (h.alone email), hchecks, List.map_map,
      List.map_inj_left, or_iff_right (Nat.not_succ_le_zero 0)]
    simp only [Function.comp_apply, Option.some.injEq, shutVerdict_alone, Prod.forall]
  · refine iff_of_true ?_ (Or.inl hlimit)
    rw [checkAnswers_start hlimit h, checkAnswers_start hlimit (h.alone email), hchecks,
      List.map_map]
    refine List.map_congr_left fun (before, t) _ => ?_
    simp only [Function.comp_apply, verdict, failureTimes_alone]

/-- A failure of one address that is followed by a failure of another one, once it has aged
out. -/
def agedRun : List Op := [
  ⟨0, .fail "ann@example.org" 0⟩, ⟨0, .fail "bob@example.org" 100⟩,
  ⟨0, .check "ann@example.org" 100⟩]

theorem isolated_in_agedRun :
    let ann := "ann@example.org"
    Orderly agedRun ∧
    checkAnswers ann (start 1 10) (alone ann agedRun) = checkAnswers ann (start 1 10) agedRun ∧
    checkAnswers ann (start 0 100) (alone ann agedRun) = checkAnswers ann (start 0 100) agedRun ∧
    checkAnswers ann (start 0 100) agedRun = [some (.error ⟨0, 0⟩)] := by
  intro ann
  have hrun : Orderly agedRun := ⟨by decide, by decide⟩
  refine ⟨hrun, (isolated_iff 1 10 ann hrun).mpr (Or.inl (Nat.le_refl 1)), ?_, by decide⟩
  refine (isolated_iff 0 100 ann hrun).mpr (Or.inr fun before t hcheck _ => ?_)
  have hchecks : checksOf ann [] agedRun = [(agedRun.take 2, 100)] := by decide
  rw [hchecks] at hcheck
  cases List.mem_singleton.mp hcheck
  decide

/-- With the limit zero a failure of another address lets one in that is refused without it. -/
theorem let_in_by_failure_of_another :
    let ann := "ann@example.org"
    Orderly agedRun ∧
    checkAnswers ann (start 0 10) agedRun = [some (.ok ())] ∧
    checkAnswers ann (start 0 10) (alone ann agedRun) = [some (.error ⟨0, 0⟩)] :=
  ⟨⟨by decide, by decide⟩, by decide, by decide⟩

end SharedLimiter

end Parley
