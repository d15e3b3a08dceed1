import Mathlib.Data.List.Nodup
import Parley.Proofs.Account.Isolation

/-!
# What a limiter retains

A check drops what has aged out from the front of one queue, a failure from the front of all of
them, and a reset drops a queue as a whole. With a limit of one or more, what is retained is
nevertheless told by the history alone.

* `Retains`: an address that is tracked has failures left, in order, and these are the end of its
  history with all that lies in the window; an address that is not tracked has none in the window.
* `RetainsWindow`: what is retained is what lies in the window, and nothing else.
* `StandsTidy.step`: each operation keeps the queues at the end of the histories, and none empty.
* `retains_ends_of_histories`: so the first holds after every run, and the second after a failure.
-/
namespace Parley

namespace LoginLimiter

variable {l : LoginLimiter}

theorem queue_of_mem (h : (l.failures.map Prod.fst).Nodup) {e : String} {q : FailureQueue}
    (hmem : (e, q) ∈ l.failures) : l.queue e = q := by
  cases hq : l.failures.lookup e with
  | none => simpa using List.lookup_eq_none_iff.mp hq _ hmem
  | some q' =>
    obtain ⟨-, rfl⟩ := Prod.mk.inj (List.inj_on_of_nodup_map h hmem (mem_of_lookup hq) rfl)
    exact queue_of_lookup hq

theorem Occupied.mem_keys_iff (h : l.Occupied) (e : String) :
    e ∈ l.failures.map Prod.fst ↔ l.queue e ≠ [] := by
  rw [← h.isSome_lookup_iff, List.lookup_isSome_iff]
  simp

/-- Where no address is tracked without a failure, there are no more addresses than times. -/
theorem length_le_length_flatMap {fs : List (String × FailureQueue)} (h : ∀ f ∈ fs, f.2 ≠ []) :
    fs.length ≤ (fs.flatMap Prod.snd).length := by
  induction fs with
  | nil => exact Nat.zero_le _
  | cons f fs ih =>
    obtain ⟨hf, hfs⟩ := List.forall_mem_cons.mp h
    have hpos := List.length_pos_iff.mpr hf
    have hrest := ih hfs
    rw [List.flatMap_cons, List.length_append, List.length_cons]
    omega

end LoginLimiter

namespace SharedLimiter

open LoginLimiter (inWindow recent)

/-! ## What is retained -/

def after (s : SharedLimiter) (ops : List Op) : SharedLimiter :=
  ops.foldl (fun s op => (s.step op).2) s

/-- What is retained after operations: of each address that is tracked the end of its history, with
all that lies in the window by the latest reading of the clock. -/
structure Retains (window : Nat) (ops : List Op) (failures : List (String × FailureQueue)) :
    Prop where
  keys : (failures.map Prod.fst).Nodup
  occupied : ∀ {email q}, (email, q) ∈ failures → q ≠ []
  sorted : ∀ {email q}, (email, q) ∈ failures → q.Pairwise (· ≤ ·)
  suffix : ∀ {email q}, (email, q) ∈ failures → ∃ dropped, failureTimes ops email = dropped ++ q ∧
    ∀ now ∈ (readings ops).getLast?, ∀ t ∈ dropped, (window : Int) < now - t
  untracked : ∀ {email}, email ∉ failures.map Prod.fst →
    ∀ now ∈ (readings ops).getLast?, ∀ t ∈ failureTimes ops email, (window : Int) < now - t

/-- What is retained is what lies in the window at a time. So there are no more times, of all
addresses together, than failures in the window. -/
structure RetainsWindow (window : Nat) (now : Int) (ops : List Op)
    (failures : List (String × FailureQueue)) : Prop where
  tracked_iff : ∀ email,
    email ∈ failures.map Prod.fst ↔ ∃ t ∈ failureTimes ops email, now - t ≤ window
  queue_eq : ∀ {email q}, (email, q) ∈ failures → q = inWindow window now (failureTimes ops email)
  few : failures.length ≤ (failures.flatMap Prod.snd).length ∧
    (failures.flatMap Prod.snd).length ≤ recent window now (recorded ops)

/-! ## How much is retained -/

/-- Another history for one address adds to the count what it adds for that address. -/
theorem countP_update_le {p : Int → Bool} {history : String → List Int} {e : String}
    {ts : List Int} {more : Nat} (hts : ts.countP p ≤ (history e).countP p + more)
    {es : List String} (hes : es.Nodup) :
    (es.flatMap (Function.update history e ts)).countP p ≤
      (es.flatMap history).countP p + more := by
  induction es with
  | nil => exact Nat.zero_le _
  | cons k es ih =>
    obtain ⟨hk, hes⟩ := List.nodup_cons.mp hes
    rw [List.flatMap_cons, List.flatMap_cons, List.countP_append, List.countP_append]
    by_cases he : k = e
    · -- the address does not come again
      have hrest : ∀ e' ∈ es, Function.update history e ts e' = history e' :=
        fun e' he' => Function.update_of_ne (fun h => hk (he.trans h.symm ▸ he')) _ _
      rw [he, Function.update_self, List.flatMap_congr hrest]
      omega
    · rw [Function.update_of_ne he]
      have := ih hes
      omega

/-- In the histories of different addresses together there is no more than was recorded. -/
theorem countP_failureTimes_le (p : Int → Bool) (ops : List Op) {es : List String}
    (hes : es.Nodup) : (es.flatMap (failureTimes ops)).countP p ≤ (recorded ops).countP p := by
  induction ops using List.reverseRecOn with
  | nil =>
    have hnone : es.flatMap (failureTimes []) = [] := List.flatMap_eq_nil_iff.mpr fun _ _ => rfl
    rw [hnone]
    exact Nat.zero_le _
  | append_singleton ops op ih =>
    rw [recorded_append_singleton, List.countP_append]
    obtain ⟨via, act⟩ := op
    cases act with
    | clone =>
      rw [failureTimes_clone]
      exact Nat.le_add_right_of_le ih
    | check e now =>
      rw [failureTimes_check]
      exact Nat.le_add_right_of_le ih
    | reset e =>
      rw [failureTimes_reset]
      exact Nat.le_trans (countP_update_le (Nat.zero_le _) hes) (Nat.add_le_add_right ih _)
    | fail e now =>
      rw [failureTimes_fail]
      refine Nat.le_trans (countP_update_le ?_ hes) (Nat.add_le_add_right ih _)
      exact Nat.le_of_eq List.countP_append

/-! ## One operation -/

variable {limit window : Nat} {s : SharedLimiter} {now : Int} {past : List Op}

/-- The clones stand for the history, no address is tracked without a failure, and behind a
failure the queues hold what lies in the window. -/
structure StandsTidy (limit window : Nat) (s : SharedLimiter) (now : Int) (past : List Op) : Prop
    extends Stands limit window s now past where
  occupied : (LoginLimiter.mk limit window s.failures).Occupied
  recent : ∀ {via email t}, past.getLast? = some ⟨via, .fail email t⟩ →
    ∀ e, (LoginLimiter.mk limit window s.failures).queue e = inWindow window t (failureTimes past e)

theorem standsTidy_start (limit window : Nat) (now : Int) :
    StandsTidy limit window (start limit window) now [] where
  toStands := stands_start limit window now
  occupied _ hf := by cases hf
  recent h := by cases h

/-- An operation keeps the clones true to the history, and the queues tidy. -/
theorem StandsTidy.step (h : StandsTidy limit window s now past) (hlimit : 1 ≤ limit) {op : Op}
    (hvia : op.via < s.clones.length) (hle : ∀ t ∈ op.act.clock?, now ≤ t) :
    StandsTidy limit window (s.step op).2 (op.act.after now) (past ++ [op]) ∧
      (s.step op).2.clones.length = clonesAfter s.clones.length op.act := by
  obtain ⟨hstands, hlength⟩ := h.toStands.step hvia hle
  refine ⟨⟨hstands, ?_, ?_⟩, hlength⟩
  · rw [h.toStands.step_eq hvia]
    obtain ⟨via, act⟩ := op
    cases act with
    | clone => exact h.occupied
    | fail email t => exact LoginLimiter.occupied_recordFailure _ t email
    | check email t => exact h.occupied.check hlimit t email
    | reset email => exact h.occupied.reset email
  · -- nothing is asked of the queues unless this operation is the failure
    intro via email t hfail e
    obtain rfl := Option.some.inj (List.getLast?_concat.symm.trans hfail)
    rw [h.toStands.step_eq hvia, failureTimes_fail]
    exact (h.tracks.mono (hle t rfl)).queue_recordFailure email e

/-! ## Runs -/

def latest (now : Int) (ops : List Op) : Int :=
  (readings ops).getLast?.getD now

theorem latest_cons (now : Int) (op : Op) (ops : List Op) :
    latest now (op :: ops) = latest (op.act.after now) ops := by
  rw [latest, readings_cons, List.getLast?_append]
  cases h : (readings ops).getLast? with
  | none => cases hop : op.act.clock? <;> simp [latest, Act.after, h, hop]
  | some t => simp [latest, h]

theorem StandsTidy.after (h : StandsTidy limit window s now past) (hlimit : 1 ≤ limit)
    {ops : List Op} (hops : Continues s.clones.length now ops) :
    StandsTidy limit window (s.after ops) (latest now ops) (past ++ ops) := by
  induction ops generalizing s now past with
  | nil => rwa [List.append_nil]
  | cons op ops ih =>
    obtain ⟨hvia, hnow, hrest⟩ := hops.cons
    obtain ⟨hkept, hlength⟩ := h.step hlimit hvia hnow
    have hrun := ih hkept (hlength ▸ hrest)
    rwa [List.append_assoc, ← latest_cons] at hrun

/-- Tidy queues are the ends of the histories. -/
theorem StandsTidy.retains (h : StandsTidy limit window s (latest now past) past) :
    Retains window past s.failures := by
  have hlatest {t : Int} (ht : t ∈ (readings past).getLast?) : latest now past = t := by
    rw [latest, Option.mem_def.mp ht, Option.getD_some]
  refine ⟨h.tracks.keys, fun hmem => h.occupied _ hmem, fun {email q} hmem => ?_,
    fun {email q} hmem => ?_, fun {email} hmem t ht => ?_⟩
  · exact LoginLimiter.queue_of_mem h.tracks.keys hmem ▸ h.tracks.queue_sorted email
  · obtain ⟨dropped, heq, hdropped⟩ := h.tracks.queue email
    rw [LoginLimiter.queue_of_mem h.tracks.keys hmem] at heq
    exact ⟨dropped, heq, fun t ht => hlatest ht ▸ hdropped⟩
  · obtain ⟨dropped, heq, hdropped⟩ := h.tracks.queue email
    have hempty := not_not.mp (mt (h.occupied.mem_keys_iff email).mpr hmem)
    rw [heq, hempty, List.append_nil]
    exact hlatest ht ▸ hdropped

/-- Tidy queues behind a failure are what lies in the window. -/
theorem StandsTidy.retainsWindow (h : StandsTidy limit window s now past) {via : Nat}
    {email : String} {t : Int} (hlast : past.getLast? = some ⟨via, .fail email t⟩) :
    RetainsWindow window t past s.failures := by
  have hqueue {e : String} {q : FailureQueue} (hmem : (e, q) ∈ s.failures) :
      q = inWindow window t (failureTimes past e) :=
    (LoginLimiter.queue_of_mem h.tracks.keys hmem).symm.trans (h.recent hlast e)
  refine ⟨fun e => ?_, hqueue, ?_, ?_⟩
  · rw [h.occupied.mem_keys_iff e, h.recent hlast e, LoginLimiter.inWindow_ne_nil_iff]
  · exact LoginLimiter.length_le_length_flatMap h.occupied
  · have hstored : s.failures.flatMap Prod.snd =
        inWindow window t ((s.failures.map Prod.fst).flatMap (failureTimes past)) := by
      rw [inWindow, List.filter_flatMap, List.flatMap_map]
      exact List.flatMap_congr fun f hmem => hqueue hmem
    rw [hstored, LoginLimiter.length_inWindow]
    exact countP_failureTimes_le _ past h.tracks.keys

/-- After every run, by a clock that does not go back, an address that is tracked has the end of its
history left, in order, which is not empty and has all that lies in the window by then; and once a
failure was recorded, the addresses are tracked that have failures in the window, with these and no
others, so that those who failed before take up no room. -/
theorem retains_ends_of_histories {limit window : Nat} (hlimit : 1 ≤ limit) {ops : List Op}
    (h : Orderly ops) :
    Retains window ops ((start limit window).after ops).failures ∧
    ∀ via email now, ops.getLast? = some ⟨via, .fail email now⟩ →
      RetainsWindow window now ops ((start limit window).after ops).failures := by
  obtain ⟨before, hops⟩ := h.continues
  have hend := (standsTidy_start limit window before).after hlimit hops
  exact ⟨hend.retains, fun via email now hlast => hend.retainsWindow hlast⟩

/-- Failures of which some age out until a check of their address, and some until a failure of
another one, with a reset between two failures of a third. -/
def ageingRun : List Op := [
  ⟨0, .clone⟩, ⟨1, .fail "ann@example.org" 0⟩, ⟨0, .fail "bob@example.org" 10⟩,
  ⟨1, .fail "ann@example.org" 40⟩, ⟨0, .reset "bob@example.org"⟩, ⟨0, .fail "bob@example.org" 45⟩,
  ⟨1, .check "ann@example.org" 61⟩, ⟨0, .fail "cleo@example.org" 101⟩]

theorem retains_ends_in_ageingRun :
    let checked := ((start 2 60).after (ageingRun.take 7)).failures
    let failed := ((start 2 60).after ageingRun).failures
    1 ≤ 2 ∧ Orderly (ageingRun.take 7) ∧ Orderly ageingRun ∧
    ageingRun.getLast? = some ⟨0, .fail "cleo@example.org" 101⟩ ∧
    checked = [("ann@example.org", [40]), ("bob@example.org", [45])] ∧
    Retains 60 (ageingRun.take 7) checked ∧
    failed = [("cleo@example.org", [101]), ("bob@example.org", [45])] ∧
    RetainsWindow 60 101 ageingRun failed := by
  have hchecked : Orderly (ageingRun.take 7) := ⟨by decide, by decide⟩
  have hfailed : Orderly ageingRun := ⟨by decide, by decide⟩
  refine ⟨by decide, hchecked, hfailed, rfl, by decide, ?_, by decide, ?_⟩
  · exact (@retains_ends_of_histories 2 60 (by decide) _ hchecked).1
  · exact (@retains_ends_of_histories 2 60 (by decide) _ hfailed).2 0 "cleo@example.org" 101 rfl

end SharedLimiter

end Parley
