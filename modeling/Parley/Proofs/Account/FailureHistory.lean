import Mathlib.Data.List.TakeWhile
import Mathlib.Logic.Function.Basic
import Parley.Account.LoginLimiter

/-!
# The limiter and the history of failures

The limiter drops what has aged out, from one queue when it checks its address and from
all of them when it records a failure. Seen from the history of all failures since an
address was last reset, none of this shows: as the clock does not go back, what was
dropped is out of the window for good.

* `Tracks`: the limiter stands for a history, which is kept by each operation
  (`Tracks.check`, `Tracks.recordFailure`, `Tracks.reset`).
* `check_eq`: an address is refused exactly if so many of its failures lie in the window
  as the limit says.
-/
namespace Parley.LoginLimiter

def recent (window : Nat) (now : Int) (ts : List Int) : Nat :=
  ts.countP fun t => decide (now - t ≤ window)

def inWindow (window : Nat) (now : Int) (ts : List Int) : List Int :=
  ts.filter fun t => decide (now - t ≤ window)

/-- The limiter stands for the failures of each address up to now: of each history it has
dropped nothing but times at the front that have aged out. -/
structure Tracks (l : LoginLimiter) (now : Int) (history : String → List Int) : Prop where
  keys : (l.failures.map Prod.fst).Nodup
  sorted : ∀ e, (history e).Pairwise (· ≤ ·)
  past : ∀ e, ∀ t ∈ history e, t ≤ now
  queue : ∀ e, ∃ dropped, history e = dropped ++ l.queue e ∧
    ∀ t ∈ dropped, (l.window : Int) < now - t

/-! ## Queues -/

theorem lookup_filter_ne (e e' : String) (fs : List (String × FailureQueue)) :
    (fs.filter fun (k, _) => !(k == e)).lookup e' = if e' = e then none else fs.lookup e' := by
  induction fs with
  | nil => simp
  | cons f fs ih =>
    obtain ⟨k, q⟩ := f
    rw [List.filter_cons]
    by_cases hk : k = e
    · subst hk
      by_cases he : e' = k
      · subst he
        simpa using ih
      · have hne : (e' == k) = false := by simpa using he
        simpa [List.lookup_cons, he, hne] using ih
    · have hne : (k == e) = false := by simpa using hk
      simp only [hne, Bool.not_false, if_true, List.lookup_cons, ih]
      by_cases he : e' = k
      · subst he
        simp [hk]
      · have hne' : (e' == k) = false := by simpa using he
        simp [hne']

theorem queue_reset (l : LoginLimiter) (e e' : String) :
    (l.reset e).queue e' = if e' = e then [] else l.queue e' := by
  unfold queue reset
  rw [lookup_filter_ne]
  split <;> rfl

theorem lookup_setQueue (l : LoginLimiter) (e e' : String) (q : FailureQueue) :
    (l.setQueue e q).failures.lookup e' =
      if e' = e then some q else l.failures.lookup e' := by
  unfold setQueue reset
  rw [List.lookup_cons, lookup_filter_ne]
  by_cases h : e' = e
  · simp [h]
  · have hne : (e' == e) = false := by simpa using h
    simp [h, hne]

theorem queue_setQueue (l : LoginLimiter) (e e' : String) (q : FailureQueue) :
    (l.setQueue e q).queue e' = if e' = e then q else l.queue e' := by
  unfold queue
  rw [lookup_setQueue]
  split <;> rfl

theorem keys_reset {l : LoginLimiter} (h : (l.failures.map Prod.fst).Nodup) (e : String) :
    ((l.reset e).failures.map Prod.fst).Nodup :=
  List.Nodup.sublist (List.filter_sublist.map _) h

theorem keys_setQueue {l : LoginLimiter} (h : (l.failures.map Prod.fst).Nodup) (e : String)
    (q : FailureQueue) : ((l.setQueue e q).failures.map Prod.fst).Nodup := by
  unfold setQueue
  rw [List.map_cons, List.nodup_cons]
  refine ⟨fun hmem => ?_, keys_reset h e⟩
  obtain ⟨⟨k, q'⟩, hk, rfl⟩ := List.mem_map.mp hmem
  simp [reset] at hk

theorem lookup_eq_none {fs : List (String × FailureQueue)} {e : String}
    (h : e ∉ fs.map Prod.fst) : fs.lookup e = none := by
  rw [List.lookup_eq_none_iff]
  intro f hf
  have hne : e ≠ f.1 := fun he => h (he ▸ List.mem_map_of_mem hf)
  simpa using hne

/-- An address whose queue is left empty has an empty queue once it is dropped, as no
address is tracked twice. -/
theorem lookup_prune (window : Nat) (now : Int) {fs : List (String × FailureQueue)}
    (h : (fs.map Prod.fst).Nodup) (e : String) :
    (((fs.map fun (e, q) => (e, FailureQueue.prune window now q)).filter
      fun (_, q) => !q.isEmpty).lookup e).getD [] =
        FailureQueue.prune window now ((fs.lookup e).getD []) := by
  induction fs with
  | nil => rfl
  | cons f fs ih =>
    obtain ⟨k, q⟩ := f
    obtain ⟨hk, hfs⟩ := List.nodup_cons.mp h
    have hrest := ih hfs
    rw [List.map_cons, List.filter_cons, List.lookup_cons]
    by_cases he : e = k
    · subst he
      rw [lookup_eq_none hk] at hrest
      by_cases hempty : (FailureQueue.prune window now q).isEmpty
      · simp only [hempty, Bool.not_true, Bool.false_eq_true, if_false, beq_self_eq_true,
          Option.getD_some]
        rw [hrest, List.isEmpty_iff.mp hempty]
        rfl
      · simp [hempty]
    · have hne : (e == k) = false := by simpa using he
      simp only [hne]
      by_cases hempty : (FailureQueue.prune window now q).isEmpty
      · simpa [hempty] using hrest
      · simpa [hempty, List.lookup_cons, hne] using hrest

theorem queue_pruneAll {l : LoginLimiter} (h : (l.failures.map Prod.fst).Nodup) (now : Int)
    (e : String) : (l.pruneAll now).queue e = (l.queue e).prune l.window now :=
  lookup_prune l.window now h e

theorem keys_pruneAll {l : LoginLimiter} (h : (l.failures.map Prod.fst).Nodup) (now : Int) :
    ((l.pruneAll now).failures.map Prod.fst).Nodup := by
  have hkeys : ((l.failures.map fun (e, q) => (e, FailureQueue.prune l.window now q)).map
      Prod.fst) = l.failures.map Prod.fst := by
    rw [List.map_map]
    rfl
  exact List.Nodup.sublist (List.filter_sublist.map _) (hkeys ▸ h)

/-! ## Pruning -/

/-- Pruning drops times that have aged out, from the front. -/
theorem prune_eq (window : Nat) (now : Int) (q : FailureQueue) :
    ∃ dropped, q = dropped ++ q.prune window now ∧ ∀ t ∈ dropped, (window : Int) < now - t := by
  refine ⟨q.takeWhile fun t => decide ((window : Int) < now - t),
    (List.takeWhile_append_dropWhile ..).symm, fun t ht => ?_⟩
  simpa using List.mem_takeWhile_imp ht

/-- In a sorted queue nothing behind the first time in the window has aged out. -/
theorem prune_eq_inWindow {window : Nat} {now : Int} {q : FailureQueue}
    (h : q.Pairwise (· ≤ ·)) : q.prune window now = inWindow window now q := by
  unfold FailureQueue.prune inWindow
  -- only the front is dropped, so the first time that stays has to vouch for the rest
  induction q with
  | nil => rfl
  | cons t q ih =>
    obtain ⟨hle, hq⟩ := List.pairwise_cons.mp h
    by_cases ht : (window : Int) < now - t
    · rw [List.dropWhile_cons_of_pos (by rwa [decide_eq_true_eq]), ih hq,
        List.filter_cons_of_neg (by rw [decide_eq_true_eq]; omega)]
    · rw [List.dropWhile_cons_of_neg (by rwa [decide_eq_true_eq]), List.filter_eq_self.mpr]
      intro u hu
      rw [decide_eq_true_eq]
      rcases List.mem_cons.mp hu with rfl | hu
      · omega
      · have := hle u hu
        omega

/-- In front of what lies in the window of a sorted queue is what has aged out. -/
theorem eq_append_inWindow (window : Nat) (now : Int) {q : FailureQueue}
    (h : q.Pairwise (· ≤ ·)) : ∃ dropped, q = dropped ++ inWindow window now q ∧
      ∀ t ∈ dropped, (window : Int) < now - t :=
  prune_eq_inWindow h ▸ prune_eq window now q

theorem inWindow_append (window : Nat) (now : Int) (ts us : List Int) :
    inWindow window now (ts ++ us) = inWindow window now ts ++ inWindow window now us :=
  List.filter_append ..

theorem inWindow_dropped {window : Nat} {now : Int} {ts : List Int}
    (h : ∀ t ∈ ts, (window : Int) < now - t) : inWindow window now ts = [] := by
  refine List.filter_eq_nil_iff.mpr fun t ht => ?_
  have := h t ht
  rw [decide_eq_true_eq]
  omega

theorem inWindow_ne_nil_iff {window : Nat} {now : Int} {ts : List Int} :
    inWindow window now ts ≠ [] ↔ ∃ t ∈ ts, now - t ≤ window := by
  simp [inWindow]

theorem length_inWindow (window : Nat) (now : Int) (ts : List Int) :
    (inWindow window now ts).length = recent window now ts :=
  List.countP_eq_length_filter.symm

/-! ## Entries -/

variable {l : LoginLimiter} {now : Int} {history : String → List Int}

/-- No address is tracked without a failure. -/
def Occupied (l : LoginLimiter) : Prop :=
  ∀ f ∈ l.failures, f.2 ≠ []

theorem queue_of_lookup {e : String} {q : FailureQueue} (h : l.failures.lookup e = some q) :
    l.queue e = q := by
  rw [queue, h]
  rfl

theorem mem_of_lookup {e : String} {q : FailureQueue} (h : l.failures.lookup e = some q) :
    (e, q) ∈ l.failures := by
  obtain ⟨before, after, hfailures, -⟩ := List.lookup_eq_some_iff.mp h
  simp [hfailures]

theorem Occupied.isSome_lookup_iff (h : l.Occupied) (e : String) :
    (l.failures.lookup e).isSome = true ↔ l.queue e ≠ [] := by
  cases hq : l.failures.lookup e with
  | none => simp [queue, hq]
  | some q =>
    rw [queue_of_lookup hq]
    exact iff_of_true rfl (h _ (mem_of_lookup hq))

theorem Occupied.reset (h : l.Occupied) (e : String) : (l.reset e).Occupied :=
  fun f hf => h f (List.mem_filter.mp hf).1

theorem Occupied.setQueue (h : l.Occupied) (e : String) {q : FailureQueue} (hq : q ≠ []) :
    (l.setQueue e q).Occupied := by
  intro f hf
  rcases List.mem_cons.mp hf with rfl | hf
  · exact hq
  · exact h.reset e f hf

theorem occupied_pruneAll (l : LoginLimiter) (now : Int) : (l.pruneAll now).Occupied := by
  intro f hf
  simpa using (List.mem_filter.mp hf).2

theorem occupied_recordFailure (l : LoginLimiter) (now : Int) (e : String) :
    (l.recordFailure now e).Occupied :=
  (occupied_pruneAll l now).setQueue e (List.concat_ne_nil _ _)

/-! ## Checks -/

theorem check_of_untracked {e : String} (h : l.failures.lookup e = none) :
    l.check now e = (.ok (), l) := by
  unfold check
  rw [h]

/-- A check of a tracked address prunes its queue, and stops tracking it where nothing is
left, unless the limit is zero. -/
theorem check_of_tracked (now : Int) {e : String} {q : FailureQueue}
    (h : l.failures.lookup e = some q) :
    (l.check now e).1 = (if l.limit ≤ (q.prune l.window now).length then .error l.refusal
      else .ok ()) ∧
    ((1 ≤ l.limit → q.prune l.window now ≠ []) ∧
        (l.check now e).2 = l.setQueue e (q.prune l.window now) ∨
      q.prune l.window now = [] ∧ (l.check now e).2 = l.reset e) := by
  have hcheck : l.check now e = if l.limit ≤ (q.prune l.window now).length
      then (.error l.refusal, l.setQueue e (q.prune l.window now))
      else if (q.prune l.window now).isEmpty then (.ok (), l.reset e)
      else (.ok (), l.setQueue e (q.prune l.window now)) := by
    unfold check
    rw [h]
  rw [hcheck]
  by_cases hfull : l.limit ≤ (q.prune l.window now).length
  · rw [if_pos hfull, if_pos hfull]
    have hleft (hlimit : 1 ≤ l.limit) : q.prune l.window now ≠ [] :=
      List.length_pos_iff.mp (Nat.lt_of_lt_of_le hlimit hfull)
    exact ⟨rfl, Or.inl ⟨hleft, rfl⟩⟩
  · rw [if_neg hfull, if_neg hfull]
    by_cases hempty : (q.prune l.window now).isEmpty
    · rw [if_pos hempty]
      exact ⟨rfl, Or.inr ⟨List.isEmpty_iff.mp hempty, rfl⟩⟩
    · rw [if_neg hempty]
      exact ⟨rfl, Or.inl ⟨fun _ hnil => hempty (List.isEmpty_iff.mpr hnil), rfl⟩⟩

theorem settings_check (l : LoginLimiter) (now : Int) (e : String) :
    (l.check now e).2.limit = l.limit ∧ (l.check now e).2.window = l.window := by
  cases h : l.failures.lookup e with
  | none =>
    rw [check_of_untracked h]
    exact ⟨rfl, rfl⟩
  | some q =>
    rcases (check_of_tracked now h).2 with ⟨-, hl⟩ | ⟨-, hl⟩
    · rw [hl]
      exact ⟨rfl, rfl⟩
    · rw [hl]
      exact ⟨rfl, rfl⟩

/-- A check prunes the queue of its address and leaves the others alone. -/
theorem queue_check (l : LoginLimiter) (now : Int) (e e' : String) :
    (l.check now e).2.queue e' =
      if e' = e then (l.queue e).prune l.window now else l.queue e' := by
  cases h : l.failures.lookup e with
  | none =>
    have hq : l.queue e = [] := by rw [queue, h]; rfl
    rw [check_of_untracked h, hq]
    split
    · rename_i he
      rw [he, hq]
      rfl
    · rfl
  | some q =>
    rw [queue_of_lookup h]
    rcases (check_of_tracked now h).2 with ⟨-, hl⟩ | ⟨hempty, hl⟩
    · rw [hl, queue_setQueue]
    · rw [hl, queue_reset, hempty]

theorem keys_check (h : (l.failures.map Prod.fst).Nodup) (e : String) :
    ((l.check now e).2.failures.map Prod.fst).Nodup := by
  cases hq : l.failures.lookup e with
  | none => rwa [check_of_untracked hq]
  | some q =>
    rcases (check_of_tracked now hq).2 with ⟨-, hl⟩ | ⟨-, hl⟩
    · rw [hl]
      exact keys_setQueue h e _
    · rw [hl]
      exact keys_reset h e

theorem Occupied.check (h : l.Occupied) (hlimit : 1 ≤ l.limit) (now : Int) (e : String) :
    (l.check now e).2.Occupied := by
  cases hq : l.failures.lookup e with
  | none => rwa [check_of_untracked hq]
  | some q =>
    rcases (check_of_tracked now hq).2 with ⟨hleft, hl⟩ | ⟨-, hl⟩
    · rw [hl]
      exact h.setQueue e (hleft hlimit)
    · rw [hl]
      exact h.reset e

/-- An address is refused exactly if so many times of its queue are left as the limit says. -/
theorem check_eq_prune (hlimit : 1 ≤ l.limit) (now : Int) (e : String) :
    (l.check now e).1 = if l.limit ≤ ((l.queue e).prune l.window now).length
      then .error l.refusal else .ok () := by
  cases h : l.failures.lookup e with
  | none =>
    have hq : l.queue e = [] := by rw [queue, h]; rfl
    have hfew : ¬ l.limit ≤ (FailureQueue.prune l.window now []).length :=
      fun h0 => absurd (Nat.le_trans hlimit h0) (Nat.not_succ_le_zero 0)
    rw [check_of_untracked h, hq, if_neg hfew]
  | some q => rw [queue_of_lookup h, (check_of_tracked now h).1]

/-! ## Histories -/

theorem tracks_start (limit window : Nat) (now : Int) :
    Tracks { limit := limit, window := window } now fun _ => [] where
  keys := .nil
  sorted _ := .nil
  past _ _ h := by cases h
  queue _ := ⟨[], rfl, by simp⟩

theorem Tracks.mono (h : Tracks l now history) {later : Int} (hle : now ≤ later) :
    Tracks l later history where
  keys := h.keys
  sorted := h.sorted
  past e t ht := Int.le_trans (h.past e t ht) hle
  queue e := by
    obtain ⟨dropped, heq, hdropped⟩ := h.queue e
    refine ⟨dropped, heq, fun t ht => ?_⟩
    have := hdropped t ht
    omega

theorem Tracks.queue_sorted (h : Tracks l now history) (e : String) :
    (l.queue e).Pairwise (· ≤ ·) := by
  obtain ⟨dropped, heq, -⟩ := h.queue e
  have hsorted := h.sorted e
  rw [heq] at hsorted
  exact (List.pairwise_append.mp hsorted).2.1

/-- The failures of an address that lie in the window are what the limiter finds. -/
theorem Tracks.prune_queue (h : Tracks l now history) (e : String) :
    (l.queue e).prune l.window now = inWindow l.window now (history e) := by
  obtain ⟨dropped, heq, hdropped⟩ := h.queue e
  rw [heq, inWindow_append, inWindow_dropped hdropped, List.nil_append,
    prune_eq_inWindow (h.queue_sorted e)]

theorem Tracks.length_prune (h : Tracks l now history) (e : String) :
    ((l.queue e).prune l.window now).length = recent l.window now (history e) := by
  rw [h.prune_queue, length_inWindow]

/-- An address is refused exactly if so many of its failures lie in the window as the
limit says. -/
theorem check_eq (h : Tracks l now history) (hlimit : 1 ≤ l.limit) (e : String) :
    (l.check now e).1 = if l.limit ≤ recent l.window now (history e)
      then .error l.refusal else .ok () := by
  rw [check_eq_prune hlimit, h.length_prune]

/-- Pruning a queue further does not show. -/
theorem Tracks.prune (h : Tracks l now history) (e : String) :
    ∃ dropped, history e = dropped ++ (l.queue e).prune l.window now ∧
      ∀ t ∈ dropped, (l.window : Int) < now - t := by
  obtain ⟨dropped, heq, hdropped⟩ := h.queue e
  obtain ⟨more, heq', hmore⟩ := prune_eq l.window now (l.queue e)
  refine ⟨dropped ++ more, ?_, List.forall_mem_append.mpr ⟨hdropped, hmore⟩⟩
  rw [List.append_assoc, ← heq', heq]

theorem Tracks.check (h : Tracks l now history) (e : String) :
    Tracks (l.check now e).2 now history where
  keys := keys_check h.keys e
  sorted := h.sorted
  past := h.past
  queue e' := by
    rw [queue_check, (settings_check l now e).2]
    split
    · rename_i he
      rw [he]
      exact h.prune e
    · exact h.queue e'

/-- The limiter after the history of one address was changed: it has to stand for the new
history there, and for the old one elsewhere. -/
theorem Tracks.update (h : Tracks l now history) {l' : LoginLimiter} {e : String} {ts : List Int}
    (hkeys : (l'.failures.map Prod.fst).Nodup) (hsorted : ts.Pairwise (· ≤ ·))
    (hpast : ∀ t ∈ ts, t ≤ now)
    (hqueue : ∃ dropped, ts = dropped ++ l'.queue e ∧ ∀ t ∈ dropped, (l'.window : Int) < now - t)
    (hother : ∀ e', e' ≠ e → ∃ dropped, history e' = dropped ++ l'.queue e' ∧
      ∀ t ∈ dropped, (l'.window : Int) < now - t) :
    Tracks l' now (Function.update history e ts) where
  keys := hkeys
  sorted e' := by
    by_cases he : e' = e
    · rwa [he, Function.update_self]
    · rw [Function.update_of_ne he]
      exact h.sorted e'
  past e' := by
    by_cases he : e' = e
    · rwa [he, Function.update_self]
    · rw [Function.update_of_ne he]
      exact h.past e'
  queue e' := by
    by_cases he : e' = e
    · rwa [he, Function.update_self]
    · rw [Function.update_of_ne he]
      exact hother e' he

theorem Tracks.reset (h : Tracks l now history) (e : String) :
    Tracks (l.reset e) now (Function.update history e []) := by
  refine h.update (keys_reset h.keys e) .nil (fun t ht => by cases ht) ⟨[], ?_, ?_⟩ ?_
  · rw [queue_reset, if_pos rfl]
    rfl
  · intro t ht
    cases ht
  · intro e' he
    rw [queue_reset, if_neg he]
    exact h.queue e'

/-- Once a failure was recorded, each queue is what lies in the window of the history. -/
theorem Tracks.queue_recordFailure (h : Tracks l now history) (e e' : String) :
    (l.recordFailure now e).queue e' =
      inWindow l.window now (Function.update history e (history e ++ [now]) e') := by
  have hpruned (e' : String) : (l.pruneAll now).queue e' = inWindow l.window now (history e') :=
    (queue_pruneAll h.keys now e').trans (h.prune_queue e')
  rw [LoginLimiter.recordFailure, queue_setQueue, hpruned, hpruned]
  by_cases he : e' = e
  · have hnow : inWindow l.window now [now] = [now] := by simp [inWindow]
    rw [he, if_pos rfl, Function.update_self, inWindow_append, hnow]
  · rw [if_neg he, Function.update_of_ne he]

/-- A failure is recorded at the end of the queue, and all queues are pruned before. -/
theorem Tracks.recordFailure (h : Tracks l now history) (e : String) :
    Tracks (l.recordFailure now e) now (Function.update history e (history e ++ [now])) := by
  have hsorted : (history e ++ [now]).Pairwise (· ≤ ·) := by
    rw [List.pairwise_append]
    refine ⟨h.sorted e, List.pairwise_singleton _ _, fun t ht u hu => ?_⟩
    rw [List.mem_singleton.mp hu]
    exact h.past e t ht
  refine h.update (keys_setQueue (keys_pruneAll h.keys now) e _) hsorted ?_ ?_ ?_
  · exact List.forall_mem_append.mpr ⟨h.past e, fun t ht => Int.le_of_eq (List.mem_singleton.mp ht)⟩
  · rw [h.queue_recordFailure, Function.update_self]
    exact eq_append_inWindow l.window now hsorted
  · intro e' he
    rw [h.queue_recordFailure, Function.update_of_ne he]
    exact eq_append_inWindow l.window now (h.sorted e')

end Parley.LoginLimiter
