import Parley.Account.SharedLimiter
import Parley.Proofs.Account.FailureHistory
import Mathlib.Data.List.DropRight

/-!
# The limiter as a sliding window

Operations are done in order with the clones of one limiter, by a clock that does not go
back. Whether a check is refused can be read off the operations before it: which failures
of the address were recorded since it was last reset, and how many of them lie in the
window.

* `Stands`: the clones stand for the history that the operations so far make.
* `Stands.step`: each operation keeps that, and a check is answered by the history.
* `refused_iff_window_full`: so in every run a check is refused exactly if the window is
  full, and nothing but the failures and resets of its address has a part in that.
-/
namespace Parley.SharedLimiter

/-! ## Operations in order -/

/-- The time of an act, if it reads the clock. -/
def Act.clock? : Act → Option Int
  | clone => none
  | fail _ now => some now
  | check _ now => some now
  | reset _ => none

def readings (ops : List Op) : List Int :=
  ops.filterMap (·.act.clock?)

def clonesAfter (count : Nat) (act : Act) : Nat :=
  if act = .clone then count + 1 else count

/-- Every operation is done with one of so many clones, or with one made before it. -/
def usesClones : Nat → List Op → Bool
  | _, [] => true
  | count, op :: ops => decide (op.via < count) && usesClones (clonesAfter count op.act) ops

/-- Operations that can be done in this order, beginning with one clone. -/
structure Orderly (ops : List Op) : Prop where
  clones : usesClones 1 ops = true
  clock : (readings ops).Pairwise (· ≤ ·)

/-! ## The history of an address -/

/-- What an operation adds to the history of an address. -/
inductive Mark where
  | failure (time : Int)
  | reset
  deriving DecidableEq, Repr

def Mark.time? : Mark → Option Int
  | failure time => some time
  | reset => none

/-- The mark that an act leaves on an address. A check leaves none, and neither does what is
done to another address. -/
def Act.mark? (email : String) : Act → Option Mark
  | clone => none
  | fail e now => if e = email then some (.failure now) else none
  | check _ _ => none
  | reset e => if e = email then some .reset else none

/-- The marks on an address, in order. -/
def marks (ops : List Op) (email : String) : List Mark :=
  ops.filterMap (·.act.mark? email)

/-- The times of the failures of an address that were recorded since it was last reset. -/
def failureTimes (ops : List Op) (email : String) : List Int :=
  ((marks ops email).rtakeWhile fun m => decide (m ≠ .reset)).filterMap Mark.time?

theorem failureTimes_unmarked {op : Op} {email : String} (h : op.act.mark? email = none)
    (ops : List Op) : failureTimes (ops ++ [op]) email = failureTimes ops email := by
  simp [failureTimes, marks, h]

theorem failureTimes_clone (ops : List Op) (via : Nat) :
    failureTimes (ops ++ [⟨via, .clone⟩]) = failureTimes ops :=
  funext fun _ => failureTimes_unmarked rfl ops

theorem failureTimes_check (ops : List Op) (via : Nat) (email : String) (now : Int) :
    failureTimes (ops ++ [⟨via, .check email now⟩]) = failureTimes ops :=
  funext fun _ => failureTimes_unmarked rfl ops

theorem failureTimes_fail (ops : List Op) (via : Nat) (email : String) (now : Int) :
    failureTimes (ops ++ [⟨via, .fail email now⟩]) =
      Function.update (failureTimes ops) email (failureTimes ops email ++ [now]) := by
  funext e
  by_cases he : e = email
  · subst he
    simp [failureTimes, marks, Act.mark?, Mark.time?]
  · have hmark : (Act.fail email now).mark? e = none := if_neg (Ne.symm he)
    rw [Function.update_of_ne he, failureTimes_unmarked hmark]

theorem failureTimes_reset (ops : List Op) (via : Nat) (email : String) :
    failureTimes (ops ++ [⟨via, .reset email⟩]) = Function.update (failureTimes ops) email [] := by
  funext e
  by_cases he : e = email
  · subst he
    simp [failureTimes, marks, Act.mark?]
  · have hmark : (Act.reset email).mark? e = none := if_neg (Ne.symm he)
    rw [Function.update_of_ne he, failureTimes_unmarked hmark]

/-! ## One operation -/

variable {limit window : Nat} {s : SharedLimiter} {now : Int} {past : List Op}

/-- The clones are all alike, and what they share stands for the history of each address up
to now. -/
structure Stands (limit window : Nat) (s : SharedLimiter) (now : Int) (past : List Op) :
    Prop where
  alike : ∀ c ∈ s.clones, c = ⟨limit, window⟩
  tracks : LoginLimiter.Tracks ⟨limit, window, s.failures⟩ now (failureTimes past)

theorem stands_start (limit window : Nat) (now : Int) :
    Stands limit window (start limit window) now [] where
  alike _ hc := List.mem_singleton.mp hc
  tracks := LoginLimiter.tracks_start limit window now

/-- The answer that the history of an address calls for. -/
def verdict (limit window : Nat) (past : List Op) (email : String) (now : Int) :
    Except LoginRefused Unit :=
  if limit ≤ LoginLimiter.recent window now (failureTimes past email)
    then .error ⟨limit, window / 1000⟩ else .ok ()

/-- A clone that is there does what any other would do. -/
theorem Stands.step_eq (h : Stands limit window s now past) {op : Op}
    (hvia : op.via < s.clones.length) : s.step op = s.perform ⟨limit, window⟩ op.act := by
  have hclone : s.clones[op.via]? = some ⟨limit, window⟩ := by
    rw [List.getElem?_eq_getElem hvia, h.alike _ (List.getElem_mem hvia)]
  rw [step, hclone]

theorem limiter_eq {l : LoginLimiter} (hlimit : l.limit = limit) (hwindow : l.window = window) :
    (⟨limit, window, l.failures⟩ : LoginLimiter) = l := by
  rw [← hlimit, ← hwindow]

/-- The time after an act. -/
def Act.after (now : Int) (act : Act) : Int :=
  act.clock?.getD now

/-- An operation keeps the clones true to the history. -/
theorem Stands.step (h : Stands limit window s now past) {op : Op}
    (hvia : op.via < s.clones.length) (hle : ∀ t ∈ op.act.clock?, now ≤ t) :
    Stands limit window (s.step op).2 (op.act.after now) (past ++ [op]) ∧
      (s.step op).2.clones.length = clonesAfter s.clones.length op.act := by
  rw [h.step_eq hvia]
  obtain ⟨via, act⟩ := op
  cases act with
  | clone =>
    refine ⟨⟨fun c hc => ?_, (failureTimes_clone past via).symm ▸ h.tracks⟩, List.length_append⟩
    rcases List.mem_append.mp hc with hc | hc
    · exact h.alike c hc
    · exact List.mem_singleton.mp hc
  | fail email t =>
    refine ⟨⟨h.alike, ?_⟩, rfl⟩
    rw [failureTimes_fail]
    exact (h.tracks.mono (hle t rfl)).recordFailure email
  | check email t =>
    have hchecked := (h.tracks.mono (hle t rfl)).check email
    obtain ⟨hlimit, hwindow⟩ :=
      LoginLimiter.settings_check ⟨limit, window, s.failures⟩ t email
    refine ⟨⟨h.alike, ?_⟩, rfl⟩
    rw [failureTimes_check]
    exact limiter_eq hlimit hwindow ▸ hchecked
  | reset email =>
    refine ⟨⟨h.alike, ?_⟩, rfl⟩
    rw [failureTimes_reset]
    exact h.tracks.reset email

/-- A check is answered by the history of its address. -/
theorem Stands.answer_check (h : Stands limit window s now past) (hlimit : 1 ≤ limit) {via : Nat}
    {email : String} {t : Int} (hvia : via < s.clones.length) (hle : now ≤ t) :
    (s.step ⟨via, .check email t⟩).1 = some (verdict limit window past email t) := by
  rw [h.step_eq hvia]
  exact congrArg some (LoginLimiter.check_eq (h.tracks.mono hle) hlimit email)

/-! ## Runs -/

theorem readings_cons (op : Op) (ops : List Op) :
    readings (op :: ops) = op.act.clock?.toList ++ readings ops := by
  cases h : op.act.clock? <;> simp [readings, h]

/-- Operations that can be done from now on, in this order, with so many clones. -/
structure Continues (count : Nat) (now : Int) (ops : List Op) : Prop where
  clones : usesClones count ops = true
  later : ∀ t ∈ readings ops, now ≤ t
  clock : (readings ops).Pairwise (· ≤ ·)

theorem Continues.cons {count : Nat} {op : Op} {ops : List Op}
    (h : Continues count now (op :: ops)) : op.via < count ∧ (∀ t ∈ op.act.clock?, now ≤ t) ∧
      Continues (clonesAfter count op.act) (op.act.after now) ops := by
  obtain ⟨hclones, hlater, hclock⟩ := h
  rw [readings_cons] at hlater hclock
  obtain ⟨-, hrest, hfirst⟩ := List.pairwise_append.mp hclock
  obtain ⟨hvia, hclones⟩ := Bool.and_eq_true_iff.mp hclones
  refine ⟨of_decide_eq_true hvia, fun t ht => ?_, hclones, fun t ht => ?_, hrest⟩
  · exact hlater t (List.mem_append_left _ (Option.mem_toList.mpr ht))
  · unfold Act.after
    cases hop : op.act.clock? with
    | none => exact hlater t (List.mem_append_right _ ht)
    | some t' => exact hfirst t' (by simp [hop]) t ht

/-- In a run that goes on from a history every check is answered by the history before it. -/
theorem Stands.answers_check (h : Stands limit window s now past) (hlimit : 1 ≤ limit)
    {ops : List Op} (hops : Continues s.clones.length now ops) {i via : Nat} {email : String}
    {t : Int} (hi : ops[i]? = some ⟨via, .check email t⟩) :
    (answers s ops)[i]? = some (some (verdict limit window (past ++ ops.take i) email t)) := by
  -- the history grows by the first operation, behind which the others are a run of their own
  induction ops generalizing s now past i with
  | nil => cases hi
  | cons op ops ih =>
    obtain ⟨hvia, hnow, hrest⟩ := hops.cons
    cases i with
    | zero =>
      cases hi
      rw [List.take_zero, List.append_nil]
      exact congrArg some (h.answer_check hlimit hvia (hnow t rfl))
    | succ i =>
      obtain ⟨hstands, hlength⟩ := h.step hvia hnow
      have hrun := ih hstands (hlength ▸ hrest) hi
      rwa [List.append_assoc] at hrun

/-- Operations in order can be done from some time on, which lies before all readings of the
clock. -/
theorem Orderly.continues {ops : List Op} (h : Orderly ops) : ∃ now, Continues 1 now ops := by
  cases hreadings : readings ops with
  | nil => exact ⟨0, h.clones, by simp [hreadings], h.clock⟩
  | cons t ts =>
    have hclock := h.clock
    rw [hreadings] at hclock
    refine ⟨t, h.clones, fun u hu => ?_, h.clock⟩
    rw [hreadings] at hu
    rcases List.mem_cons.mp hu with rfl | hu
    · exact Int.le_refl _
    · exact (List.pairwise_cons.mp hclock).1 u hu

/-- In every run a check is answered by the history of its address: it is refused exactly if
so many of the failures recorded since the last reset lie in the window as the limit says.
So two checks at one time, in any two runs, are answered alike where the address was
marked alike before them, whatever else was done, and through whichever clones. -/
theorem refused_iff_window_full {limit window : Nat} (hlimit : 1 ≤ limit) {ops : List Op}
    (h : Orderly ops) {i via : Nat} {email : String} {now : Int}
    (hi : ops[i]? = some ⟨via, .check email now⟩) :
    (answers (start limit window) ops)[i]? = some (some
      (if limit ≤ (failureTimes (ops.take i) email).countP fun t => decide (now - t ≤ window)
        then .error ⟨limit, window / 1000⟩ else .ok ())) ∧
    ∀ (ops' : List Op) (j via' : Nat), Orderly ops' →
      ops'[j]? = some ⟨via', .check email now⟩ →
      marks (ops'.take j) email = marks (ops.take i) email →
      (answers (start limit window) ops')[j]? = (answers (start limit window) ops)[i]? := by
  have hanswer (ops : List Op) (h : Orderly ops) (i via : Nat)
      (hi : ops[i]? = some ⟨via, .check email now⟩) : (answers (start limit window) ops)[i]? =
        some (some (verdict limit window (ops.take i) email now)) := by
    obtain ⟨before, hbefore⟩ := h.continues
    exact (stands_start limit window before).answers_check hlimit hbefore hi
  refine ⟨hanswer ops h i via hi, fun ops' j via' h' hj hmarks => ?_⟩
  rw [hanswer ops h i via hi, hanswer ops' h' j via' hj]
  unfold verdict failureTimes
  rw [hmarks]

/-- Failures of two addresses through two clones, of which one lies at the end of the window
of the last check, and a reset of the other address. -/
def sharedRun : List Op := [
  ⟨0, .clone⟩, ⟨1, .fail "ann@example.org" 0⟩, ⟨0, .fail "ann@example.org" 1⟩,
  ⟨1, .fail "bob@example.org" 30⟩, ⟨1, .check "ann@example.org" 50⟩, ⟨0, .reset "bob@example.org"⟩,
  ⟨0, .fail "ann@example.org" 60⟩, ⟨0, .check "ann@example.org" 61⟩]

theorem refused_at_end_of_sharedRun :
    let marked : List Op := [
      ⟨0, .fail "ann@example.org" 0⟩, ⟨0, .fail "ann@example.org" 1⟩,
      ⟨0, .fail "ann@example.org" 60⟩, ⟨0, .check "ann@example.org" 61⟩]
    1 ≤ 2 ∧ Orderly sharedRun ∧ Orderly marked ∧
    sharedRun[7]? = some ⟨0, .check "ann@example.org" 61⟩ ∧
    marked[3]? = some ⟨0, .check "ann@example.org" 61⟩ ∧
    marks (marked.take 3) "ann@example.org" = marks (sharedRun.take 7) "ann@example.org" ∧
    (answers (start 2 60) sharedRun)[7]? = some (some (.error ⟨2, 0⟩)) ∧
    (answers (start 2 60) marked)[3]? = (answers (start 2 60) sharedRun)[7]? := by
  intro marked
  have hrun : Orderly sharedRun := ⟨by decide, by decide⟩
  have hmarked : Orderly marked := ⟨by decide, by decide⟩
  have hmarks : marks (marked.take 3) "ann@example.org" =
    marks (sharedRun.take 7) "ann@example.org" := by decide
  obtain ⟨hanswer, halike⟩ :=
    @refused_iff_window_full 2 60 (by decide) sharedRun hrun 7 0 "ann@example.org" 61 rfl
  exact ⟨by decide, hrun, hmarked, rfl, rfl, hmarks, hanswer, halike marked 3 0 hmarked rfl hmarks⟩

end Parley.SharedLimiter
