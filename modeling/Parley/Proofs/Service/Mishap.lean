import Parley.Proofs.Service.RefreshToken

/-!
# Mishaps

What can go wrong with a statement: the reply is a failure or there is none, no row comes
where one has to, or a row cannot be read as the columns that were asked for.

* `Statement.reading`: what is read of the reply to a statement.
* `mishap?`: what goes wrong with a statement and the reply to it.
* `Handler.Reports`: a handler ends in a failure of the database right behind its first
  mishap, and nowhere else. `reports_bind` goes through a handler step by step.
-/
namespace Parley.Service

open Http (Request Response)
open Store (Cell Reply Row Statement)
open Handler (exec)

/-! ## Replies -/

/-- Whether a row can be read. -/
def legible {α : Type} (read : Row → Option α) (row : Row) : Bool :=
  (read row).isSome

/-- What is read of the rows of a reply. -/
inductive Reading where
  | nothing
  /-- The first row, if there is one. -/
  | first (legible : Row → Bool)
  /-- The first row, which has to be there. -/
  | one (legible : Row → Bool)
  /-- All rows. -/
  | all (legible : Row → Bool)

/-- What is read of the reply to a statement. -/
def reading : Statement → Reading
  | .sessionAccount _ | .consumeRefreshToken _ | .activeSite _ =>
    .first (legible (Row.single Cell.toUuid?))
  | .accountName _ | .firstQuestion _ _ => .first (legible (Row.single Cell.toText?))
  | .accountByEmail _ => .first (legible Row.account?)
  | .appById _ | .appForAccount _ _ => .first (legible Row.app?)
  | .findInScope _ _ _ | .getOwned _ _ _ | .renameOwned _ _ _ _ =>
    .first (legible Row.conversation?)
  | .tenantCount _ | .countInScope _ _ => .one (legible (Row.single Cell.toInt?))
  | .endUserExists _ => .one (legible (Row.single Cell.toBool?))
  | .linkEndUser _ _ _ _ _ => .one (legible Row.endUser?)
  | .pageInScope _ _ _ => .all (legible Row.conversation?)
  | .pinned _ _ => .all (legible (Row.single Cell.toUuid?))
  | _ => .nothing

/-- What can go wrong with a statement. -/
inductive Mishap where
  /-- The reply is a failure. -/
  | failed
  /-- There is no reply left. -/
  | exhausted
  /-- No row comes where one has to. -/
  | missing
  /-- A row cannot be read as the columns that were asked for. -/
  | illegible
  deriving DecidableEq, Repr

/-- What is wrong with the rows of a reply. -/
def Reading.mishap? : Reading → List Row → Option Mishap
  | .nothing, _ => none
  | .first _, [] => none
  | .first legible, row :: _ => if legible row then none else some .illegible
  | .one _, [] => some .missing
  | .one legible, row :: _ => if legible row then none else some .illegible
  | .all legible, rows => if rows.all legible then none else some .illegible

/-- What goes wrong with a statement and the reply to it. A statement that only opens or ends
a transaction has no reply. -/
def mishap? (s : Statement) (reply : Option Reply) : Option Mishap :=
  if s.isTransactional then none
  else match reply with
    | none => some .exhausted
    | some .failure => some .failed
    | some (.affected _) => (reading s).mishap? []
    | some (.rows rows) => (reading s).mishap? rows

/-- Nothing goes wrong with any of these. -/
def Smooth (sent : List (Statement × Option Reply)) : Prop :=
  ∀ a ∈ sent, mishap? a.1 a.2 = none

theorem smooth_nil : Smooth [] := by
  intro a ha
  cases ha

theorem Smooth.append {sent sent' : List (Statement × Option Reply)} (h : Smooth sent)
    (h' : Smooth sent') : Smooth (sent ++ sent') :=
  List.forall_mem_append.2 ⟨h, h'⟩

/-! ## Logs -/

/-- The replies that these statements leave. -/
def unused : List Statement → List Reply → List Reply
  | [], replies => replies
  | s :: log, replies => if s.isTransactional then unused log replies else unused log replies.tail

theorem answered_append (log log' : List Statement) (replies : List Reply) :
    answered (log ++ log') replies =
      answered log replies ++ answered log' (unused log replies) := by
  induction log generalizing replies with
  | nil => rfl
  | cons s log ih =>
    rw [List.cons_append, answered, answered, unused]
    split
    · rw [ih, List.cons_append]
    · rw [ih, List.cons_append]

theorem unused_append (log log' : List Statement) (replies : List Reply) :
    unused (log ++ log') replies = unused log' (unused log replies) := by
  induction log generalizing replies with
  | nil => rfl
  | cons s log ih =>
    rw [List.cons_append, unused, unused]
    split
    · exact ih replies
    · exact ih replies.tail

theorem answered_singleton {s : Statement} (hs : s.isTransactional = false)
    (replies : List Reply) : answered [s] replies = [(s, replies.head?)] := by
  simp [answered, hs]

/-! ## Reports -/

namespace Handler

variable {α β : Type}

/-- How a handler may end that has sent these statements: with a value of which `P` holds, or
with a refusal of one of these statuses, if nothing has gone wrong; or in a failure of the
database, if the last statement is the first that went wrong. -/
inductive Told (statuses : List Nat) (P : α → Prop) :
    List (Statement × Option Reply) → Except Failure α → Prop
  | done {sent : List (Statement × Option Reply)} {a : α} (smooth : Smooth sent) (h : P a) :
    Told statuses P sent (.ok a)
  | refused {sent : List (Statement × Option Reply)} {f : Failure} (smooth : Smooth sent)
    (ne : f ≠ .database) (status : f.response.status ∈ statuses) : Told statuses P sent (.error f)
  | failed {before : List (Statement × Option Reply)} {s : Statement} {reply : Option Reply}
    (smooth : Smooth before) (mishap : mishap? s reply ≠ none) :
    Told statuses P (before ++ [(s, reply)]) (.error .database)

/-- From every exchange a handler ends as its statements and the replies to them allow. -/
def Reports (statuses : List Nat) (P : α → Prop) (h : Handler α) : Prop :=
  ∀ x, ∃ sent, (exec h x).2.log = x.log ++ sent ∧ (exec h x).2.replies = unused sent x.replies ∧
    Told statuses P (answered sent x.replies) (exec h x).1

variable {statuses : List Nat} {P : α → Prop} {R : β → Prop}

theorem reports_pure {a : α} (h : P a) : Reports statuses P (pure a) :=
  fun _ => ⟨[], (List.append_nil _).symm, rfl, .done smooth_nil h⟩

theorem reports_throw {f : Failure} (hne : f ≠ .database) (h : f.response.status ∈ statuses) :
    Reports statuses P (throw f : Handler α) :=
  fun _ => ⟨[], (List.append_nil _).symm, rfl, .refused smooth_nil hne h⟩

theorem reports_fail {e : ApiError} (h : e.status ∈ statuses) :
    Reports statuses P (fail e : Handler α) :=
  reports_throw (by simp) h

theorem reports_reject {r : Rejection} (h : r.status ∈ statuses) :
    Reports statuses P (reject r : Handler α) :=
  reports_throw (by simp) h

theorem reports_orFail {e : ApiError} (h : e.status ∈ statuses) (a : Option α) :
    Reports statuses (fun _ => True) (orFail e a) := by
  cases a with
  | none => exact reports_fail h
  | some a => exact reports_pure trivial

theorem Told.smooth_append {before sent : List (Statement × Option Reply)}
    {result : Except Failure α} (hbefore : Smooth before) (h : Told statuses P sent result) :
    Told statuses P (before ++ sent) result := by
  cases h with
  | done smooth h => exact .done (hbefore.append smooth) h
  | refused smooth ne status => exact .refused (hbefore.append smooth) ne status
  | failed smooth mishap =>
    rw [← List.append_assoc]
    exact .failed (hbefore.append smooth) mishap

theorem Told.mono {statuses' : List Nat} {P' : α → Prop}
    {sent : List (Statement × Option Reply)} {result : Except Failure α}
    (h : Told statuses P sent result) (hstatuses : statuses ⊆ statuses') (hP : ∀ a, P a → P' a) :
    Told statuses' P' sent result := by
  cases h with
  | done smooth h => exact .done smooth (hP _ h)
  | refused smooth ne status => exact .refused smooth ne (hstatuses status)
  | failed smooth mishap => exact .failed smooth mishap

theorem Reports.mono {statuses' : List Nat} {P' : α → Prop} {h : Handler α}
    (hh : Reports statuses P h) (hstatuses : statuses ⊆ statuses') (hP : ∀ a, P a → P' a) :
    Reports statuses' P' h := by
  intro x
  obtain ⟨sent, hlog, hreplies, htold⟩ := hh x
  exact ⟨sent, hlog, hreplies, htold.mono hstatuses hP⟩

theorem reports_bind {h : Handler α} {f : α → Handler β} (hh : Reports statuses P h)
    (hf : ∀ a, P a → Reports statuses R (f a)) : Reports statuses R (h >>= f) := by
  intro x
  obtain ⟨sent, hlog, hreplies, htold⟩ := hh x
  rw [exec_bind]
  generalize exec h x = ended at hlog hreplies htold
  obtain ⟨result, x'⟩ := ended
  generalize hsent : answered sent x.replies = answers at htold
  cases htold with
  | done smooth ha =>
    obtain ⟨sent', hlog', hreplies', htold'⟩ := hf _ ha x'
    refine ⟨sent ++ sent', ?_, ?_, ?_⟩
    · rw [hlog', hlog, List.append_assoc]
    · rw [hreplies', hreplies, unused_append]
    · rw [answered_append, ← hreplies, hsent]
      exact htold'.smooth_append smooth
  | refused smooth ne status => exact ⟨sent, hlog, hreplies, hsent ▸ .refused smooth ne status⟩
  | failed smooth mishap => exact ⟨sent, hlog, hreplies, hsent ▸ .failed smooth mishap⟩

theorem reports_map {h : Handler α} (hh : Reports statuses P h) {f : α → β}
    (hf : ∀ a, P a → R (f a)) : Reports statuses R (h >>= fun a => pure (f a)) :=
  reports_bind hh fun a ha => reports_pure (hf a ha)

/-! ## Statements -/

theorem reports_of_asks {h : Handler α} {s : Statement} {f : Reply → Except Failure α}
    (hh : Asks h s f) (hs : s.isTransactional = false)
    (hf : ∀ reply, Told statuses P [(s, some reply)] (f reply)) : Reports statuses P h := by
  intro x
  refine ⟨[s], ?_⟩
  rw [answered_singleton hs]
  cases hx : x.replies with
  | nil =>
    rw [hh.nil x hx]
    refine ⟨rfl, by simp [unused, hs, hx], .failed smooth_nil ?_⟩
    simp [mishap?, hs]
  | cons reply rest =>
    rw [hh.cons x reply rest hx]
    exact ⟨rfl, by simp [unused, hs], hf reply⟩

/-- What a reading of a reply has to be: a value if nothing goes wrong, and else a failure of
the database. -/
def ReadsAs (s : Statement) (reply : Reply) (result : Except Failure α) : Prop :=
  (mishap? s (some reply) = none ∧ ∃ a, result = .ok a) ∨
    (mishap? s (some reply) ≠ none ∧ result = .error .database)

theorem ReadsAs.told {s : Statement} {reply : Reply} {result : Except Failure α}
    (h : ReadsAs s reply result) : Told statuses (fun _ => True) [(s, some reply)] result := by
  rcases h with ⟨hsmooth, a, rfl⟩ | ⟨hmishap, rfl⟩
  · exact .done (by simpa [Smooth] using hsmooth) trivial
  · exact .failed smooth_nil hmishap

section

variable {s : Statement} {read : Row → Option α}

theorem readsAs_first (hs : s.isTransactional = false)
    (hread : reading s = .first (legible read)) (reply : Reply) :
    ReadsAs s reply (readFirst read reply) := by
  cases reply with
  | failure => simp [ReadsAs, mishap?, hs, readFirst]
  | affected n => simp [ReadsAs, mishap?, hs, hread, Reading.mishap?, readFirst]
  | rows rows =>
    cases rows with
    | nil => simp [ReadsAs, mishap?, hs, hread, Reading.mishap?, readFirst]
    | cons row rows =>
      cases hrow : read row <;>
        simp [ReadsAs, mishap?, hs, hread, Reading.mishap?, readFirst, legible, hrow]

theorem readsAs_one (hs : s.isTransactional = false)
    (hread : reading s = .one (legible read)) (reply : Reply) :
    ReadsAs s reply (readOne read reply) := by
  cases reply with
  | failure => simp [ReadsAs, mishap?, hs, readOne, readFirst]
  | affected n => simp [ReadsAs, mishap?, hs, hread, Reading.mishap?, readOne, readFirst]
  | rows rows =>
    cases rows with
    | nil => simp [ReadsAs, mishap?, hs, hread, Reading.mishap?, readOne, readFirst]
    | cons row rows =>
      cases hrow : read row <;>
        simp [ReadsAs, mishap?, hs, hread, Reading.mishap?, readOne, readFirst, legible, hrow]

theorem mapM_eq_none_iff (read : Row → Option α) (rows : List Row) :
    rows.mapM read = none ↔ ∃ row ∈ rows, read row = none := by
  induction rows with
  | nil => simp
  | cons row rows ih =>
    rw [List.mapM_cons]
    cases hrow : read row <;> cases hrows : rows.mapM read <;> simp_all

theorem readsAs_all (hs : s.isTransactional = false)
    (hread : reading s = .all (legible read)) (reply : Reply) :
    ReadsAs s reply (readAll read reply) := by
  cases reply with
  | failure => simp [ReadsAs, mishap?, hs, readAll]
  | affected n => simp [ReadsAs, mishap?, hs, hread, Reading.mishap?, readAll]
  | rows rows =>
    have hiff := mapM_eq_none_iff read rows
    cases hrows : rows.mapM read <;>
      simp_all [ReadsAs, mishap?, Reading.mishap?, readAll, legible]

theorem readsAs_affected (hs : s.isTransactional = false) (hread : reading s = .nothing)
    (reply : Reply) : ReadsAs s reply (readAffected reply) := by
  cases reply <;> simp [ReadsAs, mishap?, hs, hread, Reading.mishap?, readAffected]

theorem readsAs_done (hs : s.isTransactional = false) (hread : reading s = .nothing)
    (reply : Reply) : ReadsAs s reply (readDone reply) := by
  cases reply <;> simp [ReadsAs, mishap?, hs, hread, Reading.mishap?, readDone]

theorem reports_first? (hs : s.isTransactional = false)
    (hread : reading s = .first (legible read)) :
    Reports statuses (fun _ => True) (first? s read) :=
  reports_of_asks (asks_first? hs read) hs fun reply => (readsAs_first hs hread reply).told

theorem reports_one (hs : s.isTransactional = false) (hread : reading s = .one (legible read)) :
    Reports statuses (fun _ => True) (one s read) :=
  reports_of_asks (asks_one hs read) hs fun reply => (readsAs_one hs hread reply).told

theorem reports_all (hs : s.isTransactional = false) (hread : reading s = .all (legible read)) :
    Reports statuses (fun _ => True) (all s read) :=
  reports_of_asks (asks_all hs read) hs fun reply => (readsAs_all hs hread reply).told

theorem reports_affected (hs : s.isTransactional = false) (hread : reading s = .nothing) :
    Reports statuses (fun _ => True) (affected s) :=
  reports_of_asks (asks_affected hs) hs fun reply => (readsAs_affected hs hread reply).told

theorem reports_execute (hread : reading s = .nothing) :
    Reports statuses (fun _ => True) (execute s) := by
  cases hs : s.isTransactional with
  | false =>
    exact reports_of_asks (asks_execute hs) hs fun reply => (readsAs_done hs hread reply).told
  | true =>
    intro x
    rw [exec_execute_of_isTransactional hs]
    refine ⟨[s], rfl, by simp [unused, hs], .done ?_ trivial⟩
    simp [answered, hs, Smooth, mishap?]

end

end Handler

end Parley.Service
