import Parley.Service.Server

/-!
# Runs of a handler

A handler is run from an exchange: it adds statements to the log and takes replies
from the front of those at hand, and ends with a value or a failure.

* `Handler.Asks`: a handler that sends one statement and ends as the reply says.
* `Handler.Against`: what is sent and how it ends, where a database answers each
  statement. `against_bind` puts two such runs together.
* `Handler.Ensures`: whatever the replies are, what is sent, what is used and how it
  ends are related, and the limiter stays as it is. `ensures_bind` goes through a handler
  step by step.
* `answer_cases`: a request is answered by the endpoint for it, or there is none and nothing
  changes.
-/
namespace Parley.Service

open Store (Cell Reply Row Statement)

namespace Handler

variable {α β : Type}

/-- Runs a handler. -/
def exec (h : Handler α) (x : Exchange) : Except Failure α × Exchange :=
  h.run.run x

@[simp] theorem exec_pure (a : α) (x : Exchange) : exec (pure a) x = (.ok a, x) := rfl

theorem exec_bind (h : Handler α) (f : α → Handler β) (x : Exchange) :
    exec (h >>= f) x = match exec h x with
      | (.ok a, x') => exec (f a) x'
      | (.error e, x') => (.error e, x') := by
  show (ExceptT.bindCont (m := StateM Exchange) f (exec h x).1) (exec h x).2 = _
  rcases exec h x with ⟨_ | _, x'⟩ <;> rfl

@[simp] theorem fail_bind (e : ApiError) (f : α → Handler β) : (fail e >>= f) = fail e := rfl

theorem exec_bind_ok {h : Handler α} {f : α → Handler β} {a : α} {x x' : Exchange}
    (hh : exec h x = (.ok a, x')) : exec (h >>= f) x = exec (f a) x' := by
  rw [exec_bind, hh]

theorem exec_bind_error {h : Handler α} {f : α → Handler β} {e : Failure} {x x' : Exchange}
    (hh : exec h x = (.error e, x')) : exec (h >>= f) x = (.error e, x') := by
  rw [exec_bind, hh]

theorem exec_send (s : Statement) (x : Exchange) :
    exec (send s) x =
      if s.isTransactional then (.ok (.affected 0), { x with log := x.log ++ [s] })
      else match x.replies with
        | [] => (.error .database, { x with log := x.log ++ [s] })
        | .failure :: rest => (.error .database, { x with log := x.log ++ [s], replies := rest })
        | reply :: rest => (.ok reply, { x with log := x.log ++ [s], replies := rest }) := by
  obtain ⟨limiter, replies, log⟩ := x
  unfold send
  cases hs : s.isTransactional with
  | true => rfl
  | false =>
    cases replies with
    | nil => rfl
    | cons reply rest => cases reply <;> rfl

/-! ## Asking once -/

/-- A handler that sends one statement and ends as the reply says. -/
structure Asks (h : Handler α) (s : Statement) (f : Reply → Except Failure α) : Prop where
  nil : ∀ x, x.replies = [] → exec h x = (.error .database, { x with log := x.log ++ [s] })
  cons : ∀ x reply rest, x.replies = reply :: rest →
    exec h x = (f reply, { x with log := x.log ++ [s], replies := rest })

def readReply : Reply → Except Failure Reply
  | .failure => .error .database
  | reply => .ok reply

def readRows : Reply → Except Failure (List Row)
  | .failure => .error .database
  | .affected _ => .ok []
  | .rows rows => .ok rows

def readFirst (read : Row → Option α) : Reply → Except Failure (Option α)
  | .failure => .error .database
  | .affected _ => .ok none
  | .rows [] => .ok none
  | .rows (row :: _) => match read row with
    | some a => .ok (some a)
    | none => .error .database

def readOne (read : Row → Option α) (reply : Reply) : Except Failure α :=
  match readFirst read reply with
  | .ok (some a) => .ok a
  | .ok none => .error .database
  | .error e => .error e

def readAll (read : Row → Option α) : Reply → Except Failure (List α)
  | .failure => .error .database
  | .affected _ => .ok []
  | .rows rows => match rows.mapM read with
    | some as => .ok as
    | none => .error .database

def readAffected : Reply → Except Failure Nat
  | .failure => .error .database
  | .affected n => .ok n
  | .rows rows => .ok rows.length

theorem asks_send {s : Statement} (hs : s.isTransactional = false) : Asks (send s) s readReply where
  nil x hx := by simp [exec_send, hs, hx]
  cons x reply rest hx := by cases reply <;> simp [exec_send, hs, hx, readReply]

/-- What a handler does with the reply has no effect of its own. -/
theorem asks_bind {h : Handler α} {s : Statement} {f : Reply → Except Failure α}
    (hh : Asks h s f) {k : α → Handler β} {g : Reply → Except Failure β}
    (herror : ∀ reply e, f reply = .error e → g reply = .error e)
    (hok : ∀ reply a x, f reply = .ok a → exec (k a) x = (g reply, x)) : Asks (h >>= k) s g where
  nil x hx := exec_bind_error (hh.nil x hx)
  cons x reply rest hx := by
    have hcons := hh.cons x reply rest hx
    cases hf : f reply with
    | error e => rw [hf] at hcons; rw [exec_bind_error hcons, herror reply e hf]
    | ok a => rw [hf] at hcons; rw [exec_bind_ok hcons, hok reply a _ hf]

/-- A handler goes on with what it reads in a reply. -/
theorem exec_asks_bind {h : Handler α} {s : Statement} {f : Reply → Except Failure α}
    (hh : Asks h s f) {k : α → Handler β} {x : Exchange} {reply : Reply} {rest : List Reply} {a : α}
    (hx : x.replies = reply :: rest) (ha : f reply = .ok a) :
    exec (h >>= k) x = exec (k a) { x with log := x.log ++ [s], replies := rest } :=
  exec_bind_ok (by rw [hh.cons x reply rest hx, ha])

theorem asks_send_bind {s : Statement} (hs : s.isTransactional = false) {k : Reply → Handler β}
    {g : Reply → Except Failure β} (hfailure : g .failure = .error .database)
    (hok : ∀ reply, reply ≠ .failure → ∀ x, exec (k reply) x = (g reply, x)) :
    Asks (send s >>= k) s g := by
  refine asks_bind (asks_send hs) ?_ ?_
  · intro reply e h
    cases reply with
    | rows _ => cases h
    | affected _ => cases h
    | failure =>
      cases h
      exact hfailure
  · intro reply a x h
    have hne : reply ≠ .failure := by
      intro hreply
      rw [hreply] at h
      cases h
    have heq : readReply reply = .ok reply := by
      cases reply with
      | rows _ => rfl
      | affected _ => rfl
      | failure => exact absurd rfl hne
    rw [heq] at h
    cases h
    exact hok reply hne x

theorem asks_rows {s : Statement} (hs : s.isTransactional = false) : Asks (rows s) s readRows := by
  refine asks_send_bind hs rfl fun reply hne x => ?_
  cases reply with
  | rows _ => rfl
  | affected _ => rfl
  | failure => exact absurd rfl hne

theorem asks_rows_bind {s : Statement} (hs : s.isTransactional = false)
    {k : List Row → Handler β} {g : Reply → Except Failure β}
    (hfailure : g .failure = .error .database)
    (haffected : ∀ n x, exec (k []) x = (g (.affected n), x))
    (hrows : ∀ rows x, exec (k rows) x = (g (.rows rows), x)) : Asks (rows s >>= k) s g := by
  refine asks_bind (asks_rows hs) ?_ ?_
  · intro reply e h
    cases reply with
    | rows _ => cases h
    | affected _ => cases h
    | failure =>
      cases h
      exact hfailure
  · intro reply a x h
    cases reply with
    | rows rows =>
      cases h
      exact hrows _ x
    | affected n =>
      cases h
      exact haffected n x
    | failure => cases h

theorem asks_all {s : Statement} (hs : s.isTransactional = false) (read : Row → Option α) :
    Asks (all s read) s (readAll read) := by
  refine asks_rows_bind hs rfl (fun _ _ => rfl) fun rows x => ?_
  simp only [readAll]
  cases rows.mapM read <;> rfl

theorem asks_first? {s : Statement} (hs : s.isTransactional = false) (read : Row → Option α) :
    Asks (first? s read) s (readFirst read) := by
  refine asks_rows_bind hs rfl (fun _ _ => rfl) fun rows x => ?_
  cases rows with
  | nil => rfl
  | cons row rest =>
    simp only [readFirst]
    cases read row <;> rfl

theorem readFirst_error {read : Row → Option α} {reply : Reply} {e : Failure}
    (h : readFirst read reply = .error e) : e = .database := by
  unfold readFirst at h
  split at h
  · exact (Except.error.inj h).symm
  · cases h
  · cases h
  · split at h
    · cases h
    · exact (Except.error.inj h).symm

theorem readOne_error {read : Row → Option α} {reply : Reply} {e : Failure}
    (h : readOne read reply = .error e) : e = .database := by
  unfold readOne at h
  split at h
  · cases h
  · exact (Except.error.inj h).symm
  · rename_i hfirst
    exact Except.error.inj h ▸ readFirst_error hfirst

theorem asks_one {s : Statement} (hs : s.isTransactional = false) (read : Row → Option α) :
    Asks (one s read) s (readOne read) := by
  refine asks_bind (asks_first? hs read) ?_ ?_
  · intro reply e h
    rw [readOne, h]
  · intro reply a x h
    rw [readOne, h]
    cases a <;> rfl

/-- The first row of a reply, which has to be there. -/
def readRequired (e : ApiError) (read : Row → Option α) (reply : Reply) : Except Failure α :=
  match readFirst read reply with
  | .ok (some a) => .ok a
  | .ok none => .error (.api e)
  | .error e => .error e

theorem asks_required {s : Statement} (hs : s.isTransactional = false) (e : ApiError)
    (read : Row → Option α) : Asks (first? s read >>= orFail e) s (readRequired e read) := by
  refine asks_bind (asks_first? hs read) ?_ ?_
  · intro reply e h
    rw [readRequired, h]
  · intro reply a x h
    rw [readRequired, h]
    cases a <;> rfl

theorem readRequired_eq_ok {e : ApiError} {read : Row → Option α} {reply : Reply} {a : α} :
    readRequired e read reply = .ok a ↔ readFirst read reply = .ok (some a) := by
  unfold readRequired
  split <;> simp_all

theorem asks_affected {s : Statement} (hs : s.isTransactional = false) :
    Asks (affected s) s readAffected := by
  refine asks_send_bind hs rfl fun reply hne x => ?_
  cases reply with
  | rows _ => rfl
  | affected _ => rfl
  | failure => exact absurd rfl hne

/-- Only the success of a reply counts. -/
def readDone : Reply → Except Failure Unit
  | .failure => .error .database
  | _ => .ok ()

theorem asks_execute {s : Statement} (hs : s.isTransactional = false) :
    Asks (execute s) s readDone := by
  refine asks_send_bind hs rfl fun reply hne x => ?_
  cases reply with
  | rows _ => rfl
  | affected _ => rfl
  | failure => exact absurd rfl hne

theorem exec_execute_of_isTransactional {s : Statement} (hs : s.isTransactional = true)
    (x : Exchange) : exec (execute s) x = (.ok (), { x with log := x.log ++ [s] }) :=
  exec_bind_ok (a := .affected 0) (by rw [exec_send, if_pos hs])

/-! ## Against a database -/

variable {db : Statement → Reply}

/-- Where a database answers each statement, a handler sends these statements and ends
with this result. -/
def Against (db : Statement → Reply) (h : Handler α) (sent : List Statement)
    (result : Except Failure α) : Prop :=
  ∀ (x : Exchange) (rest : List Reply), x.replies = sent.map db ++ rest →
    exec h x = (result, { x with log := x.log ++ sent, replies := rest })

theorem against_pure (a : α) : Against db (pure a) [] (.ok a) := by
  intro x rest hx
  rw [exec_pure, List.append_nil, ← show x.replies = rest from hx]

theorem against_bind {h : Handler α} {f : α → Handler β} {a : α} {s t : List Statement}
    {result : Except Failure β} (hh : Against db h s (.ok a)) (hf : Against db (f a) t result) :
    Against db (h >>= f) (s ++ t) result := by
  intro x rest hx
  rw [List.map_append, List.append_assoc] at hx
  rw [exec_bind_ok (hh x _ hx), hf _ rest rfl, List.append_assoc]

theorem against_of_asks (db : Statement → Reply) {h : Handler α} {s : Statement}
    {f : Reply → Except Failure α} (hh : Asks h s f) : Against db h [s] (f (db s)) :=
  fun x rest hx => hh.cons x _ rest hx

/-! ## Against every database -/

/-- Between two exchanges these statements were sent and these replies used, and the
limiter was left alone. -/
structure Leads (x : Exchange) (sent : List Statement) (used : List Reply) (x' : Exchange) :
    Prop where
  log : x'.log = x.log ++ sent
  replies : x.replies = used ++ x'.replies
  limiter : x'.limiter = x.limiter

theorem Leads.refl (x : Exchange) : Leads x [] [] x :=
  ⟨(List.append_nil _).symm, rfl, rfl⟩

theorem Leads.trans {x y z : Exchange} {s t : List Statement} {u v : List Reply}
    (h : Leads x s u y) (h' : Leads y t v z) : Leads x (s ++ t) (u ++ v) z where
  log := by rw [h'.log, h.log, List.append_assoc]
  replies := by rw [h.replies, h'.replies, List.append_assoc]
  limiter := h'.limiter.trans h.limiter

/-- Whatever the exchange, what is sent, what is used and the result are related. -/
def Ensures (h : Handler α) (Q : List Statement → List Reply → Except Failure α → Prop) : Prop :=
  ∀ x, ∃ sent used, Leads x sent used (exec h x).2 ∧ Q sent used (exec h x).1

section

variable {Q : List Statement → List Reply → Except Failure α → Prop}

theorem ensures_pure {a : α} (h : Q [] [] (.ok a)) : Ensures (pure a) Q :=
  fun x => ⟨[], [], .refl x, h⟩

theorem ensures_throw {e : Failure} (h : Q [] [] (.error e)) : Ensures (throw e) Q :=
  fun x => ⟨[], [], .refl x, h⟩

theorem ensures_of_asks {h : Handler α} {s : Statement} {f : Reply → Except Failure α}
    (hh : Asks h s f) (hnil : Q [s] [] (.error .database))
    (hcons : ∀ reply, Q [s] [reply] (f reply)) : Ensures h Q := by
  intro x
  rcases hr : x.replies with _ | ⟨reply, rest⟩
  · rw [hh.nil x hr]
    exact ⟨[s], [], ⟨rfl, rfl, rfl⟩, hnil⟩
  · rw [hh.cons x reply rest hr]
    exact ⟨[s], [reply], ⟨rfl, hr, rfl⟩, hcons reply⟩

theorem ensures_mono {h : Handler α} {R : List Statement → List Reply → Except Failure α → Prop}
    (hh : Ensures h R) (hQ : ∀ s u r, R s u r → Q s u r) : Ensures h Q := by
  intro x
  obtain ⟨sent, used, hleads, hR⟩ := hh x
  exact ⟨sent, used, hleads, hQ _ _ _ hR⟩

end

/-- What is sent in two steps is what is sent in the first and then in the second. -/
theorem ensures_bind {h : Handler α} {f : α → Handler β}
    {Q : List Statement → List Reply → Except Failure β → Prop}
    (hh : Ensures h fun s u result => match result with
      | .error e => Q s u (.error e)
      | .ok a => Ensures (f a) fun s' u' result' => Q (s ++ s') (u ++ u') result') :
    Ensures (h >>= f) Q := by
  intro x
  obtain ⟨sent, used, hleads, hQ⟩ := hh x
  rw [exec_bind]
  rcases hx : exec h x with ⟨e | a, x'⟩
  · rw [hx] at hleads hQ
    exact ⟨sent, used, hleads, hQ⟩
  · rw [hx] at hleads hQ
    obtain ⟨sent', used', hleads', hQ'⟩ := hQ x'
    exact ⟨sent ++ sent', used ++ used', hleads.trans hleads', hQ'⟩

/-! ## What is sent -/

/-- Nothing else is ever sent. -/
def Sends (h : Handler α) (P : Statement → Prop) : Prop :=
  Ensures h fun sent _ _ => ∀ s ∈ sent, P s

section

variable {P : Statement → Prop}

theorem sends_pure (a : α) : Sends (pure a) P :=
  ensures_pure (by simp)

theorem sends_throw (e : Failure) : Sends (throw e : Handler α) P :=
  ensures_throw (by simp)

theorem sends_of_asks {h : Handler α} {s : Statement} {f : Reply → Except Failure α}
    (hh : Asks h s f) (hs : P s) : Sends h P :=
  ensures_of_asks hh (by simpa using hs) fun _ => by simpa using hs

theorem sends_execute {s : Statement} (hs : P s) : Sends (execute s) P := by
  cases htransactional : s.isTransactional with
  | false => exact sends_of_asks (asks_execute htransactional) hs
  | true =>
    intro x
    rw [exec_execute_of_isTransactional htransactional]
    exact ⟨[s], [], ⟨rfl, rfl, rfl⟩, by simpa using hs⟩

theorem sends_bind {h : Handler α} {f : α → Handler β} (hh : Sends h P)
    (hf : ∀ a, Sends (f a) P) : Sends (h >>= f) P := by
  refine ensures_bind (ensures_mono hh fun s u result hs => ?_)
  cases result with
  | error e => exact hs
  | ok a =>
    refine ensures_mono (hf a) fun s' _ _ hs' => ?_
    exact List.forall_mem_append.mpr ⟨hs, hs'⟩

theorem sends_orFail (e : ApiError) (a : Option α) : Sends (orFail e a) P := by
  cases a with
  | none => exact sends_throw _
  | some a => exact sends_pure a

end

/-- A step that sends nothing and uses no reply, and ends with a value of which `P` holds
or with a failure. -/
def Quiet (h : Handler α) (P : α → Prop) : Prop :=
  Ensures h fun sent used result => sent = [] ∧ used = [] ∧ ∀ a, result = .ok a → P a

theorem quiet_pure {P : α → Prop} {a : α} (h : P a) : Quiet (pure a) P :=
  ensures_pure ⟨rfl, rfl, fun b hb => by cases hb; exact h⟩

theorem quiet_throw {P : α → Prop} (e : Failure) : Quiet (throw e : Handler α) P :=
  ensures_throw ⟨rfl, rfl, fun b hb => by cases hb⟩

theorem quiet_bind {h : Handler α} {f : α → Handler β} {P : α → Prop} {R : β → Prop}
    (hh : Quiet h P) (hf : ∀ a, P a → Quiet (f a) R) : Quiet (h >>= f) R := by
  refine ensures_bind (ensures_mono hh ?_)
  rintro s u result ⟨rfl, rfl, hP⟩
  cases result with
  | error e => exact ⟨rfl, rfl, fun b hb => by cases hb⟩
  | ok a => exact hf a (hP a rfl)

theorem ensures_quiet_bind {h : Handler α} {f : α → Handler β} {P : α → Prop}
    {Q : List Statement → List Reply → Except Failure β → Prop} (hh : Quiet h P)
    (herror : ∀ e, Q [] [] (.error e)) (hf : ∀ a, P a → Ensures (f a) Q) : Ensures (h >>= f) Q := by
  refine ensures_bind (ensures_mono hh ?_)
  rintro s u result ⟨rfl, rfl, hP⟩
  cases result with
  | error e => exact herror e
  | ok a => exact hf a (hP a rfl)

end Handler

/-! ## Requests -/

open Http (Method Request Response Route)

theorem body_cases {σ α : Type} (record : Json.Record σ α) (r : Request) :
    (∃ a, saysJson r = true ∧ record.readText r.body = .ok a ∧ body record r = pure a) ∨
      ∃ rejection, body record r = Handler.reject rejection := by
  unfold body
  cases saysJson r with
  | false => exact Or.inr ⟨_, rfl⟩
  | true =>
    cases record.readText r.body with
    | error fault => exact Or.inr ⟨_, rfl⟩
    | ok a => exact Or.inl ⟨a, rfl, rfl, rfl⟩

theorem body_of_readText {σ α : Type} {record : Json.Record σ α} {r : Request} {a : α}
    (hjson : saysJson r = true) (hread : record.readText r.body = .ok a) :
    body record r = pure a := by
  unfold body
  rw [if_pos hjson, hread]

theorem run_snd (h : Handler Response) (x : Exchange) : (run h x).2 = (h.exec x).2 := by
  show (match h.exec x with
    | (.ok response, x) => (response, x)
    | (.error failure, x) => (failure.response, x)).2 = _
  rcases h.exec x with ⟨_ | _, _⟩ <;> rfl

theorem run_fst (h : Handler Response) (x : Exchange) :
    (run h x).1 = match (h.exec x).1 with
      | .ok response => response
      | .error failure => failure.response := by
  show (match h.exec x with
    | (.ok response, x) => (response, x)
    | (.error failure, x) => (failure.response, x)).1 = _
  rcases h.exec x with ⟨_ | _, _⟩ <;> rfl

/-- The methods whose endpoint may handle a request: its own, and `GET` for `HEAD`. -/
def HandledAs (r : Request) (method : Method) : Prop :=
  method = Method.ofName r.method ∨ method = .get

/-- The method of the endpoint that handles a request. -/
def endpointMethod (r : Request) : Method :=
  if Method.ofName r.method = .head then .get else Method.ofName r.method

/-- What a client is sent of a response: nothing of its body if it asked with `HEAD`. -/
def sentFor (r : Request) (response : Response) : Response :=
  if Method.ofName r.method = .head then response.withoutBody else response

theorem answer_of_endpoint {ctx : Context} {r : Request} {route : Route} {h : Handler Response}
    (hroute : Route.ofPath? r.path = some route)
    (hh : endpoint? ctx r route (endpointMethod r) = some h) (x : Exchange) :
    answer ctx r x = (sentFor r (run h x).1, (run h x).2) := by
  unfold endpointMethod at hh
  unfold answer answerRoute sentFor
  rw [hroute]
  cases hmethod : Method.ofName r.method <;> simp only [hmethod] at hh ⊢
  case options => cases route <;> cases hh
  all_goals simp_all

/-- The response to a request that no endpoint handles. -/
structure Unserved (response : Response) : Prop where
  body : response.body = .empty
  status : response.status = 200 ∨ response.status = 404 ∨ response.status = 405

theorem unserved_notAllowed (route : Route) : Unserved (notAllowed route) where
  body := rfl
  status := .inr (.inr rfl)

theorem unserved_preflight (route : Option Route) : Unserved (preflight route) where
  body := by cases route <;> rfl
  status := by cases route <;> exact .inl rfl

/-- A request that no endpoint handles is told which methods there are. -/
theorem answer_eq_of_none {ctx : Context} {r : Request} {route : Route}
    (hroute : Route.ofPath? r.path = some route)
    (hh : endpoint? ctx r route (endpointMethod r) = none) (x : Exchange) :
    answer ctx r x = (if Method.ofName r.method = .options then preflight (some route)
      else notAllowed route, x) := by
  unfold endpointMethod at hh
  unfold answer answerRoute
  rw [hroute]
  cases hmethod : Method.ofName r.method <;> simp_all

theorem answer_of_none {ctx : Context} {r : Request} {route : Route}
    (hroute : Route.ofPath? r.path = some route)
    (hh : endpoint? ctx r route (endpointMethod r) = none) (x : Exchange) :
    Unserved (answer ctx r x).1 ∧ (answer ctx r x).2 = x := by
  rw [answer_eq_of_none hroute hh x]
  refine ⟨?_, rfl⟩
  by_cases hmethod : Method.ofName r.method = .options
  · simp only [if_pos hmethod]
    exact unserved_preflight (some route)
  · simp only [if_neg hmethod]
    exact unserved_notAllowed route

/-- A request is answered by the endpoint for it, or there is none and nothing changes. -/
theorem answer_cases (ctx : Context) (r : Request) (x : Exchange) :
    (Unserved (answer ctx r x).1 ∧ (answer ctx r x).2 = x) ∨
      ∃ route h, Route.ofPath? r.path = some route ∧
        endpoint? ctx r route (endpointMethod r) = some h ∧
        answer ctx r x = (sentFor r (run h x).1, (run h x).2) := by
  cases hroute : Route.ofPath? r.path with
  | none =>
    left
    unfold answer
    rw [hroute]
    by_cases hmethod : Method.ofName r.method = .options
    · simp only [if_pos hmethod]
      exact ⟨unserved_preflight none, trivial⟩
    · simp only [if_neg hmethod]
      exact ⟨⟨rfl, .inr (.inl rfl)⟩, trivial⟩
  | some route =>
    cases hh : endpoint? ctx r route (endpointMethod r) with
    | none => exact .inl (answer_of_none hroute hh x)
    | some h => exact .inr ⟨route, h, rfl, hh, answer_of_endpoint hroute hh x⟩

/-- Requests for a route are answered alike if its endpoints do the same for both. -/
theorem answer_congr {ctx : Context} {r r' : Request} {route : Route}
    (hroute : Route.ofPath? r.path = some route) (hpath : r'.path = r.path)
    (hmethod : r'.method = r.method)
    (h : ∀ method, endpoint? ctx r' route method = endpoint? ctx r route method) (x : Exchange) :
    answer ctx r' x = answer ctx r x := by
  simp only [answer, answerRoute, hpath, hmethod, hroute, h]

theorem handle_congr (c : Config) (limiter : LoginLimiter) {e : Event} {r : Request} {route : Route}
    (hroute : Route.ofPath? e.request.path = some route) (hpath : r.path = e.request.path)
    (hmethod : r.method = e.request.method) (h : ∀ method,
      endpoint? (c.context e) r route method = endpoint? (c.context e) e.request route method) :
    handle c limiter { e with request := r } = handle c limiter e := by
  have hcontext : c.context { e with request := r } = c.context e := rfl
  simp only [handle, hcontext, answer_congr hroute hpath hmethod h]

/-- A request changes what the endpoint for it changes, or nothing. -/
theorem answer_snd (ctx : Context) (r : Request) (x : Exchange) :
    (answer ctx r x).2 = x ∨
      ∃ route method h, Route.ofPath? r.path = some route ∧ HandledAs r method ∧
        endpoint? ctx r route method = some h ∧ (answer ctx r x).2 = (h.exec x).2 := by
  rcases answer_cases ctx r x with ⟨-, hsame⟩ | ⟨route, h, hroute, hh, hanswer⟩
  · exact .inl hsame
  · refine .inr ⟨route, endpointMethod r, h, hroute, ?_, hh, by rw [hanswer, run_snd]⟩
    unfold endpointMethod
    split
    · exact .inr rfl
    · exact .inl rfl

/-- A request is handled by the endpoint for it. -/
theorem handle_of_endpoint (c : Config) (limiter : LoginLimiter) {e : Event} {route : Route}
    {h : Handler Response} (hroute : Route.ofPath? e.request.path = some route)
    (hh : endpoint? (c.context e) e.request route (endpointMethod e.request) = some h) :
    handle c limiter e =
      let (response, x) := run h { limiter := limiter, replies := e.replies }
      (⟨{ sentFor e.request response with
          headers := commonHeaders (c.context e) ++ (sentFor e.request response).headers }, x.log⟩,
        x.limiter) := by
  simp only [handle, answer_of_endpoint hroute hh]

theorem handle_post (c : Config) (limiter : LoginLimiter) {e : Event} {route : Route}
    {h : Handler Response} (hroute : Route.ofPath? e.request.path = some route)
    (hmethod : Method.ofName e.request.method = .post)
    (hh : endpoint? (c.context e) e.request route .post = some h) :
    handle c limiter e =
      let (response, x) := run h { limiter := limiter, replies := e.replies }
      (⟨{ response with headers := commonHeaders (c.context e) ++ response.headers }, x.log⟩,
        x.limiter) := by
  have hpost : endpointMethod e.request = .post := by simp [endpointMethod, hmethod]
  have hsent (response : Response) : sentFor e.request response = response := by
    simp [sentFor, hmethod]
  rw [handle_of_endpoint c limiter hroute (hpost ▸ hh)]
  simp only [hsent]

/-- What holds of what every endpoint for a request sends and uses, and of nothing, holds
of the request; and the limiter stays as it is. -/
theorem ensures_handle {c : Config} {e : Event} {Q : List Statement → List Reply → Prop}
    (hnil : Q [] []) (hQ : ∀ route method h, Route.ofPath? e.request.path = some route →
      HandledAs e.request method → endpoint? (c.context e) e.request route method = some h →
      Handler.Ensures h fun sent used _ => Q sent used) (limiter : LoginLimiter) :
    (handle c limiter e).2 = limiter ∧
      ∃ used rest, e.replies = used ++ rest ∧ Q (handle c limiter e).1.log used := by
  show (answer _ _ _).2.limiter = limiter ∧ ∃ used rest, _ ∧ Q (answer _ _ _).2.log used
  rcases answer_snd (c.context e) e.request { limiter := limiter, replies := e.replies } with
    hsame | ⟨route, method, h, hroute, hmethod, hh, heq⟩
  · rw [hsame]
    exact ⟨rfl, [], e.replies, rfl, hnil⟩
  · rw [heq]
    obtain ⟨sent, used, hleads, hq⟩ :=
      hQ route method h hroute hmethod hh { limiter, replies := e.replies }
    refine ⟨hleads.limiter, used, _, hleads.replies, ?_⟩
    rw [hleads.log]
    exact hq

end Parley.Service
