import Parley.Proofs.Service.TokenPair

/-!
# Spent refresh tokens

A refresh token is taken out of store by a statement of its own, in front of the
transaction that stores the new pair. What is done outside of a transaction lasts, so a
request that fails behind that statement has spent its token and hands out nothing.

* `lasting`: what lasts of a log, with the replies to it.
* `spent_iff`: a token is spent exactly if it is presented and was in store.
* `spent_for_nothing_iff`: which requests spend a token and hand out no pair.
* `renewal_not_atomic`: there is such a request.
-/
namespace Parley.Service

open Http (Method Request Response Route)
open Store (Cell Reply Row Statement)
open Handler (Ensures Sends exec)

/-! ## What lasts -/

/-- The statements of a log with the replies to them. To open or to end a transaction uses
no reply. -/
def answered : List Statement → List Reply → List (Statement × Option Reply)
  | [], _ => []
  | s :: log, replies =>
    if s.isTransactional then (s, none) :: answered log replies
    else (s, replies.head?) :: answered log replies.tail

/-- What lasts, where this is held back by the transaction that is open. -/
def lastingFrom : Option (List (Statement × Option Reply)) → List (Statement × Option Reply) →
    List (Statement × Option Reply)
  | _, [] => []
  | none, (.openTransaction, _) :: rest => lastingFrom (some []) rest
  | some held, (.commitTransaction, _) :: rest => held ++ lastingFrom none rest
  | none, a :: rest => a :: lastingFrom none rest
  | some held, a :: rest => lastingFrom (some (held ++ [a])) rest

/-- What lasts of a log: all that is sent outside of transactions, and what is sent in those
that are committed. -/
def lasting (log : List Statement) (replies : List Reply) : List (Statement × Option Reply) :=
  lastingFrom none (answered log replies)

/-- A refresh token was taken out of store for good. -/
def Spent (token : String) (log : List Statement) (replies : List Reply) : Prop :=
  ∃ row rows, (.consumeRefreshToken token, some (.rows (row :: rows))) ∈ lasting log replies

theorem mem_of_mem_answered {a : Statement × Option Reply} {log : List Statement}
    {replies : List Reply} (h : a ∈ answered log replies) : a.1 ∈ log := by
  induction log generalizing replies with
  | nil => cases h
  | cons s log ih =>
    unfold answered at h
    split at h
    · rcases List.mem_cons.mp h with rfl | h
      · exact List.mem_cons_self
      · exact List.mem_cons_of_mem s (ih h)
    · rcases List.mem_cons.mp h with rfl | h
      · exact List.mem_cons_self
      · exact List.mem_cons_of_mem s (ih h)

theorem mem_of_mem_lastingFrom {a : Statement × Option Reply}
    (held : Option (List (Statement × Option Reply))) (sent : List (Statement × Option Reply))
    (h : a ∈ lastingFrom held sent) : a ∈ held.getD [] ∨ a ∈ sent := by
  fun_induction lastingFrom held sent with
  | case1 => cases h
  | case2 _ rest ih => simpa using Or.inr (ih h)
  | case3 held _ rest ih =>
    rcases List.mem_append.mp h with h | h
    · exact Or.inl h
    · simpa using Or.inr (Or.inr (ih h))
  | case4 b rest _ ih =>
    rcases List.mem_cons.mp h with rfl | h
    · simp
    · simpa using Or.inr (ih h)
  | case5 held b rest _ ih =>
    rcases ih h with h | h
    · rcases List.mem_append.mp h with h | h
      · exact Or.inl h
      · exact Or.inr (List.mem_cons.mpr (Or.inl (List.mem_singleton.mp h)))
    · exact Or.inr (List.mem_cons_of_mem b h)

theorem mem_of_mem_lasting {a : Statement × Option Reply} {log : List Statement}
    {replies : List Reply} (h : a ∈ lasting log replies) : a.1 ∈ log := by
  rcases mem_of_mem_lastingFrom _ _ h with h | h
  · cases h
  · exact mem_of_mem_answered h

/-- Where a token is taken out of store first of all and no other is, it is spent if it was
found. -/
theorem spent_cons {token taken : String} {log : List Statement} {replies : List Reply}
    (hlog : ∀ t, .consumeRefreshToken t ∉ log) :
    Spent token (.consumeRefreshToken taken :: log) replies ↔
      taken = token ∧ ∃ row rows rest, replies = .rows (row :: rows) :: rest := by
  have hlasting : lasting (.consumeRefreshToken taken :: log) replies =
      (.consumeRefreshToken taken, replies.head?) :: lasting log replies.tail := rfl
  unfold Spent
  rw [hlasting]
  constructor
  · rintro ⟨row, rows, hmem⟩
    rcases List.mem_cons.mp hmem with heq | hmem
    · obtain ⟨hs, hreply⟩ := Prod.mk.inj heq
      refine ⟨(Statement.consumeRefreshToken.inj hs).symm, row, rows, ?_⟩
      cases replies with
      | nil => cases hreply
      | cons reply rest =>
        obtain rfl : .rows (row :: rows) = reply := Option.some.inj hreply
        exact ⟨rest, rfl⟩
    · exact absurd (mem_of_mem_lasting hmem) (hlog token)
  · rintro ⟨rfl, row, rows, rest, rfl⟩
    exact ⟨row, rows, List.mem_cons_self⟩

/-! ## How a renewal ends -/

section

variable (ctx : Context) {r : Request} {x : Exchange} {token : String}

theorem refresh_of_token (htoken : presentedToken? r = some token) : refresh ctx r =
    Handler.first? (.consumeRefreshToken token) (Row.single Cell.toUuid?) >>= renew ctx := by
  unfold presentedToken? at htoken
  split at htoken
  · rename_i hrenewal
    obtain ⟨-, -, hjson⟩ := hrenewal
    cases hread : refreshForm.readText r.body with
    | error fault => rw [hread] at htoken; cases htoken
    | ok token' =>
      rw [hread] at htoken
      cases htoken
      rw [refresh_eq, body_of_readText hjson hread, pure_bind]
  · cases htoken

theorem sends_renew (found : Option Uuid) :
    Sends (renew ctx found) fun s => ∀ t, .consumeRefreshToken t ≠ s := by
  cases found with
  | none => exact Handler.sends_pure _
  | some account =>
    refine Handler.sends_bind ?_ fun pair => Handler.sends_pure _
    refine Handler.sends_bind (Handler.sends_execute fun _ => Statement.noConfusion) fun _ => ?_
    refine Handler.sends_bind (Handler.sends_execute fun _ => Statement.noConfusion) fun _ => ?_
    refine Handler.sends_bind (Handler.sends_execute fun _ => Statement.noConfusion) fun _ => ?_
    refine Handler.sends_bind (Handler.sends_execute fun _ => Statement.noConfusion) fun _ => ?_
    exact Handler.sends_pure _

/-- The token that is presented is taken out of store before anything else, and no other. -/
theorem ensures_refresh (htoken : presentedToken? r = some token) :
    Ensures (refresh ctx r) fun sent _ _ => ∃ more,
      sent = .consumeRefreshToken token :: more ∧ ∀ t, .consumeRefreshToken t ∉ more := by
  have hnone : ∃ more : List Statement, [.consumeRefreshToken token] =
      .consumeRefreshToken token :: more ∧ ∀ t, .consumeRefreshToken t ∉ more :=
    ⟨[], rfl, fun _ => List.not_mem_nil⟩
  rw [refresh_of_token ctx htoken]
  refine Handler.ensures_bind (Handler.ensures_of_asks (Handler.asks_first? rfl _) hnone ?_)
  intro reply
  cases Handler.readFirst (Row.single Cell.toUuid?) reply with
  | error e => exact hnone
  | ok found =>
    refine Handler.ensures_mono (sends_renew ctx found) fun more _ _ hmore => ?_
    exact ⟨more, rfl, fun t hmem => hmore _ hmem t rfl⟩

theorem ensures_refresh_of_none (htoken : presentedToken? r = none)
    (hroute : Route.ofPath? r.path = some .refreshToken)
    (hmethod : Method.ofName r.method = .post) :
    Ensures (refresh ctx r) fun sent _ _ => sent = [] := by
  rw [refresh_eq]
  rcases body_cases refreshForm r with ⟨token, hjson, hread, -⟩ | ⟨rejection, hbody⟩
  · simp [presentedToken?, hroute, hmethod, hjson, hread, Except.toOption] at htoken
  · rw [hbody]
    exact Handler.ensures_throw rfl

/-- Behind a token that was in store comes the storing of a pair for its account. -/
theorem exec_refresh_of_row {row : Row} {rows : List Row} {rest : List Reply}
    (htoken : presentedToken? r = some token) (hx : x.replies = .rows (row :: rows) :: rest) :
    exec (refresh ctx r) x =
      match Row.single Cell.toUuid? row with
      | none => (.error .database,
          { x with log := x.log ++ [.consumeRefreshToken token], replies := rest })
      | some account => exec (handOut ctx (refreshGrant account))
          { x with log := x.log ++ [.consumeRefreshToken token], replies := rest } := by
  have hcons := (Handler.asks_first? (s := .consumeRefreshToken token) rfl
    (Row.single Cell.toUuid?)).cons x _ rest hx
  rw [refresh_of_token ctx htoken]
  cases hrow : Row.single Cell.toUuid? row with
  | none =>
    simp only [Handler.readFirst, hrow] at hcons
    exact Handler.exec_bind_error hcons
  | some account =>
    simp only [Handler.readFirst, hrow] at hcons
    exact Handler.exec_bind_ok hcons

end

/-! ## Requests -/

def RefreshesTokens (r : Request) : Prop :=
  Method.ofName r.method = .post ∧ Route.ofPath? r.path = some .refreshToken

/-- The token that is presented was in store, and then its account cannot be read or the
pair for it cannot be stored. -/
def Interrupted (e : Event) : Prop :=
  ∃ token row rows rest, presentedToken? e.request = some token ∧
    e.replies = .rows (row :: rows) :: rest ∧
    (Row.single Cell.toUuid? row = none ∨ storesPair rest = false)

section

variable (c : Config) (limiter : LoginLimiter) {e : Event}

theorem handle_refresh (h : RefreshesTokens e.request) :
    let x : Exchange := { limiter := limiter, replies := e.replies }
    (handle c limiter e).1.log = (exec (refresh (c.context e) e.request) x).2.log ∧
    ∃ headers, (handle c limiter e).1.response =
      { (run (refresh (c.context e) e.request) x).1 with headers := headers } := by
  intro x
  rw [handle_post c limiter h.2 h.1 rfl]
  exact ⟨congrArg Exchange.log (run_snd _ x), _, rfl⟩

/-- A token is spent exactly if it is presented and was in store. -/
theorem spent_iff (h : RefreshesTokens e.request) (token : String) :
    Spent token (handle c limiter e).1.log e.replies ↔
      presentedToken? e.request = some token ∧
        ∃ row rows rest, e.replies = .rows (row :: rows) :: rest := by
  rw [(handle_refresh c limiter h).1]
  cases hpresented : presentedToken? e.request with
  | none =>
    obtain ⟨sent, used, hleads, hsent⟩ := ensures_refresh_of_none (c.context e) hpresented
      h.2 h.1 { limiter := limiter, replies := e.replies }
    rw [hleads.log, hsent]
    constructor
    · rintro ⟨row, rows, hmem⟩
      cases hmem
    · rintro ⟨hnone, -⟩
      cases hnone
  | some presented =>
    obtain ⟨sent, used, hleads, more, hsent, hmore⟩ := ensures_refresh (c.context e)
      hpresented { limiter := limiter, replies := e.replies }
    rw [hleads.log, hsent, List.nil_append, spent_cons hmore, Option.some.injEq]

/-- A request whose token is spent for nothing fails for the database. -/
theorem status_of_interrupted (h : RefreshesTokens e.request) (hinterrupted : Interrupted e) :
    (handle c limiter e).1.response.status = 500 ∧
      handedOut? (handle c limiter e).1.response = none := by
  obtain ⟨token, row, rows, rest, htoken, hreplies, hcause⟩ := hinterrupted
  have herror : ∃ x', exec (refresh (c.context e) e.request)
      { limiter := limiter, replies := e.replies } = (.error .database, x') := by
    rw [exec_refresh_of_row _ htoken hreplies]
    cases hrow : Row.single Cell.toUuid? row with
    | none => exact ⟨_, rfl⟩
    | some account =>
      have hstores : storesPair rest = false :=
        hcause.resolve_left (by rw [hrow]; exact Option.some_ne_none account)
      obtain ⟨x', sent, hexec, -, -⟩ := exec_handOut_error (c.context e) (refreshGrant account)
        (x := ⟨limiter, rest, [] ++ [.consumeRefreshToken token]⟩) hstores e.drawn
      exact ⟨x', hexec⟩
  obtain ⟨x', hexec⟩ := herror
  obtain ⟨-, headers, hresponse⟩ := handle_refresh c limiter h
  rw [hresponse, run_fst, hexec]
  exact ⟨rfl, rfl⟩

/-- A token that is spent buys a pair, unless its request is interrupted. -/
theorem handedOut_of_not_interrupted (h : RefreshesTokens e.request) {token : String}
    (hspent : Spent token (handle c limiter e).1.log e.replies) (hnot : ¬ Interrupted e) :
    (handedOut? (handle c limiter e).1.response).isSome = true := by
  obtain ⟨htoken, row, rows, rest, hreplies⟩ := (spent_iff c limiter h token).mp hspent
  cases hrow : Row.single Cell.toUuid? row with
  | none => exact absurd ⟨token, row, rows, rest, htoken, hreplies, Or.inl hrow⟩ hnot
  | some account =>
    cases hstores : storesPair rest with
    | false => exact absurd ⟨token, row, rows, rest, htoken, hreplies, Or.inr hstores⟩ hnot
    | true =>
      have hexec := exec_refresh_of_row (c.context e)
        (x := { limiter := limiter, replies := e.replies }) htoken hreplies
      rw [hrow] at hexec
      have hhandOut := exec_handOut (c.context e) (refreshGrant account)
        (x := ⟨limiter, rest, [] ++ [.consumeRefreshToken token]⟩) hstores e.drawn
      obtain ⟨-, headers, hresponse⟩ := handle_refresh c limiter h
      rw [hresponse, run_fst, hexec.trans hhandOut]
      rfl

end

/-- A token is spent and no pair is handed out exactly if the database fails behind the
statement that takes the token out of store. The response is then an error of the service,
nothing is committed, and the token that is spent is the one presented. -/
theorem spent_for_nothing_iff (c : Config) (limiter : LoginLimiter) (e : Event)
    (h : RefreshesTokens e.request) :
    let o := (handle c limiter e).1
    (handedOut? o.response = none ∧ (∃ token, Spent token o.log e.replies) ↔ Interrupted e) ∧
    (Interrupted e → o.response.status = 500 ∧ .commitTransaction ∉ o.log) ∧
    ∀ token, Spent token o.log e.replies → presentedToken? e.request = some token := by
  intro o
  refine ⟨⟨?_, fun hinterrupted => ?_⟩, fun hinterrupted => ?_,
    fun token hspent => ((spent_iff c limiter h token).mp hspent).1⟩
  · rintro ⟨hnone, token, hspent⟩
    refine Classical.byContradiction fun hnot => ?_
    have hsome := handedOut_of_not_interrupted c limiter h hspent hnot
    rw [show handedOut? _ = none from hnone] at hsome
    cases hsome
  · have hnone := (status_of_interrupted c limiter h hinterrupted).2
    obtain ⟨token, row, rows, rest, htoken, hreplies, -⟩ := hinterrupted
    exact ⟨hnone, token, (spent_iff c limiter h token).mpr ⟨htoken, row, rows, rest, hreplies⟩⟩
  · have hstatus := (status_of_interrupted c limiter h hinterrupted).1
    refine ⟨hstatus, ?_⟩
    rcases issued_or_withheld c limiter ⟨h.1, Or.inr h.2⟩ with ⟨hok, -⟩ | hwithheld
    · rw [hok] at hstatus
      cases hstatus
    · exact hwithheld.uncommitted

/-- A renewal whose token is good, and whose new session the database fails to store. -/
def interruptedRenewal : Event where
  request := {
    method := "POST"
    target := "/console/api/refresh-token"
    headers := [("content-type", Utf8.ofString "application/json")]
    body := Utf8.ofString "\x7b\"refresh_token\":\"r\"\x7d" }
  now := 0
  fresh := ⟨default, ⟨.replicate 32 1⟩, ⟨.replicate 32 2⟩, default⟩
  replies := [.rows [[.text "00000000000000000000000000000001"]], .failure]

theorem spent_for_nothing_in_interruptedRenewal :
    let c : Config := ⟨"key", 60, 30, 5, 900, false⟩
    RefreshesTokens interruptedRenewal.request ∧ Interrupted interruptedRenewal ∧
      (handle c c.limiter interruptedRenewal).1.response.status = 500 ∧
      handedOut? (handle c c.limiter interruptedRenewal).1.response = none ∧
      ∃ token, Spent token (handle c c.limiter interruptedRenewal).1.log
        interruptedRenewal.replies := by
  intro c
  have hrenewal : RefreshesTokens interruptedRenewal.request := by
    unfold RefreshesTokens
    decide +kernel
  have htoken : presentedToken? interruptedRenewal.request = some "r" := by decide +kernel
  have hinterrupted : Interrupted interruptedRenewal :=
    ⟨"r", _, _, _, htoken, rfl, Or.inr rfl⟩
  obtain ⟨hspent, hfailed, -⟩ := spent_for_nothing_iff c c.limiter interruptedRenewal hrenewal
  obtain ⟨hnone, hsome⟩ := hspent.mpr hinterrupted
  exact ⟨hrenewal, hinterrupted, (hfailed hinterrupted).1, hnone, hsome⟩

/-- To trade a refresh token is not atomic: a response without a pair does not mean that the
token that was presented still works. -/
theorem renewal_not_atomic :
    ¬ ∀ (c : Config) (limiter : LoginLimiter) (e : Event), RefreshesTokens e.request →
      handedOut? (handle c limiter e).1.response = none →
      ∀ token, ¬ Spent token (handle c limiter e).1.log e.replies := by
  intro hatomic
  let c : Config := ⟨"key", 60, 30, 5, 900, false⟩
  have hrenewal : RefreshesTokens interruptedRenewal.request := by
    unfold RefreshesTokens
    decide +kernel
  have hnone : handedOut? (handle c c.limiter interruptedRenewal).1.response = none := by
    decide +kernel
  have hlasting : (.consumeRefreshToken "r",
      some (.rows [[.text "00000000000000000000000000000001"]])) ∈
      lasting (handle c c.limiter interruptedRenewal).1.log interruptedRenewal.replies := by
    decide +kernel
  exact hatomic c c.limiter interruptedRenewal hrenewal hnone "r" ⟨_, _, hlasting⟩

end Parley.Service
