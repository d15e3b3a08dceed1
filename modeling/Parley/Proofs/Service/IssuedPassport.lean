import Parley.Proofs.Passport.Transport
import Parley.Proofs.Service.ErrorContract

/-!
# Issued passports

A passport that is issued over HTTP is accepted over HTTP, as long as the app is published
and the end user exists.

* `ensures_getPassport`: what is sent and used where a passport is issued, and for whom it is.
* `bearer?_sign`: a signed token arrives as it was sent.
* `issued_passport_accepted`: so the passport of one request lets another one in, and what
  that one sends is bound to the app and the end user of the passport.
-/
namespace Parley.Service

open Http (Method Request Response Route)
open Store (Cell Reply Row Statement)
open Handler (Asks Ensures exec)

/-! ## Issuing -/

/-- What a passport is issued for: an account and the app behind a code, with what the database
told of them on the way. -/
structure Issuance where
  account : Uuid
  code : String
  name : String
  site : Uuid
  app : App
  endUser : Uuid
  type : String

namespace Issuance

def statements (i : Issuance) (visit : Uuid) : List Statement := [
  .accountName i.account,
  .activeSite i.code,
  .appById i.site,
  .linkEndUser i.account i.app.tenant i.app.id i.name visit]

/-- The replies tell of the name of the account, the site, the app and the end user. -/
def ToldBy (i : Issuance) (replies : List Reply) : Prop :=
  ∃ account site app endUser, replies = [account, site, app, endUser] ∧
    Handler.readFirst (Row.single Cell.toText?) account = .ok (some i.name) ∧
    Handler.readFirst (Row.single Cell.toUuid?) site = .ok (some i.site) ∧
    Handler.readFirst Row.app? app = .ok (some i.app) ∧
    Handler.readOne Row.endUser? endUser = .ok (i.endUser, i.type)

def claims (i : Issuance) : Passport.Claims :=
  .make i.app.id i.code i.endUser i.account i.type

def token (i : Issuance) (secretKey : String) : String :=
  Passport.sign (macOf secretKey) i.claims

end Issuance

section

variable {α β : Type} {Q : List Statement → List Reply → Except Failure β → Prop}

theorem ensures_asks_bind {h : Handler α} {s : Statement} {f : Reply → Except Failure α}
    {k : α → Handler β} (hh : Asks h s f) (herror : ∀ sent used e, Q sent used (.error e))
    (hok : ∀ reply a, f reply = .ok a →
      Ensures (k a) fun sent used result => Q (s :: sent) (reply :: used) result) :
    Ensures (h >>= k) Q := by
  refine Handler.ensures_bind (Handler.ensures_of_asks hh (herror _ _ _) fun reply => ?_)
  cases hread : f reply with
  | error e => exact herror _ _ _
  | ok a => exact hok reply a hread

theorem ensures_orFail_bind {e : ApiError} {a : Option α} {k : α → Handler β}
    (herror : ∀ sent used e, Q sent used (.error e)) (hok : ∀ b, a = some b → Ensures (k b) Q) :
    Ensures (Handler.orFail e a >>= k) Q := by
  cases a with
  | none => exact Handler.ensures_throw (herror _ _ _)
  | some b => exact hok b rfl

end

/-- If a passport is issued, then for what was looked up. -/
theorem ensures_getPassport (ctx : Context) (r : Request) :
    Ensures (getPassport ctx r) fun sent used result => ∀ response, result = .ok response →
      ∃ i : Issuance, r.filled? "x-app-code" = some i.code ∧
        sent = i.statements ctx.fresh.visit ∧ i.ToldBy used ∧
        response = .ofJson 200 (.obj [("access_token", .str (i.token ctx.secretKey))]) := by
  have herror (Q : List Statement → List Reply → Response → Prop) (sent : List Statement)
      (used : List Reply) (e : Failure) (response : Response)
      (h : (.error e : Except Failure Response) = .ok response) : Q sent used response := by
    cases h
  unfold getPassport issuePassport
  simp only [bind_assoc, pure_bind]
  refine ensures_orFail_bind (herror _) fun raw _ => ?_
  refine ensures_orFail_bind (herror _) fun account _ => ?_
  refine ensures_asks_bind (Handler.asks_first? rfl _) (herror _) fun first found hname => ?_
  refine ensures_orFail_bind (herror _) fun name hfound => ?_
  refine ensures_orFail_bind (herror _) fun code hcode => ?_
  refine ensures_asks_bind (Handler.asks_first? rfl _) (herror _) fun second site hsite => ?_
  refine ensures_orFail_bind (herror _) fun site hfound' => ?_
  refine ensures_asks_bind (asks_publishedApp site) (herror _) fun third app happ => ?_
  refine ensures_asks_bind (Handler.asks_one rfl _) (herror _) fun fourth linked hlinked => ?_
  obtain ⟨endUser, type⟩ := linked
  subst hfound hfound'
  refine Handler.ensures_pure fun response hresponse => ?_
  cases hresponse
  exact ⟨⟨account, code, name, site, app, endUser, type⟩, hcode, rfl,
    ⟨first, second, third, fourth, rfl, hname, hsite, (readPublished_eq_ok happ).1, hlinked⟩, rfl⟩

/-- Where the app is published and the replies tell of all that is asked, a passport is
issued. -/
theorem exec_getPassport {ctx : Context} {r : Request} {i : Issuance} {raw : String}
    (hraw : r.filled? "x-user-id" = some raw) (haccount : Uuid.parse? raw = some i.account)
    (hcode : r.filled? "x-app-code" = some i.code) (hpublished : i.app.isPublished = true)
    {x : Exchange} {used rest : List Reply} (htold : i.ToldBy used)
    (hreplies : x.replies = used ++ rest) :
    exec (getPassport ctx r) x =
      (.ok (.ofJson 200 (.obj [("access_token", .str (i.token ctx.secretKey))])),
        { x with log := x.log ++ i.statements ctx.fresh.visit, replies := rest }) := by
  obtain ⟨first, second, third, fourth, rfl, hname, hsite, happ, hlinked⟩ := htold
  have happ : readPublished third = .ok i.app := by
    simp [readPublished, happ, Option.filter, hpublished]
  unfold getPassport issuePassport
  simp only [hraw, haccount, hcode, Handler.orFail, bind_assoc, pure_bind]
  rw [Handler.exec_asks_bind (Handler.asks_first? rfl _) hreplies hname]
  simp only [pure_bind]
  rw [Handler.exec_asks_bind (Handler.asks_first? rfl _) rfl hsite]
  simp only [pure_bind]
  rw [Handler.exec_asks_bind (asks_publishedApp _) rfl happ,
    Handler.exec_asks_bind (Handler.asks_one rfl _) rfl hlinked]
  simp [Issuance.statements, Issuance.token, Issuance.claims]

/-! ## Headers -/

theorem bearer?_sign {r : Request} {mac : Passport.Mac} {c : Passport.Claims}
    (h : r.header? "authorization" =
      some (Utf8.ofString ("Bearer " ++ Passport.sign mac c))) :
    r.bearer? = some (Passport.sign mac c) := by
  have hnone : ∀ a ∈ "".toList, Http.IsPadding a := by simp
  apply Passport.bearer?_of_sign hnone hnone
  rw [h, String.append_empty, String.append_empty]

/-! ## Accepting -/

/-- A request that names no app, or the one that the issuing request has named, is one for
which the passport is good. -/
theorem matchesCode_issued {r r' : Request} {i : Issuance}
    (hissued : r.filled? "x-app-code" = some i.code)
    (hcode : r'.header? "x-app-code" = none ∨ r'.header? "x-app-code" = r.header? "x-app-code") :
    matchesCode i.claims (r'.filled? "x-app-code") = true := by
  apply matchesCode_of_code_eq
  intro code hfilled
  rw [Request.filled?, Request.text?] at hfilled hissued
  rcases hcode with hnone | hsame
  · rw [hnone] at hfilled
    cases hfilled
  · rw [hsame, hissued] at hfilled
    exact (Option.some.inj hfilled).symm

/-- The database still knows the app as published, and the end user. -/
structure StillThere (lookup found : Reply) : Prop where
  published : ∃ app, Handler.readFirst Row.app? lookup = .ok (some app) ∧ app.isPublished = true
  known : Handler.readOne (Row.single Cell.toBool?) found = .ok true

theorem status_ne_unauthorized {h : Handler Response}
    (hh : Handler.Reports conversationStatuses Shown h) (x : Exchange) :
    (run h x).1.status ≠ 401 := by
  obtain ⟨sent, -, -, htold⟩ := hh x
  rw [run_fst]
  generalize (exec h x).1 = result at htold
  generalize answered sent x.replies = answers at htold
  cases htold with
  | done smooth hshown => rcases hshown with h | h <;> simp [h]
  | refused smooth ne status =>
    intro h
    rw [h] at status
    exact absurd status (by decide)
  | failed smooth mishap => decide

/-! ## From one request to another -/

/-- The passport that a response tells of. -/
def passport? (response : Response) : Option String :=
  match response.body with
  | .json v => match v.get? "access_token" with
    | some (.str token) => some token
    | _ => none
  | _ => none

/-- A response that hands out a passport. -/
def HandsOut (response : Response) (token : String) : Prop :=
  response.status = 200 ∧ passport? response = some token

/-- A request that bears a token, and names no app or the one that another request names. -/
structure Revisits (issuing r : Request) (token : String) : Prop where
  token : r.header? "authorization" = some (Utf8.ofString ("Bearer " ++ token))
  code : r.header? "x-app-code" = none ∨ r.header? "x-app-code" = issuing.header? "x-app-code"

theorem handle_passport (c : Config) (limiter : LoginLimiter) {e : Event}
    (hroute : Route.ofPath? e.request.path = some .passport)
    (hmethod : Method.ofName e.request.method = .get) :
    (handle c limiter e).1.response.body =
        (run (getPassport (c.context e) e.request) ⟨limiter, e.replies, []⟩).1.body ∧
      (handle c limiter e).1.response.status =
        (run (getPassport (c.context e) e.request) ⟨limiter, e.replies, []⟩).1.status ∧
      (handle c limiter e).1.log =
        (exec (getPassport (c.context e) e.request) ⟨limiter, e.replies, []⟩).2.log := by
  have hh : endpoint? (c.context e) e.request .passport (endpointMethod e.request) =
      some (getPassport (c.context e) e.request) := by
    simp [endpointMethod, hmethod, endpoint?]
  have hsent (response : Response) : sentFor e.request response = response := by
    simp [sentFor, hmethod]
  rw [handle_of_endpoint c limiter hroute hh, ← run_snd]
  simp [hsent]

/-- A request that is handed a passport has had it issued. -/
theorem exists_issuance {c : Config} {limiter : LoginLimiter} {e : Event} {token : String}
    (hroute : Route.ofPath? e.request.path = some .passport)
    (hmethod : Method.ofName e.request.method = .get)
    (htoken : HandsOut (handle c limiter e).1.response token) :
    ∃ i : Issuance, e.request.filled? "x-app-code" = some i.code ∧
      (∃ used rest, e.replies = used ++ rest ∧ i.ToldBy used) ∧
      (handle c limiter e).1.log = i.statements e.fresh.visit ∧ token = i.token c.secretKey := by
  obtain ⟨hbody, -, hlog⟩ := handle_passport c limiter hroute hmethod
  obtain ⟨sent, used, hleads, hissued⟩ :=
    ensures_getPassport (c.context e) e.request ⟨limiter, e.replies, []⟩
  have htoken := htoken.2
  rw [passport?, hbody, run_fst] at htoken
  rw [hlog, hleads.log]
  cases hresult : (exec (getPassport (c.context e) e.request) ⟨limiter, e.replies, []⟩).1 with
  | error f =>
    rw [hresult] at htoken
    cases f <;> cases htoken
  | ok response =>
    obtain ⟨i, hcode, hsent, htold, rfl⟩ := hissued response hresult
    rw [hresult] at htoken
    have htext : i.token (c.context e).secretKey = token := by
      simpa [Response.ofJson, Json.get?] using htoken
    exact ⟨i, hcode, ⟨used, _, hleads.replies, htold⟩, hsent, htext.symm⟩

/-- A request of an account is handed a passport if all that is asked for it is there. -/
theorem handsOut_of_toldBy {c : Config} {limiter : LoginLimiter} {e : Event} {i : Issuance}
    {raw : String} (hroute : Route.ofPath? e.request.path = some .passport)
    (hmethod : Method.ofName e.request.method = .get)
    (hraw : e.request.filled? "x-user-id" = some raw)
    (haccount : Uuid.parse? raw = some i.account)
    (hcode : e.request.filled? "x-app-code" = some i.code) (hpublished : i.app.isPublished = true)
    {used rest : List Reply} (hreplies : e.replies = used ++ rest) (htold : i.ToldBy used) :
    HandsOut (handle c limiter e).1.response (i.token c.secretKey) := by
  obtain ⟨hbody, hstatus, -⟩ := handle_passport c limiter hroute hmethod
  have hexec : exec (getPassport (c.context e) e.request) ⟨limiter, e.replies, []⟩ = _ :=
    exec_getPassport hraw haccount hcode hpublished htold hreplies
  rw [HandsOut, passport?, hbody, hstatus, run_fst, hexec]
  simp [Response.ofJson, Json.get?]
  rfl

/-- A passport that is issued is accepted: under the same key, every request that bears it and
names no other app is let in while the app is published and the end user exists; and all that
is sent for it is bound to the app and the end user that the passport was issued for. -/
theorem issued_passport_accepted {c : Config} {limiter : LoginLimiter} {e : Event}
    {token : String} (hroute : Route.ofPath? e.request.path = some .passport)
    (hmethod : Method.ofName e.request.method = .get)
    (htoken : HandsOut (handle c limiter e).1.response token) :
    ∃ i : Issuance, (∃ used rest, e.replies = used ++ rest ∧ i.ToldBy used) ∧
      (handle c limiter e).1.log = i.statements e.fresh.visit ∧
      ∀ (c' : Config) (limiter' : LoginLimiter) (e' : Event) (route : Route)
        (lookup found : Reply) (rest : List Reply), c'.secretKey = c.secretKey →
        Route.ofPath? e'.request.path = some route → isForVisitors route = true →
        (endpoint? (c'.context e') e'.request route (endpointMethod e'.request)).isSome = true →
        Revisits e.request e'.request token → e'.replies = lookup :: found :: rest →
        StillThere lookup found →
        (exec (requireVisitor (c'.context e') e'.request) ⟨limiter', e'.replies, []⟩).1 =
          .ok ⟨i.app.id, i.endUser⟩ ∧
        (handle c' limiter' e').1.response.status ≠ 401 ∧
        ∃ sent, (handle c' limiter' e').1.log =
            .appById i.app.id :: .endUserExists i.endUser :: sent ∧
          StaysWithin i.app.id (.externalVisitor i.endUser) sent rest := by
  obtain ⟨i, hcode, htold, hlog, rfl⟩ := exists_issuance hroute hmethod htoken
  refine ⟨i, htold, hlog, ?_⟩
  intro c' limiter' e' route lookup found rest hkey hroute' hvisitors hserved hrevisits hreplies
    hthere
  obtain ⟨h, hh⟩ := Option.isSome_iff_exists.1 hserved
  let x : Exchange := { limiter := limiter', replies := e'.replies }
  let admitted : Exchange :=
    { x with log := [.appById i.app.id, .endUserExists i.endUser], replies := rest }
  have hbears : e'.request.bearer? =
      some (Passport.sign (macOf (c'.context e').secretKey) i.claims) := by
    rw [show (c'.context e').secretKey = c.secretKey from hkey]
    exact bearer?_sign hrevisits.token
  obtain ⟨app, happ, hpublished⟩ := hthere.published
  have hvisitor : exec (requireVisitor (c'.context e') e'.request) x =
      (.ok ⟨i.app.id, i.endUser⟩, admitted) :=
    exec_requireVisitor hbears (Passport.verify_sign _ _) (matchesCode_issued hcode hrevisits.code)
      happ hpublished hthere.known hreplies
  have hanswer := answer_of_endpoint hroute' hh x
  refine ⟨by rw [hvisitor], ?_, ?_⟩
  · obtain ⟨f, rfl, hf⟩ := reports_of_isForVisitors hvisitors hh
    show (answer _ _ x).1.status ≠ 401
    rw [hanswer, sentFor_status, run_fst, Handler.exec_bind_ok hvisitor, ← run_fst]
    exact status_ne_unauthorized (hf _) _
  · obtain ⟨f, rfl, hf⟩ := keeps_of_isForVisitors hvisitors hh
    obtain ⟨sent, used, hleads, hstays⟩ := hf ⟨i.app.id, i.endUser⟩ admitted
    refine ⟨sent, ?_, ?_⟩
    · show (answer _ _ x).2.log = _
      rw [hanswer, run_snd, Handler.exec_bind_ok hvisitor, hleads.log]
      rfl
    · have hrest : rest = used ++ _ := hleads.replies
      rw [hrest]
      exact hstays.append _

/-- What a passport is issued for to an account that is called Ada. -/
def guestIssuance : Issuance where
  account := .ofByte 2
  code := "abc123"
  name := "Ada"
  site := .ofByte 1
  app := ⟨.ofByte 1, .ofByte 4, "normal", true⟩
  endUser := .ofByte 2
  type := "say \"hi\""

def guestApp : Reply :=
  .rows [[.text "00000000-0000-0000-0000-000000000001",
    .text "00000000-0000-0000-0000-000000000004", .text "normal", .bool true]]

def guestReplies : List Reply := [
  .rows [[.text "Ada"]],
  .rows [[.text "00000000-0000-0000-0000-000000000001"]],
  guestApp,
  .rows [[.text "00000000-0000-0000-0000-000000000002", .text "say \"hi\""]]]

def issuingEvent : Event where
  request := {
    method := "GET"
    target := "/api/passport"
    headers := [("x-user-id", Utf8.ofString "00000000-0000-0000-0000-000000000002"),
      ("x-app-code", Utf8.ofString "abc123")] }
  now := 0
  fresh := ⟨default, ⟨.replicate 32 0⟩, ⟨.replicate 32 0⟩, default⟩
  replies := guestReplies

def returningEvent : Event where
  request := {
    method := "GET"
    target := "/api/conversations"
    headers := [("authorization", Utf8.ofString ("Bearer " ++ guestIssuance.token "key"))] }
  now := 0
  fresh := ⟨default, ⟨.replicate 32 0⟩, ⟨.replicate 32 0⟩, default⟩
  replies := [guestApp, .rows [[.bool true]], .rows []]

theorem toldBy_guestReplies : guestIssuance.ToldBy guestReplies :=
  ⟨_, _, _, _, rfl, by decide +kernel, by decide +kernel, by decide +kernel, by decide +kernel⟩

theorem revisits_returningEvent :
    Revisits issuingEvent.request returningEvent.request (guestIssuance.token "key") where
  token := by
    have hname : Text.sameLetters "authorization" "authorization" = true := by decide +kernel
    simp [Request.header?, returningEvent, hname]
  code := .inl (by
    have hname : Text.sameLetters "authorization" "x-app-code" = false := by decide +kernel
    simp [Request.header?, returningEvent, hname])

theorem issued_passport_accepted_in_returningEvent :
    let c : Config := ⟨"key", 60, 30, 5, 900, false⟩
    HandsOut (handle c c.limiter issuingEvent).1.response (guestIssuance.token "key") ∧
    ∃ i : Issuance,
      (exec (requireVisitor (c.context returningEvent) returningEvent.request)
        ⟨c.limiter, returningEvent.replies, []⟩).1 = .ok ⟨i.app.id, i.endUser⟩ ∧
      (handle c c.limiter returningEvent).1.response.status ≠ 401 := by
  intro c
  have hroute : Route.ofPath? issuingEvent.request.path = some .passport := by decide +kernel
  have hroute' : Route.ofPath? returningEvent.request.path = some .webConversations := by
    decide +kernel
  have haccount : Uuid.parse? "00000000-0000-0000-0000-000000000002" =
      some guestIssuance.account := by decide +kernel
  have hhanded : HandsOut (handle c c.limiter issuingEvent).1.response
      (guestIssuance.token "key") :=
    handsOut_of_toldBy (c := c) hroute (by decide +kernel) (by decide +kernel) haccount
      (by decide +kernel) (by decide +kernel) (List.append_nil _).symm toldBy_guestReplies
  obtain ⟨i, -, -, haccepted⟩ := issued_passport_accepted hroute (by decide +kernel) hhanded
  have hthere : StillThere guestApp (.rows [[.bool true]]) :=
    ⟨⟨guestIssuance.app, by decide +kernel, by decide +kernel⟩, by decide +kernel⟩
  obtain ⟨hvisitor, hstatus, -⟩ := haccepted c c.limiter returningEvent .webConversations _ _ _ rfl
    hroute' rfl rfl revisits_returningEvent rfl hthere
  exact ⟨hhanded, i, hvisitor, hstatus⟩

end Parley.Service
