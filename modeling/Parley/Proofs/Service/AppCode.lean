import Parley.Proofs.Account.Password
import Parley.Proofs.Http.Bearer
import Parley.Proofs.Service.IssuedPassport
import Parley.Proofs.Service.Unauthenticated

/-!
# Requests that name another app

A request for the conversations of a visitor may name an app by its code, and is refused if that is
not the app of the passport it bears. The code is looked at only as far as it is text: a header that
is not printable ASCII is passed over, like one that is blank, and the request is answered as if it
had named no app.

* `Request.Names`: what a request has to say to name an app.
* `fails_requireVisitor_of_names`: if that is another app, it is refused before anything is asked.
* `endpoint?_unnamed`: if not, every endpoint does what it does without the code.
* `refused_iff_names_other`: so for every request that bears a valid passport.
* `unreadable_code_passes`: the code of another app that is not printable ASCII is passed over.
-/
namespace Parley

/-! ## Naming an app -/

namespace Http.Request

/-- The request names the app of this code: the first of its headers for that is printable ASCII,
and this is left of it without the blanks around it. -/
structure Names (r : Request) (code : String) : Prop where
  header : ∃ raw, r.header? "x-app-code" = some (Utf8.ofString raw) ∧
    (∀ c ∈ raw.toList, IsPrintable c) ∧ code = Text.trim raw
  ne_empty : code ≠ ""

/-- The request without its headers that name an app. -/
def unnamed (r : Request) : Request :=
  { r with headers := r.headers.filter fun h => !Text.sameLetters h.1 "x-app-code" }

theorem filled?_eq_some_iff {r : Request} {code : String} :
    r.filled? "x-app-code" = some code ↔ r.Names code := by
  have htext : ∀ raw, r.text? "x-app-code" = some raw ↔
      r.header? "x-app-code" = some (Utf8.ofString raw) ∧ ∀ c ∈ raw.toList, IsPrintable c := by
    intro raw
    simp only [text?, Option.bind_eq_some_iff, readable?_eq_some_iff]
    constructor
    · rintro ⟨_, hheader, rfl, hprintable⟩
      exact ⟨hheader, hprintable⟩
    · rintro ⟨hheader, hprintable⟩
      exact ⟨_, hheader, rfl, hprintable⟩
  simp only [filled?, Option.filter_eq_some_iff, Option.map_eq_some_iff, htext]
  constructor
  · rintro ⟨⟨raw, ⟨hheader, hprintable⟩, rfl⟩, hne⟩
    exact ⟨⟨raw, hheader, hprintable, rfl⟩, by simpa using hne⟩
  · rintro ⟨⟨raw, hheader, hprintable, rfl⟩, hne⟩
    exact ⟨⟨raw, ⟨hheader, hprintable⟩, rfl⟩, by simpa using hne⟩

theorem header?_unnamed (r : Request) {name : String}
    (h : Text.sameLetters name "x-app-code" = false) : r.unnamed.header? name = r.header? name := by
  have hapart : ∀ other, (!Text.sameLetters other "x-app-code") = true ∧
      Text.sameLetters other name = true ↔ Text.sameLetters other name = true := by
    intro other
    refine and_iff_right_of_imp fun hother => ?_
    rw [Text.sameLetters, beq_iff_eq] at hother
    rwa [Text.sameLetters, hother, Bool.not_eq_true', ← Text.sameLetters]
  simp only [header?, unnamed, List.find?_filter, hapart, Bool.decide_eq_true]

theorem filled?_unnamed (r : Request) : r.unnamed.filled? "x-app-code" = none := by
  have hnone : r.unnamed.header? "x-app-code" = none := by
    simp [header?, unnamed, List.find?_filter, List.find?_eq_none]
  rw [filled?, text?, hnone]
  rfl

theorem bearer?_unnamed (r : Request) : r.unnamed.bearer? = r.bearer? := by
  have hname : Text.sameLetters "authorization" "x-app-code" = false := by decide +kernel
  simp only [bearer?, text?, r.header?_unnamed hname]

end Http.Request

namespace Service

open Handler (Ensures Fails exec)
open Http (Method Request Response Route)
open Store (Cell Reply Row Statement)

theorem body_unnamed {σ α : Type} (record : Json.Record σ α) (r : Request) :
    body record r.unnamed = body record r := by
  have hname : Text.sameLetters "content-type" "x-app-code" = false := by decide +kernel
  have hsays : saysJson r.unnamed = saysJson r := by
    simp only [saysJson, Request.text?, r.header?_unnamed hname]
  rw [body, hsays]
  rfl

variable {ctx : Context} {r : Request} {token : String} {claims : Passport.Claims}

/-! ## At the gate -/

theorem matchesCode_iff : matchesCode claims (r.filled? "x-app-code") = true ↔
    ∀ code, r.Names code → code = claims.appCode := by
  have hfilled : (∀ code, r.Names code → code = claims.appCode) ↔
      ∀ code ∈ r.filled? "x-app-code", code = claims.appCode := by
    simp only [Option.mem_def, Request.filled?_eq_some_iff]
  rw [hfilled]
  exact ⟨code_eq_of_matchesCode, matchesCode_of_code_eq⟩

/-- Whoever names another app is refused before anything is asked. -/
theorem fails_requireVisitor_of_names (hbearer : r.bearer? = some token)
    (hverify : Passport.verify (macOf ctx.secretKey) token = .ok claims) {code : String}
    (hnames : r.Names code) (hne : code ≠ claims.appCode) (replies : List Reply) :
    Fails (requireVisitor ctx r) replies [] (.api PassportError.appCodeMismatch.api) := by
  have hcode : matchesCode claims (r.filled? "x-app-code") = false := by
    rw [← Bool.not_eq_true, matchesCode_iff]
    exact fun h => hne (h code hnames)
  rw [requireVisitor, hbearer]
  simp only [Handler.orFail, pure_bind]
  rw [← bind_pure (acceptPassport _ _ _), acceptPassport_bind, hverify]
  simp only [hcode, Bool.false_eq_true, if_false]
  exact Handler.fails_throw _

/-- Whoever names no other app is let in or refused as without the code. -/
theorem requireVisitor_unnamed (hbearer : r.bearer? = some token)
    (hverify : Passport.verify (macOf ctx.secretKey) token = .ok claims)
    (hcode : matchesCode claims (r.filled? "x-app-code") = true) :
    requireVisitor ctx r.unnamed = requireVisitor ctx r := by
  rw [requireVisitor, requireVisitor, r.bearer?_unnamed, r.filled?_unnamed, hbearer]
  simp only [Handler.orFail, pure_bind]
  rw [← bind_pure (acceptPassport _ _ none), acceptPassport_bind,
    ← bind_pure (acceptPassport _ _ (r.filled? _)), acceptPassport_bind, hverify]
  simp only [hcode]
  rfl

/-- The reply that would let someone in does not say that another app was named. -/
theorem readPublished_error {reply : Reply} {e : Failure} (h : readPublished reply = .error e) :
    e = .database ∨ e = .api PassportError.siteNotFound.api := by
  unfold readPublished at h
  split at h
  · split at h
    · cases h
    · exact .inr (Except.error.inj h).symm
  · next hread => exact .inl (Except.error.inj h ▸ Handler.readFirst_error hread)

theorem readVisitor_error {reply : Reply} {e : Failure} (h : readVisitor claims reply = .error e) :
    e = .database ∨ e = .api PassportError.endUserNotFound.api := by
  unfold readVisitor at h
  split at h
  · cases h
  · exact .inr (Except.error.inj h).symm
  · next hread => exact .inl (Except.error.inj h ▸ Handler.readOne_error hread)

/-- A refusal because of the app that is named. -/
def RefusedForApp {α : Type} (result : Except Failure α) : Prop :=
  result = .error (.api ⟨401, "app_code_mismatch", "app code does not match passport"⟩)

theorem not_refusedForApp_requireVisitor (hbearer : r.bearer? = some token)
    (hverify : Passport.verify (macOf ctx.secretKey) token = .ok claims)
    (hcode : matchesCode claims (r.filled? "x-app-code") = true) :
    Ensures (requireVisitor ctx r) fun _ _ result => ¬ RefusedForApp result := by
  rw [requireVisitor, hbearer]
  simp only [Handler.orFail, pure_bind]
  rw [← bind_pure (acceptPassport _ _ _), acceptPassport_bind, hverify]
  simp only [hcode, if_true, bind_pure]
  refine Handler.ensures_bind (Handler.ensures_of_asks (asks_publishedApp claims.app) ?_ ?_)
  · rintro ⟨⟩
  intro lookup
  cases hlookup : readPublished lookup with
  | error e =>
    rintro ⟨⟩
    rcases readPublished_error hlookup with h | h <;> cases h
  | ok app =>
    refine Handler.ensures_of_asks (asks_endUserExists claims) ?_ ?_
    · rintro ⟨⟩
    · intro found h
      rcases readVisitor_error h with h | h
      · cases h
      · exact absurd h (by decide +kernel)

/-! ## Requests -/

/-- What an endpoint for visitors does depends on the code only at the gate. -/
theorem endpoint?_unnamed (hbearer : r.bearer? = some token)
    (hverify : Passport.verify (macOf ctx.secretKey) token = .ok claims)
    (hcode : matchesCode claims (r.filled? "x-app-code") = true) {route : Route}
    (hvisitors : isForVisitors route = true) (method : Method) :
    endpoint? ctx r.unnamed route method = endpoint? ctx r route method := by
  have hgate := requireVisitor_unnamed hbearer hverify hcode
  have hquery : listQuery r.unnamed = listQuery r := rfl
  have hform : renameForm r.unnamed = renameForm r := by
    simp only [renameForm, body_unnamed]
  cases route <;> cases hvisitors <;> cases method <;>
    simp only [endpoint?, webList, webGet, webRename, webDelete, hgate, hquery, hform]

/-- A request that bears a valid passport and names another app is refused before anything is asked.
One that names no other app, by a code that is text and not blank, is answered as without the code,
and is not refused for it at the gate. -/
theorem refused_iff_names_other (c : Config) (limiter : LoginLimiter) {e : Event} {route : Route}
    (hroute : Route.ofPath? e.request.path = some route) (hvisitors : isForVisitors route = true)
    {token : String} {claims : Passport.Claims} (hbearer : e.request.bearer? = some token)
    (hverify : Passport.verify (macOf c.secretKey) token = .ok claims) :
    ((endpoint? (c.context e) e.request route (endpointMethod e.request)).isSome = true →
      (∃ code, e.request.Names code ∧ code ≠ claims.appCode) →
        (handle c limiter e).1.response.status = 401 ∧
        (handle c limiter e).1.response.body =
          (if Method.ofName e.request.method = .head then .empty else .json (.obj [
            ("code", .str "app_code_mismatch"),
            ("message", .str "app code does not match passport"), ("status", .int 401)])) ∧
        (handle c limiter e).1.log = []) ∧
    ((∀ code, e.request.Names code → code = claims.appCode) →
      handle c limiter { e with request := e.request.unnamed } = handle c limiter e ∧
      ∀ x, ¬ RefusedForApp (exec (requireVisitor (c.context e) e.request) x).1) := by
  have hverify : Passport.verify (macOf (c.context e).secretKey) token = .ok claims := hverify
  constructor
  · rintro hserved ⟨code, hnames, hne⟩
    obtain ⟨h, hh⟩ := Option.isSome_iff_exists.mp hserved
    obtain ⟨f, rfl, -⟩ := keeps_of_isForVisitors hvisitors hh
    have hfails := fails_requireVisitor_of_names hbearer hverify hnames hne e.replies
    rw [handle_of_fails c limiter hroute hh (hfails.bind f)]
    exact ⟨sentFor_status _ _, sentFor_body _ _, rfl⟩
  · intro hcode
    have hmatch := matchesCode_iff.mpr hcode
    constructor
    · exact handle_congr c limiter hroute rfl rfl
        (endpoint?_unnamed hbearer hverify hmatch hvisitors)
    · intro x
      obtain ⟨-, -, -, hnot⟩ := not_refusedForApp_requireVisitor hbearer hverify hmatch x
      exact hnot

/-- Behind its gate, a request is answered as what comes then ends. -/
theorem handle_of_passed {α : Type} (c : Config) (limiter : LoginLimiter) {e : Event}
    {route : Route} {gate : Handler α} {f : α → Handler Response} {a : α} {x : Exchange}
    (hroute : Route.ofPath? e.request.path = some route)
    (hh : endpoint? (c.context e) e.request route (endpointMethod e.request) = some (gate >>= f))
    (hpassed : exec gate ⟨limiter, e.replies, []⟩ = (.ok a, x)) :
    (handle c limiter e).1.response.status = (run (f a) x).1.status ∧
      (handle c limiter e).1.log = (run (f a) x).2.log := by
  rw [handle_of_endpoint c limiter hroute hh]
  simp only [sentFor_status, run_fst, run_snd, Handler.exec_bind_ok hpassed, and_self]

/-- A request for conversations with a passport to the app of the code `abc123`, and this in the
header that names an app. -/
def namingEvent (value : List UInt8) : Event :=
  { returningEvent with request := { returningEvent.request with
      headers := ("x-app-code", value) :: returningEvent.request.headers } }

theorem ofPath?_namingEvent (value : List UInt8) :
    Route.ofPath? (namingEvent value).request.path = some .webConversations := by
  have htarget : (namingEvent value).request.target = "/api/conversations" := rfl
  have hpath : (namingEvent value).request.path = "/api/conversations".toList := by
    rw [Request.path, Request.parts, htarget]
    decide +kernel
  rw [hpath]
  decide +kernel

theorem header?_namingEvent (value : List UInt8) :
    (namingEvent value).request.header? "x-app-code" = some value := by
  simp [namingEvent, Request.header?, Text.sameLetters]

theorem bearer?_namingEvent (value : List UInt8) :
    (namingEvent value).request.bearer? = some (guestIssuance.token "key") := by
  have hother : Text.sameLetters "x-app-code" "authorization" = false := by decide +kernel
  have hheader : (namingEvent value).request.header? "authorization" =
      some (Utf8.ofString ("Bearer " ++ guestIssuance.token "key")) := by
    rw [Request.header?, namingEvent, List.find?_cons_of_neg (by simp [hother])]
    exact revisits_returningEvent.token
  exact bearer?_sign hheader

theorem names_namingEvent {raw code : String} (hprintable : ∀ c ∈ raw.toList, Http.IsPrintable c)
    (hcode : code = Text.trim raw) (hne : code ≠ "") :
    (namingEvent (Utf8.ofString raw)).request.Names code :=
  ⟨⟨raw, header?_namingEvent _, hprintable, hcode⟩, hne⟩

theorem refused_in_namingEvent :
    let c : Config := ⟨"key", 60, 30, 5, 900, false⟩
    let other := namingEvent (Utf8.ofString "other")
    let same := namingEvent (Utf8.ofString " abc123\t")
    ((handle c c.limiter other).1.response.status = 401 ∧ (handle c c.limiter other).1.log = []) ∧
      handle c c.limiter { same with request := same.request.unnamed } =
        handle c c.limiter same := by
  intro c other same
  have hverify : Passport.verify (macOf c.secretKey) (guestIssuance.token "key") =
      .ok guestIssuance.claims := Passport.verify_sign _ _
  have hother : other.request.Names "other" :=
    names_namingEvent (by simp [Http.IsPrintable]) (by decide +kernel) (by decide)
  obtain ⟨hrefused, -⟩ := refused_iff_names_other c c.limiter (e := other) (ofPath?_namingEvent _)
    rfl (bearer?_namingEvent _) hverify
  obtain ⟨-, hsame⟩ := refused_iff_names_other c c.limiter (e := same) (ofPath?_namingEvent _) rfl
    (bearer?_namingEvent _) hverify
  obtain ⟨hstatus, -, hlog⟩ := hrefused rfl ⟨_, hother, by decide⟩
  refine ⟨⟨hstatus, hlog⟩, (hsame ?_).1⟩
  rintro code ⟨⟨raw, hheader, -, rfl⟩, -⟩
  rw [header?_namingEvent] at hheader
  rw [← Utf8.ofString_injective (Option.some.inj hheader)]
  decide +kernel

/-- A header that is not printable ASCII does not keep the visitor out. -/
theorem exec_requireVisitor_namingEvent {c : Config} (hkey : c.secretKey = "key")
    {value : List UInt8} (hvalue : Http.readable? value = none) :
    exec (requireVisitor (c.context (namingEvent value)) (namingEvent value).request)
        ⟨c.limiter, (namingEvent value).replies, []⟩ =
      (.ok ⟨.ofByte 1, .ofByte 2⟩,
        ⟨c.limiter, [.rows []], [.appById (.ofByte 1), .endUserExists (.ofByte 2)]⟩) := by
  have hfilled : (namingEvent value).request.filled? "x-app-code" = none := by
    rw [Request.filled?, Request.text?, header?_namingEvent, Option.bind_some, hvalue]
    rfl
  have hverify : Passport.verify (macOf c.secretKey) (guestIssuance.token "key") =
      .ok guestIssuance.claims := by
    rw [hkey]
    exact Passport.verify_sign _ _
  have hcode : matchesCode guestIssuance.claims
      ((namingEvent value).request.filled? "x-app-code") = true := by
    rw [hfilled]
    rfl
  have happ : Handler.readFirst Row.app? guestApp = .ok (some guestIssuance.app) := by
    decide +kernel
  have hpublished : guestIssuance.app.isPublished = true := by decide
  have hfound : Handler.readOne (Row.single Cell.toBool?) (.rows [[.bool true]]) = .ok true := by
    decide +kernel
  have hreplies : (namingEvent value).replies = [guestApp, .rows [[.bool true]], .rows []] := rfl
  let x : Exchange := ⟨c.limiter, (namingEvent value).replies, []⟩
  have hx : x.replies = [guestApp, .rows [[.bool true]], .rows []] := hreplies
  have hverify' : Passport.verify (macOf (c.context (namingEvent value)).secretKey)
      (guestIssuance.token "key") = .ok guestIssuance.claims := hverify
  exact exec_requireVisitor (bearer?_namingEvent value) hverify' hcode happ hpublished hfound hx

/-- The code of another app that is not printable ASCII is passed over. -/
theorem unreadable_code_passes :
    let c : Config := ⟨"key", 60, 30, 5, 900, false⟩
    let e := namingEvent (Utf8.ofString "café")
    (∃ token claims, e.request.bearer? = some token ∧
      Passport.verify (macOf c.secretKey) token = .ok claims ∧
      e.request.header? "x-app-code" = some (Utf8.ofString "café") ∧
      Text.trim "café" ≠ "" ∧ Text.trim "café" ≠ claims.appCode) ∧
    (handle c c.limiter e).1.response.status = 200 ∧ (handle c c.limiter e).1.log ≠ [] := by
  intro c e
  have hroute := ofPath?_namingEvent (Utf8.ofString "café")
  have hverify : Passport.verify (macOf c.secretKey) (guestIssuance.token "key") =
      .ok guestIssuance.claims := Passport.verify_sign _ _
  have hunreadable : Http.readable? (Utf8.ofString "café") = none := by decide +kernel
  refine ⟨⟨_, _, bearer?_namingEvent _, hverify, header?_namingEvent _, by decide +kernel,
    by decide +kernel⟩, ?_⟩
  have hvisitor := exec_requireVisitor_namingEvent (c := c) rfl hunreadable
  obtain ⟨hstatus, hlog⟩ := handle_of_passed c c.limiter hroute (e := e) rfl hvisitor
  rw [hstatus, hlog]
  exact ⟨by decide +kernel, by decide +kernel⟩

end Service

end Parley
