import Parley.Proofs.Conversation.Title
import Parley.Proofs.Service.Listing
import Parley.Proofs.Service.LoginDecision
import Parley.Proofs.Service.StatementPlan
import Parley.Proofs.Uuid

/-!
# Names of conversations

A conversation gets another name in one of two ways: the name is given in the body of the request,
or it is made of the first question. What is given is trimmed, and refused if nothing is left of
it; what is made has words in it or is not made at all. So no name that is ever stored is blank, or
has a blank at either end.

* `SetsName`: the statements by which a name is stored, told by their text.
* `Proposed`: the names that a request may store.
* `Recognized`, `Admitted`: what is asked before, and what the replies have to be.
* `Retitled`: what comes of a name that is made, as the replies tell.
* `names_are_never_blank`: all of it, for every request for another name.
-/
namespace Parley.Service

open Handler (Asks Ensures Quiet Sends exec)
open Http (Method Request Response Route)
open Store (Cell Fragment Reply Row Statement)

/-! ## Statements that set a name -/

/-- What the statements begin with that set the name of a conversation. -/
def settingText : List Char :=
  "UPDATE conversations SET name = $1".toList

/-- The statement sets the name of a conversation. -/
structure SetsName (s : Statement) (name : String) : Prop where
  sql : settingText <+: s.sql.toList
  arg : s.args.head? = some (.text name)

/-- A text that sets a name, whatever follows behind the first placeholder. -/
theorem settingText_prefix_number (a : Store.Arg) (fs : List Fragment) :
    settingText <+:
      (Fragment.number 1 (.text "UPDATE conversations SET name = " :: .arg a :: fs)).toList := by
  have htext : settingText =
      "UPDATE conversations SET name = ".toList ++ ("$".toList ++ (Decimal.ofNat 1).toList) := by
    decide +kernel
  rw [Fragment.number, Fragment.number]
  simp only [String.toList_append]
  rw [htext, ← List.append_assoc _ _ (String.toList (Fragment.number _ fs)), ← List.append_assoc]
  exact List.prefix_append _ _

/-- A text that selects something sets no name. -/
theorem not_settingText_prefix_number {text : String} (h : text.toList.head? = some 'S') (n : Nat)
    (fs : List Fragment) : ¬ settingText <+: (Fragment.number n (.text text :: fs)).toList := by
  obtain ⟨tail, htail⟩ := List.head?_eq_some_iff.mp h
  have hsetting : settingText = 'U' :: settingText.tail := by decide +kernel
  rw [Fragment.number, String.toList_append, htail, hsetting, List.cons_append,
    List.cons_prefix_cons]
  rintro ⟨hhead, -⟩
  cases hhead

/-- The statements that are sent before a name is set, to look something up. -/
def looksUp : Statement → Bool
  | .sessionAccount _ | .appForAccount _ _ | .appById _ | .endUserExists _ | .getOwned _ _ _
  | .firstQuestion _ _ => true
  | _ => false

theorem not_setsName_of_looksUp {s : Statement} (h : looksUp s = true) (name : String) :
    ¬ SetsName s name := by
  rintro ⟨hsql, -⟩
  revert hsql
  cases s <;> cases h
  case getOwned =>
    have hselects : ("SELECT " ++ Store.Select.projectionText .rows ++
        " FROM conversations").toList.head? = some 'S' := by decide +kernel
    exact not_settingText_prefix_number hselects _ _
  all_goals exact not_settingText_prefix_number (by decide +kernel) _ _

theorem setsName_renameOwned_iff {app : Uuid} {p : Principal} {id : Uuid} {given name : String} :
    SetsName (.renameOwned app p id given) name ↔ name = given := by
  constructor
  · rintro ⟨-, harg⟩
    cases harg
    rfl
  · rintro rfl
    exact ⟨settingText_prefix_number _ _, rfl⟩

theorem setsName_setName_iff {id : Uuid} {given name : String} :
    SetsName (.setName id given) name ↔ name = given := by
  constructor
  · rintro ⟨-, harg⟩
    cases harg
    rfl
  · rintro rfl
    exact ⟨settingText_prefix_number _ _, rfl⟩

/-! ## Names that may be set -/

/-- The body of the request is this form. -/
def BodyIs (r : Request) (form : RenameForm) : Prop :=
  saysJson r = true ∧ RenameForm.record.readText r.body = .ok form

/-- A name that a request may set: the one it brings, trimmed, or one made of a question, as its
body says. -/
inductive Proposed (r : Request) (name : String) : Prop
  | given {form : RenameForm} (body : BodyIs r form) (manual : form.automatic = false)
    (ne_empty : name ≠ "") (name_eq : name = form.trimmedName)
  | made {form : RenameForm} {question : String} (body : BodyIs r form)
    (automatic : form.automatic = true)
    (title : Conversation.title Conversation.titleLength question = .ok name)

/-- The statement sets no name but one that the request may set, of a conversation whose id it
tells. -/
def Names (r : Request) (parameter : List Char) (s : Statement) : Prop :=
  ∀ name, SetsName s name → Proposed r name ∧ (idIn? parameter).isSome = true

/-- A name that a request may set is neither blank nor has a blank at either end. -/
theorem Proposed.ne_empty_and_trimmed {r : Request} {name : String} (h : Proposed r name) :
    name ≠ "" ∧ Text.Trimmed name.toList := by
  cases h with
  | given _ _ ne_empty name_eq =>
    refine ⟨ne_empty, ?_⟩
    rw [name_eq]
    exact Text.trimmed_trim _
  | made _ _ title => exact Conversation.ne_empty_and_trimmed_of_title title

theorem length_le_of_title {question name : String}
    (h : Conversation.title Conversation.titleLength question = .ok name) :
    name.toList.length ≤ 33 :=
  (Conversation.excerpt_of_title h (Text.spaced_words _)).length_le

theorem exists_word_of_title {question name : String}
    (h : Conversation.title Conversation.titleLength question = .ok name) :
    ∃ ch ∈ question.toList, Text.isBlank ch = false := by
  by_contra hnone
  have hblank : ∀ ch ∈ question.toList, Text.isBlank ch = true := by simpa using hnone
  rw [Conversation.title_of_blank _ hblank] at h
  cases h

section

variable {r : Request} {parameter : List Char} {app : Uuid} {p : Principal} {id : Uuid}

theorem names_of_looksUp {s : Statement} (h : looksUp s = true) : Names r parameter s :=
  fun name hs => absurd hs (not_setsName_of_looksUp h name)

/-- What a form in the body says that is fit for renaming. -/
theorem quiet_renameForm_body (r : Request) : Quiet (renameForm r) fun form =>
    BodyIs r form ∧ (form.automatic = false → form.trimmedName ≠ "") := by
  unfold renameForm
  rcases body_cases RenameForm.record r with ⟨form, hjson, hread, hbody⟩ | ⟨rejection, hbody⟩
  · rw [hbody, pure_bind]
    split
    · exact Handler.quiet_throw _
    · next hfit =>
      refine Handler.quiet_pure ⟨⟨hjson, hread⟩, fun hmanual hempty => hfit ?_⟩
      simp [hmanual, hempty]
  · rw [hbody]
    exact Handler.quiet_throw _

theorem quiet_pathIds_second (first second : List Char) :
    Quiet (pathIds first second) fun ids => idIn? second = some ids.2 := by
  refine Handler.quiet_bind (quiet_pathId first) fun a _ => ?_
  exact Handler.quiet_bind (quiet_pathId second) fun b hb => Handler.quiet_pure hb

theorem names_setName {form : RenameForm} {question name : String} (hbody : BodyIs r form)
    (hautomatic : form.automatic = true)
    (htitle : Conversation.title Conversation.titleLength question = .ok name)
    (hid : (idIn? parameter).isSome = true) : Names r parameter (.setName id name) := by
  intro name' hs
  rw [setsName_setName_iff.mp hs]
  exact ⟨.made hbody hautomatic htitle, hid⟩

theorem names_renameOwned {form : RenameForm} (hbody : BodyIs r form)
    (hmanual : form.automatic = false) (hne : form.trimmedName ≠ "")
    (hid : (idIn? parameter).isSome = true) :
    Names r parameter (.renameOwned app p id form.trimmedName) := by
  intro name hs
  rw [setsName_renameOwned_iff.mp hs]
  exact ⟨.given hbody hmanual hne rfl, hid⟩

theorem sends_nameFromQuestion_names {form : RenameForm} (hbody : BodyIs r form)
    (hautomatic : form.automatic = true) (hid : (idIn? parameter).isSome = true)
    (c : Conversation) : Sends (nameFromQuestion c) (Names r parameter) := by
  refine Handler.sends_bind (Handler.sends_of_asks (Handler.asks_first? rfl _)
    (names_of_looksUp rfl)) fun question => ?_
  refine Handler.sends_bind (Handler.sends_orFail _ _) fun question => ?_
  cases htitle : Conversation.title Conversation.titleLength question with
  | error e => exact Handler.sends_pure _
  | ok name =>
    exact Handler.sends_bind (Handler.sends_execute (names_setName hbody hautomatic htitle hid))
      fun _ => Handler.sends_pure _

theorem sends_renameConversation_names {form : RenameForm} (hbody : BodyIs r form)
    (hfit : form.automatic = false → form.trimmedName ≠ "")
    (hid : (idIn? parameter).isSome = true) :
    Sends (renameConversation app p id form) (Names r parameter) := by
  unfold renameConversation
  split
  · next hautomatic =>
    exact Handler.sends_bind (Handler.sends_of_asks (Handler.asks_required rfl _ _)
      (names_of_looksUp rfl)) (sends_nameFromQuestion_names hbody hautomatic hid)
  · next hmanual =>
    have hmanual : form.automatic = false := by simpa using hmanual
    exact Handler.sends_of_asks (Handler.asks_required rfl _ _)
      (names_renameOwned hbody hmanual (hfit hmanual) hid)

end

/-! ## Endpoints -/

/-- What is done behind the gate and the ids in the path. -/
def renameBehind (r : Request) (reach : Handler Unit) (app : Uuid) (p : Principal) (id : Uuid) :
    Handler Response := do
  let form ← renameForm r
  reach
  let c ← renameConversation app p id form
  return .ofJson 200 c.toJson

theorem consoleRename_eq (r : Request) (app id : List Char) : consoleRename r app id =
    requireCaller r >>= fun caller => pathIds app id >>= fun ids =>
      renameBehind r (requireApp caller ids.1) ids.1 caller.principal ids.2 :=
  rfl

theorem webRename_eq (ctx : Context) (r : Request) (id : List Char) : webRename ctx r id =
    requireVisitor ctx r >>= fun visitor => pathId id >>= fun id =>
      renameBehind r (pure ()) visitor.app visitor.principal id := by
  simp only [webRename, renameBehind, pure_bind]

/-- The parameter for the conversation in a route to its name. -/
def renames? : Route → Option (List Char)
  | .consoleConversationName _ id | .webConversationName id => some id
  | _ => none

section

variable {ctx : Context} {r : Request} {parameter : List Char}

theorem sends_requireApp_names (r : Request) (parameter : List Char) (caller : Caller)
    (app : Uuid) : Sends (requireApp caller app) (Names r parameter) := by
  rw [← bind_pure (requireApp caller app), requireApp_bind]
  exact Handler.sends_bind (Handler.sends_of_asks (Handler.asks_required rfl _ _)
    (names_of_looksUp rfl)) fun _ => Handler.sends_pure _

theorem sends_requireVisitor_names (ctx : Context) (r : Request) (parameter : List Char) :
    Sends (requireVisitor ctx r) (Names r parameter) := by
  unfold requireVisitor
  refine Handler.sends_bind (Handler.sends_orFail _ _) fun token => ?_
  rw [← bind_pure (acceptPassport _ _ _), acceptPassport_bind]
  split
  · exact Handler.sends_throw _
  · split
    · refine Handler.sends_bind (Handler.sends_of_asks (asks_publishedApp _) (names_of_looksUp rfl))
        fun _ => ?_
      exact Handler.sends_bind (Handler.sends_of_asks (asks_endUserExists _) (names_of_looksUp rfl))
        fun _ => Handler.sends_pure _
    · exact Handler.sends_throw _

theorem sends_renameBehind {reach : Handler Unit} (hreach : Sends reach (Names r parameter))
    (hid : (idIn? parameter).isSome = true) (app : Uuid) (p : Principal) (id : Uuid) :
    Sends (renameBehind r reach app p id) (Names r parameter) := by
  refine Handler.ensures_quiet_bind (quiet_renameForm_body r) (fun _ s hs => by cases hs) ?_
  intro form hform
  refine Handler.sends_bind hreach fun _ => ?_
  exact Handler.sends_bind (sends_renameConversation_names hform.1 hform.2 hid)
    fun _ => Handler.sends_pure _

/-- Whatever else is sent for a request for another name, no name is set but one that the request
may set. -/
theorem sends_of_renames? {route : Route} (hroute : renames? route = some parameter)
    {method : Method} {h : Handler Response} (hh : endpoint? ctx r route method = some h) :
    Sends h (Names r parameter) := by
  cases route <;> cases hroute <;> cases method <;> cases hh
  · rw [consoleRename_eq]
    refine Handler.sends_bind (sends_requireCaller r fun _ => names_of_looksUp rfl) fun caller => ?_
    refine Handler.ensures_quiet_bind (quiet_pathIds_second _ _) (fun _ s hs => by cases hs) ?_
    intro ids hids
    exact sends_renameBehind (sends_requireApp_names r _ caller ids.1) (by rw [hids]; rfl) _ _ _
  · rw [webRename_eq]
    refine Handler.sends_bind (sends_requireVisitor_names ctx r _) fun visitor => ?_
    refine Handler.ensures_quiet_bind (quiet_pathId _) (fun _ s hs => by cases hs) fun id hid => ?_
    exact sends_renameBehind (Handler.sends_pure ()) (by rw [hid]; rfl) _ _ _

end

/-! ## Who is let in -/

/-- Who makes a request: an account, or an end user of an app. -/
inductive Sender where
  | caller (account : Uuid)
  | visitor (app endUser : Uuid)

/-- It is known who makes a request for another name. These statements were sent to find it out,
and these replies came. -/
inductive Recognized (secretKey : String) (r : Request) :
    Route → Sender → List Statement → List Reply → Prop
  | caller {app id : List Char} {token : String} {account : Uuid} {session : Reply}
    (shows : Shows r token)
    (known : Handler.readFirst (Row.single Cell.toUuid?) session = .ok (some account)) :
    Recognized secretKey r (.consoleConversationName app id) (.caller account)
      [.sessionAccount token] [session]
  | visitor {id : List Char} {token : String} {claims : Passport.Claims}
    {lookup existence : Reply} {app : App} (bears : r.bearer? = some token)
    (verified : Passport.verify (macOf secretKey) token = .ok claims)
    (code_eq : ∀ code ∈ r.filled? "x-app-code", code = claims.appCode)
    (known : Handler.readFirst Row.app? lookup = .ok (some app))
    (published : app.isPublished = true)
    (exists_true : Handler.readOne (Row.single Cell.toBool?) existence = .ok true) :
    Recognized secretKey r (.webConversationName id) (.visitor claims.app claims.endUser)
      [.appById claims.app, .endUserExists claims.endUser] [lookup, existence]

/-- It is known of every request with authentication who makes it. -/
theorem exists_recognized {secretKey : String} {r : Request} {replies : List Reply} {route : Route}
    {parameter : List Char} {gate : Gate} (hrenames : renames? route = some parameter)
    (hgate : gate? route = some gate) (hauth : Authenticated secretKey r replies gate) :
    ∃ sender asked told behind, Recognized secretKey r route sender asked told ∧
      replies = told ++ behind := by
  cases route <;> cases hrenames <;> cases hgate
  · obtain ⟨token, reply, rest, account, hshows, hreplies, hknown⟩ := hauth
    exact ⟨_, _, [reply], rest, .caller hshows hknown, hreplies⟩
  · obtain ⟨token, claims, lookup, found, rest, app, hbears, hverified, hcode, hreplies,
      ⟨hknown, hpublished⟩, hexists⟩ := hauth
    exact ⟨_, _, [lookup, found], rest,
      .visitor hbears hverified hcode hknown hpublished hexists, hreplies⟩

/-- A request gets to the conversation of this id, for this principal in this app: it is known who
makes it, the ids can be read, and an account reaches the app. -/
inductive Admitted (secretKey : String) (r : Request) :
    Route → Uuid → Principal → Uuid → List Statement → List Reply → Prop
  | caller {first second : List Char} {account app id : Uuid} {asked : List Statement}
    {told : List Reply} {lookup : Reply} {found : App}
    (recognized : Recognized secretKey r (.consoleConversationName first second) (.caller account)
      asked told)
    (app_eq : idIn? first = some app) (id_eq : idIn? second = some id)
    (reached : Handler.readFirst Row.app? lookup = .ok (some found)) :
    Admitted secretKey r (.consoleConversationName first second) app (.internalUser account) id
      (asked ++ [.appForAccount app account]) (told ++ [lookup])
  | visitor {parameter : List Char} {app endUser id : Uuid} {asked : List Statement}
    {told : List Reply}
    (recognized : Recognized secretKey r (.webConversationName parameter) (.visitor app endUser)
      asked told)
    (id_eq : idIn? parameter = some id) :
    Admitted secretKey r (.webConversationName parameter) app (.externalVisitor endUser) id
      asked told

section

variable {ctx : Context} {r : Request} {route : Route} {sender : Sender} {asked : List Statement}
  {told behind : List Reply} {h : Handler Response} {x : Exchange}

theorem Recognized.looksUp {secretKey : String}
    (hin : Recognized secretKey r route sender asked told) : ∀ s ∈ asked, looksUp s = true := by
  cases hin <;> simp [Service.looksUp]

theorem Admitted.looksUp {secretKey : String} {app id : Uuid} {p : Principal}
    (hin : Admitted secretKey r route app p id asked told) : ∀ s ∈ asked, looksUp s = true := by
  cases hin with
  | caller recognized _ _ _ =>
    exact List.forall_mem_append.mpr ⟨recognized.looksUp, by simp [Service.looksUp]⟩
  | visitor recognized _ => exact recognized.looksUp

theorem renameForm_of_bodyIs {form : RenameForm} (hbody : BodyIs r form)
    (hfit : form.automatic = false → form.trimmedName ≠ "") : renameForm r = pure form := by
  have hgiven : (!form.automatic && form.trimmedName.isEmpty) = false := by
    cases hautomatic : form.automatic with
    | true => rfl
    | false => simpa using hfit hautomatic
  rw [renameForm, body_of_readText hbody.1 hbody.2, pure_bind, hgiven]
  rfl

/-- The request is refused as a bad one, and nothing is sent for it. -/
def Declines (h : Handler Response) : Prop :=
  ∃ f : Failure, f.response.status = 400 ∧ ∀ x, exec h x = (.error f, x)

theorem declines_pathId_bind (parameter : List Char) {f : Uuid → Handler Response}
    (hf : ∀ id, Declines (f id)) : Declines (pathId parameter >>= f) := by
  unfold pathId
  cases (Http.percentDecoded? parameter).bind Uuid.parse? with
  | none => exact ⟨.rejected .badPath, rfl, fun _ => rfl⟩
  | some id => exact hf id

/-- A name that is blank or missing is refused. -/
theorem declines_renameBehind {form : RenameForm} (hbody : BodyIs r form)
    (hmanual : form.automatic = false) (hempty : form.trimmedName = "") (reach : Handler Unit)
    (app : Uuid) (p : Principal) (id : Uuid) : Declines (renameBehind r reach app p id) := by
  have hblank : (!form.automatic && form.trimmedName.isEmpty) = true := by
    simp [hmanual, hempty]
  refine ⟨.api (.badRequest "invalid_param" "name is required"), rfl, fun x => ?_⟩
  rw [renameBehind, renameForm, body_of_readText hbody.1 hbody.2, pure_bind, if_pos hblank]
  rfl

theorem run_of_declines {α : Type} {gate : Handler α} {f : α → Handler Response} {a : α}
    {x' : Exchange} (hgate : exec gate x = (.ok a, x')) (hf : Declines (f a)) :
    (run (gate >>= f) x).1.status = 400 ∧ (run (gate >>= f) x).2 = x' := by
  obtain ⟨failure, hstatus, hexec⟩ := hf
  rw [run_fst, run_snd, Handler.exec_bind_ok hgate, hexec]
  exact ⟨hstatus, rfl⟩

/-- Where it is known who makes the request, a name that is blank or missing is refused, and
nothing else is sent. -/
theorem run_of_recognized (hin : Recognized ctx.secretKey r route sender asked told)
    (hh : endpoint? ctx r route .post = some h) {form : RenameForm} (hbody : BodyIs r form)
    (hmanual : form.automatic = false) (hempty : form.trimmedName = "")
    (hx : x.replies = told ++ behind) :
    (run h x).1.status = 400 ∧ (run h x).2.log = x.log ++ asked := by
  cases hin with
  | caller shows known =>
    cases hh
    obtain ⟨htoken, hshown⟩ := shownToken_of_shows shows
    obtain ⟨hstatus, hlog⟩ := run_of_declines (exec_requireCaller hshown hx known)
      (f := fun caller => pathIds _ _ >>= fun ids =>
        renameBehind r (requireApp caller ids.1) ids.1 caller.principal ids.2) (by
        simp only [pathIds, bind_assoc, pure_bind]
        refine declines_pathId_bind _ fun app => declines_pathId_bind _ fun id => ?_
        exact declines_renameBehind hbody hmanual hempty _ _ _ _)
    rw [consoleRename_eq]
    refine ⟨hstatus, ?_⟩
    rw [hlog, htoken]
  | visitor bears verified code_eq known published exists_true =>
    cases hh
    obtain ⟨hstatus, hlog⟩ := run_of_declines (exec_requireVisitor bears verified
      (matchesCode_of_code_eq code_eq) known published exists_true hx)
      (f := fun visitor => pathId _ >>= fun id =>
        renameBehind r (pure ()) visitor.app visitor.principal id)
      (declines_pathId_bind _ fun id => declines_renameBehind hbody hmanual hempty _ _ _ _)
    rw [webRename_eq]
    refine ⟨hstatus, ?_⟩
    rw [hlog]

/-- Whoever is let in gets to the conversation, with the replies that are left. -/
theorem exec_of_admitted {app id : Uuid} {p : Principal}
    (hin : Admitted ctx.secretKey r route app p id asked told)
    (hh : endpoint? ctx r route .post = some h) {form : RenameForm} (hbody : BodyIs r form)
    (hfit : form.automatic = false → form.trimmedName ≠ "") (hx : x.replies = told ++ behind) :
    exec h x = exec (renameConversation app p id form >>= fun c => pure (.ofJson 200 c.toJson))
      { x with log := x.log ++ asked, replies := behind } := by
  have hform := renameForm_of_bodyIs hbody hfit
  cases hin with
  | caller recognized app_eq id_eq reached =>
    cases recognized with
    | caller shows known =>
      cases hh
      obtain ⟨htoken, hshown⟩ := shownToken_of_shows shows
      rw [consoleRename_eq, Handler.exec_bind_ok (exec_requireCaller hshown hx known), pathIds,
        pathId_of_idIn? app_eq, pathId_of_idIn? id_eq]
      simp only [pure_bind, renameBehind, hform]
      rw [Handler.exec_bind_ok (exec_requireApp rfl reached)]
      simp only [htoken, List.append_assoc]
      rfl
  | visitor recognized id_eq =>
    cases recognized with
    | visitor bears verified code_eq known published exists_true =>
      cases hh
      rw [webRename_eq, Handler.exec_bind_ok (exec_requireVisitor bears verified
        (matchesCode_of_code_eq code_eq) known published exists_true hx), pathId_of_idIn? id_eq]
      simp only [pure_bind, renameBehind, hform]
      rfl

end

/-! ## Names that are made -/

/-- The conversation that the first of these replies tells of. -/
def conversationIn? (replies : List Reply) : Option Conversation :=
  firstRow? Row.conversation? replies.head?

/-- The question that the second of these replies tells of. -/
def questionIn? (replies : List Reply) : Option String :=
  firstRow? (Row.single Cell.toText?) replies.tail.head?

/-- What comes of a request for a name that is made, as the replies tell: what is sent for it, and
the conversation that is shown, or the error. -/
inductive Retitled (app : Uuid) (p : Principal) (id : Uuid) (replies : List Reply) :
    List Statement → Except ApiError Conversation → Prop
  | missing (unknown : conversationIn? replies = none) :
    Retitled app p id replies [.getOwned app p id]
      (.error ⟨404, "conversation_not_exists", "Conversation not exists."⟩)
  | unasked {c : Conversation} (known : conversationIn? replies = some c)
    (none : questionIn? replies = none) :
    Retitled app p id replies [.getOwned app p id, .firstQuestion c.app c.id]
      (.error ⟨404, "message_not_exists", "Message not exists."⟩)
  | blank {c : Conversation} {question : String} (known : conversationIn? replies = some c)
    (asked : questionIn? replies = some question)
    (blank : ∀ ch ∈ question.toList, Text.isBlank ch = true) :
    Retitled app p id replies [.getOwned app p id, .firstQuestion c.app c.id] (.ok c)
  | named {c : Conversation} {question name : String} (known : conversationIn? replies = some c)
    (asked : questionIn? replies = some question)
    (word : ∃ ch ∈ question.toList, Text.isBlank ch = false) (short : name.toList.length ≤ 33)
    (title : Conversation.title Conversation.titleLength question = .ok name) :
    Retitled app p id replies
      [.getOwned app p id, .firstQuestion c.app c.id, .setName c.id name] (.ok { c with name })

section

variable {app id : Uuid} {p : Principal}

theorem endsIn_pure {α : Type} (a : α) (x : Exchange) : EndsIn (pure a : Handler α) x [] (.ok a) :=
  .inr ⟨rfl, (List.append_nil _).symm⟩

def retitle (c : Conversation) (question : String) : Handler Conversation :=
  match Conversation.title Conversation.titleLength question with
  | .ok name => do
    Handler.execute (.setName c.id name)
    return { c with name := name }
  | .error _ => return c

theorem nameFromQuestion_eq (c : Conversation) : nameFromQuestion c =
    (Handler.first? (.firstQuestion c.app c.id) (Row.single Cell.toText?) >>=
      Handler.orFail ConversationError.messageNotFound.api) >>= retitle c := by
  rw [bind_assoc]
  rfl

theorem endsIn_retitle_of_blank {question : String}
    (h : ∀ ch ∈ question.toList, Text.isBlank ch = true) (c : Conversation) (x : Exchange) :
    EndsIn (retitle c question) x [] (.ok c) := by
  rw [retitle, Conversation.title_of_blank _ h]
  exact endsIn_pure c x

theorem endsIn_retitle_of_title {question name : String}
    (h : Conversation.title Conversation.titleLength question = .ok name) (c : Conversation)
    (x : Exchange) :
    EndsIn (retitle c question) x [.setName c.id name] (.ok { c with name }) := by
  rw [retitle, h]
  refine endsIn_asks_bind (Handler.asks_execute rfl) fun reply rest _ => ?_
  cases reply with
  | failure => exact .inl rfl
  | rows _ | affected _ => exact endsIn_pure _ _

theorem endsIn_nameFromQuestion_of_none (c : Conversation) {x : Exchange}
    (hnone : firstRow? (Row.single Cell.toText?) x.replies.head? = none) :
    EndsIn (nameFromQuestion c) x [.firstQuestion c.app c.id]
      (.error (.api ConversationError.messageNotFound.api)) := by
  rw [nameFromQuestion_eq]
  refine endsIn_required_bind rfl (fun _ => ⟨rfl, rfl⟩) fun question hquestion => ?_
  rw [hnone] at hquestion
  cases hquestion

theorem endsIn_nameFromQuestion {c : Conversation} {question : String} {x : Exchange}
    {sent : List Statement} {result : Except Failure Conversation}
    (hasked : firstRow? (Row.single Cell.toText?) x.replies.head? = some question)
    (h : ∀ y, EndsIn (retitle c question) y sent result) :
    EndsIn (nameFromQuestion c) x (.firstQuestion c.app c.id :: sent) result := by
  rw [nameFromQuestion_eq]
  refine endsIn_required_bind rfl (fun hnone => ?_) fun question' hquestion => ?_
  · rw [hnone] at hasked
    cases hasked
  · rw [hquestion] at hasked
    cases hasked
    exact h _

theorem endsIn_getConversation_bind {α : Type} {f : Conversation → Handler α} {c : Conversation}
    {x : Exchange} {sent : List Statement} {result : Except Failure α}
    (hknown : conversationIn? x.replies = some c)
    (h : EndsIn (f c) { x with log := x.log ++ [.getOwned app p id], replies := x.replies.tail }
      sent result) :
    EndsIn (getConversation app p id >>= f) x (.getOwned app p id :: sent) result := by
  refine endsIn_required_bind rfl (fun hnone => ?_) fun c' hc' => ?_
  · rw [conversationIn?, hnone] at hknown
    cases hknown
  · rw [conversationIn?, hc'] at hknown
    cases hknown
    exact h

/-- Unless it fails for the database, the replies tell what comes of a request for a name that is
made. -/
theorem exists_retitled (app : Uuid) (p : Principal) (id : Uuid) (x : Exchange) :
    ∃ sent result, Retitled app p id x.replies sent result ∧
      EndsIn (getConversation app p id >>= nameFromQuestion) x sent
        (result.mapError .api) := by
  cases hknown : conversationIn? x.replies with
  | none =>
    refine ⟨_, _, .missing hknown, ?_⟩
    refine endsIn_required_bind rfl (fun _ => ⟨rfl, rfl⟩) fun c hc => ?_
    rw [conversationIn?, hc] at hknown
    cases hknown
  | some c =>
    cases hasked : questionIn? x.replies with
    | none =>
      exact ⟨_, _, .unasked hknown hasked,
        endsIn_getConversation_bind hknown (endsIn_nameFromQuestion_of_none c hasked)⟩
    | some question =>
      cases htitle : Conversation.title Conversation.titleLength question with
      | error e =>
        have hblank := Conversation.title_eq_error_iff.mp htitle
        exact ⟨_, _, .blank hknown hasked hblank, endsIn_getConversation_bind hknown
          (endsIn_nameFromQuestion hasked (endsIn_retitle_of_blank hblank c))⟩
      | ok name =>
        exact ⟨_, _, .named hknown hasked (exists_word_of_title htitle) (length_le_of_title htitle)
          htitle, endsIn_getConversation_bind hknown
          (endsIn_nameFromQuestion hasked (endsIn_retitle_of_title htitle c))⟩

end

/-- A name can be made, as the replies tell: of a question with a word in it. -/
def Nameable (replies : List Reply) : Prop :=
  ∃ c question, conversationIn? replies = some c ∧ questionIn? replies = some question ∧
    ∃ ch ∈ question.toList, Text.isBlank ch = false

/-- A name is set if one can be made, and only then. -/
theorem Retitled.setsName_iff {app id : Uuid} {p : Principal} {replies : List Reply}
    {sent : List Statement} {result : Except ApiError Conversation}
    (h : Retitled app p id replies sent result) :
    (∃ s ∈ sent, ∃ name, SetsName s name) ↔ Nameable replies := by
  have hget : ¬ ∃ name, SetsName (.getOwned app p id) name :=
    fun ⟨name, hs⟩ => not_setsName_of_looksUp rfl name hs
  have hask (c : Conversation) : ¬ ∃ name, SetsName (.firstQuestion c.app c.id) name :=
    fun ⟨name, hs⟩ => not_setsName_of_looksUp rfl name hs
  cases h with
  | missing unknown => simp [Nameable, unknown, hget]
  | unasked known none => simp [Nameable, none, hget, hask]
  | blank known asked blank =>
    simp only [Nameable, known, asked]
    simp_all
  | @named c question name known asked word _ _ =>
    have hset : SetsName (.setName c.id name) name := setsName_setName_iff.mpr rfl
    exact iff_of_true ⟨_, by simp, name, hset⟩ ⟨c, question, known, asked, word⟩

/-! ## Requests for another name -/

/-- What a request does whose form gives the name. -/
structure TakesName (c : Config) (limiter : LoginLimiter) (e : Event) (route : Route)
    (form : RenameForm) : Prop where
  /-- No name, or a blank one, is refused, and nothing is sent but what tells who asks. -/
  refused : (∀ name ∈ form.name, ∀ ch ∈ name.toList, Text.isBlank ch = true) →
    ∀ {sender asked told behind},
      Recognized c.secretKey e.request route sender asked told → e.replies = told ++ behind →
        (handle c limiter e).1.response.status = 400 ∧ (handle c limiter e).1.log = asked
  /-- Any other is stored without the blanks around it. -/
  stored : ∀ {name}, form.name = some name → (∃ ch ∈ name.toList, Text.isBlank ch = false) →
    ∀ {app p id asked told behind},
      Admitted c.secretKey e.request route app p id asked told → e.replies = told ++ behind →
        (handle c limiter e).1.log = asked ++ [.renameOwned app p id (Text.trim name)]

/-- What a request does whose form asks for a name that is made. -/
structure MakesName (c : Config) (limiter : LoginLimiter) (e : Event) (route : Route) : Prop where
  /-- The name in the form does not matter. -/
  ignored : ∀ {body form}, BodyIs { e.request with body } form → form.automatic = true →
    handle c limiter { e with request := { e.request with body } } = handle c limiter e
  /-- The replies tell what is sent and shown, if nothing goes wrong with a statement. -/
  retitled : ∀ {app p id asked told behind},
    Admitted c.secretKey e.request route app p id asked told → e.replies = told ++ behind →
    Smooth (answered (handle c limiter e).1.log e.replies) →
      ∃ sent result, Retitled app p id behind sent result ∧
        (handle c limiter e).1.log = asked ++ sent ∧
        Responds (c.context e) Conversation.ToldBy result (handle c limiter e).1.response
  /-- A name is stored if one can be made, and only then. -/
  stored_iff : ∀ {app p id asked told behind},
    Admitted c.secretKey e.request route app p id asked told → e.replies = told ++ behind →
    Smooth (answered (handle c limiter e).1.log e.replies) →
      ((∃ s ∈ (handle c limiter e).1.log, ∃ name, SetsName s name) ↔ Nameable behind)

section

variable {c : Config} {e : Event} {route : Route} {parameter : List Char} {form : RenameForm}

theorem exists_endpoint_of_renames? (ctx : Context) (r : Request)
    (hrenames : renames? route = some parameter) : ∃ h, endpoint? ctx r route .post = some h := by
  cases route <;> cases hrenames <;> exact ⟨_, rfl⟩

theorem ensures_shownName (app : Uuid) (p : Principal) (id : Uuid) (name : String) :
    Handler.Ensures (setName app p id name >>= fun c => pure (.ofJson 200 c.toJson : Response))
      fun sent _ _ => sent = [.renameOwned app p id name] := by
  refine Handler.ensures_bind (Handler.ensures_of_asks (Handler.asks_required rfl _ _) rfl ?_)
  intro reply
  cases Handler.readRequired ConversationError.notFound.api Row.conversation? reply with
  | error e => rfl
  | ok c => exact Handler.ensures_pure rfl

theorem trimmedName_eq_empty_iff (form : RenameForm) : form.trimmedName = "" ↔
    ∀ name ∈ form.name, ∀ ch ∈ name.toList, Text.isBlank ch = true := by
  rw [RenameForm.trimmedName, Text.trim_eq_empty_iff]
  cases form.name <;> simp

theorem takesName (limiter : LoginLimiter) (hroute : Route.ofPath? e.request.path = some route)
    (hrenames : renames? route = some parameter) (hmethod : Method.ofName e.request.method = .post)
    (hbody : BodyIs e.request form) (hmanual : form.automatic = false) :
    TakesName c limiter e route form := by
  obtain ⟨h, hh⟩ := exists_endpoint_of_renames? (c.context e) e.request hrenames
  have hhandle := handle_post c limiter hroute hmethod hh
  constructor
  · intro hblank sender asked told behind hin hreplies
    have hempty := (trimmedName_eq_empty_iff form).mpr hblank
    rw [hhandle]
    exact run_of_recognized hin hh hbody hmanual hempty hreplies
  · intro name hname hword app p id asked told behind hin hreplies
    have htrimmed : form.trimmedName = Text.trim name := by rw [RenameForm.trimmedName, hname]; rfl
    have hne : form.trimmedName ≠ "" := by
      rw [Ne, trimmedName_eq_empty_iff]
      simpa [hname] using hword
    have hexec := exec_of_admitted (x := { limiter := limiter, replies := e.replies }) hin hh hbody
      (fun _ => hne) hreplies
    have hset : renameConversation app p id form = setName app p id (Text.trim name) := by
      rw [renameConversation, hmanual, htrimmed]
      rfl
    obtain ⟨sent, used, hleads, rfl⟩ := ensures_shownName app p id (Text.trim name)
      { limiter := limiter, replies := behind, log := asked }
    rw [hhandle]
    change (run h _).2.log = _
    rw [run_snd, hexec, hset]
    exact hleads.log

theorem renameConversation_of_automatic (hautomatic : form.automatic = true) (app : Uuid)
    (p : Principal) (id : Uuid) : renameConversation app p id form =
      getConversation app p id >>= nameFromQuestion := by
  rw [renameConversation, if_pos hautomatic]

/-- Two forms that ask for a name that is made are handled alike. -/
theorem renameBehind_congr {r r' : Request} {form' : RenameForm} (hbody : BodyIs r form)
    (hbody' : BodyIs r' form') (hautomatic : form.automatic = true)
    (hautomatic' : form'.automatic = true) (reach : Handler Unit) (app : Uuid) (p : Principal)
    (id : Uuid) : renameBehind r' reach app p id = renameBehind r reach app p id := by
  rw [renameBehind, renameBehind, renameForm_of_bodyIs hbody (by simp [hautomatic]),
    renameForm_of_bodyIs hbody' (by simp [hautomatic']), pure_bind, pure_bind,
    renameConversation_of_automatic hautomatic, renameConversation_of_automatic hautomatic']

theorem endpoint?_congr {ctx : Context} {r : Request} {body : List UInt8} {form' : RenameForm}
    (hrenames : renames? route = some parameter) (hbody : BodyIs r form)
    (hbody' : BodyIs { r with body } form') (hautomatic : form.automatic = true)
    (hautomatic' : form'.automatic = true) (method : Method) :
    endpoint? ctx { r with body } route method = endpoint? ctx r route method := by
  have hbehind := renameBehind_congr hbody hbody' hautomatic hautomatic'
  have hheaders : { r with body }.headers = r.headers := rfl
  cases method with
  | post =>
    cases route <;> cases hrenames
    · simp only [endpoint?, consoleRename_eq, requireCaller_congr hheaders, hbehind]
    · simp only [endpoint?, webRename_eq, requireVisitor_congr hheaders rfl, hbehind]
  | _ => cases route <;> cases hrenames <;> rfl

/-- Whoever is let in is shown the conversation with the name that is made, unless it fails for the
database. -/
theorem run_of_automatic {ctx : Context} {r : Request} {h : Handler Response} {x : Exchange}
    {app id : Uuid} {p : Principal} {asked : List Statement} {told behind : List Reply}
    (hin : Admitted ctx.secretKey r route app p id asked told)
    (hh : endpoint? ctx r route .post = some h) (hbody : BodyIs r form)
    (hautomatic : form.automatic = true) (hx : x.replies = told ++ behind)
    (hstatus : (run h x).1.status ≠ 500) : ∃ sent result, Retitled app p id behind sent result ∧
      (run h x).1 = respond Conversation.toJson result ∧
      (run h x).2.log = x.log ++ asked ++ sent := by
  have hexec := exec_of_admitted hin hh hbody (by simp [hautomatic]) hx
  rw [renameConversation_of_automatic hautomatic, Handler.exec_bind] at hexec
  obtain ⟨sent, result, hretitled, hends⟩ :=
    exists_retitled app p id { x with log := x.log ++ asked, replies := behind }
  rw [run_fst, hexec] at hstatus ⊢
  rw [run_snd, hexec]
  unfold EndsIn at hends
  generalize exec (getConversation app p id >>= nameFromQuestion) _ = ended at hstatus hends ⊢
  obtain ⟨ending, x'⟩ := ended
  rcases hends with hfailed | ⟨hresult, hlog⟩
  · cases hfailed
    exact absurd rfl hstatus
  · refine ⟨sent, result, hretitled, ?_⟩
    cases result with
    | ok c =>
      cases hresult
      exact ⟨rfl, hlog⟩
    | error failure =>
      cases hresult
      exact ⟨rfl, hlog⟩

theorem makesName (limiter : LoginLimiter) (hroute : Route.ofPath? e.request.path = some route)
    (hrenames : renames? route = some parameter) (hmethod : Method.ofName e.request.method = .post)
    (hbody : BodyIs e.request form) (hautomatic : form.automatic = true) :
    MakesName c limiter e route := by
  obtain ⟨h, hh⟩ := exists_endpoint_of_renames? (c.context e) e.request hrenames
  have hhandle := handle_post c limiter hroute hmethod hh
  have hretitled {app p id asked told behind}
      (hin : Admitted c.secretKey e.request route app p id asked told)
      (hreplies : e.replies = told ++ behind)
      (hsmooth : Smooth (answered (handle c limiter e).1.log e.replies)) :
      ∃ sent result, Retitled app p id behind sent result ∧
        (handle c limiter e).1.log = asked ++ sent ∧
        Responds (c.context e) Conversation.ToldBy result (handle c limiter e).1.response := by
    have hstatus := status_of_smooth hsmooth
    rw [hhandle] at hstatus ⊢
    obtain ⟨sent, result, hretitled, hresponse, hlog⟩ := run_of_automatic
      (x := { limiter := limiter, replies := e.replies }) hin hh hbody hautomatic hreplies hstatus
    refine ⟨sent, result, hretitled, hlog, ?_⟩
    simp only [hresponse]
    exact responds_respond (fun c => Conversation.toldBy_iff.mpr rfl) _ result
  refine ⟨fun hbody' hautomatic' => ?_, hretitled, fun hin hreplies hsmooth => ?_⟩
  · exact handle_congr c limiter hroute rfl rfl
      (endpoint?_congr hrenames hbody hbody' hautomatic hautomatic')
  · obtain ⟨sent, result, hretitled, hlog, -⟩ := hretitled hin hreplies hsmooth
    have hasked : ¬ ∃ s ∈ _, ∃ name, SetsName s name :=
      fun ⟨s, hs, name, hsets⟩ => not_setsName_of_looksUp (hin.looksUp s hs) name hsets
    rw [hlog, ← hretitled.setsName_iff]
    simp only [List.mem_append, or_and_right, exists_or]
    exact or_iff_right hasked

/-- No name of a conversation that is stored for a request is blank or has a blank at either end. A
name that is given is stored without the blanks around it, and refused if nothing is left; a name
that is made is stored if the conversation has a first question with a word in it. -/
theorem names_are_never_blank (c : Config) (limiter : LoginLimiter) {e : Event} {route : Route}
    {parameter : List Char} (hroute : Route.ofPath? e.request.path = some route)
    (hrenames : renames? route = some parameter) :
    (∀ s ∈ (handle c limiter e).1.log, ∀ name, SetsName s name →
      name ≠ "" ∧ Text.Trimmed name.toList ∧ Proposed e.request name ∧
        (idIn? parameter).isSome = true) ∧
    (∀ gate ∈ gate? route, Authenticated c.secretKey e.request e.replies gate →
      ∃ sender asked told behind,
        Recognized c.secretKey e.request route sender asked told ∧ e.replies = told ++ behind) ∧
    (Method.ofName e.request.method = .post → ∀ form, BodyIs e.request form →
      (form.automatic = false → TakesName c limiter e route form) ∧
      (form.automatic = true → MakesName c limiter e route)) := by
  refine ⟨?_, fun gate hgate hauth => exists_recognized hrenames hgate hauth, ?_⟩
  · obtain ⟨-, -, -, -, hnames⟩ := ensures_handle (c := c) (e := e)
      (Q := fun sent _ => ∀ s ∈ sent, Names e.request parameter s) (fun s hs => by cases hs)
      (fun route' method h hroute' _ hh => by
        rw [hroute] at hroute'
        cases hroute'
        exact sends_of_renames? hrenames hh) limiter
    intro s hs name hsets
    obtain ⟨hproposed, hid⟩ := hnames s hs name hsets
    obtain ⟨hne, htrimmed⟩ := hproposed.ne_empty_and_trimmed
    exact ⟨hne, htrimmed, hproposed, hid⟩
  · intro hmethod form hbody
    exact ⟨takesName limiter hroute hrenames hmethod hbody,
      makesName limiter hroute hrenames hmethod hbody⟩

end

/-- A request for another name on the console, with this body. The replies tell of the caller, the
app, the conversation and its first question. -/
def renamingEvent (body : String) (question : List Row) : Event where
  request := {
    method := "POST"
    target := "/console/api/apps/00000000000000000000000000000001/conversations/" ++
      "00000000000000000000000000000002/name"
    headers := [("authorization", Utf8.ofString "Bearer t"),
      ("content-type", Utf8.ofString "application/json")]
    body := Utf8.ofString body }
  now := 0
  fresh := ⟨default, ⟨.replicate 32 0⟩, ⟨.replicate 32 0⟩, default⟩
  replies := [
    .rows [[.text "00000000000000000000000000000003"]],
    .rows [[.text "00000000000000000000000000000001", .text "00000000000000000000000000000004",
      .text "normal", .bool true]],
    .rows [[.text "00000000000000000000000000000002", .text "00000000000000000000000000000001",
      .text "Plans", .text "console", .null, .text "00000000000000000000000000000003", .null,
      .bool false, .int 1999999, .int (-1)]],
    .rows question,
    .affected 1]

def renamingRoute : Route :=
  .consoleConversationName "00000000000000000000000000000001".toList
    "00000000000000000000000000000002".toList

theorem recognized_renamingEvent (secretKey body : String) (question : List Row) :
    Recognized secretKey (renamingEvent body question).request renamingRoute (.caller (.ofByte 3))
      [.sessionAccount "t"] ((renamingEvent body question).replies.take 1) := by
  have hbearer : (renamingEvent "" []).request.bearer? = some "t" := by decide +kernel
  exact .caller ⟨by decide, .inl hbearer⟩ (by decide +kernel)

theorem admitted_renamingEvent (secretKey body : String) (question : List Row) :
    Admitted secretKey (renamingEvent body question).request renamingRoute (.ofByte 1)
      (.internalUser (.ofByte 3)) (.ofByte 2)
      [.sessionAccount "t", .appForAccount (.ofByte 1) (.ofByte 3)]
      ((renamingEvent body question).replies.take 2) := by
  have hreached : Handler.readFirst Row.app? (.rows [[.text "00000000000000000000000000000001",
      .text "00000000000000000000000000000004", .text "normal", .bool true]]) =
      .ok (some ⟨.ofByte 1, .ofByte 4, "normal", true⟩) := by decide +kernel
  exact .caller (recognized_renamingEvent secretKey body question) (by decide +kernel)
    (by decide +kernel) hreached

theorem names_of_renamingEvent :
    let c : Config := ⟨"key", 60, 30, 5, 900, false⟩
    let o (body : String) (question : List Row) : Outcome :=
      (handle c c.limiter (renamingEvent body question)).1
    let made := "\x7b\"name\":\"Ada\",\"auto_generate\":true\x7d"
    let given := "\x7b\"name\":\" Ada \"\x7d"
    let blank := "\x7b\"name\":\" \"\x7d"
    let question : List Row := [[.text "  Where\n is  it? "]]
    let told (name : String) : Json := .obj [
      ("id", .str "00000000-0000-0000-0000-000000000002"),
      ("app_id", .str "00000000-0000-0000-0000-000000000001"), ("name", .str name),
      ("from_source", .str "console"), ("from_end_user_id", .null),
      ("from_account_id", .str "00000000-0000-0000-0000-000000000003"), ("invoke_from", .null),
      ("created_at", .int 1), ("updated_at", .int (-1))]
    (∃ s ∈ (o made question).log, ∃ name, SetsName s name ∧ name ≠ "") ∧
    (Smooth (answered (o made question).log (renamingEvent made question).replies) ∧
      (o made question).response.status = 200 ∧
      (o made question).response.body = .json (told "Where is it?")) ∧
    ((o made [[.text " \n "]]).response.status = 200 ∧
      (o made [[.text " \n "]]).response.body = .json (told "Plans")) ∧
    ((o made []).response.status = 404 ∧ (o made []).response.body = .json (.obj [
      ("code", .str "message_not_exists"), ("message", .str "Message not exists."),
      ("status", .int 404)])) ∧
    (o given question).log = [.sessionAccount "t", .appForAccount (.ofByte 1) (.ofByte 3),
      .renameOwned (.ofByte 1) (.internalUser (.ofByte 3)) (.ofByte 2) "Ada"] ∧
    (o blank question).response.status = 400 ∧ (o blank question).log = [.sessionAccount "t"] := by
  intro c o made given blank question told
  have hroute (body : String) :
      Route.ofPath? (renamingEvent body question).request.path = some renamingRoute := by
    simp only [Request.path, Request.parts, renamingEvent]
    decide +kernel
  have hrenames : renames? renamingRoute = some "00000000000000000000000000000002".toList := rfl
  have hreplies (body : String) (n : Nat) : (renamingEvent body question).replies =
      (renamingEvent body question).replies.take n ++
        (renamingEvent body question).replies.drop n :=
    (List.take_append_drop n _).symm
  have hmade : BodyIs (renamingEvent made question).request ⟨some "Ada", true⟩ :=
    ⟨by decide +kernel, by decide +kernel⟩
  have hgiven : BodyIs (renamingEvent given question).request ⟨some " Ada ", false⟩ :=
    ⟨by decide +kernel, by decide +kernel⟩
  have hblank : BodyIs (renamingEvent blank question).request ⟨some " ", false⟩ :=
    ⟨by decide +kernel, by decide +kernel⟩
  have hnames (body : String) := names_are_never_blank c c.limiter (hroute body) hrenames
  have hshown : Smooth (answered (o made question).log (renamingEvent made question).replies) ∧
      (o made question).response.status = 200 ∧
      (o made question).response.body = .json (told "Where is it?") := by
    unfold Smooth
    decide +kernel
  refine ⟨?_, hshown, by decide +kernel, by decide +kernel, ?_, ?_⟩
  · obtain ⟨hproper, -, hform⟩ := hnames made
    have hnameable : Nameable ((renamingEvent made question).replies.drop 2) :=
      ⟨⟨.ofByte 2, .ofByte 1, "Plans", "console", none, some (.ofByte 3), none, false, 1999999, -1⟩,
        "  Where\n is  it? ", by decide +kernel, by decide +kernel, 'W', by decide +kernel, rfl⟩
    obtain ⟨s, hs, name, hsets⟩ := (((hform rfl _ hmade).2 rfl).stored_iff
      (admitted_renamingEvent c.secretKey made question) (hreplies made 2) hshown.1).mpr hnameable
    exact ⟨s, hs, name, hsets, (hproper s hs name hsets).1⟩
  · have htakes := ((hnames given).2.2 rfl _ hgiven).1 rfl
    exact htakes.stored rfl ⟨'A', by decide +kernel, rfl⟩
      (admitted_renamingEvent c.secretKey given question) (hreplies given 2)
  · have htakes := ((hnames blank).2.2 rfl _ hblank).1 rfl
    exact htakes.refused (by simp [Text.isBlank])
      (recognized_renamingEvent c.secretKey blank question) (hreplies blank 1)

end Parley.Service
