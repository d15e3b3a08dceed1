import Parley.Proofs.Store.Reading
import Parley.Proofs.Uuid
import Parley.Store.Reply

/-!
# What a selection means

The meaning of a selection over a table of conversations, as SQL has it. A missing
value makes a comparison unknown, and a row is kept only where all that is asked of it
is true. Rows come in any order that the selection allows. What a reply to a statement
has to be is said by reading the statement back, so it depends on nothing but its text
and its arguments.

* `conversation?_ofConversation`: the row of a conversation reads as that conversation.
* `answers_ofFragments`: what answers the statement of a selection.
-/
namespace Parley

namespace Store

/-! ## Values -/

/-- The kinds of values that are compared. -/
inductive Kind where
  | uuid
  | text
  | bool
  | time
  deriving DecidableEq, Repr

/-- A value of a column. -/
inductive Value where
  | uuid (u : Uuid)
  | text (s : String)
  | bool (b : Bool)
  | time (t : Int)
  deriving DecidableEq, Repr

/-- The kind of the values in a column. -/
def Column.kind : Column → Kind
  | id | app | endUser | account => .uuid
  | name | source | channel => .text
  | isDeleted => .bool
  | createdAt | updatedAt => .time

/-- The value that an argument stands for, or none where it stands for no value. -/
def Arg.value? : Arg → Option Value
  | null => none
  | uuid u => some (.uuid u)
  | text s => some (.text s)
  | time t => some (.time t)
  | int _ => none
  | uuids _ => none

/-- Whether an argument can be compared with values of a kind. No value can be
compared with all. -/
def Arg.fits : Arg → Kind → Bool
  | null, _ => true
  | uuid _, k => k = .uuid
  | text _, k => k = .text
  | time _, k => k = .time
  | int _, _ => false
  | uuids _, _ => false

end Store

open Store (Column Kind Value) in
/-- The value in a column of a conversation's row, if there is one. -/
def Conversation.value? (c : Conversation) : Column → Option Value
  | .id => some (.uuid c.id)
  | .app => some (.uuid c.app)
  | .name => some (.text c.name)
  | .source => some (.text c.source)
  | .endUser => c.endUser.map .uuid
  | .account => c.account.map .uuid
  | .channel => c.channel.map .text
  | .isDeleted => some (.bool c.isDeleted)
  | .createdAt => some (.time c.createdAt)
  | .updatedAt => some (.time c.updatedAt)

namespace Store

/-! ## Truth -/

/-- A truth value, or none where it is unknown. -/
abbrev Truth := Option Bool

namespace Truth

/-- Whether values are equal, which is unknown where one is missing. -/
def equal : Option Value → Option Value → Truth
  | some v, some w => some (decide (v = w))
  | _, _ => none

/-- True where one is true, and false where both are false. -/
def either : Truth → Truth → Truth
  | some true, _ => some true
  | _, some true => some true
  | some false, some false => some false
  | _, _ => none

/-- False where one is false, and true where both are true. -/
def both : Truth → Truth → Truth
  | some false, _ => some false
  | _, some false => some false
  | some true, some true => some true
  | _, _ => none

/-- Whether a time lies before another one, which is unknown where there is none. -/
def earlier : Option Value → Int → Truth
  | some (.time t), u => some (decide (t < u))
  | _, _ => none

/-- Whether a time lies behind another one, which is unknown where there is none. -/
def later : Option Value → Int → Truth
  | some (.time t), u => some (decide (u < t))
  | _, _ => none

theorem both_eq_true {p q : Truth} : both p q = some true ↔ p = some true ∧ q = some true := by
  rcases p with _ | _ | _ <;> rcases q with _ | _ | _ <;> simp [both]

end Truth

namespace Condition

/-- Whether all comparisons of a condition are of values of one kind. -/
def fits : Condition → Bool
  | isFalse c => c.kind = .bool
  | isNull _ => true
  | equals c a => a.fits c.kind
  | notDistinct c a => a.fits c.kind
  | isAny c _ => c.kind = .uuid
  | past c _ => c.kind = .time
  | not p => p.fits
  | or p q => p.fits && q.fits

/-- Whether a condition holds for a row. -/
def truth (c : Conversation) : Condition → Truth
  | isFalse col => Truth.equal (c.value? col) (some (.bool false))
  | isNull col => some (c.value? col).isNone
  | equals col a => Truth.equal (c.value? col) a.value?
  | notDistinct col a => some (decide (c.value? col = a.value?))
  | isAny col us => us.foldr
      (fun u t => Truth.either (Truth.equal (c.value? col) (some (.uuid u))) t) (some false)
  | past col ⟨t, .desc⟩ => Truth.earlier (c.value? col) t
  | past col ⟨t, .asc⟩ => Truth.later (c.value? col) t
  | not p => (p.truth c).map Bool.not
  | or p q => Truth.either (p.truth c) (q.truth c)

end Condition

/-! ## Selections -/

/-- Whether rows can be sorted by a column, as it always holds a number. The bytes of a
UUID are compared as one. -/
def Column.isSortable (c : Column) : Bool :=
  c = id || c = createdAt || c = updatedAt

/-- The number by which a column sorts. -/
def Column.rank (c : Conversation) : Column → Int
  | id => c.id.value
  | createdAt => c.createdAt
  | updatedAt => c.updatedAt
  | _ => 0

/-- Whether a row may stand before another: at the first key in which they differ it does. -/
def MayPrecede : List (Column × Direction) → Conversation → Conversation → Prop
  | [], _, _ => True
  | (col, .asc) :: ks, c, d =>
    col.rank c < col.rank d ∨ (col.rank c = col.rank d ∧ MayPrecede ks c d)
  | (col, .desc) :: ks, c, d =>
    col.rank d < col.rank c ∨ (col.rank c = col.rank d ∧ MayPrecede ks c d)

namespace Select

/-- Whether the database takes the statement: values are compared with their like, rows
are sorted by what can be compared, and the limit has 63 bits. -/
def fits (s : Select) : Bool :=
  s.conditions.all Condition.fits && s.order.all (fun k => k.1.isSortable) &&
    s.limit.all (fun n => n ≤ Decimal.max63)

def truth (s : Select) (c : Conversation) : Truth :=
  s.conditions.foldr (fun p t => Truth.both (p.truth c) t) (some true)

/-- Whether a row is kept. -/
def keeps (s : Select) (c : Conversation) : Bool :=
  s.truth c = some true

/-- The rows that may be read from a table: those that are kept, in some order that is
allowed, up to the limit. -/
def Yields (s : Select) (table rows : List Conversation) : Prop :=
  ∃ sorted : List Conversation, sorted.Perm (table.filter s.keeps) ∧
    sorted.Pairwise (MayPrecede s.order) ∧
    rows = match s.limit with
      | some n => sorted.take n
      | none => sorted

end Select

/-! ## Replies -/

/-- The cells of a conversation's row. -/
def Row.ofConversation (c : Conversation) : Row :=
  [.text c.id.text, .text c.app.text, .text c.name, .text c.source,
    (c.endUser.map fun u => Cell.text u.text).getD .null,
    (c.account.map fun u => Cell.text u.text).getD .null,
    (c.channel.map Cell.text).getD .null,
    .bool c.isDeleted, .int c.createdAt, .int c.updatedAt]

/-- Whether a reply gives what a selection reads from a table. -/
def Select.Answers (s : Select) (table : List Conversation) (reply : Reply) : Prop :=
  match s.projection with
  | .rows => ∃ rows, s.Yields table rows ∧ reply = .rows (rows.map Row.ofConversation)
  | .count => reply = .rows [[.int (table.filter s.keeps).length]]

/-- Whether a reply gives what a statement asks of a table. -/
def Prepared.Answers (p : Prepared) (table : List Conversation) (reply : Reply) : Prop :=
  ∃ s, p.select? = some s ∧ s.fits = true ∧ s.Answers table reply

theorem orNull_toUuid? (u : Option Uuid) :
    ((u.map fun u => Cell.text u.text).getD .null).orNull Cell.toUuid? = some u := by
  cases u with
  | none => rfl
  | some u => simp [Cell.orNull, Cell.toUuid?, Uuid.parse?_text]

theorem orNull_toText? (s : Option String) :
    ((s.map Cell.text).getD .null).orNull Cell.toText? = some s := by
  cases s <;> rfl

theorem conversation?_ofConversation (c : Conversation) :
    Row.conversation? (Row.ofConversation c) = some c := by
  simp only [Row.conversation?, Row.ofConversation, orNull_toUuid?, orNull_toText?,
    Cell.toUuid?, Cell.toText?, Cell.toBool?, Cell.toInt?, Uuid.parse?_text,
    Option.bind_eq_bind, Option.bind_some]
  rfl

theorem mapM_ofConversation (cs : List Conversation) :
    (cs.map Row.ofConversation).mapM Row.conversation? = some cs := by
  induction cs with
  | nil => rfl
  | cons c cs ih =>
    rw [List.map_cons, List.mapM_cons, conversation?_ofConversation, ih]
    rfl

theorem answers_ofFragments {s : Select} {table : List Conversation} {reply : Reply} :
    (Prepared.ofFragments s.fragments).Answers table reply ↔
      s.fits = true ∧ s.Answers table reply := by
  unfold Prepared.Answers
  rw [select?_ofFragments]
  constructor
  · rintro ⟨t, h, hfits, hanswers⟩
    cases h
    exact ⟨hfits, hanswers⟩
  · rintro ⟨hfits, hanswers⟩
    exact ⟨s, rfl, hfits, hanswers⟩

end Store

end Parley
