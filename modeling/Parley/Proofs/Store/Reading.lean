import Parley.Proofs.Store.Token
import Parley.Store.Select

/-!
# Reading a statement back

A statement is a text and its arguments. What it selects is read off from both: the
text is cut into tokens, the tokens are read by the grammar of SQL as far as selections
of conversations need it, and a placeholder is read as the argument with its number. A
text outside of that part of the grammar is not read at all. So a parenthesis in a
wrong place or an argument under a wrong number is read as another selection, or as none.

* `readCondition_fragments`: the text of a condition reads as that condition, wherever
  its first argument stands.
* `select?_ofFragments`: the statement of a selection reads as that selection.
-/
namespace Parley.Store

/-- A word of the language. -/
def keyword (s : String) : Token :=
  .word s.toList

def skip (t : Token) : List Token → Option (List Token)
  | [] => none
  | u :: ts => if u = t then some ts else none

@[simp] theorem skip_self (t : Token) (ts : List Token) : skip t (t :: ts) = some ts :=
  if_pos rfl

/-- The argument that a placeholder stands for. The first one has the number 1. -/
def place? (args : List Arg) : List Char → Option Arg
  | '$' :: ds =>
    match Decimal.value? ds with
    | some (n + 1) => args[n]?
    | _ => none
  | _ => none

def Column.ofName? (cs : List Char) : Option Column :=
  Column.all.find? fun c => c.text.toList = cs

/-! ## Conditions -/

/-- Reads what is asked of a column, which stands behind its name. -/
def readTest (args : List Arg) (c : Column) : List Token → Option (Condition × List Token)
  | .sign '=' :: .word w :: ts =>
    if w = "FALSE".toList then some (.isFalse c, ts)
    else if w = "ANY".toList then
      match ts with
      | .sign '(' :: .word v :: .sign ')' :: ts =>
        match place? args v with
        | some (.uuids us) => some (.isAny c us, ts)
        | _ => none
      | _ => none
    else (place? args w).map fun a => (.equals c a, ts)
  | .sign '<' :: .word w :: ts =>
    match place? args w with
    | some (.time t) => some (.past c ⟨t, .desc⟩, ts)
    | _ => none
  | .sign '>' :: .word w :: ts =>
    match place? args w with
    | some (.time t) => some (.past c ⟨t, .asc⟩, ts)
    | _ => none
  | .word w :: ts =>
    if w = "IS".toList then
      match skip (keyword "NULL") ts with
      | some ts => some (.isNull c, ts)
      | none => do
        let ts ← skip (keyword "NOT") ts
        let ts ← skip (keyword "DISTINCT") ts
        let ts ← skip (keyword "FROM") ts
        match ts with
        | .word w :: ts => (place? args w).map fun a => (.notDistinct c a, ts)
        | _ => none
    else none
  | _ => none

/-- Reads a condition that needs no parentheses or is in some: a test of a column, a
negation, or one of two conditions. -/
def readCondition (args : List Arg) : Nat → List Token → Option (Condition × List Token)
  | 0, _ => none
  | n + 1, .sign '(' :: ts => do
    let (p, ts) ← readCondition args n ts
    let ts ← skip (keyword "OR") ts
    let (q, ts) ← readCondition args n ts
    let ts ← skip (.sign ')') ts
    return (.or p q, ts)
  | n + 1, .word w :: ts =>
    if w = "NOT".toList then do
      let ts ← skip (.sign '(') ts
      let (p, ts) ← readCondition args n ts
      let ts ← skip (.sign ')') ts
      return (.not p, ts)
    else do
      let c ← Column.ofName? w
      readTest args c ts
  | _, _ => none

/-- Reads one thing or more, with a token between any two of them. -/
def readSeparated {α : Type} (sep : Token) (read : List Token → Option (α × List Token)) :
    Nat → List Token → Option (List α × List Token)
  | 0, _ => none
  | n + 1, ts => do
    let (a, ts) ← read ts
    match skip sep ts with
    | some ts => do
      let (as, ts) ← readSeparated sep read n ts
      return (a :: as, ts)
    | none => return ([a], ts)

/-- Reads the conditions of a statement, which may have none. -/
def readWhere (args : List Arg) (ts : List Token) : Option (List Condition × List Token) :=
  match skip (keyword "WHERE") ts with
  | some ts => readSeparated (keyword "AND") (readCondition args ts.length) (ts.length + 1) ts
  | none => some ([], ts)

/-! ## Selections -/

def readColumn : List Token → Option (Column × List Token)
  | .word w :: ts => do return (← Column.ofName? w, ts)
  | _ => none

def readProjection (ts : List Token) : Option (Projection × List Token) :=
  match skip (keyword "COUNT") ts with
  | some ts => do
    let ts ← skip (.sign '(') ts
    let ts ← skip (.sign '*') ts
    let ts ← skip (.sign ')') ts
    return (.count, ts)
  | none => do
    let (cs, ts) ← readSeparated (.sign ',') readColumn (ts.length + 1) ts
    if cs = Column.all then some (.rows, ts) else none

def readDirection (cs : List Char) : Option Direction :=
  if cs = "ASC".toList then some .asc
  else if cs = "DESC".toList then some .desc
  else none

/-- Reads a sort key: a column and a direction. -/
def readKey : List Token → Option ((Column × Direction) × List Token)
  | .word w :: .word d :: ts => do return ((← Column.ofName? w, ← readDirection d), ts)
  | _ => none

/-- Reads the order of a statement, which may have none. -/
def readOrder (ts : List Token) : Option (List (Column × Direction) × List Token) :=
  match skip (keyword "ORDER") ts with
  | some ts => do
    let ts ← skip (keyword "BY") ts
    readSeparated (.sign ',') readKey (ts.length + 1) ts
  | none => some ([], ts)

/-- Reads the limit at the end of a statement, which may have none. -/
def readLimit (args : List Arg) : List Token → Option (Option Nat)
  | [] => some none
  | [.word w, .word v] =>
    if w = "LIMIT".toList then
      match place? args v with
      | some (.int (.ofNat n)) => some (some n)
      | _ => none
    else none
  | _ => none

/-- Reads a selection from the conversations. -/
def readSelect (args : List Arg) (ts : List Token) : Option Select := do
  let ts ← skip (keyword "SELECT") ts
  let (projection, ts) ← readProjection ts
  let ts ← skip (keyword "FROM") ts
  let ts ← skip (keyword "conversations") ts
  let (conditions, ts) ← readWhere args ts
  let (order, ts) ← readOrder ts
  let limit ← readLimit args ts
  return ⟨projection, conditions, order, limit⟩

/-- The selection that a statement asks for, if it asks for one. -/
def Prepared.select? (p : Prepared) : Option Select :=
  readSelect p.args (tokens p.sql.toList)

/-! ## Arguments and their places -/

namespace Fragment

@[simp] theorem args_nil : args [] = [] := rfl

@[simp] theorem args_text (s : String) (fs : List Fragment) : args (text s :: fs) = args fs := rfl

@[simp] theorem args_arg (a : Arg) (fs : List Fragment) : args (arg a :: fs) = a :: args fs := rfl

@[simp] theorem args_append (fs gs : List Fragment) : args (fs ++ gs) = args fs ++ args gs :=
  List.filterMap_append

theorem numbered_append (m : Nat) (fs gs : List Fragment) :
    numbered m (fs ++ gs) = numbered m fs ++ numbered (m + (args fs).length) gs := by
  induction fs generalizing m with
  | nil => rfl
  | cons f fs ih =>
    cases f with
    | text s => simp [numbered, ih]
    | arg a => simp [numbered, ih, Nat.add_assoc, Nat.add_comm 1]

/-- The arguments from the `m`-th on are those of the fragments, and maybe more. -/
def Bound (as : List Arg) (m : Nat) (fs : List Fragment) : Prop :=
  args fs <+: as.drop m

theorem bound_append {as : List Arg} {m : Nat} {fs gs : List Fragment} :
    Bound as m (fs ++ gs) ↔ Bound as m fs ∧ Bound as (m + (args fs).length) gs := by
  unfold Bound
  rw [args_append]
  constructor
  · rintro ⟨more, h⟩
    rw [List.append_assoc] at h
    refine ⟨⟨_, h⟩, more, ?_⟩
    rw [← List.drop_drop, ← h, List.drop_left]
  · rintro ⟨⟨rest, h⟩, more, h'⟩
    rw [← List.drop_drop, ← h, List.drop_left] at h'
    exact ⟨more, by rw [List.append_assoc, h', h]⟩

@[simp] theorem bound_text {as : List Arg} {m : Nat} {s : String} {fs : List Fragment} :
    Bound as m (text s :: fs) ↔ Bound as m fs := Iff.rfl

theorem bound_arg {as : List Arg} {m : Nat} {a : Arg} {fs : List Fragment}
    (h : Bound as m (arg a :: fs)) : as[m]? = some a ∧ Bound as (m + 1) fs := by
  refine ⟨?_, (bound_append.mp (show Bound as m ([arg a] ++ fs) from h)).2⟩
  obtain ⟨more, h⟩ := h
  have hhead : (as.drop m)[0]? = some a := by rw [← h]; rfl
  rwa [List.getElem?_drop, Nat.add_zero] at hhead

end Fragment

theorem place?_placeholder {args : List Arg} {m : Nat} {a : Arg} (h : args[m]? = some a) :
    place? args (placeholder m) = some a := by
  simp only [place?, placeholder, Decimal.value?_ofNat, h]

theorem placeholder_ne {m : Nat} {s : String} (h : s.toList.head? ≠ some '$') :
    placeholder m ≠ s.toList := by
  intro h'
  exact h (by rw [← h']; rfl)

/-! ## Names of columns -/

namespace Column

theorem ofName?_text (c : Column) : ofName? c.text.toList = some c := by
  cases c <;> decide

theorem text_ne_not (c : Column) : c.text.toList ≠ "NOT".toList := by
  cases c <;> decide

theorem tokens_text_append (c : Column) {s : String} (h : Opens s.toList) :
    tokens (c.text ++ s).toList = .word c.text.toList :: tokens s.toList := by
  have hword : ∀ d ∈ c.text.toList, isWordChar d = true :=
    List.all_eq_true.mp (by cases c <;> rfl)
  rw [String.toList_append, tokens_append h, tokens_word hword (by cases c <;> decide)]
  rfl

end Column

/-! ## Conditions -/

variable {args : List Arg}

theorem readCondition_column (n : Nat) (c : Column) (ts : List Token) :
    readCondition args (n + 1) (.word c.text.toList :: ts) = readTest args c ts := by
  simp only [readCondition, if_neg c.text_ne_not, c.ofName?_text, Option.bind_eq_bind,
    Option.bind_some]

open Fragment

/-- A test of a column reads as the condition, if what stands behind the column does. -/
theorem readCondition_of_test {p : Condition} (c : Column) (test : List Token)
    {more : List Token} {fuel m : Nat}
    (htokens : numbered m p.fragments = .word c.text.toList :: test)
    (hfuel : (numbered m p.fragments).length ≤ fuel)
    (hread : readTest args c (test ++ more) = some (p, more)) :
    readCondition args fuel (numbered m p.fragments ++ more) = some (p, more) := by
  rw [htokens, List.length_cons] at hfuel
  obtain ⟨n, rfl⟩ : ∃ n, fuel = n + 1 := ⟨fuel - 1, by omega⟩
  rw [htokens, List.cons_append, readCondition_column, hread]

theorem readCondition_past (c : Column) (b : Boundary) {fuel m : Nat} (more : List Token)
    (hfuel : (numbered m (Condition.past c b).fragments).length ≤ fuel)
    (hbound : Bound args m (Condition.past c b).fragments) :
    readCondition args fuel (numbered m (Condition.past c b).fragments ++ more) =
      some (.past c b, more) := by
  have hplace := place?_placeholder (bound_arg hbound).1
  obtain ⟨t, d⟩ := b
  cases d with
  | desc =>
    refine readCondition_of_test c [.sign '<', .word (placeholder m)] ?_ hfuel ?_
    · show tokens (c.text ++ " " ++ "<" ++ " ").toList ++ [.word (placeholder m)] = _
      rw [String.append_assoc, String.append_assoc,
        c.tokens_text_append (s := " " ++ ("<" ++ " ")) rfl]
      rfl
    · simp only [List.cons_append, List.nil_append, readTest, hplace]
  | asc =>
    refine readCondition_of_test c [.sign '>', .word (placeholder m)] ?_ hfuel ?_
    · show tokens (c.text ++ " " ++ ">" ++ " ").toList ++ [.word (placeholder m)] = _
      rw [String.append_assoc, String.append_assoc,
        c.tokens_text_append (s := " " ++ (">" ++ " ")) rfl]
      rfl
    · simp only [List.cons_append, List.nil_append, readTest, hplace]

theorem numbered_not (m : Nat) (p : Condition) : numbered m p.not.fragments =
    keyword "NOT" :: .sign '(' :: (numbered m p.fragments ++ [.sign ')']) := by
  simp only [Condition.fragments, List.cons_append, numbered, numbered_append]
  rfl

/-- What reads as a condition reads as its negation between the marks of one. -/
theorem readCondition_not {p : Condition} {n m : Nat} (more : List Token)
    (hp : ∀ more, readCondition args n (numbered m p.fragments ++ more) = some (p, more)) :
    readCondition args (n + 1) (numbered m p.not.fragments ++ more) = some (p.not, more) := by
  rw [numbered_not]
  simp only [keyword, List.cons_append, List.append_assoc, readCondition, if_true, skip_self,
    Option.bind_eq_bind, Option.bind_some, List.nil_append, hp]
  rfl

theorem numbered_or (m : Nat) (p q : Condition) : numbered m (p.or q).fragments =
    .sign '(' :: (numbered m p.fragments ++ keyword "OR" ::
      (numbered (m + (Fragment.args p.fragments).length) q.fragments ++ [.sign ')'])) := by
  simp only [Condition.fragments, List.cons_append, List.append_assoc, numbered, numbered_append]
  rfl

theorem bound_or {m : Nat} {p q : Condition} (h : Bound args m (p.or q).fragments) :
    Bound args m p.fragments ∧
      Bound args (m + (Fragment.args p.fragments).length) q.fragments := by
  have hboth : Bound args m (p.fragments ++ .text " OR " :: (q.fragments ++ [.text ")"])) := by
    simpa only [Condition.fragments, List.cons_append, List.append_assoc, bound_text] using h
  obtain ⟨hp, hq⟩ := bound_append.mp hboth
  exact ⟨hp, (bound_append.mp hq).1⟩

/-- What reads as two conditions reads as one of them between the marks of that. -/
theorem readCondition_or {p q : Condition} {n m : Nat} (more : List Token)
    (hp : ∀ more, readCondition args n (numbered m p.fragments ++ more) = some (p, more))
    (hq : ∀ more, readCondition args n (numbered (m + (Fragment.args p.fragments).length)
      q.fragments ++ more) = some (q, more)) :
    readCondition args (n + 1) (numbered m (p.or q).fragments ++ more) = some (p.or q, more) := by
  rw [numbered_or]
  simp only [List.cons_append, List.append_assoc, readCondition, skip_self, hp, hq,
    Option.bind_eq_bind, Option.bind_some, List.nil_append]
  rfl

/-- The text of a condition reads as that condition. -/
theorem readCondition_fragments (p : Condition) {fuel m : Nat} (more : List Token)
    (hfuel : (numbered m p.fragments).length ≤ fuel) (hbound : Bound args m p.fragments) :
    readCondition args fuel (numbered m p.fragments ++ more) = some (p, more) := by
  induction p generalizing fuel m more with
  | isFalse c =>
    refine readCondition_of_test c [.sign '=', keyword "FALSE"] ?_ hfuel rfl
    rw [Condition.fragments, numbered, c.tokens_text_append (s := " = FALSE") rfl]
    rfl
  | isNull c =>
    refine readCondition_of_test c [keyword "IS", keyword "NULL"] ?_ hfuel rfl
    rw [Condition.fragments, numbered, c.tokens_text_append (s := " IS NULL") rfl]
    rfl
  | equals c a =>
    have hplace := place?_placeholder (bound_arg hbound).1
    refine readCondition_of_test c [.sign '=', .word (placeholder m)] ?_ hfuel ?_
    · rw [Condition.fragments, numbered, c.tokens_text_append (s := " = ") rfl]
      rfl
    · simp only [List.cons_append, List.nil_append, readTest,
        if_neg (placeholder_ne (m := m) (s := "FALSE") (by decide)),
        if_neg (placeholder_ne (m := m) (s := "ANY") (by decide)), hplace, Option.map_some]
  | notDistinct c a =>
    have hplace := place?_placeholder (bound_arg hbound).1
    refine readCondition_of_test c [keyword "IS", keyword "NOT", keyword "DISTINCT",
      keyword "FROM", .word (placeholder m)] ?_ hfuel ?_
    · rw [Condition.fragments, numbered, c.tokens_text_append (s := " IS NOT DISTINCT FROM ") rfl]
      rfl
    · show ((place? args (placeholder m)).map fun a => (Condition.notDistinct c a, more)) = _
      rw [hplace]
      rfl
  | isAny c ids =>
    have hplace := place?_placeholder (bound_arg hbound).1
    refine readCondition_of_test c [.sign '=', keyword "ANY", .sign '(',
      .word (placeholder m), .sign ')'] ?_ hfuel ?_
    · rw [Condition.fragments, numbered, c.tokens_text_append (s := " = ANY(") rfl]
      rfl
    · show (match place? args (placeholder m) with
        | some (.uuids us) => some (Condition.isAny c us, more)
        | _ => none) = _
      rw [hplace]
  | past c b => exact readCondition_past c b more hfuel hbound
  | not p ih =>
    rw [numbered_not, List.length_cons, List.length_cons, List.length_append] at hfuel
    obtain ⟨n, rfl⟩ : ∃ n, fuel = n + 1 := ⟨fuel - 1, by omega⟩
    exact readCondition_not more fun more => ih more (by omega) (bound_append.mp hbound).1
  | or p q ihp ihq =>
    obtain ⟨hboundp, hboundq⟩ := bound_or hbound
    rw [numbered_or, List.length_cons, List.length_append, List.length_cons,
      List.length_append] at hfuel
    obtain ⟨n, rfl⟩ : ∃ n, fuel = n + 1 := ⟨fuel - 1, by omega⟩
    exact readCondition_or more (fun more => ihp more (by omega) hboundp)
      fun more => ihq more (by omega) hboundq

/-! ## Lists -/

/-- Things read back one by one are read back with tokens between them. -/
theorem readSeparated_intercalate {α : Type} {sep : Token}
    {read : List Token → Option (α × List Token)} {as : List α} {tss : List (List Token)}
    {n : Nat} {more : List Token}
    (hread : List.Forall₂ (fun a ts => ∀ more, read (ts ++ more) = some (a, more)) as tss)
    (hne : as ≠ []) (hmore : skip sep more = none)
    (hfuel : ([sep].intercalate tss).length < n) :
    readSeparated sep read n ([sep].intercalate tss ++ more) = some (as, more) := by
  obtain ⟨n, rfl⟩ : ∃ k, n = k + 1 := ⟨n - 1, by omega⟩
  induction hread generalizing n with
  | nil => exact absurd rfl hne
  | @cons a ts as tss ha has ih =>
    cases has with
    | nil =>
      simp only [List.intercalate_singleton, readSeparated, ha, Option.bind_eq_bind,
        Option.bind_some, hmore]
      rfl
    | @cons b us bs uss hb hbs =>
      rw [List.intercalate_cons_cons, List.append_assoc, List.append_assoc] at *
      simp only [List.length_append, List.length_singleton] at hfuel
      obtain ⟨n, rfl⟩ : ∃ k, n = k + 1 := ⟨n - 1, by omega⟩
      have htail := ih (by simp) n (by omega)
      rw [readSeparated, ha, Option.bind_eq_bind, Option.bind_some]
      simp only [List.singleton_append, skip_self, htail]
      rfl

theorem tokens_intercalate (ss : List String) :
    tokens (", ".intercalate ss).toList =
      [Token.sign ','].intercalate (ss.map fun s => tokens s.toList) := by
  induction ss with
  | nil => rfl
  | cons s ss ih =>
    cases ss with
    | nil => simp
    | cons t ss =>
      have hopens (b : List Char) : Opens (", ".toList ++ b) := opens_cons (c := ',') rfl _
      have hcomma (b : List Char) : tokens (", ".toList ++ b) = .sign ',' :: tokens b :=
        tokens_append_of_closed (c := ' ') rfl [','] b
      rw [String.intercalate_cons_cons, String.toList_append, String.toList_append,
        List.append_assoc, tokens_append (hopens _), hcomma, ih]
      simp [List.intercalate_cons_cons]

/-! ## Selections -/

/-- The tokens of conditions are those of each, which reads as the condition, with `AND`
between them. -/
theorem numbered_conditions (p : Condition) (ps : List Condition) {fuel m : Nat}
    (hfuel : (numbered m (p.fragments ++ ps.flatMap fun q =>
      .text " AND " :: q.fragments)).length ≤ fuel)
    (hbound : Bound args m (p.fragments ++ ps.flatMap fun q => .text " AND " :: q.fragments)) :
    ∃ tss, numbered m (p.fragments ++ ps.flatMap fun q => .text " AND " :: q.fragments) =
        [keyword "AND"].intercalate tss ∧
      List.Forall₂ (fun q ts => ∀ more, readCondition args fuel (ts ++ more) = some (q, more))
        (p :: ps) tss := by
  induction ps generalizing p m with
  | nil =>
    rw [List.flatMap_nil, List.append_nil] at hfuel hbound ⊢
    exact ⟨[numbered m p.fragments], by simp,
      .cons (fun more => readCondition_fragments p more hfuel hbound) .nil⟩
  | cons q ps ih =>
    obtain ⟨hp, hps⟩ := bound_append.mp hbound
    rw [numbered_append] at hfuel ⊢
    rw [List.flatMap_cons, List.cons_append] at hfuel hps ⊢
    simp only [numbered, List.length_append] at hfuel
    obtain ⟨tss, heq, hread⟩ := ih q (by omega) hps
    refine ⟨numbered m p.fragments :: tss, ?_,
      .cons (fun more => readCondition_fragments p more (by omega) hp) hread⟩
    have hne : tss ≠ [] := by
      rintro rfl
      cases hread
    rw [numbered, heq, List.intercalate_cons_of_ne_nil hne, List.append_assoc]
    rfl

theorem readWhere_fragments (ps : List Condition) {m : Nat} {more : List Token}
    (hand : skip (keyword "AND") more = none) (hwhere : skip (keyword "WHERE") more = none)
    (hbound : Bound args m (Condition.whereAll ps)) :
    readWhere args (numbered m (Condition.whereAll ps) ++ more) = some (ps, more) := by
  cases ps with
  | nil =>
    rw [Condition.whereAll, numbered, List.nil_append, readWhere, hwhere]
  | cons p ps =>
    have htokens : numbered m (Condition.whereAll (p :: ps)) = keyword "WHERE" ::
        numbered m (p.fragments ++ ps.flatMap fun q => .text " AND " :: q.fragments) := rfl
    rw [htokens, List.cons_append, readWhere, skip_self]
    have hfuel : (numbered m (p.fragments ++ ps.flatMap fun q =>
        .text " AND " :: q.fragments)).length ≤ (numbered m (p.fragments ++ ps.flatMap fun q =>
        .text " AND " :: q.fragments) ++ more).length := by simp
    obtain ⟨tss, heq, hread⟩ := numbered_conditions p ps hfuel hbound
    rw [heq] at hread ⊢
    exact readSeparated_intercalate hread (by simp) hand (by rw [List.length_append]; omega)

theorem readColumn_word (c : Column) (more : List Token) :
    readColumn (.word c.text.toList :: more) = some (c, more) := by
  rw [readColumn, c.ofName?_text]
  rfl

theorem readProjection_text (p : Projection) (more : List Token) :
    readProjection (tokens (Select.projectionText p).toList ++ keyword "FROM" :: more) =
      some (p, keyword "FROM" :: more) := by
  cases p with
  | count => rfl
  | rows =>
    have htokens : tokens columnList.toList =
        [.sign ','].intercalate (Column.all.map fun c => [.word c.text.toList]) := by
      rw [columnList, tokens_intercalate, List.map_map]
      congr 1
    have hread : List.Forall₂ (fun a ts => ∀ more, readColumn (ts ++ more) = some (a, more))
        Column.all (Column.all.map fun c => [.word c.text.toList]) :=
      List.forall₂_map_right_iff.mpr (List.forall₂_same.mpr fun c _ => readColumn_word c)
    have hcount : ∀ ts : List Token, skip (keyword "COUNT") (tokens columnList.toList ++ ts) =
        none := by
      intro ts
      rw [htokens]
      rfl
    rw [Select.projectionText, readProjection, hcount, htokens]
    simp only
    rw [readSeparated_intercalate hread (by decide) rfl (by rw [List.length_append]; omega)]
    rfl

theorem readDirection_sql (d : Direction) : readDirection d.sql.toList = some d := by
  cases d <;> decide

theorem tokens_sql (d : Direction) : tokens (" " ++ d.sql).toList = [.word d.sql.toList] := by
  cases d <;> decide

theorem readKey_words (k : Column × Direction) (more : List Token) :
    readKey (.word k.1.text.toList :: .word k.2.sql.toList :: more) = some (k, more) := by
  rw [readKey, k.1.ofName?_text, readDirection_sql]
  rfl

theorem tokens_key (k : Column × Direction) :
    tokens (k.1.text ++ " " ++ k.2.sql).toList = [.word k.1.text.toList, .word k.2.sql.toList] := by
  have hopens : Opens (" " ++ k.2.sql).toList := by
    rw [String.toList_append]
    exact opens_cons (c := ' ') rfl _
  rw [String.append_assoc, k.1.tokens_text_append hopens, tokens_sql]

theorem tokens_orderText (order : List (Column × Direction)) :
    tokens (Select.orderText order).toList = keyword "ORDER" :: keyword "BY" ::
      [.sign ','].intercalate (order.map fun k =>
        [.word k.1.text.toList, .word k.2.sql.toList]) := by
  have hclosed (b : List Char) : tokens (" ORDER BY ".toList ++ b) =
      keyword "ORDER" :: keyword "BY" :: tokens b :=
    tokens_append_of_closed (c := ' ') rfl " ORDER BY".toList b
  rw [Select.orderText, String.toList_append, hclosed, tokens_intercalate, List.map_map]
  congr 4
  funext k
  exact tokens_key k

/-- The pieces of an order, of which there are none where there is no order. -/
def orderFragments (order : List (Column × Direction)) : List Fragment :=
  if order.isEmpty then [] else [.text (Select.orderText order)]

theorem readOrder_fragments (order : List (Column × Direction)) {m : Nat} {more : List Token}
    (hcomma : skip (.sign ',') more = none) (horder : skip (keyword "ORDER") more = none) :
    readOrder (numbered m (orderFragments order) ++ more) = some (order, more) := by
  cases order with
  | nil =>
    rw [orderFragments, List.isEmpty_nil, if_pos rfl, numbered, List.nil_append, readOrder, horder]
  | cons k ks =>
    have hread : List.Forall₂ (fun a ts => ∀ more, readKey (ts ++ more) = some (a, more)) (k :: ks)
        ((k :: ks).map fun k => [.word k.1.text.toList, .word k.2.sql.toList]) :=
      List.forall₂_map_right_iff.mpr (List.forall₂_same.mpr fun k _ => readKey_words k)
    rw [orderFragments, List.isEmpty_cons, if_neg (by simp), numbered, numbered, List.append_nil,
      tokens_orderText]
    simp only [List.cons_append, readOrder, skip_self, Option.bind_eq_bind, Option.bind_some]
    exact readSeparated_intercalate hread (by simp) hcomma (by rw [List.length_append]; omega)

/-- The pieces of a limit, of which there are none where there is no limit. -/
def limitFragments : Option Nat → List Fragment
  | some n => [.text " LIMIT ", .arg (.int n)]
  | none => []

theorem readLimit_fragments (limit : Option Nat) {m : Nat}
    (hbound : Bound args m (limitFragments limit)) :
    readLimit args (numbered m (limitFragments limit)) = some limit := by
  cases limit with
  | none => rfl
  | some n =>
    have hplace := place?_placeholder (bound_arg (bound_text.mp hbound)).1
    show readLimit args [keyword "LIMIT", .word (placeholder m)] = _
    simp only [readLimit, keyword, if_true, hplace]

theorem skip_limit {t : Token} (h : t ≠ keyword "LIMIT") (limit : Option Nat) (m : Nat) :
    skip t (numbered m (limitFragments limit)) = none := by
  cases limit with
  | none => rfl
  | some n => exact if_neg h.symm

theorem skip_order {t : Token} (hlimit : t ≠ keyword "LIMIT") (horder : t ≠ keyword "ORDER")
    (order : List (Column × Direction)) (limit : Option Nat) (m n : Nat) :
    skip t (numbered m (orderFragments order) ++ numbered n (limitFragments limit)) = none := by
  cases order with
  | nil => exact skip_limit hlimit limit n
  | cons k ks =>
    rw [orderFragments, List.isEmpty_cons, if_neg (by simp), numbered, numbered, List.append_nil,
      tokens_orderText]
    exact if_neg horder.symm

theorem Select.fragments_eq (s : Select) : s.fragments =
    .text ("SELECT " ++ projectionText s.projection ++ " FROM conversations") ::
      (Condition.whereAll s.conditions ++ (orderFragments s.order ++ limitFragments s.limit)) := by
  rw [Select.fragments, List.append_assoc]
  rfl

theorem Select.isChain_fragments (s : Select) : s.fragments.IsChain Apart := by
  have horder : (orderFragments s.order).IsChain Apart ∧
      ∀ g ∈ (orderFragments s.order).head?, g.opens = true := by
    unfold orderFragments
    split
    · exact ⟨.nil, by simp⟩
    · refine ⟨.singleton _, ?_⟩
      intro g hg
      cases hg
      simp [opens, Select.orderText, isWordChar]
  have hlimit : (limitFragments s.limit).IsChain Apart ∧
      ∀ g ∈ (limitFragments s.limit).head?, g.opens = true := by
    unfold limitFragments
    split
    · refine ⟨isChain_cons (.singleton _) rfl, ?_⟩
      intro g hg
      cases hg
      rfl
    · exact ⟨.nil, by simp⟩
  have hwhere : (.text ("SELECT " ++ projectionText s.projection ++ " FROM conversations") ::
      Condition.whereAll s.conditions).IsChain Apart :=
    isChain_append (.singleton _) (Condition.isChain_whereAll s.conditions)
      (Condition.opens_whereAll s.conditions)
  exact isChain_append (isChain_append hwhere horder.1 horder.2) hlimit.1 hlimit.2

theorem tokens_select (p : Projection) :
    tokens ("SELECT " ++ Select.projectionText p ++ " FROM conversations").toList =
      keyword "SELECT" :: (tokens (Select.projectionText p).toList ++
        [keyword "FROM", keyword "conversations"]) := by
  have hselect (b : List Char) : tokens ("SELECT ".toList ++ b) = keyword "SELECT" :: tokens b :=
    tokens_append_of_closed (c := ' ') rfl "SELECT".toList b
  have hfrom : Opens " FROM conversations".toList := opens_cons (c := ' ') rfl _
  rw [String.toList_append, String.toList_append, List.append_assoc, hselect, tokens_append hfrom]
  rfl

theorem readSelect_fragments (s : Select) (hbound : Bound args 0 s.fragments) :
    readSelect args (numbered 0 s.fragments) = some s := by
  rw [s.fragments_eq] at hbound ⊢
  obtain ⟨hwhere, hrest⟩ := bound_append.mp (bound_text.mp hbound)
  have hlimit := (bound_append.mp hrest).2
  have hand := skip_order (t := keyword "AND") (by decide) (by decide) s.order s.limit
  have hkey := skip_order (t := keyword "WHERE") (by decide) (by decide) s.order s.limit
  have hcomma := skip_limit (t := .sign ',') (by simp [keyword]) s.limit
  have horder := skip_limit (t := keyword "ORDER") (by decide) s.limit
  rw [numbered, numbered_append, numbered_append, tokens_select]
  simp only [readSelect, List.cons_append, List.append_assoc, List.nil_append, skip_self,
    readProjection_text, Option.bind_eq_bind, Option.bind_some,
    readWhere_fragments _ (hand _ _) (hkey _ _) hwhere,
    readOrder_fragments _ (hcomma _) (horder _), readLimit_fragments _ hlimit]
  rfl

/-- The statement of a selection reads as that selection. -/
theorem select?_ofFragments (s : Select) :
    (Prepared.ofFragments s.fragments).select? = some s := by
  have htokens : tokens (Prepared.ofFragments s.fragments).sql.toList = numbered 0 s.fragments :=
    tokens_chars s.isChain_fragments 0
  rw [Prepared.select?, htokens]
  exact readSelect_fragments s (List.prefix_refl _)

end Parley.Store
