import Parley.Proofs.Store.Reading
import Parley.Store.Statement

/-!
# Placeholders, and texts without data

A dollar sign in the text of a statement stands for an argument, whose number is written
behind it. The text is made of pieces, between which the placeholders are numbered from
left to right; the pieces are fixed and hold no dollar sign.

* `placeholders_chars`: the placeholders of such pieces are numbered one by one.
* `perm_placeholders`: in the text of every statement each argument has one placeholder,
  and there are no others.
* `Statement.blank`, `sql_blank`: a statement whose data is wiped out has the same text. All
  that is left of it is which statement it is, which filters and boundaries it has, and its
  order.
-/
namespace Parley.Store

/-! ## Placeholders -/

/-- The numbers that stand behind the dollar signs of a text, and `0` where none does. -/
def placeholders : List Char → List Nat
  | [] => []
  | c :: cs =>
    if c = '$' then (Decimal.value? (cs.takeWhile Char.isDigit)).getD 0 :: placeholders cs
    else placeholders cs

theorem placeholders_append {cs : List Char} (h : '$' ∉ cs) (more : List Char) :
    placeholders (cs ++ more) = placeholders more := by
  induction cs with
  | nil => rfl
  | cons c cs ih =>
    have hc : c ≠ '$' := fun hc => h (by simp [hc])
    rw [List.cons_append, placeholders, if_neg hc]
    exact ih fun hcs => h (by simp [hcs])

theorem placeholders_placeholder {more : List Char} (h : ∀ c ∈ more.head?, c.isDigit = false)
    (m : Nat) : placeholders (placeholder m ++ more) = (m + 1) :: placeholders more := by
  have hdigits : ∀ c ∈ (Decimal.ofNat (m + 1)).toList, c.isDigit = true :=
    fun c hc => Decimal.isDigit_of_mem_ofNat hc
  have hdollar : '$' ∉ (Decimal.ofNat (m + 1)).toList := by
    intro hc
    have hdigit := hdigits _ hc
    simp [Char.isDigit] at hdigit
  have hmore : more.takeWhile Char.isDigit = [] := by
    cases more with
    | nil => rfl
    | cons c cs => rw [List.takeWhile_cons, h c rfl, if_neg (by simp)]
  rw [placeholder, List.cons_append, placeholders, if_pos rfl, placeholders_append hdollar,
    List.takeWhile_append_of_pos hdigits, hmore, List.append_nil, Decimal.value?_ofNat]
  rfl

theorem placeholders_of_ofList {s : String} {cs : List Char} {ns : List Nat} (h : s = .ofList cs)
    (hcs : placeholders cs = ns) : placeholders s.toList = ns := by
  rw [h, String.toList_ofList, hcs]

namespace Fragment

/-- The piece holds no dollar sign of its own. -/
def isPlain : Fragment → Bool
  | text s => s.toList.all (· != '$')
  | arg _ => true

theorem head?_chars {g : Fragment} (h : g.opens = true) (gs : List Fragment) (m : Nat) :
    ∀ c ∈ (chars m (g :: gs)).head?, c.isDigit = false := by
  cases g with
  | arg a => cases h
  | text s =>
    unfold opens at h
    rw [chars_text]
    cases hs : s.toList with
    | nil => simp [hs] at h
    | cons d ds =>
      rintro c ⟨⟩
      simp only [hs, List.head?_cons, Option.any_some, isWordChar, Char.isAlphanum,
        Bool.not_eq_true', Bool.or_eq_false_iff] at h
      exact h.1.1.2

/-- The placeholders of pieces that are plain and stand apart are numbered one by one. -/
theorem placeholders_chars {fs : List Fragment} (hplain : fs.all isPlain = true)
    (hapart : fs.IsChain Apart) (m : Nat) :
    placeholders (chars m fs) = List.range' (m + 1) (args fs).length := by
  induction fs generalizing m with
  | nil => rfl
  | cons f fs ih =>
    rw [List.all_cons, Bool.and_eq_true] at hplain
    have hrest := ih hplain.2 hapart.tail
    cases f with
    | text s =>
      have hs : '$' ∉ s.toList := by
        have hs := hplain.1
        simp only [isPlain, List.all_eq_true, bne_iff_ne, ne_eq] at hs
        exact fun hc => hs _ hc rfl
      rw [chars_text, placeholders_append hs, hrest m, args_text]
    | arg a =>
      have hhead : ∀ c ∈ (chars (m + 1) fs).head?, c.isDigit = false := by
        cases fs with
        | nil => simp
        | cons g gs =>
          have hopens : g.opens = true :=
            (List.isChain_cons_cons.mp hapart).1.resolve_left (by simp [closes])
          exact head?_chars hopens gs (m + 1)
      rw [chars_arg, placeholders_placeholder hhead, hrest (m + 1), args_arg, List.length_cons,
        List.range'_succ]

theorem isPlain_append (s t : String) :
    (text (s ++ t)).isPlain = ((text s).isPlain && (text t).isPlain) := by
  simp only [isPlain, String.toList_append, List.all_append]

theorem isPlain_intercalate {sep : String} (hsep : (text sep).isPlain = true) (ss : List String)
    (hss : ∀ s ∈ ss, (text s).isPlain = true) : (text (sep.intercalate ss)).isPlain = true := by
  induction ss with
  | nil => rfl
  | cons s ss ih =>
    have hrest := ih fun t ht => hss t (by simp [ht])
    cases ss with
    | nil => simpa using hss s (by simp)
    | cons t ss =>
      rw [String.intercalate_cons_cons, isPlain_append, isPlain_append, hss s (by simp), hsep,
        hrest]
      rfl

/-- The pieces are plain, and no word runs on from one into the next. -/
structure WellCut (fs : List Fragment) : Prop where
  plain : fs.all isPlain = true
  apart : fs.IsChain Apart

namespace WellCut

variable {fs gs : List Fragment} {s : String} {cs : List Char}

theorem append (hfs : WellCut fs) (hgs : WellCut gs) (h : ∀ g ∈ gs.head?, g.opens = true) :
    WellCut (fs ++ gs) where
  plain := by rw [List.all_append, hfs.plain, hgs.plain]; rfl
  apart := isChain_append hfs.apart hgs.apart h

/-! The texts of the fixed pieces are looked at as lists of characters. -/

theorem singleton_text (h : s = .ofList cs) (hplain : cs.all (· != '$') = true) :
    WellCut [text s] := by
  refine ⟨?_, .singleton _⟩
  rw [h, List.all_cons, isPlain, String.toList_ofList, hplain]
  rfl

theorem singleton_arg (a : Arg) : WellCut [arg a] :=
  ⟨rfl, .singleton _⟩

theorem text (h : s = .ofList cs) (hplain : cs.all (· != '$') = true)
    (hcloses : (cs.getLast?.any fun c => !isWordChar c) = true) (hfs : WellCut fs) :
    WellCut (.text s :: fs) := by
  refine ⟨?_, isChain_cons hfs.apart ?_⟩
  · rw [List.all_cons, hfs.plain, h, isPlain, String.toList_ofList, hplain]
    rfl
  · rw [closes, h, String.toList_ofList, hcloses]

theorem arg {a : Arg} (h : s = .ofList cs) (hopens : (cs.head?.any fun c => !isWordChar c) = true)
    (hfs : WellCut (.text s :: fs)) : WellCut (.arg a :: .text s :: fs) := by
  refine ⟨hfs.plain, List.isChain_cons_cons.mpr ⟨.inr ?_, hfs.apart⟩⟩
  rw [opens, h, String.toList_ofList, hopens]

end WellCut

end Fragment

open Fragment

theorem ofList_append {s t : String} {cs ds : List Char} (hs : s = .ofList cs)
    (ht : t = .ofList ds) : s ++ t = .ofList (cs ++ ds) := by
  rw [hs, ht, String.ofList_append]

/-! ## Selections -/

theorem isPlain_column (c : Column) : (Fragment.text c.text).isPlain = true := by
  cases c <;> rfl

theorem isPlain_direction (d : Direction) : (Fragment.text d.sql).isPlain = true := by
  cases d <;> rfl

namespace Condition

theorem all_isPlain_fragments (p : Condition) : p.fragments.all isPlain = true := by
  induction p with
  | isFalse c => simp only [fragments, List.all_cons, isPlain_append, isPlain_column]; rfl
  | isNull c => simp only [fragments, List.all_cons, isPlain_append, isPlain_column]; rfl
  | equals c a => simp only [fragments, List.all_cons, isPlain_append, isPlain_column]; rfl
  | notDistinct c a => simp only [fragments, List.all_cons, isPlain_append, isPlain_column]; rfl
  | isAny c ids => simp only [fragments, List.all_cons, isPlain_append, isPlain_column]; rfl
  | past c b =>
    have hoperator : (text b.operator).isPlain = true := by
      unfold Boundary.operator
      cases b.direction <;> rfl
    simp only [fragments, List.all_cons, isPlain_append, isPlain_column, hoperator]
    rfl
  | not p ih => simp only [fragments, List.all_cons, List.cons_append, List.all_append, ih]; rfl
  | or p q ihp ihq =>
    simp only [fragments, List.all_cons, List.cons_append, List.all_append, ihp, ihq]
    rfl

theorem all_isPlain_whereAll (ps : List Condition) : (whereAll ps).all isPlain = true := by
  cases ps with
  | nil => rfl
  | cons p ps =>
    have hand : (text " AND ").isPlain = true := rfl
    have hwhere : (text " WHERE ").isPlain = true := rfl
    simp [whereAll, List.all_flatMap, all_isPlain_fragments, hand, hwhere]

theorem wellCut_whereAll (ps : List Condition) : WellCut (whereAll ps) :=
  ⟨all_isPlain_whereAll ps, isChain_whereAll ps⟩

end Condition

theorem isPlain_columnList : (Fragment.text columnList).isPlain = true := by
  apply isPlain_intercalate rfl
  simp [isPlain_column]

theorem isPlain_orderText (order : List (Column × Direction)) :
    (Fragment.text (Select.orderText order)).isPlain = true := by
  rw [Select.orderText, isPlain_append, isPlain_intercalate rfl]
  · rfl
  · intro key hkey
    obtain ⟨⟨c, d⟩, -, rfl⟩ := List.mem_map.mp hkey
    simp only [isPlain_append, isPlain_column, isPlain_direction]
    rfl

theorem Select.wellCut_fragments (s : Select) : WellCut s.fragments := by
  refine ⟨?_, s.isChain_fragments⟩
  have hprojection : (text (projectionText s.projection)).isPlain = true := by
    cases s.projection with
    | rows => exact isPlain_columnList
    | count => rfl
  have horder : (orderFragments s.order).all isPlain = true := by
    unfold orderFragments
    split
    · rfl
    · rw [List.all_cons, isPlain_orderText]
      rfl
  have hlimit : (limitFragments s.limit).all isPlain = true := by
    cases s.limit <;> rfl
  rw [s.fragments_eq, List.all_cons, isPlain_append, isPlain_append, hprojection,
    List.all_append, List.all_append, Condition.all_isPlain_whereAll, horder, hlimit]
  rfl

/-! ## Statements without data -/

/-- Lists are there or not. -/
def blankFilter (ids : IdFilter) : IdFilter where
  included := ids.included.map fun _ => []
  excluded := ids.excluded.map fun _ => []

/-- A boundary has a direction. -/
def blankQuery (query : PageQuery Conversation.SortField) :
    PageQuery Conversation.SortField where
  ids := blankFilter query.ids
  sort := query.sort
  boundary := query.boundary.map fun b => ⟨0, b.direction⟩

/-- Some scope. -/
def blankScope : Conversation.Scope :=
  ⟨default, .internalUser default, .explore⟩

/-- The piece without an argument, of which the place is left. -/
def Fragment.blank : Fragment → Fragment
  | text s => text s
  | arg _ => arg .null

theorem number_map_blank (n : Nat) (fs : List Fragment) :
    number n (fs.map Fragment.blank) = number n fs := by
  induction fs generalizing n with
  | nil => rfl
  | cons f fs ih => cases f <;> simp only [List.map_cons, Fragment.blank, number, ih]

theorem sql_eq_of_map_blank {fs gs : List Fragment}
    (h : fs.map Fragment.blank = gs.map Fragment.blank) :
    (Prepared.ofFragments fs).sql = (Prepared.ofFragments gs).sql := by
  show number 1 fs = number 1 gs
  rw [← number_map_blank, h, number_map_blank]

namespace Statement

/-- The statement with its data wiped out. -/
def blank : Statement → Statement
  | openTransaction => openTransaction
  | commitTransaction => commitTransaction
  | sessionAccount _ => sessionAccount ""
  | accountByEmail _ => accountByEmail ""
  | tenantCount _ => tenantCount default
  | recordLogin _ _ => recordLogin default none
  | insertSession _ _ _ _ => insertSession "" default none 0
  | insertRefreshToken _ _ _ => insertRefreshToken "" default 0
  | consumeRefreshToken _ => consumeRefreshToken ""
  | deleteSession _ => deleteSession ""
  | appById _ => appById default
  | appForAccount _ _ => appForAccount default default
  | activeSite _ => activeSite ""
  | accountName _ => accountName default
  | linkEndUser _ _ _ _ _ => linkEndUser default default default "" default
  | endUserExists _ => endUserExists default
  | pinned _ _ => pinned default blankScope.principal
  | findInScope _ _ ids => findInScope blankScope default (blankFilter ids)
  | pageInScope _ query _ => pageInScope blankScope (blankQuery query) 0
  | countInScope _ query => countInScope blankScope (blankQuery query)
  | getOwned _ _ _ => getOwned default blankScope.principal default
  | renameOwned _ _ _ _ => renameOwned default blankScope.principal default ""
  | deleteOwned _ _ _ => deleteOwned default blankScope.principal default
  | firstQuestion _ _ => firstQuestion default default
  | setName _ _ => setName default ""

theorem sql_blank (s : Statement) : s.blank.sql = s.sql := by
  cases s with
  | recordLogin account address => rfl
  | linkEndUser account tenant app name session =>
    apply sql_eq_of_map_blank
    simp only [List.map_cons, List.map_nil, Fragment.blank]
  | findInScope scope id ids =>
    obtain ⟨included, excluded⟩ := ids
    cases included <;> cases excluded <;> exact sql_eq_of_map_blank (by rfl)
  | pageInScope scope query limit =>
    obtain ⟨⟨included, excluded⟩, sort, boundary⟩ := query
    cases included <;> cases excluded <;> cases boundary <;> exact sql_eq_of_map_blank (by rfl)
  | countInScope scope query =>
    obtain ⟨⟨included, excluded⟩, sort, boundary⟩ := query
    cases included <;> cases excluded <;> cases boundary <;> exact sql_eq_of_map_blank (by rfl)
  | _ => exact sql_eq_of_map_blank (by rfl)

/-- The pieces of a statement are cut well; one statement is not cut into pieces. -/
theorem wellCut_fragments (s : Statement) :
    (∃ fs, s.prepared = .ofFragments fs ∧ WellCut fs) ∨
      ∃ account address, s = recordLogin account address := by
  cases s with
  | recordLogin account address => exact .inr ⟨account, address, rfl⟩
  | findInScope scope id ids => exact .inl ⟨_, rfl, Select.wellCut_fragments _⟩
  | pageInScope scope query limit => exact .inl ⟨_, rfl, Select.wellCut_fragments _⟩
  | countInScope scope query => exact .inl ⟨_, rfl, Select.wellCut_fragments _⟩
  | getOwned app principal id => exact .inl ⟨_, rfl, Select.wellCut_fragments _⟩
  | renameOwned app principal id name =>
    refine .inl ⟨_, rfl, ?_⟩
    have hset : WellCut [.text "UPDATE conversations SET name = ", .arg (.text name),
        .text ", updated_at = now()"] :=
      .text rfl rfl rfl (.arg rfl rfl (.singleton_text rfl rfl))
    have hreturning : WellCut [.text (" RETURNING " ++ columnList)] := by
      refine ⟨?_, .singleton _⟩
      rw [List.all_cons, isPlain_append, isPlain_columnList]
      rfl
    have hwhere := hset.append (Condition.wellCut_whereAll (ownedById app principal id))
      (Condition.opens_whereAll _)
    apply hwhere.append hreturning
    intro g hg
    cases hg
    simp [opens, isWordChar]
  | deleteOwned app principal id =>
    refine .inl ⟨_, rfl, ?_⟩
    have hset : WellCut [.text "UPDATE conversations SET is_deleted = TRUE, updated_at = now()"] :=
      .singleton_text rfl rfl
    exact hset.append (Condition.wellCut_whereAll (ownedById app principal id))
      (Condition.opens_whereAll (ownedById app principal id))
  | _ =>
    refine .inl ⟨_, rfl, ?_⟩
    repeat' first
      | exact WellCut.singleton_arg _
      | apply WellCut.singleton_text
      | apply WellCut.text
      | apply WellCut.arg
    all_goals first
      | rfl
      | exact ofList_append rfl rfl

/-- In the text of a statement each argument has one placeholder, and there are no others. -/
theorem perm_placeholders (s : Statement) :
    (placeholders s.sql.toList).Perm (List.range' 1 s.args.length) := by
  obtain ⟨fs, hfs, hwell⟩ | ⟨account, address, rfl⟩ := s.wellCut_fragments
  · unfold sql args
    rw [hfs]
    exact .of_eq (placeholders_chars hwell.plain hwell.apart 0)
  · have hnumbers : placeholders (recordLogin account address).sql.toList = [2, 3, 4, 1] :=
      placeholders_of_ofList (ofList_append rfl rfl) (by decide +kernel)
    rw [hnumbers]
    exact of_decide_eq_true rfl

/-- The numbers of the placeholders are those of the arguments. -/
theorem mem_placeholders_iff (s : Statement) (k : Nat) :
    k ∈ placeholders s.sql.toList ↔ 1 ≤ k ∧ k ≤ s.args.length := by
  rw [s.perm_placeholders.mem_iff, List.mem_range'_1]
  omega

end Statement

end Parley.Store
