import Parley.Conversation.ListQuery
import Parley.Proofs.Text.FormData
import Parley.Proofs.Text.Numeral

/-!
# Queries of listings

Each of the four fields of a query is read by itself, from the only value under its name. So the
order of the pairs does not matter, and pairs with other names may come and go. A sort order is
one of two names, perhaps behind a minus sign, between blanks.

* `ListQuery.ofPairs?_eq`: the fields are read one by one.
* `ListQuery.parse?_congr`: what the order of the pairs and the unknown ones do not change.
* `ListQuery.parse?_of_rendered`: what is written in any way that form data allows is read back.
* `parseSort_eq_ok_iff`: the texts that a sort order is read from.
-/
namespace Parley.Conversation

namespace ListQuery

variable {α : Type} {q : ListQuery}

/-! ## Fields by themselves -/

def valuesOf (name : String) (pairs : List (String × String)) : List String :=
  (pairs.filter fun p => p.1 == name).map Prod.snd

/-- What is stated by the values under one name: nothing, or what the only value reads as. -/
def only? (read : String → Option α) : List String → Option (Option α)
  | [] => some none
  | [value] => (read value).map some
  | _ => none

/-- What a field is once a pair is taken into account: the value is read if the name is that of
the field, for which there must be none yet. -/
def feed (read : String → Option α) (field name value : String) (a : Option α) :
    Option (Option α) :=
  if name = field then if a.isSome then none else (read value).map some else some a

/-- The query with these fields, if each can be read. -/
def assemble (lastId : Option (Option Uuid)) (limit : Option (Option Nat))
    (sortBy : Option (Option String)) (pinned : Option (Option Bool)) : Option ListQuery := do
  return ⟨← lastId, ← limit, ← sortBy, ← pinned⟩

def readLimit? (value : String) : Option Nat :=
  Decimal.readNat? Decimal.max64 value.toList

theorem only?_concat (read : String → Option α) (values : List String) (value : String) :
    only? read (values ++ [value]) =
      (only? read values).bind fun a => if a.isSome then none else (read value).map some := by
  match values with
  | [] => rfl
  | [first] =>
    rw [only?]
    cases read first <;> rfl
  | _ :: _ :: _ => rfl

theorem only?_valuesOf_concat (read : String → Option α) (field name value : String)
    (pairs : List (String × String)) : only? read (valuesOf field (pairs ++ [(name, value)])) =
      (only? read (valuesOf field pairs)).bind (feed read field name value) := by
  unfold feed valuesOf
  by_cases hname : name = field
  · simp [hname, only?_concat]
  · simp [hname]

theorem take?_eq (q : ListQuery) (name value : String) : q.take? name value =
    assemble (feed Uuid.parse? "last_id" name value q.lastId)
      (feed readLimit? "limit" name value q.limit) (feed some "sort_by" name value q.sortBy)
      (feed readBool? "pinned" name value q.pinned) := by
  by_cases hlastId : name = "last_id"
  · cases hread : Uuid.parse? value <;> cases hstated : q.lastId.isSome <;>
      simp [take?, feed, assemble, hlastId, hread, hstated]
  by_cases hlimit : name = "limit"
  · cases hread : readLimit? value <;> cases hstated : q.limit.isSome <;>
      simp_all [take?, feed, assemble, readLimit?]
  by_cases hsortBy : name = "sort_by"
  · cases hstated : q.sortBy.isSome <;> simp [take?, feed, assemble, hsortBy, hstated]
  by_cases hpinned : name = "pinned"
  · cases hread : readBool? value <;> cases hstated : q.pinned.isSome <;>
      simp [take?, feed, assemble, hpinned, hread, hstated]
  · simp [take?, feed, assemble, hlastId, hlimit, hsortBy, hpinned]

theorem assemble_bind (lastId : Option (Option Uuid)) (limit : Option (Option Nat))
    (sortBy : Option (Option String)) (pinned : Option (Option Bool))
    (f : Option Uuid → Option (Option Uuid)) (g : Option Nat → Option (Option Nat))
    (h : Option String → Option (Option String)) (k : Option Bool → Option (Option Bool)) :
    ((assemble lastId limit sortBy pinned).bind fun q =>
      assemble (f q.lastId) (g q.limit) (h q.sortBy) (k q.pinned)) =
      assemble (lastId.bind f) (limit.bind g) (sortBy.bind h) (pinned.bind k) := by
  cases lastId <;> cases limit <;> cases sortBy <;> cases pinned <;> simp [assemble]

/-- Each field is read by itself, from the only value under its name. -/
theorem ofPairs?_eq (pairs : List (String × String)) : ofPairs? pairs =
    assemble (only? Uuid.parse? (valuesOf "last_id" pairs))
      (only? readLimit? (valuesOf "limit" pairs)) (only? some (valuesOf "sort_by" pairs))
      (only? readBool? (valuesOf "pinned" pairs)) := by
  induction pairs using List.reverseRecOn with
  | nil => rfl
  | append_singleton pairs p ih =>
    obtain ⟨name, value⟩ := p
    have hconcat : ofPairs? (pairs ++ [(name, value)]) =
        (ofPairs? pairs).bind fun q => q.take? name value := by
      rw [ofPairs?, List.foldlM_append]
      simp only [List.foldlM_cons, List.foldlM_nil, bind_pure]
      rfl
    rw [hconcat, ih]
    simp only [take?_eq, assemble_bind, only?_valuesOf_concat]

theorem assemble_eq_some_iff {lastId : Option (Option Uuid)} {limit : Option (Option Nat)}
    {sortBy : Option (Option String)} {pinned : Option (Option Bool)} :
    assemble lastId limit sortBy pinned = some q ↔ lastId = some q.lastId ∧
      limit = some q.limit ∧ sortBy = some q.sortBy ∧ pinned = some q.pinned := by
  obtain ⟨⟩ := q
  cases lastId <;> cases limit <;> cases sortBy <;> cases pinned <;> simp [assemble]

/-! ## Pieces -/

/-- The names that are known. -/
def names : List String := ["last_id", "limit", "sort_by", "pinned"]

/-- The pieces of a query. -/
def pieces (query : List Char) : List (List Char) :=
  Text.splitWhere (· == '&') query

def pairsOf (ps : List (List Char)) : List (String × String) :=
  ps.flatMap fun piece => Percent.formPairs (Utf8.encode piece)

/-- Whether a piece has a known name. -/
def isKnown (piece : List Char) : Bool :=
  (pairsOf [piece]).any fun p => names.contains p.1

theorem parse?_eq (query : List Char) : parse? query = ofPairs? (pairsOf (pieces query)) := by
  rw [parse?, Percent.formPairs_encode]
  rfl

theorem valuesOf_append (name : String) (pairs pairs' : List (String × String)) :
    valuesOf name (pairs ++ pairs') = valuesOf name pairs ++ valuesOf name pairs' := by
  simp [valuesOf]

theorem pairsOf_append (ps ps' : List (List Char)) :
    pairsOf (ps ++ ps') = pairsOf ps ++ pairsOf ps' :=
  List.flatMap_append

theorem pairsOf_cons (piece : List Char) (ps : List (List Char)) :
    pairsOf (piece :: ps) = pairsOf [piece] ++ pairsOf ps := by
  rw [← List.singleton_append, pairsOf_append]

theorem valuesOf_pairsOf_of_not_isKnown {name : String} (hname : name ∈ names)
    {piece : List Char} (h : isKnown piece = false) : valuesOf name (pairsOf [piece]) = [] := by
  rw [isKnown, List.any_eq_false] at h
  rw [valuesOf, List.map_eq_nil_iff, List.filter_eq_nil_iff]
  intro p hp heq
  rw [beq_iff_eq] at heq
  exact h p hp (by simpa [heq] using hname)

/-- Under a known name stand only values of pieces with a known name. -/
theorem valuesOf_pairsOf_filter {name : String} (hname : name ∈ names) (ps : List (List Char)) :
    valuesOf name (pairsOf (ps.filter isKnown)) = valuesOf name (pairsOf ps) := by
  induction ps with
  | nil => rfl
  | cons piece ps ih =>
    rw [pairsOf_cons, valuesOf_append, ← ih]
    cases hknown : isKnown piece with
    | true => rw [List.filter_cons_of_pos hknown, pairsOf_cons, valuesOf_append]
    | false =>
      rw [List.filter_cons_of_neg (by simp [hknown]),
        valuesOf_pairsOf_of_not_isKnown hname hknown, List.nil_append]

theorem valuesOf_pairsOf_eq_nil {name : String} (hname : name ∈ names) {ps : List (List Char)}
    (h : ∀ piece ∈ ps, isKnown piece = false) : valuesOf name (pairsOf ps) = [] := by
  have hfilter : ps.filter isKnown = [] := List.filter_eq_nil_iff.mpr (by simpa using h)
  rw [← valuesOf_pairsOf_filter hname, hfilter]
  rfl

theorem only?_eq_none (read : String → Option α) {values : List String}
    (h : 2 ≤ values.length) : only? read values = none := by
  match values, h with
  | _ :: _ :: _, _ => rfl

/-- The order of values does not matter: where it could, there are too many of them. -/
theorem only?_perm (read : String → Option α) {values values' : List String}
    (h : values.Perm values') : only? read values = only? read values' := by
  match values with
  | [] => rw [List.nil_perm.mp h]
  | [value] => rw [List.singleton_perm.mp h]
  | a :: b :: rest =>
    have hlength : 2 ≤ (a :: b :: rest).length := by simp
    rw [only?_eq_none read hlength, only?_eq_none read (h.length_eq ▸ hlength)]

theorem only?_eq_some_of_mem {read : String → Option α} {values : List String} {a : Option α}
    {value : String} (h : only? read values = some a) (hvalue : value ∈ values) :
    read value = a := by
  match values with
  | [first] =>
    rw [List.mem_singleton.mp hvalue]
    obtain ⟨b, hb, rfl⟩ := Option.map_eq_some_iff.mp h
    exact hb
  | _ :: _ :: _ => cases h

theorem sortBy_of_mem {query : List Char} {value : String} (h : parse? query = some q)
    (hvalue : ("sort_by", value) ∈ Percent.formPairs (Utf8.encode query)) :
    q.sortBy = some value := by
  rw [parse?, ofPairs?_eq, assemble_eq_some_iff] at h
  have hmem : value ∈ valuesOf "sort_by" (Percent.formPairs (Utf8.encode query)) :=
    List.mem_map_of_mem (List.mem_filter.mpr ⟨hvalue, rfl⟩)
  exact (only?_eq_some_of_mem h.2.2.1 hmem).symm

theorem valuesOf_pairsOf_perm (name : String) {ps ps' : List (List Char)} (h : ps.Perm ps') :
    (valuesOf name (pairsOf ps)).Perm (valuesOf name (pairsOf ps')) :=
  ((h.flatMap_right _).filter _).map _

/-- Pieces may be put in another order, and those with an unknown name may come and go. -/
theorem parse?_congr {query query' : List Char}
    (h : ((pieces query).filter isKnown).Perm ((pieces query').filter isKnown)) :
    parse? query = parse? query' := by
  have hvalues (name : String) (hname : name ∈ names) :
      (valuesOf name (pairsOf (pieces query))).Perm (valuesOf name (pairsOf (pieces query'))) := by
    rw [← valuesOf_pairsOf_filter hname (pieces query),
      ← valuesOf_pairsOf_filter hname (pieces query')]
    exact valuesOf_pairsOf_perm name h
  rw [parse?_eq, parse?_eq, ofPairs?_eq, ofPairs?_eq, only?_perm _ (hvalues "last_id" (by decide)),
    only?_perm _ (hvalues "limit" (by decide)), only?_perm _ (hvalues "sort_by" (by decide)),
    only?_perm _ (hvalues "pinned" (by decide))]

/-! ## Writing -/

/-- A field is stated by one piece, with its name and a text for its value written in any way that
form data allows, or by none if there is nothing to state. -/
inductive StatedBy (name : String) (text : α → List Char → Prop) :
    Option α → List (List Char) → Prop
  | absent : StatedBy name text none []
  | present {a : α} {value ns vs : List Char} (text_value : text a value)
    (name_written : Percent.Written name.toList ns) (value_written : Percent.Written value vs) :
    StatedBy name text (some a) [ns ++ '=' :: vs]

/-- The pieces of the query state the fields, in any order and with any pieces of unknown names
between them. -/
inductive Rendered (q : ListQuery) (query : List Char) : Prop
  | mk {lastId limit sortBy pinned others : List (List Char)}
    (lastId_by : StatedBy "last_id" Uuid.Spelled q.lastId lastId)
    (limit_by : StatedBy "limit" (fun n cs => Decimal.Unsigned Decimal.max64 cs n) q.limit limit)
    (sortBy_by : StatedBy "sort_by" (fun s cs => cs = s.toList) q.sortBy sortBy)
    (pinned_by : StatedBy "pinned" (fun b cs => cs = (cond b "true" "false").toList)
      q.pinned pinned)
    (unknown : ∀ piece ∈ others, isKnown piece = false)
    (order : (pieces query).Perm (lastId ++ limit ++ sortBy ++ pinned ++ others))

section

variable {name : String} {text : α → List Char → Prop} {a : Option α} {ps : List (List Char)}

theorem exists_values_of_statedBy (h : StatedBy name text a ps) :
    ∃ values, pairsOf ps = values.map (name, ·) ∧ (a = none ∧ values = [] ∨
      ∃ b value, a = some b ∧ text b value ∧ values = [String.ofList value]) := by
  cases h with
  | absent => exact ⟨[], rfl, .inl ⟨rfl, rfl⟩⟩
  | @present b value _ _ text_value name_written value_written =>
    refine ⟨[String.ofList value], ?_, .inr ⟨b, value, rfl, text_value, rfl⟩⟩
    rw [pairsOf, List.flatMap_singleton, Percent.formPairs_of_written name_written value_written,
      String.ofList_toList]
    rfl

theorem only?_of_statedBy (h : StatedBy name text a ps) (read : String → Option α)
    (hread : ∀ b value, text b value → read (String.ofList value) = some b) :
    only? read (valuesOf name (pairsOf ps)) = some a := by
  obtain ⟨values, hpairs, ⟨rfl, rfl⟩ | ⟨b, value, rfl, htext, rfl⟩⟩ := exists_values_of_statedBy h
  · rw [hpairs]
    rfl
  · simp [hpairs, valuesOf, only?, hread b value htext]

theorem valuesOf_of_statedBy (h : StatedBy name text a ps) {other : String} (hne : name ≠ other) :
    valuesOf other (pairsOf ps) = [] := by
  obtain ⟨values, hpairs, -⟩ := exists_values_of_statedBy h
  simp [hpairs, valuesOf, hne]

end

theorem readBool?_cond (b : Bool) : readBool? (cond b "true" "false") = some b := by
  cases b <;> rfl

/-- What is stated is read, in whatever order it stands and however it is written. -/
theorem parse?_of_rendered {query : List Char} (h : Rendered q query) : parse? query = some q := by
  obtain ⟨hlastId, hlimit, hsortBy, hpinned, hunknown, horder⟩ := h
  have hlastId? := only?_of_statedBy hlastId Uuid.parse? fun u cs h => by
    rwa [Uuid.parse?_eq_some_iff, String.toList_ofList]
  have hlimit? := only?_of_statedBy hlimit readLimit? fun n cs h => by
    rwa [readLimit?, Decimal.readNat?_eq_some_iff, String.toList_ofList]
  have hsortBy? := only?_of_statedBy hsortBy some fun s cs h => by
    rw [h, String.ofList_toList]
  have hpinned? := only?_of_statedBy hpinned readBool? fun b cs h => by
    rw [h, String.ofList_toList, readBool?_cond]
  rw [parse?_eq, ofPairs?_eq, assemble_eq_some_iff,
    only?_perm _ (valuesOf_pairsOf_perm "last_id" horder),
    only?_perm _ (valuesOf_pairsOf_perm "limit" horder),
    only?_perm _ (valuesOf_pairsOf_perm "sort_by" horder),
    only?_perm _ (valuesOf_pairsOf_perm "pinned" horder)]
  simp only [pairsOf_append, valuesOf_append]
  -- under each name stand only the values of its own piece
  refine ⟨?_, ?_, ?_, ?_⟩
  · rw [valuesOf_of_statedBy hlimit (by decide), valuesOf_of_statedBy hsortBy (by decide),
      valuesOf_of_statedBy hpinned (by decide), valuesOf_pairsOf_eq_nil (by decide) hunknown]
    simpa only [List.append_nil] using hlastId?
  · rw [valuesOf_of_statedBy hlastId (by decide), valuesOf_of_statedBy hsortBy (by decide),
      valuesOf_of_statedBy hpinned (by decide), valuesOf_pairsOf_eq_nil (by decide) hunknown]
    simpa only [List.append_nil, List.nil_append] using hlimit?
  · rw [valuesOf_of_statedBy hlastId (by decide), valuesOf_of_statedBy hlimit (by decide),
      valuesOf_of_statedBy hpinned (by decide), valuesOf_pairsOf_eq_nil (by decide) hunknown]
    simpa only [List.append_nil, List.nil_append] using hsortBy?
  · rw [valuesOf_of_statedBy hlastId (by decide), valuesOf_of_statedBy hlimit (by decide),
      valuesOf_of_statedBy hsortBy (by decide), valuesOf_pairsOf_eq_nil (by decide) hunknown]
    simpa only [List.append_nil, List.nil_append] using hpinned?

end ListQuery

/-! ## Sort orders -/

/-- The name of the field, behind a minus sign if the order is descending. -/
def sortText : SortOrder SortField → List Char
  | ⟨field, .asc⟩ => field.column.toList
  | ⟨field, .desc⟩ => '-' :: field.column.toList

theorem SortField.ofName?_eq_some_iff {s : String} {field : SortField} :
    SortField.ofName? s = some field ↔ s = field.column := by
  unfold SortField.ofName?
  split
  · next h => cases field <;> simp [h, SortField.column]
  split
  · next h => cases field <;> simp [h, SortField.column]
  · next h h' => cases field <;> simp [h, h', SortField.column]

theorem eq_toList_column_of_ofName? {name : List Char} {field : SortField}
    (h : SortField.ofName? (String.ofList name) = some field) : name = field.column.toList := by
  rw [← SortField.ofName?_eq_some_iff.mp h, String.toList_ofList]

/-- A sort order is read from its text between blanks, and from nothing else. -/
theorem parseSort_eq_ok_iff {raw : String} {sort : SortOrder SortField} :
    parseSort raw = .ok sort ↔ Text.trimChars raw.toList = sortText sort := by
  unfold parseSort SortOrder.parse
  constructor
  · intro h
    split at h
    next direction name hname =>
    split at h
    · next field hfield =>
      obtain rfl := Except.ok.inj h
      split at hname <;> obtain ⟨rfl, rfl⟩ := Prod.mk.inj hname
      · next hminus => rw [hminus, sortText, eq_toList_column_of_ofName? hfield]
      · rw [sortText, ← eq_toList_column_of_ofName? hfield]
    · cases h
  · intro h
    rw [h]
    obtain ⟨field, direction⟩ := sort
    cases field <;> cases direction <;> rfl

theorem not_blank_of_mem_sortText {sort : SortOrder SortField} {c : Char} (h : c ∈ sortText sort) :
    Text.isBlank c = false := by
  have hall : (sortText sort).all (fun c => !Text.isBlank c) = true := by
    obtain ⟨field, direction⟩ := sort
    cases field <;> cases direction <;> decide
  simpa using List.all_eq_true.mp hall c h

theorem sortText_mem (sort : SortOrder SortField) : String.ofList (sortText sort) ∈
    ["created_at", "-created_at", "updated_at", "-updated_at"] := by
  obtain ⟨field, direction⟩ := sort
  cases field <;> cases direction <;> decide

/-- A sort order between blanks. -/
def SpellsSort (raw : String) (sort : SortOrder SortField) : Prop :=
  ∃ before after, (∀ c ∈ before, Text.isBlank c = true) ∧ (∀ c ∈ after, Text.isBlank c = true) ∧
    raw.toList = before ++ sortText sort ++ after

theorem parseSort_of_spells {raw : String} {sort : SortOrder SortField}
    (h : SpellsSort raw sort) : parseSort raw = .ok sort := by
  obtain ⟨before, after, hbefore, hafter, hraw⟩ := h
  rw [parseSort_eq_ok_iff, hraw]
  exact Text.trimChars_padded hbefore (fun _ => not_blank_of_mem_sortText) hafter

end Parley.Conversation
