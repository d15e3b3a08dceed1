import Mathlib.Data.List.Nodup
import Parley.Principal
import Parley.Proofs.Uuid.Spelling

/-!
# Principals in JSON and in columns

A principal is read from its kind and a spelling of its id, whatever else stands in the
object, and is written in one way only. An account and an end user may have the same id, so it
is the source, the two owner ids and the role in front of the id that tell them apart.

* `ofJson?_eq_some_iff`: the values that a principal is read from.
* `json_and_columns_determine`: a principal is read back from every such value, is written as
  its kind and one id, and is settled by its columns and by its text.
-/
namespace Parley

/-- Where the members of an object have different names, each is found by its name. -/
theorem Json.get?_of_mem {members : List (String × Json)} {name : String} {v : Json}
    (hnames : (members.map Prod.fst).Nodup) (h : (name, v) ∈ members) :
    Json.get? name (.obj members) = some v := by
  have hfind : (members.find? fun m => m.1 == name).isSome := by
    rw [List.find?_isSome]
    exact ⟨_, h, beq_self_eq_true name⟩
  obtain ⟨m, hm⟩ := Option.isSome_iff_exists.mp hfind
  have hname : m.1 = name := by simpa using List.find?_some hm
  have hmem := List.mem_of_find?_eq_some hm
  obtain rfl : m = (name, v) := List.inj_on_of_nodup_map hnames hmem h hname
  rw [Json.get?, hm]
  rfl

namespace Principal

variable {p q : Principal} {v : Json} {members : List (String × Json)}

/-! ## Reading -/

/-- The object has a member with the principal's kind and one with a spelling of its id, among
any other members. -/
structure HeldBy (p : Principal) (members : List (String × Json)) : Prop where
  names : (members.map Prod.fst).Nodup
  kind : ("kind", .str p.kind) ∈ members
  id : ∃ s, (p.idName, .str s) ∈ members ∧ Uuid.Spelled p.id s.toList

/-- The values that a principal is read from: an object with its kind and a spelling of its id,
or an array of just the two. -/
inductive Denoted (p : Principal) : Json → Prop
  | object {members : List (String × Json)} {s : String}
    (kind : Json.get? "kind" (.obj members) = some (.str p.kind))
    (id : Json.get? p.idName (.obj members) = some (.str s))
    (spelled : Uuid.Spelled p.id s.toList) : Denoted p (.obj members)
  | array {s : String} (spelled : Uuid.Spelled p.id s.toList) :
    Denoted p (.arr [.str p.kind, .str s])

theorem idOfJson?_eq_some_iff {u : Uuid} :
    idOfJson? v = some u ↔ ∃ s, v = .str s ∧ Uuid.Spelled u s.toList := by
  cases v <;> simp [idOfJson?, Uuid.parse?_eq_some_iff]

theorem ofKind?_eq_some_iff {kind : String} {make : Uuid → Principal} :
    ofKind? kind = some make ↔
      make = internalUser ∧ kind = "internal_user" ∨
        make = externalVisitor ∧ kind = "external_visitor" := by
  unfold ofKind?
  split
  · next h => subst h; simp [eq_comm]
  split
  · next h => subst h; simp [eq_comm]
  · next h h' => simp [h, h']

theorem exists_make (p : Principal) : ∃ make, ofKind? p.kind = some make ∧ make p.id = p ∧
    (make default).idName = p.idName := by
  cases p with
  | internalUser a => exact ⟨internalUser, rfl, rfl, rfl⟩
  | externalVisitor e => exact ⟨externalVisitor, rfl, rfl, rfl⟩

theorem kind_and_id_of_ofKind? {kind : String} {make : Uuid → Principal}
    (h : ofKind? kind = some make) (u : Uuid) :
    (make u).kind = kind ∧ (make u).id = u ∧ (make u).idName = (make default).idName := by
  rcases ofKind?_eq_some_iff.mp h with ⟨rfl, rfl⟩ | ⟨rfl, rfl⟩
  · exact ⟨rfl, rfl, rfl⟩
  · exact ⟨rfl, rfl, rfl⟩

/-- A principal is read from these values, and from no other. -/
theorem ofJson?_eq_some_iff : ofJson? v = some p ↔ Denoted p v := by
  constructor
  · intro h
    unfold ofJson? at h
    split at h
    · next members =>
      obtain ⟨kindValue, hkindValue, h⟩ := Option.bind_eq_some_iff.mp h
      split at h
      · next kind =>
        obtain ⟨make, hmake, h⟩ := Option.bind_eq_some_iff.mp h
        obtain ⟨idValue, hidValue, h⟩ := Option.bind_eq_some_iff.mp h
        obtain ⟨u, hu, rfl⟩ := Option.map_eq_some_iff.mp h
        obtain ⟨s, rfl, hs⟩ := idOfJson?_eq_some_iff.mp hu
        obtain ⟨rfl, hid, hname⟩ := kind_and_id_of_ofKind? hmake u
        exact .object hkindValue (hname ▸ hidValue) (hid.symm ▸ hs)
      · cases h
    · next kind idValue =>
      obtain ⟨make, hmake, h⟩ := Option.bind_eq_some_iff.mp h
      obtain ⟨u, hu, rfl⟩ := Option.map_eq_some_iff.mp h
      obtain ⟨s, rfl, hs⟩ := idOfJson?_eq_some_iff.mp hu
      obtain ⟨rfl, hid, -⟩ := kind_and_id_of_ofKind? hmake u
      exact .array (hid.symm ▸ hs)
    · cases h
  · intro h
    obtain ⟨make, hmake, hp, hname⟩ := p.exists_make
    cases h with
    | object hkind hid hspelled =>
      have hread := idOfJson?_eq_some_iff.mpr ⟨_, rfl, hspelled⟩
      simp [ofJson?, hkind, hmake, hname, hid, hread, hp]
    | array hspelled =>
      have hread := idOfJson?_eq_some_iff.mpr ⟨_, rfl, hspelled⟩
      simp [ofJson?, hmake, hread, hp]

theorem HeldBy.denoted (h : p.HeldBy members) : Denoted p (.obj members) := by
  obtain ⟨s, hmem, hspelled⟩ := h.id
  exact .object (Json.get?_of_mem h.names h.kind) (Json.get?_of_mem h.names hmem) hspelled

/-! ## Writing -/

/-- What is written holds the principal, and nothing else. -/
theorem heldBy_toJson (p : Principal) : ∃ members, p.toJson = .obj members ∧ p.HeldBy members := by
  have hnames : "kind" ≠ p.idName := by cases p <;> simp [idName]
  refine ⟨_, rfl, by simpa using hnames, List.mem_cons_self, p.id.text, by simp, ?_⟩
  · rw [← Uuid.parse?_eq_some_iff]
    exact Uuid.parse?_text p.id

theorem ofJson?_toJson (p : Principal) : ofJson? p.toJson = some p := by
  obtain ⟨members, hmembers, hheld⟩ := p.heldBy_toJson
  rw [hmembers]
  exact ofJson?_eq_some_iff.mpr hheld.denoted

/-- The written form: the tag and the usual form of the id, under the name that goes with the
tag. -/
inductive Written (p : Principal) : Json → Prop
  | account {s : String} (usual : Uuid.Usual s.toList) (spelled : Uuid.Spelled p.id s.toList)
    (account : p.account? = some p.id) (endUser : p.endUser? = none) :
    Written p (.obj [("kind", .str "internal_user"), ("account_id", .str s)])
  | endUser {s : String} (usual : Uuid.Usual s.toList) (spelled : Uuid.Spelled p.id s.toList)
    (account : p.account? = none) (endUser : p.endUser? = some p.id) :
    Written p (.obj [("kind", .str "external_visitor"), ("end_user_id", .str s)])

theorem written_toJson (p : Principal) : p.Written p.toJson := by
  have hspelled (u : Uuid) : Uuid.Spelled u u.text.toList :=
    Uuid.parse?_eq_some_iff.mp (Uuid.parse?_text u)
  cases p with
  | internalUser a => exact .account (Uuid.usual_text a) (hspelled a) rfl rfl
  | externalVisitor e => exact .endUser (Uuid.usual_text e) (hspelled e) rfl rfl

/-! ## Columns and text -/

/-- The two ids of an owner settle who it is. -/
theorem eq_of_ids (hendUser : p.endUser? = q.endUser?) (haccount : p.account? = q.account?) :
    p = q := by
  cases p <;> cases q <;> simp_all [endUser?, account?]

/-- The text begins with the role, so the same id in another role is another text. -/
theorem text_injective : Function.Injective text := by
  intro p q h
  have hlist : p.role.toList ++ ':' :: p.id.text.toList =
      q.role.toList ++ ':' :: q.id.text.toList := by
    simpa [text, String.toList_append] using congrArg String.toList h
  have hid (u v : Uuid) (heq : u.text.toList = v.text.toList) : u = v :=
    Uuid.text_injective (String.toList_injective heq)
  cases p with
  | internalUser a =>
    cases q with
    | internalUser b =>
      rw [hid a b (List.cons.inj (List.append_cancel_left hlist)).2]
    | externalVisitor e => exact absurd (congrArg List.head? hlist) (by simp [role])
  | externalVisitor e =>
    cases q with
    | internalUser a => exact absurd (congrArg List.head? hlist) (by simp [role])
    | externalVisitor f =>
      rw [hid e f (List.cons.inj (List.append_cancel_left hlist)).2]

/-! ## The result -/

/-- A principal is read from every object that holds it, and from nothing that does not denote
it. It is written as its tag and one id in the usual form, which is read back, and bears just
one of the owner ids. Its columns settle who it is, and so does its text. -/
theorem json_and_columns_determine (p : Principal) :
    (∀ members, p.HeldBy members → ofJson? (.obj members) = some p) ∧
    (∀ v, ofJson? v = some p ↔ p.Denoted v) ∧
    p.Written p.toJson ∧ ofJson? p.toJson = some p ∧
    (∀ q : Principal, p.source = q.source → p.endUser? = q.endUser? → p.account? = q.account? →
      p = q) ∧
    ∀ q : Principal, p.text = q.text → p = q := by
  refine ⟨fun members h => ?_, fun v => ofJson?_eq_some_iff, p.written_toJson, p.ofJson?_toJson,
    ?_, ?_⟩
  · exact ofJson?_eq_some_iff.mpr h.denoted
  · exact fun q _ hendUser haccount => eq_of_ids hendUser haccount
  · exact fun q h => text_injective h

/-- An account among other members, with its id in capitals behind a name. -/
def annotatedMembers : List (String × Json) :=
  [("end_user_id", .null), ("account_id", .str "URN:UUID:00000000-0000-0000-0000-0000000000FF"),
    ("since", .int 5), ("kind", .str "internal_user")]

theorem read_from_annotatedMembers :
    ofJson? (.obj annotatedMembers) = some (.internalUser (.ofByte 255)) := by
  have hread :
      Uuid.parse? "URN:UUID:00000000-0000-0000-0000-0000000000FF" = some (.ofByte 255) := by
    decide
  have hspelled := Uuid.parse?_eq_some_iff.mp hread
  refine (json_and_columns_determine _).1 annotatedMembers ⟨by decide, ?_, _, ?_, hspelled⟩
  · simp [annotatedMembers, kind]
  · simp [annotatedMembers, idName]

end Principal
end Parley
