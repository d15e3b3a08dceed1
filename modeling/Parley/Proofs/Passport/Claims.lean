import Parley.Passport.Header
import Parley.Passport.Claims
import Parley.Proofs.Json.RoundTrip
import Parley.Proofs.Uuid

/-!
# Reading back claims and headers

Both are read as records from the text of a JSON object, so what is shown first is how a
record reads any such text.

* `ofBytes_toJson`: claims that are written are read back, by the reading for a passport and
  by the one for the registered claims.
* `algorithm_json`: the header of every passport that is issued names its algorithm.
-/
namespace Parley

open Json (Outline Fault Field Record)

/-! ## Records -/

namespace Json

variable {σ α : Type}

variable {fields : List (Field σ)} {f : Field σ} {name : String} {v : Json}
  {ms : List (String × Json)} {closed : Bool} {s s' : σ}

theorem read_of {get : σ → Option α} {set : σ → α → σ}
    {read : Outline → Except Fault α} {mayEnd : Bool} {v : Outline} {a : α} (h : read v = .ok a) :
    (Field.of name get set read mayEnd).read s v = .ok (set s a) := by
  simp only [Field.of, h, Except.map]

theorem read_noted {read : Outline → Except Fault α} {names : List String} {v : Outline} {a : α}
    (h : read v = .ok a) : (Field.noted name read).read names v = .ok (name :: names) := by
  simp only [Field.noted, h, Except.map]

/-- A member that has the name of a field is read and stored. -/
theorem readMembers_known (name : String) (i : Nat) (hnodup : (fields.map (·.name)).Nodup)
    (hf : fields[i]? = some f) (hname : f.name = name) (hnew : f.isGiven s = false)
    (hread : f.read s v.outline = .ok s') :
    Field.readMembers fields (memberOutlines ((name, v) :: ms)) closed s =
      Field.readMembers fields (memberOutlines ms) closed s' := by
  have hfind : fields.find? (·.name == name) = some f := by
    rw [List.find?_eq_some_iff_getElem]
    obtain ⟨hi, hf⟩ := List.getElem?_eq_some_iff.1 hf
    refine ⟨by simp [hname], i, hi, hf, fun j hj => ?_⟩
    have hne := List.pairwise_iff_getElem.1 hnodup j i (by simp; omega) (by simpa using hi) hj
    simpa [hf, hname] using hne
  rw [memberOutlines, Field.readMembers, text?_raw]
  simp only [hfind, hnew, hread]
  rfl

theorem readMembers_unknown (hname : ∀ f ∈ fields, f.name ≠ name) :
    Field.readMembers fields (memberOutlines ((name, v) :: ms)) closed s =
      Field.readMembers fields (memberOutlines ms) closed s := by
  have hfind : fields.find? (·.name == name) = none := by
    rw [List.find?_eq_none]
    exact fun f hf => by simpa using hname f hf
  rw [memberOutlines, Field.readMembers, text?_raw]
  simp only [hfind, isWhole_outline, if_true]

/-- A record that makes something of the members of an object is read from its text. -/
theorem readText_obj {r : Record σ α} {a : α}
    (hread : Field.readMembers r.fields (memberOutlines ms) true r.start = .ok s)
    (hfinish : r.finish s = some a) :
    r.readText (Utf8.encode (Json.obj ms).write) = .ok a := by
  have hvalue : r.read (Json.obj ms).outline = .ok a := by
    simp only [Record.read, outline, hread, bind, Except.bind, hfinish]
  rw [Record.readText, ofBytes_write]
  simp only [hvalue]
  rfl

theorem toText_str (s : String) : (Json.str s).outline.toText = .ok s := by
  simp only [outline, Outline.toText, text?_raw]

theorem toForm_str {parse : String → Option α} {t : String} {a : α} (h : parse t = some a) :
    (Json.str t).outline.toForm parse = .ok a := by
  have htext := toText_str t
  simp only [Outline.toForm, htext, bind, Except.bind, h]

end Json

namespace Passport

open Json (read_of read_noted readMembers_known readMembers_unknown readText_obj toText_str
  toForm_str)

/-! ## Claims -/

namespace Claims

theorem skipValue_str (s : String) : skipValue (Json.str s).outline = .ok () := by
  have hending : Json.stringEnding (Json.raw s) = .read := by
    rw [Json.stringEnding, Json.raw, Json.unescape?_raw]
    simp only [Utf8.toString?_encode, Option.isSome_some, if_true]
  rw [Json.outline, skipValue, Outline.ending, hending]
  rfl

theorem nodup_record : (record.fields.map (·.name)).Nodup := by
  simp [record, Field.of]

theorem nodup_registered : (registered.fields.map (·.name)).Nodup := by
  simp [registered, Field.noted]

theorem readText_toJson (c : Claims) :
    record.readText (Utf8.encode c.toJson.write) = .ok c := by
  refine readText_obj (s := ⟨c.issuer, c.subject, c.app, c.appCode, c.endUser, c.account,
    c.userType⟩) ?_ rfl
  have hid (u : Uuid) := toForm_str (Uuid.parse?_text u)
  rw [readMembers_known "iss" 0 nodup_record rfl rfl rfl (read_of (toText_str _)),
    readMembers_known "sub" 1 nodup_record rfl rfl rfl (read_of (toText_str _)),
    readMembers_known "app_id" 2 nodup_record rfl rfl rfl (read_of (hid _)),
    readMembers_known "app_code" 3 nodup_record rfl rfl rfl (read_of (toText_str _)),
    readMembers_known "end_user_id" 4 nodup_record rfl rfl rfl (read_of (hid _)),
    readMembers_known "account_id" 5 nodup_record rfl rfl rfl (read_of (hid _)),
    readMembers_known "user_type" 6 nodup_record rfl rfl rfl (read_of (toText_str _))]
  rfl

theorem registered_toJson (c : Claims) :
    registered.readText (Utf8.encode c.toJson.write) = .ok () := by
  refine readText_obj (s := ["sub", "iss"]) ?_ rfl
  have hother {name : String} (h : name ∉ ["exp", "nbf", "sub", "iss", "aud"]) :
      ∀ f ∈ registered.fields, f.name ≠ name := by
    simpa [registered, Field.noted, eq_comm] using h
  rw [readMembers_known "iss" 3 nodup_registered rfl rfl rfl (read_noted (skipValue_str _)),
    readMembers_known "sub" 2 nodup_registered rfl rfl rfl (read_noted (skipValue_str _)),
    readMembers_unknown (hother (by simp)), readMembers_unknown (hother (by simp)),
    readMembers_unknown (hother (by simp)), readMembers_unknown (hother (by simp)),
    readMembers_unknown (hother (by simp))]
  rfl

/-- Claims that are written are read back. -/
theorem ofBytes_toJson (c : Claims) : ofBytes (Utf8.encode c.toJson.write) = .ok c := by
  rw [ofBytes, readText_toJson, registered_toJson]
  rfl

end Claims

/-! ## Headers -/

namespace Header

theorem nodup_record : (record.fields.map (·.name)).Nodup := by
  simp [record, Field.of, optionalField]

theorem read_optionalField {α : Type} {name : String} {read : Outline → Except Fault α}
    {d : Draft} {raw : List UInt8} {a : α} (h : read (.string raw) = .ok a) :
    (optionalField name read).read d (.string raw) =
      .ok { d with others := name :: d.others } := by
  simp only [optionalField, Outline.toOption, h, Except.map]

theorem toName_str {α : Type} {parse : String → Option α} {t : String} {a : α}
    (h : parse t = some a) : (Json.str t).outline.toName parse = .ok a := by
  have hform := toForm_str h
  rw [Json.outline] at hform ⊢
  rw [Outline.toName, hform]
  rintro _ ⟨⟩

/-- The header of every passport that is issued names its algorithm. -/
theorem algorithm_json : algorithm (Utf8.encode json.write) = .ok .hs256 := by
  refine readText_obj (s := ⟨some .hs256, ["typ"]⟩) ?_ rfl
  rw [readMembers_known "typ" 0 nodup_record rfl rfl rfl (read_optionalField (toText_str _)),
    readMembers_known "alg" 1 nodup_record rfl rfl rfl
      (read_of (toName_str (a := Algorithm.hs256) rfl))]
  rfl

end Header

end Passport

end Parley
