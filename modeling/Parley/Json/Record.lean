import Parley.Json.Ending

/-!
# Reading records from JSON

A record is read from an object, whose unknown members are passed over, or from
an array that holds its fields in order. Reading goes through the text from the
left and stops at the first fault, of which there are two kinds: the text is not
JSON (`malformed`), or it is JSON of another shape (`mismatched`).
-/
namespace Parley.Json

/-- What is wrong with a text that gives no record: it is not JSON, or not of the record's form. -/
inductive Fault where
  | malformed
  | mismatched
  deriving DecidableEq, Repr

/-! ## Single values -/

namespace Outline

/-- The fault of a value that stands where another kind of value is wanted. A
scalar is read before it is refused, an array or object is not. -/
def misfit : Outline → Fault
  | broken => .malformed
  | string raw => if (text? raw).isSome then .mismatched else .malformed
  | number n => if n.isFinite then .mismatched else .malformed
  | _ => .mismatched

def toText : Outline → Except Fault String
  | string raw =>
    match text? raw with
    | some s => .ok s
    | none => .error .malformed
  | v => .error v.misfit

def toBool : Outline → Except Fault Bool
  | bool b => .ok b
  | v => .error v.misfit

/-- Reads a value that may be `null`. -/
def toOption {α : Type} (read : Outline → Except Fault α) : Outline → Except Fault (Option α)
  | null => .ok none
  | v => (read v).map some

def toList {α : Type} (read : Outline → Except Fault α) : Outline → Except Fault (List α)
  | array items closed => do
    let values ← items.mapM read
    if closed then .ok values else .error .malformed
  | v => .error v.misfit

/-- Reads text of a certain form. -/
def toForm {α : Type} (parse : String → Option α) (v : Outline) : Except Fault α := do
  match parse (← v.toText) with
  | some a => .ok a
  | none => .error .mismatched

/-- Reads a name, alone or as the only member of an object, with `null` behind it. -/
def toName {α : Type} (parse : String → Option α) : Outline → Except Fault α
  | object [(key, null)] true => toForm parse (string key)
  | v => toForm parse v

end Outline

/-! ## Records -/

/-- A field of a record that is being read; `σ` holds what has been read so far. -/
structure Field (σ : Type) where
  name : String
  /-- Whether the field has been read already. -/
  isGiven : σ → Bool
  /-- Reads the field and stores it. -/
  read : σ → Outline → Except Fault σ
  /-- Whether the array form may end before this field. -/
  mayEnd : Bool := false

namespace Field

variable {σ : Type}

/-- A field of which a store holds the value as an option. -/
def of {α : Type} (name : String) (get : σ → Option α) (set : σ → α → σ)
    (read : Outline → Except Fault α) (mayEnd : Bool := false) : Field σ where
  name := name
  isGiven := fun s => (get s).isSome
  read := fun s v => (read v).map (set s)
  mayEnd := mayEnd

/-- A field of which only the name is remembered. -/
def noted {α : Type} (name : String) (read : Outline → Except Fault α) :
    Field (List String) where
  name := name
  isGiven := fun names => names.contains name
  read := fun names v => (read v).map fun _ => name :: names

/-- Reads the array form: the fields in order. -/
def readItems : List (Field σ) → List Outline → Bool → σ → Except Fault σ
  | [], [], closed, s => if closed then .ok s else .error .malformed
  | [], _ :: _, _, _ => .error .malformed
  | f :: fs, [], closed, s =>
    if !closed then .error .malformed
    else if f.mayEnd then readItems fs [] closed s
    else .error .mismatched
  | f :: fs, v :: vs, closed, s => do readItems fs vs closed (← f.read s v)

/-- Reads the members of an object. A known name must not come twice, and the
value behind an unknown name need only be JSON. -/
def readMembers (fields : List (Field σ)) :
    List (List UInt8 × Outline) → Bool → σ → Except Fault σ
  | [], closed, s => if closed then .ok s else .error .malformed
  | (key, v) :: ms, closed, s =>
    match text? key with
    | none => .error .malformed
    | some name =>
      match fields.find? (·.name == name) with
      | some f =>
        if f.isGiven s then .error .mismatched
        else do readMembers fields ms closed (← f.read s v)
      | none => if v.isWhole then readMembers fields ms closed s else .error .malformed

end Field

/-- How a record is read: its fields, what is known before the first of them, and
what it makes of them in the end, if none is missing. -/
structure Record (σ α : Type) where
  fields : List (Field σ)
  start : σ
  finish : σ → Option α

namespace Record

variable {σ α : Type}

def read (r : Record σ α) (v : Outline) : Except Fault α := do
  let s ← match v with
    | .object members closed => Field.readMembers r.fields members closed r.start
    | .array items closed => Field.readItems r.fields items closed r.start
    | v => .error v.misfit
  match r.finish s with
  | some a => .ok a
  | none => .error .mismatched

/-- Reads the record from a text that holds nothing else. -/
def readText (r : Record σ α) (bytes : List UInt8) : Except Fault α := do
  let doc := Document.ofBytes bytes
  let a ← r.read doc.value
  if doc.ended then .ok a else .error .malformed

end Record

end Parley.Json
