import Parley.Text.Blank

/-!
# Media types

A media type is a type and a subtype, with parameters behind them. A subtype may
end in a suffix behind its last plus sign.
-/
namespace Parley.Http

/-- A media type such as `application/problem+json`, without its parameters. -/
structure MediaType where
  type : String
  subtype : String
  suffix : Option String
  deriving DecidableEq, Repr

namespace MediaType

def isTokenChar (c : Char) : Bool :=
  c.isAlphanum || "!#$%&'*+-.^_`|~".toList.contains c

/-- Where one is in a list of parameters. -/
inductive Place where
  /-- In front of a parameter. -/
  | start
  | name
  /-- In a value without quotes, of which nothing may have been read yet. -/
  | value (isEmpty : Bool)
  /-- Between quotes. -/
  | quoted (isEmpty : Bool)
  /-- Behind the closing quote. -/
  | closed
  deriving DecidableEq, Repr

namespace Place

/-- The place behind a character, if it may stand there. -/
def next? : Place → Char → Option Place
  | start, c => if c = ' ' then some start else if isTokenChar c then some name else none
  | name, c => if c = '=' then some (value true) else if isTokenChar c then some name else none
  | value isEmpty, c =>
    if c = '"' ∧ isEmpty then some (quoted true)
    else if c = ';' ∧ !isEmpty then some start
    else if isTokenChar c then some (value false)
    else none
  | quoted isEmpty, c =>
    if c = '"' ∧ !isEmpty then some closed
    else if 0x1F < c.toNat ∧ c.toNat ≠ 0x7F then some (quoted false)
    else none
  | closed, c => if c = ';' then some start else if c = ' ' then some closed else none

def mayEnd : Place → Bool
  | name => false
  | quoted _ => false
  | _ => true

end Place

def areParameters (cs : List Char) : Bool :=
  match cs.foldlM Place.next? Place.start with
  | some place => place.mayEnd
  | none => false

/-- Reads a media type; its names are put in lower case. -/
def parse? (s : String) : Option MediaType :=
  match Text.splitFirst? (· == '/') s.toList with
  | none => none
  | some (type, rest) =>
    let (essence, parameters) := match Text.splitFirst? (· == ';') rest with
      | some (essence, parameters) => (essence, some parameters)
      | none => (rest, none)
    if type.isEmpty ∨ !type.all isTokenChar ∨ !essence.all isTokenChar then none
    else if parameters.any fun ps => essence.isEmpty || !areParameters ps then none
    else
      let lower := fun cs => Text.lower (String.ofList cs)
      match Text.splitLast? (· == '+') essence.tail with
      | some (before, suffix) =>
        some ⟨lower type, lower (essence.take 1 ++ before), some (lower suffix)⟩
      | none => some ⟨lower type, lower essence, none⟩

def isJson (m : MediaType) : Bool :=
  m.type == "application" && (m.subtype == "json" || m.suffix == some "json")

end MediaType

end Parley.Http
