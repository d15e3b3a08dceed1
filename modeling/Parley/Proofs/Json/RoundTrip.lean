import Parley.Json.Outline
import Parley.Proofs.Json.Written

/-!
# Reading back a JSON text

A value that is written is read back as its outline, to the end of the text. The proof has
two halves, with the tokens of the outline between them.

* `cutsInto_write`: the text of a value is cut into the tokens of its outline.
* `readValue_tokens`: the tokens of a whole outline are read back as that outline.
* `ofBytes_write`: so the text of a value is read back as its outline.
-/
namespace Parley.Json

open Utf8 (encode encode_append encode_cons)

/-! ## From tokens to outlines -/

namespace Outline

mutual

def tokens : Outline → List Token
  | null => [.null]
  | bool b => [.bool b]
  | number n => [.number n]
  | string raw => [.string raw]
  | array items _ => .openArray :: itemTokens items ++ [.closeArray]
  | object members _ => .openObject :: memberTokens members ++ [.closeObject]
  | broken => [.broken]

def itemTokens : List Outline → List Token
  | [] => []
  | [v] => tokens v
  | v :: vs => tokens v ++ .comma :: itemTokens vs

def memberTokens : List (List UInt8 × Outline) → List Token
  | [] => []
  | [(key, v)] => .string key :: .colon :: tokens v
  | (key, v) :: ms => .string key :: .colon :: tokens v ++ .comma :: memberTokens ms

end

/-- A value does not start like the end of an array. -/
theorem tokens_eq (v : Outline) : ∃ t ts, v.tokens = t :: ts ∧ t ≠ .closeArray := by
  cases v <;> exact ⟨_, _, rfl, by simp⟩

theorem itemTokens_cons (v : Outline) (vs : List Outline) (rest : List Token) :
    itemTokens (v :: vs) ++ .closeArray :: rest =
      v.tokens ++ if vs = [] then .closeArray :: rest
        else .comma :: (itemTokens vs ++ .closeArray :: rest) := by
  cases vs with
  | nil => rfl
  | cons w ws => simp [itemTokens]

theorem memberTokens_cons (key : List UInt8) (v : Outline) (ms : List (List UInt8 × Outline))
    (rest : List Token) :
    memberTokens ((key, v) :: ms) ++ .closeObject :: rest =
      .string key :: .colon :: (v.tokens ++ if ms = [] then .closeObject :: rest
        else .comma :: (memberTokens ms ++ .closeObject :: rest)) := by
  cases ms with
  | nil => rfl
  | cons m ms => simp [memberTokens]

theorem length_itemTokens_cons (v : Outline) (vs : List Outline) :
    v.tokens.length + (itemTokens vs).length ≤ (itemTokens (v :: vs)).length := by
  cases vs with
  | nil => simp [itemTokens]
  | cons w ws => simp [itemTokens]

theorem length_memberTokens_cons (key : List UInt8) (v : Outline)
    (ms : List (List UInt8 × Outline)) :
    v.tokens.length + (memberTokens ms).length < (memberTokens ((key, v) :: ms)).length := by
  cases ms with
  | nil =>
    simp only [memberTokens, List.length_cons, List.length_nil]
    omega
  | cons m ms =>
    simp only [memberTokens, List.length_cons, List.length_append]
    omega

theorem tokens_length_pos (v : Outline) : 0 < v.tokens.length := by
  obtain ⟨t, ts, hv, -⟩ := tokens_eq v
  rw [hv]
  exact Nat.succ_pos _

theorem readValue_openArray {t : Token} (h : t ≠ .closeArray) (fuel : Nat) (ts : List Token) :
    readValue (fuel + 1) (.openArray :: t :: ts) =
      (array (readItems fuel (t :: ts)).1 (readItems fuel (t :: ts)).2.isSome,
        (readItems fuel (t :: ts)).2) := by
  rw [readValue]
  rintro _ ⟨⟩
  exact h rfl

theorem readItems_tokens_cons {fuel : Nat} {v : Outline} {vs : List Outline} {rest : List Token}
    (hv : ∀ rest, readValue fuel (v.tokens ++ rest) = (v, some rest))
    (hvs : vs ≠ [] → readItems fuel (itemTokens vs ++ .closeArray :: rest) = (vs, some rest)) :
    readItems (fuel + 1) (itemTokens (v :: vs) ++ .closeArray :: rest) = (v :: vs, some rest) := by
  obtain ⟨t, ts, ht, -⟩ := tokens_eq v
  rw [itemTokens_cons, readItems, hv]
  · cases vs with
    | nil => rfl
    | cons w ws =>
      simp only [if_neg (List.cons_ne_nil w ws), hvs (List.cons_ne_nil w ws)]
  · rw [ht]
    exact List.cons_ne_nil _ _

theorem readMembers_tokens_cons {fuel : Nat} {key : List UInt8} {v : Outline}
    {ms : List (List UInt8 × Outline)} {rest : List Token}
    (hv : ∀ rest, readValue fuel (v.tokens ++ rest) = (v, some rest))
    (hms : ms ≠ [] →
      readMembers fuel (memberTokens ms ++ .closeObject :: rest) = (ms, some rest)) :
    readMembers (fuel + 1) (memberTokens ((key, v) :: ms) ++ .closeObject :: rest) =
      ((key, v) :: ms, some rest) := by
  rw [memberTokens_cons, readMembers, hv]
  cases ms with
  | nil => rfl
  | cons m ms => simp only [if_neg (List.cons_ne_nil m ms), hms (List.cons_ne_nil m ms)]

mutual

theorem readValue_tokens (v : Outline) (h : v.isWhole = true) (fuel : Nat)
    (hfuel : 2 * v.tokens.length ≤ fuel) (rest : List Token) :
    readValue fuel (v.tokens ++ rest) = (v, some rest) := by
  have hpos := tokens_length_pos v
  obtain ⟨fuel, rfl⟩ : ∃ n, fuel = n + 1 := ⟨fuel - 1, by omega⟩
  match v with
  | null => rfl
  | bool _ => rfl
  | number _ => rfl
  | string _ => rfl
  | broken => cases h
  | array [] closed =>
    obtain rfl : closed = true := by simpa [isWhole, areWhole] using h
    rfl
  | array (v :: vs) closed =>
    obtain ⟨rfl, h⟩ : closed = true ∧ areWhole (v :: vs) = true := by simpa [isWhole] using h
    simp only [tokens, List.length_cons, List.length_append, List.length_nil] at hfuel
    have hread := readItems_tokens (v :: vs) h (List.cons_ne_nil _ _) fuel (by omega) rest
    obtain ⟨t, ts, hv, ht⟩ := tokens_eq v
    rw [tokens, List.append_assoc, List.singleton_append, List.cons_append]
    rw [itemTokens_cons, hv, List.cons_append] at hread ⊢
    rw [readValue_openArray ht, hread]
    rfl
  | object [] closed =>
    obtain rfl : closed = true := by simpa [isWhole, membersAreWhole] using h
    rfl
  | object (m :: ms) closed =>
    obtain ⟨rfl, h⟩ : closed = true ∧ membersAreWhole (m :: ms) = true := by
      simpa [isWhole] using h
    simp only [tokens, List.length_cons, List.length_append, List.length_nil] at hfuel
    have hread := readMembers_tokens (m :: ms) h (List.cons_ne_nil _ _) fuel (by omega) rest
    rw [tokens, List.append_assoc, List.singleton_append, List.cons_append]
    rw [memberTokens_cons] at hread ⊢
    rw [readValue, hread]
    · rfl
    · rintro _ ⟨⟩

/-- The tokens of items are read back as these items, up to the end of the array. -/
theorem readItems_tokens (vs : List Outline) (h : areWhole vs = true) (hne : vs ≠ [])
    (fuel : Nat) (hfuel : 2 * (itemTokens vs).length + 1 ≤ fuel) (rest : List Token) :
    readItems fuel (itemTokens vs ++ .closeArray :: rest) = (vs, some rest) := by
  obtain ⟨fuel, rfl⟩ : ∃ n, fuel = n + 1 := ⟨fuel - 1, by omega⟩
  match vs with
  | [] => exact absurd rfl hne
  | v :: vs =>
    obtain ⟨hv, hvs⟩ : v.isWhole = true ∧ areWhole vs = true := by simpa [areWhole] using h
    have hpos := tokens_length_pos v
    have hlen := length_itemTokens_cons v vs
    exact readItems_tokens_cons (readValue_tokens v hv fuel (by omega))
      fun hne => readItems_tokens vs hvs hne fuel (by omega) rest

/-- The tokens of members are read back as these members, up to the end of the object. -/
theorem readMembers_tokens (ms : List (List UInt8 × Outline)) (h : membersAreWhole ms = true)
    (hne : ms ≠ []) (fuel : Nat) (hfuel : 2 * (memberTokens ms).length + 1 ≤ fuel)
    (rest : List Token) :
    readMembers fuel (memberTokens ms ++ .closeObject :: rest) = (ms, some rest) := by
  obtain ⟨fuel, rfl⟩ : ∃ n, fuel = n + 1 := ⟨fuel - 1, by omega⟩
  match ms with
  | [] => exact absurd rfl hne
  | (key, v) :: ms =>
    obtain ⟨hv, hms⟩ : v.isWhole = true ∧ membersAreWhole ms = true := by
      simpa [membersAreWhole] using h
    have hlen := length_memberTokens_cons key v ms
    exact readMembers_tokens_cons (readValue_tokens v hv fuel (by omega))
      fun hne => readMembers_tokens ms hms hne fuel (by omega) rest

end

end Outline

/-! ## From texts to tokens -/

/-- In front of `rest`, the text is cut into these tokens and no others. -/
def CutsInto (bs : List UInt8) (ts : List Token) (rest : List UInt8) : Prop :=
  ∀ fuel, bs.length + rest.length ≤ fuel →
    ∃ left, rest.length ≤ left ∧ tokensUpTo fuel (bs ++ rest) = ts ++ tokensUpTo left rest

theorem cutsInto_nil (rest : List UInt8) : CutsInto [] [] rest :=
  fun fuel h => ⟨fuel, by simpa using h, rfl⟩

theorem CutsInto.append {bs cs rest : List UInt8} {ts us : List Token}
    (h : CutsInto bs ts (cs ++ rest)) (h' : CutsInto cs us rest) :
    CutsInto (bs ++ cs) (ts ++ us) rest := by
  intro fuel hfuel
  obtain ⟨left, hleft, heq⟩ := h fuel (by simpa [Nat.add_assoc] using hfuel)
  obtain ⟨left', hleft', heq'⟩ := h' left (by simpa using hleft)
  exact ⟨left', hleft', by rw [List.append_assoc, heq, heq', List.append_assoc]⟩

/-- A text that is scanned as one token is cut into that token. -/
theorem cutsInto_scan {b : UInt8} {bs rest : List UInt8} {t : Token} (hspace : isSpace b = false)
    (ht : t ≠ .broken) (hscan : scan b (bs ++ rest) = (t, rest)) : CutsInto (b :: bs) [t] rest := by
  intro fuel hfuel
  rw [List.length_cons] at hfuel
  obtain ⟨fuel, rfl⟩ : ∃ n, fuel = n + 1 := ⟨fuel - 1, by omega⟩
  refine ⟨fuel, by omega, ?_⟩
  rw [List.cons_append, tokensUpTo, hspace, hscan]
  cases t <;> first | rfl | exact absurd rfl ht

theorem cutsInto_string (s : String) (rest : List UInt8) :
    CutsInto (encode (quote s)) [.string (raw s)] rest := by
  have hbytes : encode (quote s) = 0x22 :: (raw s ++ [0x22]) := by
    rw [quote, encode_append]
    rfl
  rw [hbytes]
  refine cutsInto_scan rfl (by simp) ?_
  rw [List.append_assoc, List.singleton_append]
  simp only [scan, raw, scanString?_raw]
  rfl

theorem cutsInto_word {b : UInt8} {word : String} {t : Token} (hspace : isSpace b = false)
    (ht : t ≠ .broken) (hscan : ∀ bs, scan b bs = scanWord word t bs) (rest : List UInt8) :
    CutsInto (b :: Utf8.ofString word) [t] rest := by
  refine cutsInto_scan hspace ht ?_
  rw [hscan, scanWord, if_pos (List.isPrefixOf_iff_prefix.2 (List.prefix_append _ rest)),
    List.drop_left]

/-- What starts with a sign or a digit is scanned as a number. -/
theorem scan_number {b : UInt8} (h : b.toNat = 0x2D ∨ 0x30 ≤ b.toNat ∧ b.toNat ≤ 0x39)
    {bs rest : List UInt8} {n : Number} (hn : Number.scan? (b :: bs) = some (n, rest)) :
    isSpace b = false ∧ scan b bs = (.number n, rest) := by
  have hne (d : UInt8) (hd : d.toNat < 0x2D ∨ 0x39 < d.toNat) : b ≠ d := by
    rintro rfl
    omega
  constructor
  · simp only [isSpace, beq_eq_false_iff_ne.2 (hne 0x20 (by decide)),
      beq_eq_false_iff_ne.2 (hne 0x0A (by decide)), beq_eq_false_iff_ne.2 (hne 0x09 (by decide)),
      beq_eq_false_iff_ne.2 (hne 0x0D (by decide)), Bool.or_false]
  · rw [scan, if_neg (hne 0x7B (by decide)), if_neg (hne 0x7D (by decide)),
      if_neg (hne 0x5B (by decide)), if_neg (hne 0x5D (by decide)), if_neg (hne 0x3A (by decide)),
      if_neg (hne 0x2C (by decide)), if_neg (hne 0x22 (by decide)), if_neg (hne 0x6E (by decide)),
      if_neg (hne 0x74 (by decide)), if_neg (hne 0x66 (by decide)), hn]

theorem cutsInto_int (n : Int) {rest : List UInt8} (h : Number.Follows rest) :
    CutsInto (encode (Decimal.ofInt n).toList) [.number (.ofInt n)] rest := by
  have hscan := Number.scan?_ofInt n h
  obtain ⟨b, bs, hn, hb⟩ : ∃ b bs, encode (Decimal.ofInt n).toList = b :: bs ∧
      (b.toNat = 0x2D ∨ 0x30 ≤ b.toNat ∧ b.toNat ≤ 0x39) := by
    cases n with
    | ofNat n =>
      obtain ⟨b, bs, hn, hb⟩ := Number.encode_toDigits n
      rw [Decimal.ofInt, Decimal.toList_ofNat]
      exact ⟨b, bs, hn, .inr hb⟩
    | negSucc n =>
      rw [Decimal.ofInt, String.toList_append]
      exact ⟨0x2D, _, rfl, .inl rfl⟩
  rw [hn] at hscan ⊢
  obtain ⟨hspace, hscan⟩ := scan_number hb hscan
  exact cutsInto_scan hspace (by simp) hscan

/-! ## From values to texts -/

mutual

/-- What a value is read back as. -/
def outline : Json → Outline
  | null => .null
  | bool b => .bool b
  | int n => .number (.ofInt n)
  | str s => .string (raw s)
  | arr items => .array (itemOutlines items) true
  | obj members => .object (memberOutlines members) true

def itemOutlines : List Json → List Outline
  | [] => []
  | v :: vs => outline v :: itemOutlines vs

def memberOutlines : List (String × Json) → List (List UInt8 × Outline)
  | [] => []
  | (name, v) :: ms => (raw name, outline v) :: memberOutlines ms

end

mutual

theorem isWhole_outline : ∀ v : Json, v.outline.isWhole = true
  | null => rfl
  | bool _ => rfl
  | int _ => rfl
  | str _ => rfl
  | arr items => by rw [outline, Outline.isWhole, areWhole_outlines items]; rfl
  | obj members => by rw [outline, Outline.isWhole, areWhole_memberOutlines members]; rfl

theorem areWhole_outlines : ∀ items, Outline.areWhole (itemOutlines items) = true
  | [] => rfl
  | v :: vs => by
    rw [itemOutlines, Outline.areWhole, isWhole_outline v, areWhole_outlines vs]
    rfl

theorem areWhole_memberOutlines : ∀ members,
    Outline.membersAreWhole (memberOutlines members) = true
  | [] => rfl
  | (_, v) :: ms => by
    rw [memberOutlines, Outline.membersAreWhole, isWhole_outline v, areWhole_memberOutlines ms]
    rfl

end

theorem cutsInto_mark {b : UInt8} {t : Token} (hspace : isSpace b = false) (ht : t ≠ .broken)
    (hscan : ∀ bs, scan b bs = (t, bs)) (rest : List UInt8) : CutsInto [b] [t] rest :=
  cutsInto_scan hspace ht (hscan rest)

theorem cutsInto_comma (rest : List UInt8) : CutsInto [0x2C] [.comma] rest :=
  cutsInto_mark rfl (by simp) (fun _ => rfl) rest

theorem cutsInto_items {v : Json} {vs : List Json} {rest : List UInt8}
    (hv : ∀ {rest}, Number.Follows rest → CutsInto (encode v.write) v.outline.tokens rest)
    (hvs : CutsInto (encode (writeItems vs)) (Outline.itemTokens (itemOutlines vs)) rest)
    (h : Number.Follows rest) :
    CutsInto (encode (writeItems (v :: vs)))
      (Outline.itemTokens (itemOutlines (v :: vs))) rest := by
  cases vs with
  | nil => exact hv h
  | cons w ws =>
    have hbytes : encode (writeItems (v :: w :: ws)) =
        encode v.write ++ ([0x2C] ++ encode (writeItems (w :: ws))) := by
      rw [writeItems, encode_append, encode_cons]
      · rfl
      · simp
    rw [hbytes]
    exact (hv (.comma _)).append ((cutsInto_comma _).append hvs)

theorem cutsInto_members {name : String} {v : Json} {ms : List (String × Json)}
    {rest : List UInt8}
    (hv : ∀ {rest}, Number.Follows rest → CutsInto (encode v.write) v.outline.tokens rest)
    (hms : CutsInto (encode (writeMembers ms)) (Outline.memberTokens (memberOutlines ms)) rest)
    (h : Number.Follows rest) :
    CutsInto (encode (writeMembers ((name, v) :: ms)))
      (Outline.memberTokens (memberOutlines ((name, v) :: ms))) rest := by
  have hname (rest : List UInt8) :
      CutsInto (encode (quote name) ++ [0x3A]) [.string (raw name), .colon] rest :=
    (cutsInto_string name _).append (cutsInto_mark rfl (by simp) (fun _ => rfl) rest)
  cases ms with
  | nil =>
    have hbytes : encode (writeMembers [(name, v)]) =
        encode (quote name) ++ [0x3A] ++ encode v.write := by
      rw [writeMembers, encode_append, encode_cons, List.append_assoc]
      rfl
    rw [hbytes]
    exact (hname _).append (hv h)
  | cons m ms =>
    have hbytes : encode (writeMembers ((name, v) :: m :: ms)) =
        encode (quote name) ++ [0x3A] ++
          (encode v.write ++ ([0x2C] ++ encode (writeMembers (m :: ms)))) := by
      rw [writeMembers, encode_append, encode_append, encode_cons, encode_cons,
        List.append_assoc, List.append_assoc, List.append_assoc]
      · rfl
      · simp
    rw [hbytes]
    exact (hname _).append ((hv (.comma _)).append ((cutsInto_comma _).append hms))

/-- Brackets around a text add a token on either side. -/
theorem CutsInto.between {b b' : UInt8} {bs : List UInt8} {t t' : Token} {ts : List Token}
    {rest : List UInt8} (hb : ∀ rest, CutsInto [b] [t] rest) (hb' : ∀ rest, CutsInto [b'] [t'] rest)
    (h : CutsInto bs ts (b' :: rest)) : CutsInto (b :: bs ++ [b']) (t :: ts ++ [t']) rest := by
  have hclose : CutsInto (bs ++ [b']) (ts ++ [t']) rest := CutsInto.append h (hb' rest)
  simpa using (hb _).append hclose

mutual

theorem cutsInto_write (v : Json) {rest : List UInt8} (h : Number.Follows rest) :
    CutsInto (encode v.write) v.outline.tokens rest := by
  match v with
  | null => exact cutsInto_word (b := 0x6E) rfl (by simp) (fun _ => rfl) rest
  | bool true => exact cutsInto_word (b := 0x74) rfl (by simp) (fun _ => rfl) rest
  | bool false => exact cutsInto_word (b := 0x66) rfl (by simp) (fun _ => rfl) rest
  | int n => exact cutsInto_int n h
  | str s => exact cutsInto_string s rest
  | arr items =>
    rw [write, encode_append, encode_cons]
    exact (cutsInto_writeItems items (.closeArray rest)).between
      (cutsInto_mark rfl (by simp) fun _ => rfl) (cutsInto_mark rfl (by simp) fun _ => rfl)
  | obj members =>
    rw [write, encode_append, encode_cons]
    exact (cutsInto_writeMembers members (.closeObject rest)).between
      (cutsInto_mark rfl (by simp) fun _ => rfl) (cutsInto_mark rfl (by simp) fun _ => rfl)

theorem cutsInto_writeItems (items : List Json) {rest : List UInt8} (h : Number.Follows rest) :
    CutsInto (encode (writeItems items)) (Outline.itemTokens (itemOutlines items)) rest := by
  match items with
  | [] => exact cutsInto_nil rest
  | v :: vs => exact cutsInto_items (fun h => cutsInto_write v h) (cutsInto_writeItems vs h) h

theorem cutsInto_writeMembers (members : List (String × Json)) {rest : List UInt8}
    (h : Number.Follows rest) :
    CutsInto (encode (writeMembers members)) (Outline.memberTokens (memberOutlines members))
      rest := by
  match members with
  | [] => exact cutsInto_nil rest
  | (_, v) :: ms =>
    exact cutsInto_members (fun h => cutsInto_write v h) (cutsInto_writeMembers ms h) h

end

/-- The text of a value is cut into the tokens of its outline, and nothing is left. -/
theorem tokens_write (v : Json) : tokens (encode v.write) = v.outline.tokens := by
  obtain ⟨left, -, hcut⟩ := cutsInto_write v .nothing (encode v.write).length (by simp)
  have hnil : tokensUpTo left [] = [] := by cases left <;> rfl
  simpa [tokens, hnil] using hcut

/-- The text of a value is read back as its outline. -/
theorem ofBytes_write (v : Json) : Document.ofBytes (encode v.write) = ⟨v.outline, true⟩ := by
  have hread := Outline.readValue_tokens v.outline (isWhole_outline v)
    (2 * v.outline.tokens.length + 1) (by omega) []
  rw [List.append_nil] at hread
  rw [Document.ofBytes, tokens_write]
  simp only [hread]

end Parley.Json
