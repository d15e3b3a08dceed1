import Mathlib.Tactic.Common
import Parley.Text.Utf8

/-!
# Reading back UTF-8

* `first_encodeChar`: the bytes of a character, with any bytes behind them, begin with
  that character.
* `decode?_encode`: so the bytes of a text are read back as that text.
* `toString?_eq_some_iff`: nothing but its bytes is read as a text.
* `le_of_mem_encodeChar`: outside of ASCII no byte of a character is in ASCII.
-/
namespace Parley.Utf8

/-! ## Single bytes -/

theorem toNat_byte {n : Nat} (h : n < 256) : (UInt8.ofNat n).toNat = n := by
  rw [UInt8.toNat_ofNat', Nat.mod_eq_of_lt h]

theorem lead?_byte {n : Nat} (h : n < 256) : lead? (UInt8.ofNat n) =
    if n < 0x80 then some ⟨0, 0x80, 0xBF, n⟩
    else if n < 0xC2 then none
    else if n < 0xE0 then some ⟨1, 0x80, 0xBF, n - 0xC0⟩
    else if n = 0xE0 then some ⟨2, 0xA0, 0xBF, 0⟩
    else if n = 0xED then some ⟨2, 0x80, 0x9F, 0xD⟩
    else if n < 0xF0 then some ⟨2, 0x80, 0xBF, n - 0xE0⟩
    else if n = 0xF0 then some ⟨3, 0x90, 0xBF, 0⟩
    else if n < 0xF4 then some ⟨3, 0x80, 0xBF, n - 0xF0⟩
    else if n = 0xF4 then some ⟨3, 0x80, 0x8F, 4⟩
    else none := by
  unfold lead?
  simp only [UInt8.lt_iff_toNat_lt, ← UInt8.toNat_inj, toNat_byte h]
  rfl

/-- A byte in the range that is asked for is taken. -/
theorem trail_byte {more : Nat} {low high : UInt8} {bits size n : Nat} (rest : List UInt8)
    (h : n < 256) (hlow : low.toNat ≤ n) (hhigh : n ≤ high.toNat) :
    trail (more + 1) low high bits size (UInt8.ofNat n :: rest) =
      trail more 0x80 0xBF (64 * bits + n % 64) (size + 1) rest := by
  rw [trail, if_pos, toNat_byte h]
  rw [UInt8.le_iff_toNat_le, UInt8.le_iff_toNat_le, toNat_byte h]
  exact ⟨hlow, hhigh⟩

/-- A byte behind the second one is in range. -/
theorem trail_byte_of_lt {more bits size n : Nat} (rest : List UInt8) (h : n < 64) :
    trail (more + 1) 0x80 0xBF bits size (UInt8.ofNat (0x80 + n) :: rest) =
      trail more 0x80 0xBF (64 * bits + n) (size + 1) rest := by
  have hlow : (0x80 : UInt8).toNat ≤ 0x80 + n := Nat.le_add_right _ _
  have hhigh : 0x80 + n ≤ (0xBF : UInt8).toNat := show 0x80 + n ≤ 0xBF by omega
  rw [trail_byte rest (by omega) hlow hhigh, show (0x80 + n) % 64 = n by omega]

/-! ## Single characters -/

/-- The first of three bytes carries the upper bits and admits the second byte: no shorter
form would do, and the character is no surrogate. -/
theorem lead?_three {n : Nat} (h : 0x800 ≤ n) (h' : n < 0x10000)
    (hvalid : n < 0xD800 ∨ 0xDFFF < n) :
    ∃ low high, lead? (UInt8.ofNat (0xE0 + n / 4096)) = some ⟨2, low, high, n / 4096⟩ ∧
      low.toNat ≤ 0x80 + n / 64 % 64 ∧ 0x80 + n / 64 % 64 ≤ high.toNat := by
  rw [lead?_byte (by omega), if_neg (by omega), if_neg (by omega), if_neg (by omega)]
  by_cases hfirst : n / 4096 = 0
  · rw [if_pos (by omega), hfirst]
    exact ⟨_, _, rfl, show 0xA0 ≤ _ by omega, show _ ≤ 0xBF by omega⟩
  · rw [if_neg (by omega)]
    by_cases hlast : n / 4096 = 0xD
    · rw [if_pos (by omega), hlast]
      exact ⟨_, _, rfl, show 0x80 ≤ _ by omega, show _ ≤ 0x9F by omega⟩
    · rw [if_neg (by omega), if_pos (by omega), Nat.add_sub_cancel_left]
      exact ⟨_, _, rfl, show 0x80 ≤ _ by omega, show _ ≤ 0xBF by omega⟩

/-- The first of four bytes carries the upper bits and admits the second byte: no shorter
form would do, and the character is not too large. -/
theorem lead?_four {n : Nat} (h : 0x10000 ≤ n) (h' : n < 0x110000) :
    ∃ low high, lead? (UInt8.ofNat (0xF0 + n / 262144)) = some ⟨3, low, high, n / 262144⟩ ∧
      low.toNat ≤ 0x80 + n / 4096 % 64 ∧ 0x80 + n / 4096 % 64 ≤ high.toNat := by
  rw [lead?_byte (by omega), if_neg (by omega), if_neg (by omega), if_neg (by omega),
    if_neg (by omega), if_neg (by omega), if_neg (by omega)]
  by_cases hfirst : n / 262144 = 0
  · rw [if_pos (by omega), hfirst]
    exact ⟨_, _, rfl, show 0x90 ≤ _ by omega, show _ ≤ 0xBF by omega⟩
  · rw [if_neg (by omega)]
    by_cases hlast : n / 262144 = 4
    · rw [if_neg (by omega), if_pos (by omega), hlast]
      exact ⟨_, _, rfl, show 0x80 ≤ _ by omega, show _ ≤ 0x8F by omega⟩
    · rw [if_pos (by omega), Nat.add_sub_cancel_left]
      exact ⟨_, _, rfl, show 0x80 ≤ _ by omega, show _ ≤ 0xBF by omega⟩

theorem toNat_valid (c : Char) : c.toNat < 0xD800 ∨ 0xDFFF < c.toNat ∧ c.toNat < 0x110000 :=
  c.valid

/-- The bytes of a character, with any bytes behind them, begin with that character. -/
theorem first_encodeChar (c : Char) : ∃ b bs, encodeChar c = b :: bs ∧
    ∀ rest, first b (bs ++ rest) = .char c (bs.length + 1) := by
  have hvalid := toNat_valid c
  have hback : Char.ofNat c.toNat = c := Char.ofNat_toNat c
  unfold encodeChar
  by_cases hone : c.toNat < 0x80
  · rw [if_pos hone]
    refine ⟨_, _, rfl, fun rest => ?_⟩
    rw [first, lead?_byte (by omega), if_pos hone]
    simp only [trail, hback]
    rfl
  by_cases htwo : c.toNat < 0x800
  · rw [if_neg hone, if_pos htwo]
    refine ⟨_, _, rfl, fun rest => ?_⟩
    rw [first, lead?_byte (by omega), if_neg (by omega), if_neg (by omega), if_pos (by omega)]
    simp only [List.cons_append, List.nil_append, Nat.add_sub_cancel_left]
    rw [trail_byte_of_lt _ (by omega), trail, show 64 * (c.toNat / 64) + c.toNat % 64 = c.toNat
      by omega, hback]
    rfl
  by_cases hthree : c.toNat < 0x10000
  · rw [if_neg hone, if_neg htwo, if_pos hthree]
    obtain ⟨low, high, hlead, hlow, hhigh⟩ := lead?_three (by omega) hthree (by omega)
    refine ⟨_, _, rfl, fun rest => ?_⟩
    rw [first, hlead]
    simp only [List.cons_append, List.nil_append]
    rw [trail_byte _ (by omega) hlow hhigh, trail_byte_of_lt _ (by omega), trail,
      show 64 * (64 * (c.toNat / 4096) + (0x80 + c.toNat / 64 % 64) % 64) + c.toNat % 64 =
        c.toNat by omega, hback]
    rfl
  · rw [if_neg hone, if_neg htwo, if_neg hthree]
    obtain ⟨low, high, hlead, hlow, hhigh⟩ := lead?_four (n := c.toNat) (by omega) (by omega)
    refine ⟨_, _, rfl, fun rest => ?_⟩
    rw [first, hlead]
    simp only [List.cons_append, List.nil_append]
    rw [trail_byte _ (by omega) hlow hhigh, trail_byte_of_lt _ (by omega),
      trail_byte_of_lt _ (by omega), trail,
      show 64 * (64 * (64 * (c.toNat / 262144) + (0x80 + c.toNat / 4096 % 64) % 64) +
        c.toNat / 64 % 64) + c.toNat % 64 = c.toNat by omega, hback]
    rfl

theorem encodeChar_of_lt {c : Char} (h : c.toNat < 0x80) : encodeChar c = [UInt8.ofNat c.toNat] :=
  if_pos h

theorem le_byte {n : Nat} (h : 0x80 ≤ n) (h' : n < 256) : 0x80 ≤ (UInt8.ofNat n).toNat := by
  rwa [toNat_byte h']

/-- No byte of a character outside of ASCII is in ASCII. -/
theorem le_of_mem_encodeChar {c : Char} (h : ¬ c.toNat < 0x80) {b : UInt8}
    (hb : b ∈ encodeChar c) : 0x80 ≤ b.toNat := by
  have hvalid := toNat_valid c
  unfold encodeChar at hb
  rw [if_neg h] at hb
  split at hb
  · simp only [List.mem_cons, List.not_mem_nil, or_false] at hb
    rcases hb with rfl | rfl <;> exact le_byte (by omega) (by omega)
  split at hb
  · simp only [List.mem_cons, List.not_mem_nil, or_false] at hb
    rcases hb with rfl | rfl | rfl <;> exact le_byte (by omega) (by omega)
  · simp only [List.mem_cons, List.not_mem_nil, or_false] at hb
    rcases hb with rfl | rfl | rfl | rfl <;> exact le_byte (by omega) (by omega)

/-! ## Texts -/

theorem encode_cons (c : Char) (cs : List Char) : encode (c :: cs) = encodeChar c ++ encode cs :=
  List.flatMap_cons

theorem encode_append (cs ds : List Char) : encode (cs ++ ds) = encode cs ++ encode ds :=
  List.flatMap_append

theorem encode_of_ascii {cs : List Char} (h : ∀ c ∈ cs, c.toNat < 0x80) :
    encode cs = cs.map fun c => UInt8.ofNat c.toNat := by
  induction cs with
  | nil => rfl
  | cons c cs ih =>
    rw [encode_cons, encodeChar_of_lt (h c (by simp)), ih fun d hd => h d (by simp [hd])]
    rfl

/-- The bytes of a text are cut into its characters. -/
theorem piecesUpTo_encode {fuel : Nat} {cs : List Char} (h : (encode cs).length ≤ fuel) :
    piecesUpTo fuel (encode cs) = cs.map fun c => .char c (encodeChar c).length := by
  induction cs generalizing fuel with
  | nil => cases fuel <;> rfl
  | cons c cs ih =>
    obtain ⟨b, bs, hc, hfirst⟩ := first_encodeChar c
    rw [encode_cons, hc, List.cons_append] at h ⊢
    cases fuel with
    | zero => cases h
    | succ fuel =>
      have hrest : (encode cs).length ≤ fuel := by
        simp only [List.length_cons, List.length_append] at h
        omega
      rw [piecesUpTo, hfirst]
      simp only [Piece.size, Nat.add_sub_cancel, List.drop_left, ih hrest, List.map_cons, hc,
        List.length_cons]

theorem decode?_encode (cs : List Char) : decode? (encode cs) = some cs := by
  unfold decode? pieces
  rw [piecesUpTo_encode (Nat.le_refl _), List.mapM_map]
  induction cs with
  | nil => rfl
  | cons c cs ih => simp only [List.mapM_cons, Function.comp_apply, ih]; rfl

theorem toString?_encode (cs : List Char) : toString? (encode cs) = some (String.ofList cs) := by
  rw [toString?, decode?_encode, Option.map_some]

/-! ## Well-formed text -/

theorem toNat_ofNat {n : Nat} (h : n < 0xD800 ∨ 0xDFFF < n ∧ n < 0x110000) :
    (Char.ofNat n).toNat = n := by
  rw [Char.ofNat, dif_pos h]
  rfl

theorem byte_toNat {b : UInt8} {n : Nat} (h : b.toNat = n) : UInt8.ofNat n = b := by
  rw [← h, UInt8.ofNat_toNat]

/-- A byte that follows is in the range that is asked for. -/
theorem trail_eq_char {more : Nat} {low high : UInt8} {bits size n : Nat} {bytes : List UInt8}
    {c : Char} (h : trail (more + 1) low high bits size bytes = .char c n) :
    ∃ b rest, bytes = b :: rest ∧ low.toNat ≤ b.toNat ∧ b.toNat ≤ high.toNat ∧
      trail more 0x80 0xBF (64 * bits + b.toNat % 64) (size + 1) rest = .char c n := by
  cases bytes with
  | nil => cases h
  | cons b rest =>
    rw [trail] at h
    split at h
    · next hb =>
      exact ⟨b, rest, rfl, UInt8.le_iff_toNat_le.mp hb.1, UInt8.le_iff_toNat_le.mp hb.2, h⟩
    · cases h

variable {b low high : UInt8} {rest : List UInt8} {bits n : Nat} {c : Char}

/-- The bytes begin with those of the character, `n` of them. -/
def BeginsWith (b : UInt8) (rest : List UInt8) (c : Char) (n : Nat) : Prop :=
  ∃ bs behind, rest = bs ++ behind ∧ encodeChar c = b :: bs ∧ n = bs.length + 1

theorem beginsWith_two (h : trail 1 0x80 0xBF bits 1 rest = .char c n)
    (hb : b.toNat = 0xC0 + bits) (hlow : 2 ≤ bits) (hhigh : bits < 0x20) :
    BeginsWith b rest c n := by
  obtain ⟨d, rest, rfl, hd, hd', h⟩ := trail_eq_char h
  simp only [UInt8.reduceToNat] at hd hd'
  obtain ⟨rfl, rfl⟩ := Piece.char.inj h
  refine ⟨[d], rest, rfl, ?_, rfl⟩
  rw [encodeChar, toNat_ofNat (by omega), if_neg (by omega), if_pos (by omega),
    byte_toNat (b := b) (by omega), byte_toNat (b := d) (by omega)]

theorem beginsWith_three (h : trail 2 low high bits 1 rest = .char c n)
    (hb : b.toNat = 0xE0 + bits) (hbits : bits < 0x10) (hlow : 0x80 ≤ low.toNat)
    (hhigh : high.toNat ≤ 0xBF) (hzero : bits = 0 → 0xA0 ≤ low.toNat)
    (hsurrogate : bits = 0xD → high.toNat ≤ 0x9F) : BeginsWith b rest c n := by
  obtain ⟨d, rest, rfl, hd, hd', h⟩ := trail_eq_char h
  obtain ⟨e, rest, rfl, he, he', h⟩ := trail_eq_char h
  simp only [UInt8.reduceToNat] at he he'
  obtain ⟨rfl, rfl⟩ := Piece.char.inj h
  refine ⟨[d, e], rest, rfl, ?_, rfl⟩
  rw [encodeChar, toNat_ofNat (by omega), if_neg (by omega), if_neg (by omega), if_pos (by omega),
    byte_toNat (b := b) (by omega), byte_toNat (b := d) (by omega),
    byte_toNat (b := e) (by omega)]

theorem beginsWith_four (h : trail 3 low high bits 1 rest = .char c n)
    (hb : b.toNat = 0xF0 + bits) (hbits : bits ≤ 4) (hlow : 0x80 ≤ low.toNat)
    (hhigh : high.toNat ≤ 0xBF) (hzero : bits = 0 → 0x90 ≤ low.toNat)
    (hlast : bits = 4 → high.toNat ≤ 0x8F) : BeginsWith b rest c n := by
  obtain ⟨d, rest, rfl, hd, hd', h⟩ := trail_eq_char h
  obtain ⟨e, rest, rfl, he, he', h⟩ := trail_eq_char h
  obtain ⟨f, rest, rfl, hf, hf', h⟩ := trail_eq_char h
  simp only [UInt8.reduceToNat] at he he' hf hf'
  obtain ⟨rfl, rfl⟩ := Piece.char.inj h
  refine ⟨[d, e, f], rest, rfl, ?_, rfl⟩
  rw [encodeChar, toNat_ofNat (by omega), if_neg (by omega), if_neg (by omega), if_neg (by omega),
    byte_toNat (b := b) (by omega), byte_toNat (b := d) (by omega),
    byte_toNat (b := e) (by omega), byte_toNat (b := f) (by omega)]

/-- Where a text is read to begin with a character, it begins with the bytes of it. -/
theorem beginsWith_of_first (h : first b rest = .char c n) : BeginsWith b rest c n := by
  have hb := b.toNat_lt
  have hlead := lead?_byte hb
  rw [UInt8.ofNat_toNat] at hlead
  rw [first, hlead] at h
  -- the ranges of the first byte, which ask for no byte behind it up to three
  split_ifs at h with hone <;> simp only at h
  · obtain ⟨rfl, rfl⟩ := Piece.char.inj h
    refine ⟨[], rest, rfl, ?_, rfl⟩
    rw [encodeChar, toNat_ofNat (by omega), if_pos hone, UInt8.ofNat_toNat]
  · exact beginsWith_two h (by omega) (by omega) (by omega)
  · exact beginsWith_three h (by omega) (by omega) (by decide) (by decide) (by decide) (by decide)
  · exact beginsWith_three h (by omega) (by omega) (by decide) (by decide) (by decide) (by decide)
  · exact beginsWith_three h (by omega) (by omega) (by decide) (by decide) (by omega) (by omega)
  · exact beginsWith_four h (by omega) (by omega) (by decide) (by decide) (by decide) (by decide)
  · exact beginsWith_four h (by omega) (by omega) (by decide) (by decide) (by omega) (by omega)
  · exact beginsWith_four h (by omega) (by omega) (by decide) (by decide) (by decide) (by decide)

theorem eq_encode_of_pieces {fuel : Nat} {bytes : List UInt8} {cs : List Char}
    (hfuel : bytes.length ≤ fuel)
    (h : (piecesUpTo fuel bytes).mapM (fun | .char c _ => some c | .ill _ => none) = some cs) :
    bytes = encode cs := by
  induction fuel generalizing bytes cs with
  | zero =>
    obtain rfl := List.length_eq_zero_iff.mp (Nat.le_zero.mp hfuel)
    obtain rfl : [] = cs := Option.some.inj h
    rfl
  | succ fuel ih =>
    cases bytes with
    | nil =>
      obtain rfl : [] = cs := Option.some.inj h
      rfl
    | cons b rest =>
      rw [piecesUpTo] at h
      simp only [List.mapM_cons, Option.bind_eq_bind, Option.bind_eq_some_iff] at h
      obtain ⟨c, hc, cs', hcs, hcs'⟩ := h
      obtain rfl := Option.some.inj hcs'
      split at hc
      · next c' size hfirst =>
        obtain rfl := Option.some.inj hc
        obtain ⟨bs, behind, rfl, hchar, rfl⟩ := beginsWith_of_first hfirst
        rw [hfirst] at hcs
        simp only [Piece.size, Nat.add_sub_cancel, List.drop_left] at hcs
        have hbehind := ih (by simp at hfuel; omega) hcs
        rw [encode_cons, hchar, ← hbehind, List.cons_append]
      · cases hc

/-- Only the bytes of a text are read as that text. -/
theorem toString?_eq_some_iff {bytes : List UInt8} {s : String} :
    toString? bytes = some s ↔ bytes = ofString s := by
  constructor
  · intro h
    obtain ⟨cs, hcs, rfl⟩ := Option.map_eq_some_iff.mp h
    rw [ofString, String.toList_ofList]
    exact eq_encode_of_pieces (Nat.le_refl _) hcs
  · rintro rfl
    rw [ofString, toString?_encode, String.ofList_toList]

end Parley.Utf8
