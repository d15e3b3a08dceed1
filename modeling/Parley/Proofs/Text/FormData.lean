import Parley.Proofs.Text.Blank
import Parley.Proofs.Text.Utf8
import Parley.Proofs.Uuid.Spelling
import Parley.Text.Percent

/-!
# Form data

The pairs of form data are those of its pieces, one after the other. A text may be written in form
data in many ways: each character as it is or by its bytes in hexadecimal digits of either case, a
space also as a plus sign. However it is written, it is read back.

* `formPairs_encode`: form data is read piece by piece.
* `formText_of_written`, `formPairs_of_written`: what is written in any such way is read back.
-/
namespace Parley

/-! ## Marks in texts of bytes -/

namespace Text

/-- What stands in front of the first mark belongs to the first piece. -/
theorem splitWhere_append_of_none {α : Type} {p : α → Bool} {cs : List α}
    (h : ∀ c ∈ cs, p c = false) (ds : List α) :
    ∃ piece pieces, splitWhere p ds = piece :: pieces ∧
      splitWhere p (cs ++ ds) = (cs ++ piece) :: pieces := by
  obtain ⟨piece, pieces, hds⟩ := List.exists_cons_of_ne_nil (splitWhere_ne_nil p ds)
  refine ⟨piece, pieces, hds, ?_⟩
  induction cs with
  | nil => exact hds
  | cons c cs ih =>
    obtain ⟨hc, hcs⟩ := List.forall_mem_cons.mp h
    rw [List.cons_append, splitWhere, if_neg (by simp [hc]), ih hcs]
    rfl

end Text

namespace Utf8

/-- A character in ASCII stands for itself, and its byte is in no other character. -/
theorem mem_encodeChar_ascii (mark : Char) {c : Char} (hmark : mark.toNat < 0x80)
    (h : UInt8.ofNat mark.toNat ∈ encodeChar c) : c = mark := by
  by_cases hc : c.toNat < 0x80
  · rw [encodeChar_of_lt hc, List.mem_singleton] at h
    have hnat := congrArg UInt8.toNat h
    rw [toNat_byte (by omega), toNat_byte (by omega)] at hnat
    rw [← Char.ofNat_toNat c, ← hnat, Char.ofNat_toNat]
  · have := le_of_mem_encodeChar hc h
    rw [toNat_byte (by omega)] at this
    omega

theorem mem_encode_ascii (mark : Char) {cs : List Char} (hmark : mark.toNat < 0x80)
    (h : UInt8.ofNat mark.toNat ∈ encode cs) : mark ∈ cs := by
  obtain ⟨c, hc, hmem⟩ := List.mem_flatMap.mp h
  exact mem_encodeChar_ascii mark hmark hmem ▸ hc

/-- A text is cut at its marks before it is encoded or afterwards. -/
theorem splitWhere_encode (mark : Char) (hmark : mark.toNat < 0x80) (cs : List Char) :
    Text.splitWhere (· == UInt8.ofNat mark.toNat) (encode cs) =
      (Text.splitWhere (· == mark) cs).map encode := by
  induction cs with
  | nil => rfl
  | cons c cs ih =>
    rw [encode_cons]
    by_cases hc : c = mark
    · rw [hc, encodeChar_of_lt hmark, List.singleton_append, Text.splitWhere,
        if_pos (beq_self_eq_true _), ih, Text.splitWhere, if_pos (beq_self_eq_true _)]
      rfl
    · have hnone : ∀ b ∈ encodeChar c, (b == UInt8.ofNat mark.toNat) = false := by
        intro b hb
        rw [beq_eq_false_iff_ne]
        rintro rfl
        exact hc (mem_encodeChar_ascii mark hmark hb)
      obtain ⟨piece, pieces, hrest, hsplit⟩ := Text.splitWhere_append_of_none hnone (encode cs)
      obtain ⟨first, rest, hcs⟩ :=
        List.exists_cons_of_ne_nil (Text.splitWhere_ne_nil (· == mark) cs)
      rw [hrest, hcs, List.map_cons, List.cons.injEq] at ih
      rw [hsplit, Text.splitWhere, if_neg (by simp [hc]), hcs, ih.1, ih.2, List.map_cons,
        encode_cons]

theorem decodeLossy_encode (cs : List Char) : decodeLossy (encode cs) = cs := by
  rw [decodeLossy, pieces, piecesUpTo_encode (Nat.le_refl _), List.map_map]
  exact List.map_id' cs

end Utf8

namespace Percent

open Utf8 (encode encodeChar encode_cons encode_append)

/-! ## Reading piece by piece -/

/-- The pair that a piece stands for. -/
def formPair (piece : List UInt8) : String × String :=
  match Text.splitFirst? (· == 0x3D) piece with
  | some (name, value) => (formText name, formText value)
  | none => (formText piece, "")

def pairsOf (pieces : List (List UInt8)) : List (String × String) :=
  (pieces.filter fun piece => !piece.isEmpty).map formPair

theorem formPairs_eq (bytes : List UInt8) :
    formPairs bytes = pairsOf (Text.splitWhere (· == 0x26) bytes) := rfl

theorem pairsOf_eq_flatMap (pieces : List (List UInt8)) :
    pairsOf pieces = pieces.flatMap fun piece => pairsOf [piece] := by
  induction pieces with
  | nil => rfl
  | cons piece pieces ih =>
    rw [List.flatMap_cons, ← ih, pairsOf, ← List.singleton_append, List.filter_append,
      List.map_append]
    rfl

theorem formPairs_of_not_mem {piece : List UInt8} (h : ∀ b ∈ piece, (b == 0x26) = false) :
    formPairs piece = pairsOf [piece] := by
  rw [formPairs_eq, Text.splitWhere_of_none h]

theorem formPairs_eq_flatMap (bytes : List UInt8) :
    formPairs bytes = (Text.splitWhere (· == 0x26) bytes).flatMap formPairs := by
  rw [formPairs_eq, pairsOf_eq_flatMap]
  exact List.flatMap_congr fun piece hpiece =>
    (formPairs_of_not_mem (Text.not_mem_of_mem_splitWhere hpiece)).symm

/-- Form data is read piece by piece. -/
theorem formPairs_encode (query : List Char) : formPairs (encode query) =
    (Text.splitWhere (· == '&') query).flatMap fun piece => formPairs (encode piece) := by
  rw [formPairs_eq_flatMap, ← List.flatMap_map encode]
  congr 1
  exact Utf8.splitWhere_encode '&' (by decide) query

/-! ## Writing -/

/-- A byte may be written as a percent sign and two digits of either case. -/
inductive Escaped : List UInt8 → List Char → Prop
  | nil : Escaped [] []
  | cons {b : UInt8} {bytes : List UInt8} {x y : Char} {high low : Nat} {ws : List Char}
    (high_eq : Hex.value? x = some high) (low_eq : Hex.value? y = some low)
    (byte : b.toNat = 16 * high + low) (rest : Escaped bytes ws) :
    Escaped (b :: bytes) ('%' :: x :: y :: ws)

/-- The characters that have a meaning in form data. -/
def marks : List Char := ['%', '+', '&', '=']

/-- How a text may be written in form data: each character as it is unless it has a meaning there,
or by its bytes; and a space as a plus sign. -/
inductive Written : List Char → List Char → Prop
  | nil : Written [] []
  | plain {c : Char} {cs ws : List Char} (char : c ∉ marks) (rest : Written cs ws) :
    Written (c :: cs) (c :: ws)
  | plus {cs ws : List Char} (rest : Written cs ws) : Written (' ' :: cs) ('+' :: ws)
  | escaped {c : Char} {cs es ws : List Char} (char : Escaped (encodeChar c) es)
    (rest : Written cs ws) : Written (c :: cs) (es ++ ws)

variable {bytes rest : List UInt8} {c : Char} {cs ws es : List Char}

theorem written_of_plain (h : cs.all (fun c => !marks.contains c) = true) : Written cs cs := by
  induction cs with
  | nil => exact .nil
  | cons c cs ih =>
    rw [List.all_cons, Bool.and_eq_true] at h
    exact .plain (by simpa using h.1) (ih h.2)

/-! ## Reading what was written -/

theorem not_mem_marks_of_value? {d : Nat} (h : Hex.value? c = some d) : c ∉ marks := by
  have hrange := Hex.range_of_value? h
  rw [marks]
  simp only [List.mem_cons, List.not_mem_nil, or_false, not_or]
  refine ⟨?_, ?_, ?_, ?_⟩ <;> (rintro rfl; revert hrange; decide)

theorem not_mem_of_escaped (h : Escaped bytes es) {mark : Char} (hmark : mark ∈ ['&', '=']) :
    mark ∉ es := by
  have hmarks : mark ∈ marks := by
    simp only [List.mem_cons, List.not_mem_nil, or_false] at hmark
    rcases hmark with rfl | rfl <;> decide
  induction h with
  | nil => simp
  | cons high_eq low_eq _ _ ih =>
    simp only [List.mem_cons, not_or]
    refine ⟨?_, ?_, ?_, ih⟩
    · rintro rfl
      revert hmark
      decide
    · rintro rfl
      exact not_mem_marks_of_value? high_eq hmarks
    · rintro rfl
      exact not_mem_marks_of_value? low_eq hmarks

theorem not_mem_of_written (h : Written cs ws) {mark : Char} (hmark : mark ∈ ['&', '=']) :
    mark ∉ ws := by
  have hne : mark ∈ marks ∧ mark ≠ '+' := by
    simp only [List.mem_cons, List.not_mem_nil, or_false] at hmark
    rcases hmark with rfl | rfl <;> decide
  induction h with
  | nil => simp
  | plain char _ ih =>
    rw [List.mem_cons, not_or]
    exact ⟨fun heq => char (heq ▸ hne.1), ih⟩
  | plus _ ih =>
    rw [List.mem_cons, not_or]
    exact ⟨hne.2, ih⟩
  | escaped char _ ih =>
    rw [List.mem_append, not_or]
    exact ⟨not_mem_of_escaped char hmark, ih⟩

theorem decode_cons_of_ne {b : UInt8} (h : b ≠ 0x25) (rest : List UInt8) :
    decode (b :: rest) = b :: decode rest := by
  rw [decode.eq_def]
  split
  · next heq => cases heq
  · next heq => cases heq; exact absurd rfl h
  · next heq => cases heq; rfl

theorem decode_percent {x y : UInt8} {high low : Nat}
    (hhigh : Hex.value? (Char.ofNat x.toNat) = some high)
    (hlow : Hex.value? (Char.ofNat y.toNat) = some low) (rest : List UInt8) :
    decode (0x25 :: x :: y :: rest) = UInt8.ofNat (16 * high + low) :: decode rest := by
  rw [decode, hhigh, hlow]

/-- The bytes with a space for every plus sign. -/
def unplus (b : UInt8) : UInt8 :=
  if b = 0x2B then 0x20 else b

theorem formText_eq (bytes : List UInt8) :
    formText bytes = String.ofList (Utf8.decodeLossy (decode (bytes.map unplus))) := rfl

theorem decode_append (h : ∀ b ∈ bytes, b ≠ 0x2B ∧ b ≠ 0x25) (rest : List UInt8) :
    decode (bytes.map unplus ++ rest) = bytes ++ decode rest := by
  induction bytes with
  | nil => rfl
  | cons b bytes ih =>
    obtain ⟨hb, hbytes⟩ := List.forall_mem_cons.mp h
    rw [List.map_cons, List.cons_append, unplus, if_neg hb.1, decode_cons_of_ne hb.2, ih hbytes,
      List.cons_append]

theorem decode_plain (h : c ∉ marks) (rest : List UInt8) :
    decode ((encodeChar c).map unplus ++ rest) = encodeChar c ++ decode rest := by
  refine decode_append (fun b hb => ⟨?_, ?_⟩) rest
  · rintro rfl
    obtain rfl := Utf8.mem_encodeChar_ascii '+' (by decide) hb
    exact h (by decide)
  · rintro rfl
    obtain rfl := Utf8.mem_encodeChar_ascii '%' (by decide) hb
    exact h (by decide)

/-- A digit is a byte of its own, which is no plus sign. -/
theorem map_unplus_of_value? {d : Nat} (h : Hex.value? c = some d) :
    ∃ b, (encodeChar c).map unplus = [b] ∧ Hex.value? (Char.ofNat b.toNat) = some d := by
  have hrange := Hex.range_of_value? h
  have htoNat : (UInt8.ofNat c.toNat).toNat = c.toNat := Utf8.toNat_byte (by omega)
  have hplus : UInt8.ofNat c.toNat ≠ 0x2B := by
    intro heq
    rw [heq] at htoNat
    change 0x2B = c.toNat at htoNat
    omega
  refine ⟨UInt8.ofNat c.toNat, ?_, by rw [htoNat, Char.ofNat_toNat, h]⟩
  rw [Utf8.encodeChar_of_lt (by omega), List.map_singleton, unplus, if_neg hplus]

theorem decode_escaped (h : Escaped bytes es) (ws : List Char) :
    decode ((encode (es ++ ws)).map unplus) = bytes ++ decode ((encode ws).map unplus) := by
  induction h with
  | nil => rfl
  | @cons b _ _ _ _ _ _ high_eq low_eq byte _ ih =>
    obtain ⟨x, hx, hhigh⟩ := map_unplus_of_value? high_eq
    obtain ⟨y, hy, hlow⟩ := map_unplus_of_value? low_eq
    have hpercent : (encodeChar '%').map unplus = [0x25] := by decide
    simp only [List.cons_append, encode_cons, List.map_append, hpercent, hx, hy, List.nil_append]
    rw [decode_percent hhigh hlow, ih, ← byte, UInt8.ofNat_toNat]

theorem decode_written (h : Written cs ws) : decode ((encode ws).map unplus) = encode cs := by
  induction h with
  | nil => rfl
  | plain char _ ih => rw [encode_cons, encode_cons, List.map_append, decode_plain char, ih]
  | plus _ ih =>
    have hplus : (encodeChar '+').map unplus = [0x20] := by decide
    rw [encode_cons, encode_cons, List.map_append, hplus, List.singleton_append,
      decode_cons_of_ne (by decide), ih]
    rfl
  | escaped char _ ih => rw [decode_escaped char, ih, encode_cons]

/-- A text is read back, however it is written. -/
theorem formText_of_written (h : Written cs ws) : formText (encode ws) = String.ofList cs := by
  rw [formText_eq, decode_written h, Utf8.decodeLossy_encode]

theorem formPairs_of_written {name value ns vs : List Char} (hname : Written name ns)
    (hvalue : Written value vs) :
    formPairs (encode (ns ++ '=' :: vs)) = [(String.ofList name, String.ofList value)] := by
  have hamp : ∀ b ∈ encode (ns ++ '=' :: vs), (b == 0x26) = false := by
    intro b hb
    rw [beq_eq_false_iff_ne]
    rintro rfl
    have hmem := Utf8.mem_encode_ascii '&' (by decide) hb
    simp only [List.mem_append, List.mem_cons] at hmem
    rcases hmem with hmem | hmem | hmem
    · exact not_mem_of_written hname (by decide) hmem
    · revert hmem
      decide
    · exact not_mem_of_written hvalue (by decide) hmem
  have hsplit : Text.splitFirst? (· == 0x3D) (encode (ns ++ '=' :: vs)) =
      some (encode ns, encode vs) := by
    refine Text.splitFirst?_mark_eq_some_iff.mpr ⟨?_, fun hb => ?_⟩
    · rw [encode_append, encode_cons]
      rfl
    · exact not_mem_of_written hname (by decide)
        (Utf8.mem_encode_ascii '=' (by decide) hb)
  have hne : (encode (ns ++ '=' :: vs)).isEmpty = false := by
    rw [encode_append, encode_cons, List.isEmpty_eq_false_iff]
    simp [encodeChar]
  rw [formPairs_of_not_mem hamp, pairsOf, List.filter_singleton, hne]
  simp only [Bool.not_false, cond_true, List.map_singleton, formPair, hsplit,
    formText_of_written hname, formText_of_written hvalue]

end Percent
end Parley
