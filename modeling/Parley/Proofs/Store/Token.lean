import Mathlib.Data.List.Chain
import Parley.Proofs.Text.Decimal
import Parley.Store.Condition

/-!
# The tokens of a statement

The text of a statement is a row of words and signs; blanks only keep words apart. A
placeholder is a word that begins with a dollar sign.

* `tokens_append`: the tokens of a text are those of its parts, if no word runs on from
  one part into the next.
* `Fragment.tokens_chars`: so the tokens of numbered fragments are those of each fragment,
  with a placeholder for each argument.
-/
namespace Parley.Store

/-- A word, or a sign that is part of no word. -/
inductive Token where
  | word (cs : List Char)
  | sign (c : Char)
  deriving DecidableEq, Repr

/-- The characters that words are made of. -/
def isWordChar (c : Char) : Bool :=
  c.isAlphanum || c == '_' || c == '$'

/-- Ends the word that is being read, if there is one. -/
def closeWord : List Char → List Token → List Token
  | [], ts => ts
  | cs, ts => .word cs :: ts

/-- Takes one more character in front of the word that a text begins with and the tokens
behind it. -/
def pushChar (c : Char) (s : List Char × List Token) : List Char × List Token :=
  if isWordChar c then (c :: s.1, s.2)
  else if c = ' ' then ([], closeWord s.1 s.2)
  else ([], .sign c :: closeWord s.1 s.2)

/-- The word that a text begins with, and the tokens behind it. -/
def scan (cs : List Char) : List Char × List Token :=
  cs.foldr pushChar ([], [])

def tokens (cs : List Char) : List Token :=
  closeWord (scan cs).1 (scan cs).2

/-! ## Parts of a text -/

/-- The text does not begin in a word. -/
def Opens (cs : List Char) : Prop :=
  (scan cs).1 = []

theorem opens_nil : Opens [] := rfl

theorem opens_cons {c : Char} (h : isWordChar c = false) (cs : List Char) : Opens (c :: cs) := by
  simp only [Opens, scan, List.foldr_cons, pushChar, h, Bool.false_eq_true, if_false]
  split <;> rfl

theorem scan_append {b : List Char} (h : Opens b) (a : List Char) :
    scan (a ++ b) = ((scan a).1, (scan a).2 ++ tokens b) := by
  have hb : tokens b = (scan b).2 := by unfold tokens; rw [h]; rfl
  induction a with
  | nil => rw [hb]; exact Prod.ext h rfl
  | cons c a ih =>
    have hclose : ∀ w ts, closeWord w (ts ++ tokens b) = closeWord w ts ++ tokens b := by
      intro w ts
      cases w <;> rfl
    simp only [scan, List.cons_append, List.foldr_cons] at ih ⊢
    rw [ih]
    unfold pushChar
    split
    · rfl
    · split <;> simp [hclose]

theorem tokens_append {b : List Char} (h : Opens b) (a : List Char) :
    tokens (a ++ b) = tokens a ++ tokens b := by
  simp only [tokens, scan_append h]
  cases (scan a).1 <;> rfl

theorem tokens_append_of_closed {c : Char} (h : isWordChar c = false) (a b : List Char) :
    tokens (a ++ [c] ++ b) = tokens (a ++ [c]) ++ tokens b := by
  have hcb : tokens (c :: b) = tokens [c] ++ tokens b := by
    simp only [tokens, scan, List.foldr_cons, List.foldr_nil, pushChar, h, Bool.false_eq_true,
      if_false]
    split <;> rfl
  rw [List.append_assoc, List.singleton_append, tokens_append (opens_cons h b),
    tokens_append (opens_cons h []), hcb, List.append_assoc]

theorem tokens_word {cs : List Char} (h : ∀ c ∈ cs, isWordChar c = true) (hne : cs ≠ []) :
    tokens cs = [.word cs] := by
  have hscan : scan cs = (cs, []) := by
    clear hne
    induction cs with
    | nil => rfl
    | cons c cs ih =>
      have := ih fun d hd => h d (by simp [hd])
      simp only [scan, List.foldr_cons] at this ⊢
      rw [this, pushChar, if_pos (h c (by simp))]
  unfold tokens
  rw [hscan]
  cases cs with
  | nil => exact absurd rfl hne
  | cons c cs => rfl

/-! ## Fragments -/

/-- The placeholder for the argument that has so many in front of it. -/
def placeholder (m : Nat) : List Char :=
  '$' :: (Decimal.ofNat (m + 1)).toList

theorem isWordChar_placeholder {m : Nat} : ∀ c ∈ placeholder m, isWordChar c = true := by
  intro c hc
  rcases List.mem_cons.mp hc with rfl | hc
  · rfl
  · simp [isWordChar, Char.isAlphanum, Decimal.isDigit_of_mem_ofNat hc]

namespace Fragment

/-- The characters of the text with numbered placeholders. -/
def chars (m : Nat) (fs : List Fragment) : List Char :=
  (number (m + 1) fs).toList

/-- The tokens of fragments, the first placeholder having `m` in front of it. -/
def numbered : Nat → List Fragment → List Token
  | _, [] => []
  | m, text s :: fs => tokens s.toList ++ numbered m fs
  | m, arg _ :: fs => .word (placeholder m) :: numbered (m + 1) fs

/-- The fragment does not end in a word. -/
def closes : Fragment → Bool
  | text s => s.toList.getLast?.any fun c => !isWordChar c
  | arg _ => false

/-- The fragment does not begin in a word. -/
def opens : Fragment → Bool
  | text s => s.toList.head?.any fun c => !isWordChar c
  | arg _ => false

/-- No word runs on from one fragment into the other. -/
def Apart (f g : Fragment) : Prop :=
  f.closes = true ∨ g.opens = true

@[simp] theorem chars_nil (m : Nat) : chars m [] = [] := rfl

@[simp] theorem chars_text (m : Nat) (s : String) (fs : List Fragment) :
    chars m (text s :: fs) = s.toList ++ chars m fs := by
  simp [chars, number]

@[simp] theorem chars_arg (m : Nat) (a : Arg) (fs : List Fragment) :
    chars m (arg a :: fs) = placeholder m ++ chars (m + 1) fs := by
  simp [chars, number, placeholder]

theorem opens_chars {m : Nat} {f : Fragment} {fs : List Fragment} (h : f.opens = true) :
    Opens (chars m (f :: fs)) := by
  cases f with
  | arg a => cases h
  | text s =>
    rw [chars_text]
    unfold opens at h
    cases hs : s.toList with
    | nil => simp [hs] at h
    | cons c cs =>
      rw [List.cons_append]
      exact opens_cons (by simpa [hs] using h) _

theorem tokens_text_append {s : String} (h : (text s).closes = true) (b : List Char) :
    tokens (s.toList ++ b) = tokens s.toList ++ tokens b := by
  unfold closes at h
  cases hl : s.toList.getLast? with
  | none => simp [hl] at h
  | some c =>
    obtain ⟨a, ha⟩ := List.getLast?_eq_some_iff.mp hl
    rw [ha]
    exact tokens_append_of_closed (by simpa [hl] using h) a b

/-- The tokens of fragments that stand apart are those of each fragment. -/
theorem tokens_chars {fs : List Fragment} (h : fs.IsChain Apart) (m : Nat) :
    tokens (chars m fs) = numbered m fs := by
  induction fs generalizing m with
  | nil => rfl
  | cons f fs ih =>
    have hnext : ∀ k, Opens (chars k fs) ∨ f.closes = true := by
      intro k
      cases fs with
      | nil => exact Or.inl opens_nil
      | cons g gs =>
        rcases (List.isChain_cons_cons.mp h).1 with hc | ho
        · exact Or.inr hc
        · exact Or.inl (opens_chars ho)
    cases f with
    | text s =>
      rw [chars_text, numbered, ← ih h.tail]
      rcases hnext m with ho | hc
      · exact tokens_append ho _
      · exact tokens_text_append hc _
    | arg a =>
      have ho : Opens (chars (m + 1) fs) := (hnext (m + 1)).resolve_right (by simp [closes])
      rw [chars_arg, numbered, ← ih h.tail, tokens_append ho,
        tokens_word isWordChar_placeholder (by simp [placeholder])]
      rfl

/-! ## Fragments that stand apart -/

theorem closes_text_append (s : String) {t : String} (h : (text t).closes = true) :
    (text (s ++ t)).closes = true := by
  simp only [closes, String.toList_append, List.getLast?_append] at h ⊢
  cases ht : t.toList.getLast? with
  | none => simp [ht] at h
  | some c => simpa [ht] using h

theorem isChain_cons {f : Fragment} {fs : List Fragment} (hfs : fs.IsChain Apart)
    (h : f.closes = true) : (f :: fs).IsChain Apart :=
  List.isChain_cons.mpr ⟨fun _ _ => Or.inl h, hfs⟩

theorem isChain_append {fs gs : List Fragment} (hfs : fs.IsChain Apart) (hgs : gs.IsChain Apart)
    (h : ∀ g ∈ gs.head?, g.opens = true) : (fs ++ gs).IsChain Apart :=
  List.isChain_append.mpr ⟨hfs, hgs, fun _ _ g hg => Or.inr (h g hg)⟩

end Fragment

namespace Condition

theorem isChain_fragments (p : Condition) : p.fragments.IsChain Fragment.Apart := by
  have hclose : [Fragment.text ")"].IsChain Fragment.Apart := .singleton _
  induction p with
  | isFalse c => exact .singleton _
  | isNull c => exact .singleton _
  | equals c a => exact Fragment.isChain_cons (.singleton _) (Fragment.closes_text_append _ rfl)
  | notDistinct c a =>
    exact Fragment.isChain_cons (.singleton _) (Fragment.closes_text_append _ rfl)
  | isAny c ids =>
    refine Fragment.isChain_cons ?_ (Fragment.closes_text_append _ rfl)
    exact Fragment.isChain_append (.singleton _) hclose (by simp [Fragment.opens, isWordChar])
  | past c b => exact Fragment.isChain_cons (.singleton _) (Fragment.closes_text_append _ rfl)
  | not p ih =>
    refine Fragment.isChain_append (Fragment.isChain_cons ih rfl) hclose ?_
    intro g hg
    cases hg
    rfl
  | or p q ihp ihq =>
    refine Fragment.isChain_append (Fragment.isChain_append (Fragment.isChain_cons ihp rfl)
      (Fragment.isChain_cons ihq rfl) ?_) hclose ?_
    all_goals
      intro g hg
      cases hg
      rfl

theorem isChain_flatMap (qs : List Condition) :
    (qs.flatMap fun q => .text " AND " :: q.fragments).IsChain Fragment.Apart ∧
      ∀ g ∈ (qs.flatMap fun q => .text " AND " :: q.fragments).head?, g.opens = true := by
  induction qs with
  | nil => exact ⟨.nil, by simp⟩
  | cons q qs ih =>
    rw [List.flatMap_cons]
    refine ⟨Fragment.isChain_append (Fragment.isChain_cons q.isChain_fragments rfl) ih.1 ih.2, ?_⟩
    intro g hg
    cases hg
    rfl

theorem isChain_whereAll (ps : List Condition) : (whereAll ps).IsChain Fragment.Apart := by
  cases ps with
  | nil => exact .nil
  | cons p ps =>
    obtain ⟨hps, hopens⟩ := isChain_flatMap ps
    exact Fragment.isChain_append (Fragment.isChain_cons p.isChain_fragments rfl) hps hopens

theorem opens_whereAll (ps : List Condition) : ∀ g ∈ (whereAll ps).head?, g.opens = true := by
  cases ps with
  | nil => simp [whereAll]
  | cons p ps =>
    intro g hg
    cases hg
    rfl

end Condition

end Parley.Store
