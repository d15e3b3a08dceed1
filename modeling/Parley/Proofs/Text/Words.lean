import Mathlib.Data.List.Chain
import Parley.Proofs.Text.Blank

/-!
# Words and what stands between them

A text is cut into words at its blanks, whichever these are and however many stand together. Of all
texts with the same words one is neat: a single space between each word and the next, and nothing
around them.

* `words_eq_iff`: a text has just the words that are spaced out in it.
* `neat_joined`, `joined_words_of_neat`: joined words are neat, and neat text is its joined words.
* `trimmed_trim`: trimmed text has no blank at its ends.
-/
namespace Parley.Text

/-! ## Ends -/

/-- There is no blank at either end. -/
structure Trimmed (cs : List Char) : Prop where
  head : ∀ c ∈ cs.head?, isBlank c = false
  last : ∀ c ∈ cs.getLast?, isBlank c = false

theorem trimmed_nil : Trimmed [] :=
  ⟨by simp, by simp⟩

theorem not_blank_of_mem_head?_dropWhile {cs : List Char} {c : Char}
    (h : c ∈ (cs.dropWhile isBlank).head?) : isBlank c = false := by
  have hhead := List.head?_dropWhile_not isBlank cs
  rw [Option.mem_def.mp h] at hhead
  simpa using hhead

theorem trimmed_trimChars (cs : List Char) : Trimmed (trimChars cs) where
  head c hc := by
    rw [trimChars, ← dropWhile_trimEnd (List.dropWhile_idempotent _ _)] at hc
    exact not_blank_of_mem_head?_dropWhile hc
  last c hc := by
    rw [trimChars, trimEnd, List.getLast?_reverse] at hc
    exact not_blank_of_mem_head?_dropWhile hc

theorem trimmed_trim (s : String) : Trimmed (trim s).toList := by
  rw [trim, String.toList_ofList]
  exact trimmed_trimChars s.toList

theorem trimChars_of_trimmed {cs : List Char} (h : Trimmed cs) : trimChars cs = cs := by
  have hfront {ds : List Char} (hhead : ∀ c ∈ ds.head?, isBlank c = false) :
      ds.dropWhile isBlank = ds := by
    cases ds with
    | nil => rfl
    | cons d ds => exact List.dropWhile_cons_of_neg (by simp [hhead d rfl])
  rw [trimChars, hfront h.head, trimEnd, hfront, List.reverse_reverse]
  rw [List.head?_reverse]
  exact h.last

theorem trimChars_eq_nil_iff {cs : List Char} :
    trimChars cs = [] ↔ ∀ c ∈ cs, isBlank c = true := by
  constructor
  · intro h
    have hend : trimEnd (cs.dropWhile isBlank) = [] := h
    rw [trimEnd, List.reverse_eq_nil_iff, List.dropWhile_eq_nil_iff] at hend
    rw [← List.dropWhile_eq_nil_iff]
    cases hrest : cs.dropWhile isBlank with
    | nil => rfl
    | cons c rest =>
      have hhead : c ∈ (cs.dropWhile isBlank).head? := by
        rw [hrest]
        rfl
      have hc : isBlank c = false := not_blank_of_mem_head?_dropWhile hhead
      have hblank := hend c (by simp [hrest])
      rw [hc] at hblank
      cases hblank
  · intro h
    rw [trimChars, List.dropWhile_eq_nil_iff.mpr h]
    rfl

theorem trim_eq_empty_iff {s : String} : trim s = "" ↔ ∀ c ∈ s.toList, isBlank c = true := by
  rw [← trimChars_eq_nil_iff, trim, ← String.toList_inj, String.toList_ofList]
  rfl

/-! ## Words -/

/-- A word: one character or more, none of them a blank. -/
structure IsWord (w : List Char) : Prop where
  ne_nil : w ≠ []
  not_blank : ∀ c ∈ w, isBlank c = false

/-- In the text these words stand in order, with blanks between them and perhaps around them. -/
inductive Spaced : List Char → List (List Char) → Prop
  | nil : Spaced [] []
  | blank {c : Char} {cs : List Char} {ws : List (List Char)} (blank : isBlank c = true)
    (rest : Spaced cs ws) : Spaced (c :: cs) ws
  | last {w : List Char} (word : IsWord w) : Spaced w [w]
  | word {w cs : List Char} {c : Char} {ws : List (List Char)} (word : IsWord w)
    (blank : isBlank c = true) (rest : Spaced cs ws) : Spaced (w ++ c :: cs) (w :: ws)

theorem IsWord.isEmpty {w : List Char} (h : IsWord w) : w.isEmpty = false := by
  simpa using h.ne_nil

theorem words_of_spaced {cs : List Char} {ws : List (List Char)} (h : Spaced cs ws) :
    words cs = ws := by
  induction h with
  | nil => rfl
  | blank hblank _ ih =>
    rw [words, splitWhere, if_pos hblank]
    exact ih
  | last hword => rw [words, splitWhere_of_none hword.not_blank]; simp [hword.isEmpty]
  | @word w cs c ws hword hblank _ ih =>
    rw [words, splitWhere_append cs hword.not_blank hblank, List.filter_cons, hword.isEmpty]
    exact congrArg (w :: ·) ih

/-- A character in front of a text is part of its first word, or is a word. -/
theorem Spaced.cons_of_not_blank {c : Char} {cs : List Char} {ws : List (List Char)}
    (hc : isBlank c = false) (h : Spaced cs ws) : ∃ ws', Spaced (c :: cs) ws' := by
  have hword {w : List Char} (hw : ∀ d ∈ w, isBlank d = false) : IsWord (c :: w) :=
    ⟨List.cons_ne_nil _ _, List.forall_mem_cons.mpr ⟨hc, hw⟩⟩
  cases h with
  | nil => exact ⟨_, .last (hword (by simp))⟩
  | blank hblank rest => exact ⟨_, .word (w := [c]) (hword (by simp)) hblank rest⟩
  | last hw => exact ⟨_, .last (hword hw.not_blank)⟩
  | @word w _ _ _ hw hblank rest =>
    exact ⟨_, .word (w := c :: w) (hword hw.not_blank) hblank rest⟩

theorem exists_spaced (cs : List Char) : ∃ ws, Spaced cs ws := by
  induction cs with
  | nil => exact ⟨[], .nil⟩
  | cons c cs ih =>
    obtain ⟨ws, h⟩ := ih
    cases hc : isBlank c with
    | true => exact ⟨ws, .blank hc h⟩
    | false => exact h.cons_of_not_blank hc

/-- A text has just the words that are spaced out in it. -/
theorem words_eq_iff {cs : List Char} {ws : List (List Char)} : words cs = ws ↔ Spaced cs ws := by
  constructor
  · rintro rfl
    obtain ⟨ws, h⟩ := exists_spaced cs
    rwa [words_of_spaced h]
  · exact words_of_spaced

theorem spaced_words (cs : List Char) : Spaced cs (words cs) :=
  words_eq_iff.mp rfl

theorem Spaced.isWord {cs : List Char} {ws : List (List Char)} (h : Spaced cs ws) :
    ∀ w ∈ ws, IsWord w := by
  induction h with
  | nil => simp
  | blank _ _ ih => exact ih
  | last hword => simpa using hword
  | word hword _ _ ih => exact List.forall_mem_cons.mpr ⟨hword, ih⟩

theorem Spaced.blank_of_eq_nil {cs : List Char} {ws : List (List Char)} (h : Spaced cs ws)
    (hws : ws = []) : ∀ c ∈ cs, isBlank c = true := by
  induction h with
  | nil => simp
  | blank hblank _ ih => exact List.forall_mem_cons.mpr ⟨hblank, ih hws⟩
  | last => cases hws
  | word => cases hws

theorem words_eq_nil_iff {cs : List Char} : words cs = [] ↔ ∀ c ∈ cs, isBlank c = true := by
  refine ⟨(spaced_words cs).blank_of_eq_nil, fun h => words_of_spaced ?_⟩
  induction cs with
  | nil => exact .nil
  | cons c cs ih =>
    obtain ⟨hc, hcs⟩ := List.forall_mem_cons.mp h
    exact .blank hc (ih hcs)

/-! ## Neat text -/

/-- Words with a single space between each and the next. -/
def joined (ws : List (List Char)) : List Char :=
  [' '].intercalate ws

/-- There is no blank at either end, all blanks are spaces, and each of them stands alone. -/
structure Neat (cs : List Char) : Prop where
  trimmed : Trimmed cs
  space : ∀ c ∈ cs, isBlank c = true → c = ' '
  alone : cs.IsChain fun c d => isBlank c = false ∨ isBlank d = false

theorem neat_nil : Neat [] :=
  ⟨trimmed_nil, by simp, .nil⟩

theorem IsWord.neat {w : List Char} (h : IsWord w) : Neat w where
  trimmed := ⟨fun c hc => h.not_blank c (List.mem_of_mem_head? hc),
    fun c hc => h.not_blank c (List.mem_of_getLast? hc)⟩
  space c hc hblank := by
    rw [h.not_blank c hc] at hblank
    cases hblank
  alone := (List.pairwise_of_forall_mem_list fun c hc _ _ => .inl (h.not_blank c hc)).isChain

/-- Neat texts with a space between them are neat. -/
theorem Neat.append_space {cs ds : List Char} (hcs : Neat cs) (hne : cs ≠ []) (hds : Neat ds)
    (hne' : ds ≠ []) : Neat (cs ++ ' ' :: ds) where
  trimmed := by
    constructor
    · rw [List.head?_append_of_ne_nil _ hne]
      exact hcs.trimmed.head
    · rw [List.getLast?_append_of_ne_nil _ (List.cons_ne_nil _ _),
        List.getLast?_cons_of_ne_nil hne']
      exact hds.trimmed.last
  space c hc hblank := by
    rcases List.mem_append.mp hc with hc | hc
    · exact hcs.space c hc hblank
    · rcases List.mem_cons.mp hc with rfl | hc
      · rfl
      · exact hds.space c hc hblank
  alone := by
    rw [List.isChain_append, List.isChain_cons]
    exact ⟨hcs.alone, ⟨fun d hd => .inr (hds.trimmed.head d hd), hds.alone⟩,
      fun c hc _ _ => .inl (hcs.trimmed.last c hc)⟩

theorem joined_cons_cons (w v : List Char) (ws : List (List Char)) :
    joined (w :: v :: ws) = w ++ ' ' :: joined (v :: ws) := by
  simp [joined, List.intercalate_cons_cons]

theorem joined_ne_nil {w : List Char} (ws : List (List Char)) (h : w ≠ []) :
    joined (w :: ws) ≠ [] := by
  cases ws with
  | nil => simpa [joined] using h
  | cons v ws => simp [joined_cons_cons]

theorem neat_joined {ws : List (List Char)} (h : ∀ w ∈ ws, IsWord w) : Neat (joined ws) := by
  induction ws with
  | nil => exact neat_nil
  | cons w ws ih =>
    obtain ⟨hw, hws⟩ := List.forall_mem_cons.mp h
    cases ws with
    | nil => simpa [joined] using hw.neat
    | cons v ws =>
      rw [joined_cons_cons]
      exact hw.neat.append_space hw.ne_nil (ih hws) (joined_ne_nil ws (hws v (by simp)).ne_nil)

theorem Spaced.eq_joined {cs : List Char} {ws : List (List Char)} (h : Spaced cs ws)
    (hneat : Neat cs) : cs = joined ws := by
  induction h with
  | nil => rfl
  | @blank c _ _ hblank _ _ =>
    -- neat text does not begin with a blank
    have hc := hneat.trimmed.head c rfl
    rw [hblank] at hc
    cases hc
  | last => simp [joined]
  | @word w cs c ws hword hblank rest ih =>
    obtain rfl : c = ' ' := hneat.space c (by simp) hblank
    obtain ⟨-, hchain, -⟩ := List.isChain_append.mp hneat.alone
    obtain ⟨hhead, hchain⟩ := List.isChain_cons.mp hchain
    have hne : cs ≠ [] := by
      rintro rfl
      have hlast := hneat.trimmed.last ' ' (by simp)
      rw [hblank] at hlast
      cases hlast
    have hcs : Neat cs := {
      trimmed := {
        head := fun d hd => (hhead d hd).resolve_left (by simp [hblank])
        last := fun d hd => hneat.trimmed.last d (by
          rw [List.getLast?_append_of_ne_nil _ (List.cons_ne_nil _ _),
            List.getLast?_cons_of_ne_nil hne]
          exact hd) }
      space := fun d hd => hneat.space d (by simp [hd])
      alone := hchain }
    cases ws with
    | nil => exact absurd (ih hcs) hne
    | cons v ws => rw [joined_cons_cons, ← ih hcs]

theorem joined_words_of_neat {cs : List Char} (h : Neat cs) : joined (words cs) = cs :=
  ((spaced_words cs).eq_joined h).symm

/-- The front of a neat text is neat with a word behind it, wherever the text is cut. -/
theorem Neat.append_word {cs front w : List Char} (h : Neat cs) (hfront : front <+: cs)
    (hw : IsWord w) : Neat (front ++ w) where
  trimmed := by
    constructor
    · intro c hc
      cases front with
      | nil => exact hw.neat.trimmed.head c hc
      | cons d front =>
        obtain ⟨rest, rfl⟩ := hfront
        exact h.trimmed.head c hc
    · rw [List.getLast?_append_of_ne_nil _ hw.ne_nil]
      exact hw.neat.trimmed.last
  space c hc hblank := by
    rcases List.mem_append.mp hc with hc | hc
    · exact h.space c (hfront.subset hc) hblank
    · exact hw.neat.space c hc hblank
  alone := by
    have hchain := List.IsChain.prefix h.alone hfront
    rw [List.isChain_append]
    exact ⟨hchain, hw.neat.alone,
      fun _ _ d hd => .inr (hw.neat.trimmed.head d hd)⟩

end Parley.Text
