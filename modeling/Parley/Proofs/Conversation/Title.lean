import Parley.Conversation.Title
import Parley.Proofs.Text.Words

/-!
# Titles are in normal form

The title for a question is the neat text with the words of the question, or the front of it with
dots behind. So it depends on the words alone, whichever blanks stand between them; it is neat
itself, also where it is cut behind a space or in front of everything; and it is its own title: a
title that was cut is cut again at the same place, as the dots make it longer than the limit.

* `title_eq_error_iff`: only a question without a word has no title.
* `title_of_spaced`: the title for a question with these words.
* `title_of_title`: a title is its own title.
* `title_normal_form`: all of it, for every question and every limit.
-/
namespace Parley.Conversation

open Text (IsWord Neat Spaced isBlank joined)

variable {maxChars : Nat} {query name : String} {ws : List (List Char)}

theorem isWord_ellipsis : IsWord ellipsis :=
  ⟨by decide, by simp [ellipsis, isBlank]⟩

theorem collapse_of_spaced {cs : List Char} (h : Spaced cs ws) : collapse cs = joined ws := by
  rw [← Text.words_of_spaced h]
  rfl

theorem title_of_blank (maxChars : Nat) (h : ∀ c ∈ query.toList, isBlank c = true) :
    title maxChars query = .error .emptyQuery := by
  have hnil : collapse query.toList = [] := by
    rw [collapse, Text.words_eq_nil_iff.mpr h]
    rfl
  rw [title, hnil]
  rfl

/-- The title for a question with these words is the neat text with them, or the front of it with
dots behind. -/
theorem title_of_spaced (maxChars : Nat) (h : Spaced query.toList ws) (hne : ws ≠ []) :
    title maxChars query = .ok (String.ofList
      (if (joined ws).length ≤ maxChars then joined ws
        else (joined ws).take maxChars ++ ellipsis)) := by
  have hjoined : (joined ws).isEmpty = false := by
    obtain ⟨w, ws, rfl⟩ := List.exists_cons_of_ne_nil hne
    simpa using Text.joined_ne_nil ws (h.isWord w (by simp)).ne_nil
  rw [title, collapse_of_spaced h]
  simp only [hjoined, Bool.false_eq_true, if_false]
  split <;> rfl

/-- Only a question without a word has no title. -/
theorem title_eq_error_iff {e : NamingError} :
    title maxChars query = .error e ↔ ∀ c ∈ query.toList, isBlank c = true := by
  constructor
  · intro h
    rw [← Text.words_eq_nil_iff]
    by_contra hne
    rw [title_of_spaced maxChars (Text.spaced_words _) hne] at h
    cases h
  · intro h
    cases e
    exact title_of_blank maxChars h

/-- What a title is for a question with these words: the neat text with them if that is short
enough, or else as much of it as is allowed, with dots behind. -/
inductive Excerpt (maxChars : Nat) (ws : List (List Char)) : List Char → Prop
  | whole (le : (joined ws).length ≤ maxChars) : Excerpt maxChars ws (joined ws)
  | cut {front : List Char} (lt : maxChars < (joined ws).length)
    (isPrefix : front <+: joined ws) (length_eq : front.length = maxChars) :
    Excerpt maxChars ws (front ++ ['.', '.', '.'])

theorem words_ne_nil_of_title (hname : title maxChars query = .ok name)
    (h : Spaced query.toList ws) : ws ≠ [] := by
  rintro rfl
  rw [title_of_blank maxChars (h.blank_of_eq_nil rfl)] at hname
  cases hname

theorem excerpt_of_title (hname : title maxChars query = .ok name) (h : Spaced query.toList ws) :
    Excerpt maxChars ws name.toList := by
  rw [title_of_spaced maxChars h (words_ne_nil_of_title hname h)] at hname
  rw [← Except.ok.inj hname, String.toList_ofList]
  split
  · exact .whole ‹_›
  · exact .cut (by omega) (List.take_prefix _ _) (by rw [List.length_take]; omega)

theorem Excerpt.ne_nil {cs : List Char} (h : Excerpt maxChars ws cs) (hws : ∀ w ∈ ws, IsWord w)
    (hne : ws ≠ []) : cs ≠ [] := by
  cases h with
  | whole _ =>
    obtain ⟨w, ws, rfl⟩ := List.exists_cons_of_ne_nil hne
    exact Text.joined_ne_nil ws (hws w (by simp)).ne_nil
  | cut _ _ _ => simp

theorem Excerpt.neat {cs : List Char} (h : Excerpt maxChars ws cs) (hws : ∀ w ∈ ws, IsWord w) :
    Neat cs := by
  cases h with
  | whole _ => exact Text.neat_joined hws
  | cut _ isPrefix _ => exact (Text.neat_joined hws).append_word isPrefix isWord_ellipsis

theorem Excerpt.length_le {cs : List Char} (h : Excerpt maxChars ws cs) :
    cs.length ≤ maxChars + 3 := by
  cases h with
  | whole le => omega
  | cut _ _ length_eq => simp [length_eq]

theorem ne_empty_and_trimmed_of_title (hname : title maxChars query = .ok name) :
    name ≠ "" ∧ Text.Trimmed name.toList := by
  have hspaced := Text.spaced_words query.toList
  have hexcerpt := excerpt_of_title hname hspaced
  refine ⟨?_, (hexcerpt.neat hspaced.isWord).trimmed⟩
  rintro rfl
  exact hexcerpt.ne_nil hspaced.isWord (words_ne_nil_of_title hname hspaced) rfl

/-- What neat text is a title for: itself, unless it is too long. -/
theorem title_of_neat (maxChars : Nat) (h : Neat name.toList) (hne : name.toList ≠ []) :
    title maxChars name = .ok (String.ofList
      (if name.toList.length ≤ maxChars then name.toList
        else name.toList.take maxChars ++ ellipsis)) := by
  have hjoined := Text.joined_words_of_neat h
  have hwords : Text.words name.toList ≠ [] := by
    intro hnil
    rw [hnil] at hjoined
    exact hne hjoined.symm
  rw [title_of_spaced maxChars (Text.spaced_words _) hwords, hjoined]

/-- A title is its own title. -/
theorem title_of_title (hname : title maxChars query = .ok name) :
    title maxChars name = .ok name := by
  have hspaced := Text.spaced_words query.toList
  have hexcerpt := excerpt_of_title hname hspaced
  have hneat : Neat name.toList := hexcerpt.neat hspaced.isWord
  have hne := hexcerpt.ne_nil hspaced.isWord (words_ne_nil_of_title hname hspaced)
  rw [title_of_neat maxChars hneat hne]
  generalize hcs : name.toList = cs at hexcerpt
  cases hexcerpt with
  | whole le => rw [if_pos le, ← hcs, String.ofList_toList]
  | @cut front lt isPrefix length_eq =>
    -- the dots make the name longer than the limit, and it is cut in front of them again
    have hlong : ¬ (front ++ ['.', '.', '.']).length ≤ maxChars := by
      rw [List.length_append, length_eq]
      simp
    rw [if_neg hlong, ← length_eq, List.take_left, ellipsis, ← hcs, String.ofList_toList]

/-- Only a question without a word has no title, and the title depends on the words alone. It is
the neat text with them or, where that is too long, as much of it as is allowed and three dots; it
is neat itself, at most three characters longer than the limit, and its own title. -/
theorem title_normal_form (maxChars : Nat) (query : String) :
    ((∃ e, title maxChars query = .error e) ↔ ∀ c ∈ query.toList, isBlank c = true) ∧
    ∃ ws, Spaced query.toList ws ∧
      (∀ query', Spaced query'.toList ws → title maxChars query' = title maxChars query) ∧
      ∀ name, title maxChars query = .ok name →
        Excerpt maxChars ws name.toList ∧ name.toList.length ≤ maxChars + 3 ∧
          Neat name.toList ∧ title maxChars name = .ok name := by
  have hspaced := Text.spaced_words query.toList
  refine ⟨?_, _, hspaced, ?_, ?_⟩
  · exact ⟨fun ⟨_, h⟩ => title_eq_error_iff.mp h, fun h => ⟨_, title_of_blank maxChars h⟩⟩
  · intro query' hspaced'
    by_cases hwords : Text.words query.toList = []
    · rw [title_of_blank maxChars (hspaced.blank_of_eq_nil hwords),
        title_of_blank maxChars (hspaced'.blank_of_eq_nil hwords)]
    · rw [title_of_spaced maxChars hspaced hwords, title_of_spaced maxChars hspaced' hwords]
  · intro name hname
    have hexcerpt := excerpt_of_title hname hspaced
    exact ⟨hexcerpt, hexcerpt.length_le, hexcerpt.neat hspaced.isWord, title_of_title hname⟩

theorem title_normal_form_behind_space :
    title 4 "\u3000How\tare  you\n" = .ok "How ..." ∧ title 4 "How ..." = .ok "How ..." ∧
      Neat "How ...".toList := by
  have hname : title 4 "\u3000How\tare  you\n" = .ok "How ..." := by decide +kernel
  obtain ⟨-, _, -, -, hnamed⟩ := title_normal_form 4 "\u3000How\tare  you\n"
  obtain ⟨-, -, hneat, htitle⟩ := hnamed _ hname
  exact ⟨hname, htitle, hneat⟩

/-- Where nothing of the text is allowed, the dots are all of the title, and stay so. -/
example : title 0 "How are you" = .ok "..." ∧ title 0 "..." = .ok "..." := by decide +kernel

end Parley.Conversation
