/-!
# Blanks, words and trimming

White space is the Unicode property `White_Space`, not the six characters that
`Char.isWhitespace` knows. Text is trimmed at both ends, and cut into words at
every run of blanks.
-/
namespace Parley.Text

/-- The Unicode property `White_Space`. -/
def isBlank (c : Char) : Bool :=
  let n := c.toNat
  (9 ≤ n && n ≤ 13) || n == 0x20 || n == 0x85 || n == 0xA0 || n == 0x1680 ||
    (0x2000 ≤ n && n ≤ 0x200A) || n == 0x2028 || n == 0x2029 || n == 0x202F ||
    n == 0x205F || n == 0x3000

/-! ## Trimming -/

def trimEnd (cs : List Char) : List Char :=
  (cs.reverse.dropWhile isBlank).reverse

/-- The text without the blanks at either end. -/
def trimChars (cs : List Char) : List Char :=
  trimEnd (cs.dropWhile isBlank)

def trim (s : String) : String :=
  String.ofList (trimChars s.toList)

/-- Whether nothing is left of the string once it is trimmed. -/
def blank (s : String) : Bool :=
  s.toList.all isBlank

/-! ## Cutting -/

/-- Cuts the list at every element that satisfies `p` and drops those elements.
There is one piece more than there are cuts. -/
def splitWhere {α : Type} (p : α → Bool) : List α → List (List α)
  | [] => [[]]
  | c :: cs =>
    if p c then [] :: splitWhere p cs
    else
      match splitWhere p cs with
      | [] => [[c]]
      | piece :: pieces => (c :: piece) :: pieces

/-- Splits the list at the first element that satisfies `p`, which is dropped. -/
def splitFirst? {α : Type} (p : α → Bool) : List α → Option (List α × List α)
  | [] => none
  | c :: cs =>
    if p c then some ([], cs)
    else (splitFirst? p cs).map fun (before, after) => (c :: before, after)

/-- Splits the list at the last element that satisfies `p`, which is dropped. -/
def splitLast? {α : Type} (p : α → Bool) : List α → Option (List α × List α)
  | [] => none
  | c :: cs =>
    match splitLast? p cs with
    | some (before, after) => some (c :: before, after)
    | none => if p c then some ([], cs) else none

/-- The maximal runs of characters that are not blank, in order. -/
def words (cs : List Char) : List (List Char) :=
  (splitWhere isBlank cs).filter fun w => !w.isEmpty

/-! ## Letter case -/

/-- The text with the letters `A` to `Z` in lower case and all else unchanged. -/
def lower (s : String) : String :=
  String.ofList (s.toList.map Char.toLower)

/-- Equality up to the case of the letters `A` to `Z`. -/
def sameLetters (s t : String) : Bool :=
  lower s == lower t

/-! ## Small facts -/

theorem splitWhere_ne_nil {α : Type} (p : α → Bool) (cs : List α) : splitWhere p cs ≠ [] := by
  induction cs with
  | nil => simp [splitWhere]
  | cons c cs ih =>
    unfold splitWhere
    split
    · simp
    · split <;> simp

end Parley.Text
