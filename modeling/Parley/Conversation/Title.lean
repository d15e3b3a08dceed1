import Parley.Text.Blank

/-!
# Titles from questions

A conversation is named after the start of its first question: the words joined
by single blanks, cut after a number of characters.
-/
namespace Parley.Conversation

/-- Why a conversation got no title. -/
inductive NamingError where
  | emptyQuery
  deriving DecidableEq, Repr

def NamingError.message : NamingError → String
  | emptyQuery => "naming failed: empty query"

/-- The words of a text, joined by single blanks. -/
def collapse (cs : List Char) : List Char :=
  [' '].intercalate (Text.words cs)

/-- What stands behind an excerpt that was cut. -/
def ellipsis : List Char := ['.', '.', '.']

/-- The title for a question (`name_for`). -/
def title (maxChars : Nat) (query : String) : Except NamingError String :=
  let text := collapse query.toList
  if text.isEmpty then .error .emptyQuery
  else if text.length ≤ maxChars then .ok (String.ofList text)
  else .ok (String.ofList (text.take maxChars ++ ellipsis))

/-- The length at which titles are cut (`max_chars`). -/
def titleLength : Nat := 30

end Parley.Conversation
