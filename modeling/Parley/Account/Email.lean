import Parley.Text.Blank

/-!
# Email addresses

An address is compared in one normal form: without blanks around it, and with the
letters `A` to `Z` in lower case. It has exactly one `@`, with something on either
side.
-/
namespace Parley.Email

/-- The normal form of an address, if it has one (`normalize_email`). -/
def normalize? (raw : String) : Option String :=
  let address := (Text.trimChars raw.toList).map Char.toLower
  match Text.splitFirst? (· == '@') address with
  | none => none
  | some (mailbox, domain) =>
    if mailbox.isEmpty ∨ domain.isEmpty ∨ domain.contains '@' then none
    else some (String.ofList address)

end Parley.Email
