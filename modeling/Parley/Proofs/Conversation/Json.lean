import Mathlib.Data.List.Forall2
import Parley.Conversation.Basic

/-!
# Conversations as JSON

What clients are told of a conversation and of a page, member by member and apart from what
writes it. Each is told by one value.

* `seconds_eq_iff`: a time is told in whole seconds, rounded down.
* `toldBy_iff`, `Page.toldBy_iff`: what is written of a conversation and of a page is that value.
-/
namespace Parley

namespace Conversation

theorem seconds_eq_iff {t s : Int} :
    seconds t = s ↔ s * 1000000 ≤ t ∧ t < (s + 1) * 1000000 := by
  rw [seconds, Int.fdiv_eq_ediv_of_nonneg t (by decide)]
  omega

/-- The value tells of the conversation: it has these members in this order and no others. -/
def ToldBy (c : Conversation) (v : Json) : Prop :=
  ∃ created updated : Int,
    (created * 1000000 ≤ c.createdAt ∧ c.createdAt < (created + 1) * 1000000) ∧
    (updated * 1000000 ≤ c.updatedAt ∧ c.updatedAt < (updated + 1) * 1000000) ∧
    v = .obj [
      ("id", .str c.id.text),
      ("app_id", .str c.app.text),
      ("name", .str c.name),
      ("from_source", .str c.source),
      ("from_end_user_id", c.endUser.elim .null fun u => .str u.text),
      ("from_account_id", c.account.elim .null fun u => .str u.text),
      ("invoke_from", c.channel.elim .null .str),
      ("created_at", .int created),
      ("updated_at", .int updated)]

theorem toldBy_iff {c : Conversation} {v : Json} : c.ToldBy v ↔ v = c.toJson := by
  have hnull {α : Type} (write : α → Json) (o : Option α) :
      Json.ofOption write o = o.elim .null write := by
    cases o <;> rfl
  unfold ToldBy toJson
  simp only [← seconds_eq_iff, hnull]
  constructor
  · rintro ⟨_, _, rfl, rfl, rfl⟩
    rfl
  · rintro rfl
    exact ⟨_, _, rfl, rfl, rfl⟩

end Conversation

/-- The value tells of the page: the limit, whether there is more, and the conversations in
order. -/
def Page.ToldBy (page : Page Conversation) (v : Json) : Prop :=
  ∃ items, v = .obj [("limit", .int page.limit), ("has_more", .bool page.hasMore),
    ("data", .arr items)] ∧ List.Forall₂ Conversation.ToldBy page.data items

theorem Page.toldBy_iff {page : Page Conversation} {v : Json} :
    page.ToldBy v ↔ v = Conversation.pageToJson page := by
  have htold : Conversation.ToldBy = fun c v => c.toJson = v := by
    funext c v
    rw [eq_iff_iff, Conversation.toldBy_iff, eq_comm]
  have hitems (items : List Json) : List.Forall₂ Conversation.ToldBy page.data items ↔
      page.data.map Conversation.toJson = items := by
    rw [htold, ← List.forall₂_map_left_iff, List.forall₂_eq_eq_eq]
  unfold ToldBy Conversation.pageToJson
  simp only [hitems]
  constructor
  · rintro ⟨_, rfl, rfl⟩
    rfl
  · rintro rfl
    exact ⟨_, rfl, rfl⟩

end Parley
