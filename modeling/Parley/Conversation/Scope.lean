import Parley.Conversation.Basic

/-!
# Scopes

A scope is what one principal may see of an app's conversations through one
channel: those it owns that are not deleted. A conversation without a channel can
be seen through every channel.
-/
namespace Parley.Conversation

/-- The conversations that a principal may see: its own ones of one app and channel
(`ConversationScope`). -/
structure Scope where
  app : Uuid
  principal : Principal
  channel : Channel
  deriving DecidableEq, Repr

namespace Scope

/-- Whether a conversation lies in the scope. -/
def admits (s : Scope) (c : Conversation) : Bool :=
  !c.isDeleted &&
    decide (c.app = s.app) &&
    decide (c.source = s.principal.source) &&
    decide (c.endUser = s.principal.endUser?) &&
    decide (c.account = s.principal.account?) &&
    (match c.channel with
      | none => true
      | some name => decide (name = s.channel.name))

end Scope

end Parley.Conversation
