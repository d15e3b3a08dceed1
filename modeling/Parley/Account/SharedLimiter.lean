import Parley.Account.LoginLimiter

/-!
# Clones of a limiter

A limiter is handed out as clones, and a clone can be cloned again. Each clone has its own
copy of the limit and of the window, but the failures are kept in one place that all of
them share.
-/
namespace Parley

/-- What a clone has for itself. -/
structure LimiterClone where
  limit : Nat
  window : Nat
  deriving DecidableEq, Repr

/-- The clones of a limiter, in the order in which they were made, and what they share. -/
structure SharedLimiter where
  clones : List LimiterClone
  failures : List (String × FailureQueue) := []
  deriving DecidableEq, Repr

namespace SharedLimiter

inductive Act where
  | clone
  | fail (email : String) (now : Int)
  | check (email : String) (now : Int)
  | reset (email : String)
  deriving DecidableEq, Repr

/-- An act, and the place of the clone with which it is done. -/
structure Op where
  via : Nat
  act : Act
  deriving DecidableEq, Repr

def start (limit window : Nat) : SharedLimiter where
  clones := [⟨limit, window⟩]

/-- The limiter that a clone is, with the failures that it shares. -/
def limiter (s : SharedLimiter) (c : LimiterClone) : LoginLimiter where
  limit := c.limit
  window := c.window
  failures := s.failures

/-- The limiter with the failures that a clone leaves behind. -/
def share (s : SharedLimiter) (l : LoginLimiter) : SharedLimiter :=
  { s with failures := l.failures }

/-- Does an act with a clone: the answer, if the act has one, and the limiter afterwards. -/
def perform (s : SharedLimiter) (c : LimiterClone) :
    Act → Option (Except LoginRefused Unit) × SharedLimiter
  | .clone => (none, { s with clones := s.clones ++ [c] })
  | .fail email now => (none, s.share ((s.limiter c).recordFailure now email))
  | .check email now =>
    let (verdict, l) := (s.limiter c).check now email
    (some verdict, s.share l)
  | .reset email => (none, s.share ((s.limiter c).reset email))

/-- Does an operation. With a clone that was never made nothing can be done. -/
def step (s : SharedLimiter) (op : Op) : Option (Except LoginRefused Unit) × SharedLimiter :=
  match s.clones[op.via]? with
  | some c => s.perform c op.act
  | none => (none, s)

def answers : SharedLimiter → List Op → List (Option (Except LoginRefused Unit))
  | _, [] => []
  | s, op :: ops =>
    let (answer, s) := s.step op
    answer :: answers s ops

end SharedLimiter

end Parley
