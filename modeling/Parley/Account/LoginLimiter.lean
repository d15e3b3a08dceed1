import Parley.Text.Decimal

/-!
# Limiting failed logins

For each address the times of its failed logins are kept, oldest first. An address
with as many failures in the window as the limit says is refused. Times that have
aged out are dropped from the front of a queue only, when the address is checked
or any failure is recorded. Times and the window are in milliseconds; a time that
lies ahead of the clock has not aged out of any window.
-/
namespace Parley

/-- The times of an address's failures, oldest first. -/
abbrev FailureQueue := List Int

/-- Drops the times from the front that are older than the window (`prune_window`). -/
def FailureQueue.prune (window : Nat) (now : Int) (q : FailureQueue) : FailureQueue :=
  q.dropWhile fun t => decide ((window : Int) < now - t)

/-- The failures of each address, and how many of them a window admits (`LoginErrorLimiter`). -/
structure LoginLimiter where
  limit : Nat
  window : Nat
  /-- The tracked addresses, each once. -/
  failures : List (String × FailureQueue) := []
  deriving DecidableEq, Repr

/-- A login was refused because of earlier failures (`LoginLimitError`). -/
structure LoginRefused where
  limit : Nat
  windowSeconds : Nat
  deriving DecidableEq, Repr

def LoginRefused.message (e : LoginRefused) : String :=
  "too many failed logins (max " ++ Decimal.ofNat e.limit ++ " per " ++
    Decimal.ofNat e.windowSeconds ++ "s)"

namespace LoginLimiter

def queue (l : LoginLimiter) (email : String) : FailureQueue :=
  (l.failures.lookup email).getD []

/-- Tracks an address no longer. -/
def reset (l : LoginLimiter) (email : String) : LoginLimiter :=
  { l with failures := l.failures.filter fun (e, _) => !(e == email) }

def setQueue (l : LoginLimiter) (email : String) (q : FailureQueue) : LoginLimiter :=
  { l with failures := (email, q) :: (l.reset email).failures }

def refusal (l : LoginLimiter) : LoginRefused :=
  ⟨l.limit, l.window / 1000⟩

/-- Checks an address (`check_at`): whether it is refused, and the limiter afterwards. An
address that is not tracked is never refused. -/
def check (l : LoginLimiter) (now : Int) (email : String) :
    Except LoginRefused Unit × LoginLimiter :=
  match l.failures.lookup email with
  | none => (.ok (), l)
  | some q =>
    let q := q.prune l.window now
    if l.limit ≤ q.length then (.error l.refusal, l.setQueue email q)
    else if q.isEmpty then (.ok (), l.reset email)
    else (.ok (), l.setQueue email q)

/-- Drops what has aged out, and addresses of which nothing is left. -/
def pruneAll (l : LoginLimiter) (now : Int) : LoginLimiter :=
  { l with
    failures := (l.failures.map fun (e, q) => (e, FailureQueue.prune l.window now q)).filter
      fun (_, q) => !q.isEmpty }

/-- Records a failure of an address (`record_failure_at`). -/
def recordFailure (l : LoginLimiter) (now : Int) (email : String) : LoginLimiter :=
  let l := l.pruneAll now
  l.setQueue email (l.queue email ++ [now])

end LoginLimiter

end Parley
