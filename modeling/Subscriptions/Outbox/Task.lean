import Subscriptions.Confirmation

/-!
Tasks for the time after a commit, and the rule by which a failed one is tried again.
-/

namespace Subscriptions

set_option autoImplicit false

/-- Something to be done once a transaction has been committed. -/
inductive Task
  | backupSnapshot (snapshot : Snapshot)
  | notifyConfirmation (result : Confirmation)
deriving DecidableEq

namespace Task

def name : Task → String
  | .backupSnapshot _ => "backup_snapshot"
  | .notifyConfirmation _ => "notify_confirmation"

def orderId : Task → Option String
  | .backupSnapshot snapshot => snapshot.orderId
  | .notifyConfirmation result => some result.order.id

end Task

/-- How often a failed task is tried again, and how long after its first failure. -/
structure RetryPolicy where
  maxRetries : Nat
  backoffMillis : Nat
deriving DecidableEq

inductive Verdict
  | finished
  | retryAfter (nanos : Nat)
  | givenUp
deriving DecidableEq

namespace RetryPolicy

/-- The longest delay, in nanoseconds: `2 ^ 64` seconds less one nanosecond. -/
def longestDelay : Nat := 18446744073709551616 * 1000000000 - 1

/-- The delay after a failed attempt, counted from zero, in nanoseconds. It doubles from attempt to
attempt; the factor is cut off at `2 ^ 32 - 1`, and the delay at the longest one. -/
def delay (p : RetryPolicy) (attempt : Nat) : Nat :=
  min (p.backoffMillis * 1000000 * min (Nat.pow 2 attempt) 4294967295) longestDelay

def verdict (p : RetryPolicy) (attempt : Nat) (ok : Bool) : Verdict :=
  if ok then .finished
  else if attempt < p.maxRetries then .retryAfter (p.delay attempt)
  else .givenUp

end RetryPolicy

end Subscriptions
