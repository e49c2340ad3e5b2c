import Subscriptions.Outbox.Task

/-!
The outbox: a queue of bounded length and one worker that takes tasks from its front. The worker deals
with one task at a time, through all its attempts, and after the signal to stop it accepts nothing more
and ends when the queue is empty. Time is counted in nanoseconds.
-/

namespace Subscriptions

set_option autoImplicit false

inductive Phase
  | idle
  | trying (task : Task) (attempt due : Nat)
  | stopped
deriving DecidableEq

structure Attempt where
  task : Task
  ok : Bool
  time : Nat
deriving DecidableEq

structure Outbox where
  capacity : Nat
  policy : RetryPolicy
  queue : List Task
  closed : Bool
  dropped : Nat
  stopSignal : Bool
  phase : Phase
  attempts : List Attempt
  now : Nat

namespace Outbox

def start (capacity : Nat) (policy : RetryPolicy) : Outbox where
  capacity := capacity
  policy := policy
  queue := []
  closed := false
  dropped := 0
  stopSignal := false
  phase := .idle
  attempts := []
  now := 0

def room (o : Outbox) : Nat := max o.capacity 1

def accepts (o : Outbox) : Bool := !o.closed && decide (o.queue.length < o.room)

def dispatch (o : Outbox) (task : Task) : Outbox :=
  if o.accepts then { o with queue := o.queue ++ [task] } else { o with dropped := o.dropped + 1 }

def signalStop (o : Outbox) : Outbox := { o with stopSignal := true }

/-- The longest time that the timer sleeps, whatever it is asked for: thirty years of 365 days. -/
def longestSleep : Nat := 30 * 365 * 24 * 60 * 60 * 1000000000

/-- When the timer wakes whoever wants to sleep for so long from now on. -/
def wakeTime (now nanos : Nat) : Nat := now + min nanos longestSleep

/-- One call of the handler, whose answer to its `n`-th call is `handler n`. -/
def callHandler (handler : Nat → Bool) (o : Outbox) (task : Task) (attempt due : Nat) : Outbox :=
  let ok := handler o.attempts.length
  let called : Outbox := { o with now := due, attempts := o.attempts ++ [⟨task, ok, due⟩] }
  match o.policy.verdict attempt ok with
  | .retryAfter nanos => { called with phase := .trying task (attempt + 1) (wakeTime due nanos) }
  | .finished | .givenUp => { called with phase := .idle }

/-- The next thing that the worker does without any outside event, if there is one. -/
def step? (handler : Nat → Bool) (o : Outbox) : Option Outbox :=
  match o.phase with
  | .stopped => none
  | .trying task attempt due => some (callHandler handler o task attempt due)
  | .idle =>
    if o.stopSignal && !o.closed then some { o with closed := true }
    else
      match o.queue with
      | task :: rest => some { o with queue := rest, phase := .trying task 0 o.now }
      | [] => if o.closed then some { o with phase := .stopped } else none

def due (o : Outbox) : Nat :=
  match o.phase with
  | .trying _ _ due => due
  | .idle | .stopped => o.now

/-- How much the worker has before it at most; every step makes it less. -/
def remaining (o : Outbox) : Nat :=
  o.queue.length * (o.policy.maxRetries + 4) + (if o.closed then 0 else 1) +
    match o.phase with
    | .stopped => 0
    | .idle => 1
    | .trying _ attempt _ => 2 + (o.policy.maxRetries - attempt)

theorem remaining_step?_lt {handler : Nat → Bool} {o o' : Outbox} (h : step? handler o = some o') :
    o'.remaining < o.remaining := by
  simp only [step?] at h
  split at h
  · cases h
  · rename_i task attempt due hp
    injection h with h
    subst h
    simp only [callHandler, RetryPolicy.verdict]
    generalize handler o.attempts.length = ok
    cases ok
    · by_cases ha : attempt < o.policy.maxRetries
      · simp only [remaining, hp, ha, if_true, if_false, Bool.false_eq_true]
        omega
      · simp only [remaining, hp, ha, if_false, Bool.false_eq_true]
        omega
    · simp only [remaining, hp, if_true]
      omega
  · rename_i hp
    split at h
    · rename_i hc
      injection h with h
      subst h
      simp only [Bool.and_eq_true, Bool.not_eq_eq_eq_not, Bool.not_true] at hc
      simp [remaining, hp, hc.2]
    · split at h
      · rename_i task rest hq
        injection h with h
        subst h
        simp only [remaining, hp, hq, List.length_cons, Nat.add_mul, Nat.sub_zero]
        omega
      · split at h
        · injection h with h
          subst h
          simp [remaining, hp]
        · cases h

/-- Lets the worker do everything that is due before a given time, or simply everything. -/
def work (handler : Nat → Bool) (before : Option Nat) (o : Outbox) : Outbox :=
  if before.all (fun t => decide (o.due < t)) then
    match _h : step? handler o with
    | some o' => work handler before o'
    | none => o
  else o
termination_by o.remaining
decreasing_by exact remaining_step?_lt _h

/-- Sleeps for a time while the worker runs. What falls due at the very end is left for later. -/
def wait (handler : Nat → Bool) (nanos : Nat) (o : Outbox) : Outbox :=
  let finish := wakeTime o.now nanos
  { work handler (some finish) o with now := finish }

/-- Tells the worker to stop, and waits until it has. A worker that has been told already is not waited
for. -/
def shutdown (handler : Nat → Bool) (o : Outbox) : Outbox :=
  if o.stopSignal then o else work handler none o.signalStop

end Outbox

end Subscriptions
