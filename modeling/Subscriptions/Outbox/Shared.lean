import Subscriptions.Outbox.Queue

/-!
The outbox between the senders and the worker, who move in any order. The worker may see the signal to stop before or
after the tasks that are there, and a call of the handler takes as long as it takes. An event that cannot happen changes
nothing.
-/

namespace Subscriptions

set_option autoImplicit false

structure SharedOutbox where
  outbox : Outbox
  senders : Nat

namespace SharedOutbox

/-- The worker heeds the signal to stop, receives a task, or has its call of the handler answered. To drop the handle of
the worker is to tell it to stop. -/
inductive Event
  | dispatch (task : Task)
  | clone
  | drop
  | stop
  | heed
  | receive
  | answer (ok : Bool)
  | pass (nanos : Nat)
deriving DecidableEq

inductive Outcome
  | nothing
  | accepted
  | refused
  | closed
  | began (task : Task)
  | failed (task : Task)
  | executed (task : Task)
  | stopped
deriving DecidableEq

def opened (capacity : Nat) (policy : RetryPolicy) : SharedOutbox := ⟨Outbox.start capacity policy, 1⟩

def withOutbox (s : SharedOutbox) (o : Outbox) : SharedOutbox := { s with outbox := o }

def dispatch (s : SharedOutbox) (task : Task) : Outcome × SharedOutbox :=
  if s.senders = 0 then (.nothing, s)
  else (if s.outbox.accepts then .accepted else .refused, s.withOutbox (s.outbox.dispatch task))

/-- The worker looks at the signal only between two tasks. -/
def heed (s : SharedOutbox) : Outcome × SharedOutbox :=
  match s.outbox.phase with
  | .idle =>
    if s.outbox.stopSignal && !s.outbox.closed then (.closed, s.withOutbox { s.outbox with closed := true })
    else (.nothing, s)
  | .trying _ _ _ | .stopped => (.nothing, s)

/-- Where nothing is left and nothing can come, the worker stops, and nothing is accepted from then on. -/
def receive (s : SharedOutbox) : Outcome × SharedOutbox :=
  match s.outbox.phase, s.outbox.queue with
  | .idle, task :: rest =>
    (.began task, s.withOutbox { s.outbox with queue := rest, phase := .trying task 0 s.outbox.now })
  | .idle, [] =>
    if s.outbox.closed || s.senders = 0 then
      (.stopped, s.withOutbox { s.outbox with closed := true, phase := .stopped })
    else (.nothing, s)
  | _, _ => (.nothing, s)

/-- A call that is not due has not been made. -/
def answer (s : SharedOutbox) (ok : Bool) : Outcome × SharedOutbox :=
  match s.outbox.phase with
  | .trying task attempt due =>
    if due ≤ s.outbox.now then
      (match s.outbox.policy.verdict attempt ok with
        | .retryAfter _ => .failed task
        | .finished | .givenUp => .executed task,
        s.withOutbox (s.outbox.callHandler (fun _ => ok) task attempt s.outbox.now))
    else (.nothing, s)
  | .idle | .stopped => (.nothing, s)

def act (s : SharedOutbox) : Event → Outcome × SharedOutbox
  | .dispatch task => s.dispatch task
  | .clone => (.nothing, if s.senders = 0 then s else { s with senders := s.senders + 1 })
  | .drop => (.nothing, { s with senders := s.senders - 1 })
  | .stop => (.nothing, s.withOutbox s.outbox.signalStop)
  | .heed => s.heed
  | .receive => s.receive
  | .answer ok => s.answer ok
  | .pass nanos => (.nothing, s.withOutbox { s.outbox with now := s.outbox.now + nanos })

def after (s : SharedOutbox) (events : List Event) : SharedOutbox := events.foldl (fun s e => (s.act e).2) s

/-- The events in their order, each with what came of it. -/
def history (s : SharedOutbox) : List Event → List (Event × Outcome)
  | [] => []
  | e :: events => (e, (s.act e).1) :: history (s.act e).2 events

theorem after_append (s : SharedOutbox) (events more : List Event) :
    s.after (events ++ more) = (s.after events).after more :=
  List.foldl_append

theorem history_append (s : SharedOutbox) (events more : List Event) :
    s.history (events ++ more) = s.history events ++ (s.after events).history more := by
  induction events generalizing s with
  | nil => rfl
  | cons e events ih =>
    rw [List.cons_append, history, history, ih]
    rfl

end SharedOutbox

end Subscriptions
