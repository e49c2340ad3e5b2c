import Subscriptions.Store.Memory

/-!
The store in memory, shared by any number of parties, each with one transaction. A party that asks for its
transaction waits for the lock, and from the moment it gets in until the transaction ends nobody else does.
The parties move in any order; a move that is not open to a party changes nothing.
-/

namespace Subscriptions

set_option autoImplicit false

/-- How far a party has got with its transaction. -/
inductive Stage
  | absent
  | waiting
  | active (working : Tables)
  | ended

inductive Move
  | begin
  | enter
  | perform (step : Step)
  | commit
  | rollback
  | drop

/-- What a party sees of its own move. -/
inductive Outcome
  | nothing
  | waits
  | failed (f : Failure)
  | entered
  | answered (call : Call)
  | committed
  | closed

inductive Event
  | move (party : Nat) (move : Move)
  | failNext (op : Operation) (times : Nat)

structure SharedStore where
  store : MemoryStore
  locked : Bool
  stage : Nat → Stage

namespace SharedStore

def opened (store : MemoryStore) : SharedStore := ⟨store, false, fun _ => .absent⟩

def withStore (s : SharedStore) (store : MemoryStore) : SharedStore := { s with store := store }

def put (s : SharedStore) (party : Nat) (stage : Stage) : SharedStore :=
  { s with stage := fun p => if p = party then stage else s.stage p }

/-- The tables are copied once the lock is there, not when it is asked for. -/
def enter (s : SharedStore) (party : Nat) : SharedStore :=
  { s.put party (.active s.store.tables) with locked := true }

/-- The transaction is over, and the lock is free again. -/
def leave (s : SharedStore) (party : Nat) : SharedStore := { s.put party .ended with locked := false }

def begin (s : SharedStore) (party : Nat) : Outcome × SharedStore :=
  match s.store.attempt .begin with
  | (.error f, m) => (.failed f, (s.withStore m).put party .ended)
  | (.ok (), m) => (.waits, (s.withStore m).put party .waiting)

def perform (s : SharedStore) (party : Nat) (working : Tables) (step : Step) : Outcome × SharedStore :=
  match s.store.attempt step.operation with
  | (.error f, m) => (.failed f, s.withStore m)
  | (.ok (), m) =>
    let (answer, working) := working.perform step
    (.answered ⟨step, answer⟩, (s.withStore m).put party (.active working))

/-- A commit that fails ends the transaction as well. -/
def commit (s : SharedStore) (party : Nat) (working : Tables) : Outcome × SharedStore :=
  match MemoryStore.backend.commit working s.store with
  | (.error f, m) => (.failed f, (s.withStore m).leave party)
  | (.ok (), m) => (.committed, (s.withStore m).leave party)

def move (s : SharedStore) (party : Nat) (move : Move) : Outcome × SharedStore :=
  match s.stage party, move with
  | .absent, .begin => s.begin party
  | .waiting, .enter => if s.locked then (.waits, s) else (.entered, s.enter party)
  | .waiting, .drop => (.closed, s.put party .ended)
  | .active working, .perform step => s.perform party working step
  | .active working, .commit => s.commit party working
  | .active working, .rollback =>
    (.closed, (s.withStore (MemoryStore.backend.rollback working s.store).2).leave party)
  | .active _, .drop => (.closed, s.leave party)
  | _, _ => (.nothing, s)

def act (s : SharedStore) : Event → Outcome × SharedStore
  | .move party move => s.move party move
  | .failNext op times => (.nothing, s.withStore (s.store.failNext op times))

def after (s : SharedStore) (events : List Event) : SharedStore := events.foldl (fun s e => (s.act e).2) s

/-- The events in their order, each with what came of it. -/
def history (s : SharedStore) : List Event → List (Event × Outcome)
  | [] => []
  | e :: events => (e, (s.act e).1) :: history (s.act e).2 events

end SharedStore

end Subscriptions
