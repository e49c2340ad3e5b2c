import Subscriptions.Store.Backend
import Subscriptions.Store.Tables

/-!
The store in memory. A transaction works on a copy of the tables, which takes their place when it is
committed. Any operation can be made to fail a number of times.
-/

namespace Subscriptions

set_option autoImplicit false

def Faults := Operation → Nat

namespace Faults

def none : Faults := fun _ => 0

def set (faults : Faults) (op : Operation) (times : Nat) : Faults :=
  fun o => if o = op then times else faults o

def total (faults : Faults) : Nat := Operation.all.foldl (fun n op => n + faults op) 0

end Faults

structure MemoryStore where
  tables : Tables
  faults : Faults

namespace MemoryStore

def empty : MemoryStore := ⟨.empty, .none⟩

def injected (op : Operation) : Failure := .database s!"injected failure in {op.title}"

def failNext (m : MemoryStore) (op : Operation) (times : Nat) : MemoryStore :=
  { m with faults := m.faults.set op times }

def insertMember (m : MemoryStore) (member : Membership) : Except Failure Unit × MemoryStore :=
  match m.tables.insertMember member with
  | .ok tables => (.ok (), { m with tables := tables })
  | .error e => (.error e.failure, m)

def insertOrder (m : MemoryStore) (order : Order) : MemoryStore :=
  { m with tables := m.tables.insertOrder order }

/-- Whether an operation may go ahead; a failure that was asked for is used up. -/
def attempt (m : MemoryStore) (op : Operation) : Except Failure Unit × MemoryStore :=
  if 0 < m.faults op then (.error (injected op), m.failNext op (m.faults op - 1)) else (.ok (), m)

def backend : Backend MemoryStore Tables where
  begin m :=
    match m.attempt .begin with
    | (.error f, m) => (.error f, m)
    | (.ok (), m) => (.ok m.tables, m)
  perform s t m :=
    match m.attempt s.operation with
    | (.error f, m) => (.error f, t, m)
    | (.ok (), m) =>
      let (answer, t) := t.perform s
      (answer, t, m)
  commit t m :=
    match m.attempt .commit with
    | (.error f, m) => (.error f, m)
    | (.ok (), m) => (.ok (), { m with tables := t })
  rollback _ m := (.ok (), m)

end MemoryStore

end Subscriptions
