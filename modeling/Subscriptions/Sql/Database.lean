import Subscriptions.Sql.Dialogue

/-!
A database that nobody writes to, and its answers to queries: the rows that a condition selects, in the
order in which the table holds them. Dialogues that only read can be carried on with it.
-/

namespace Subscriptions.Sql

set_option autoImplicit false

structure Database where
  members : List MemberRow
  orders : List OrderRow
  draws : List Draw

namespace Database

variable {α : Type}

def rows (d : Database) : (r : Relation) → List r.Row
  | .memberships => d.members
  | .orders => d.orders
  | .proratedOrders => d.draws

def select (d : Database) (r : Relation) (condition : Condition) : List r.Row :=
  (d.rows r).filter fun row => condition.holds (r.cell row)

def cutOff (limit : Option Nat) (rows : List α) : List α :=
  match limit with
  | some n => rows.take n
  | none => rows

/-- The outcome of a dialogue, unless it writes. -/
def read (d : Database) : Dialogue α → Option (Except Failure α)
  | .done outcome => some outcome
  | .query r (.select condition limit _) next => d.read (next (cutOff limit (d.select r condition)))
  | .query _ (.insert _ _) _ => none
  | .query _ (.update _ _) _ => none
  | .execute _ _ _ => none

/-- The rows of a store's tables. A membership whose reader has no id has no row. -/
def ofTables (t : Tables) : Database where
  members := t.members.values.filterMap MemberRow.ofMembership?
  orders := t.orders.values.map OrderRow.ofOrder
  draws := t.draws

end Database

end Subscriptions.Sql
