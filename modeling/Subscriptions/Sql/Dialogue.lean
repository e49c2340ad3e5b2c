import Subscriptions.Sql.Statement
import Subscriptions.Store.Tables

/-!
What a step of a transaction sends to a database, statement by statement, and what it makes of the
answers. A query is answered with rows and any other statement with the number of rows it affected.
-/

namespace Subscriptions.Sql

set_option autoImplicit false

/-- The statements of one step, each of which may depend on the answers to those before it. -/
inductive Dialogue (α : Type) : Type
  | done (outcome : Except Failure α)
  | query (r : Relation) (statement : Statement r) (next : List r.Row → Dialogue α)
  | execute (r : Relation) (statement : Statement r) (next : Nat → Dialogue α)

inductive Fault
  | notReturned
  | nothingInserted
deriving DecidableEq

def Fault.failure : Fault → Failure
  | .notReturned => .database "RecordNotFound Error: Failed to find inserted item"
  | .nothingInserted => .database "None of the records are inserted"

namespace Dialogue

variable {α : Type}

def ok (a : α) : Dialogue α := .done (.ok a)

def fail (f : Failure) : Dialogue α := .done (.error f)

/-- A name that a row should not hold is wrong input. -/
def ofRow (a : Except UnknownName α) : Dialogue α := .done (a.mapError .ofUnknownName)

def lockOne (r : Relation) (condition : Condition) (next : Option r.Row → Dialogue α) : Dialogue α :=
  .query r (.select condition (some 1) true) fun rows => next rows.head?

def insertOne (r : Relation) (row : r.Row) : Dialogue Unit :=
  .query r (.insert [row] r.columns) fun
    | [] => fail Fault.notReturned.failure
    | _ :: _ => ok ()

def updateSome (r : Relation) (changes : List (String × Cell)) (condition : Condition)
    (missing : TableError) : Dialogue Unit :=
  .execute r (.update changes condition) fun affected =>
    if affected = 0 then fail missing.failure else ok ()

def retrieveMember (reader : Reader) : Dialogue (Option Membership) :=
  if reader.isEmpty then ok none
  else lockOne .memberships (.ofReader reader) fun row => ofRow (row.mapM MemberRow.toMembership)

def retrieveOrder (orderId : String) : Dialogue (Option Order) :=
  lockOne .orders [[.equals "id" (.text orderId)]] fun row => ofRow (row.mapM OrderRow.toOrder)

def confirmationColumns : List String := ["confirmed_utc", "start_date", "end_date", "snapshot_id"]

def updateConfirmedOrder (order : Order) : Dialogue Unit :=
  let entries := Relation.entries .orders (OrderRow.ofOrder order)
  updateSome .orders (entries.filter fun e => confirmationColumns.contains e.1)
    [[.equals "id" (.text order.id)]] (.unknownOrder order.id)

def createMember (member : Membership) : Dialogue Unit :=
  match MemberRow.ofMembership? member with
  | none => fail TableError.noReaderId.failure
  | some row => insertOne .memberships row

def updateMember (member : Membership) : Dialogue Unit :=
  match MemberRow.ofMembership? member with
  | none => fail TableError.noReaderId.failure
  | some row =>
    updateSome .memberships ((Relation.entries .memberships row).filter fun e => e.1 != "compound_id")
      (.ofReader member.ids) (.unknownMember member.ids.compoundId)

def runningOrders (reader : Reader) (date : Date) : Statement .orders :=
  .select (Condition.ofReader reader ++ [[.isNotNull "confirmed_utc"], [.exceeds "end_date" (.date date)]])
    none false

def consumedDraws (orderIds : List String) : Statement .proratedOrders :=
  .select [[.oneOf "source_order_id" (orderIds.map .text)], [.isNotNull "consumed_utc"]] none false

/-- The sources among the running orders. Orders that have been used up are not even read. -/
def sourcesOf (orders : List OrderRow) (consumed : List Draw) (asOf : Instant) :
    Except UnknownName (List Source) := do
  let unused := orders.filter fun row => !(consumed.map (·.sourceOrderId)).contains row.id
  let orders ← unused.mapM OrderRow.toOrder
  return Source.sortByStart ((orders.filterMap Source.ofOrder?).filter fun s => s.isActive asOf)

def findSources (reader : Reader) (asOf : Instant) : Dialogue (List Source) :=
  if reader.isEmpty then ok []
  else
    .query .orders (runningOrders reader asOf.date) fun orders =>
      .query .proratedOrders (consumedDraws (orders.map (·.id))) fun consumed =>
        ofRow (sourcesOf orders consumed asOf)

def saveDraws (draws : List Draw) : Dialogue Unit :=
  if draws.isEmpty then ok ()
  else
    .execute .proratedOrders (.insert draws (Relation.keyColumns .proratedOrders)) fun affected =>
      if affected = 0 then fail Fault.nothingInserted.failure else ok ()

def pendingDraws (upgradeOrderId : String) : Condition :=
  [[.equals "upgrade_order_id" (.text upgradeOrderId)], [.isNull "consumed_utc"]]

def consumeDraws (upgradeOrderId : String) (moment : Instant) : Dialogue (List Draw) :=
  .query .proratedOrders (.select (pendingDraws upgradeOrderId) none true) fun pending =>
    if pending.isEmpty then ok []
    else
      .execute .proratedOrders
        (.update [("consumed_utc", .instant moment)] (pendingDraws upgradeOrderId)) fun _ =>
          ok (pending.map (Tables.consume moment))

def ofStep : (s : Step) → Dialogue s.Answer
  | .retrieveMember reader => retrieveMember reader
  | .retrieveOrder orderId => retrieveOrder orderId
  | .saveOrder order => insertOne .orders (OrderRow.ofOrder order)
  | .updateConfirmedOrder order => updateConfirmedOrder order
  | .createMember member => createMember member
  | .updateMember member => updateMember member
  | .findSources reader asOf => findSources reader asOf
  | .saveDraws draws => saveDraws draws
  | .consumeDraws upgradeOrderId moment => consumeDraws upgradeOrderId moment

end Dialogue

end Subscriptions.Sql
