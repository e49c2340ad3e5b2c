import Subscriptions.Store.Step
import Subscriptions.Store.Table
import Subscriptions.Text.Quoted

/-!
The tables of a store and what each step of a transaction does to them.
-/

namespace Subscriptions

set_option autoImplicit false

/-- Memberships are kept under the compound id of their reader, orders under their id. -/
structure Tables where
  members : Table Membership
  orders : Table Order
  draws : List Draw

inductive TableError
  | duplicateOrder (orderId : String)
  | unknownOrder (orderId : String)
  | noReaderId
  | memberExists (key : String)
  | unknownMember (key : Option String)
deriving DecidableEq

def TableError.failure : TableError → Failure
  | .duplicateOrder orderId => .database s!"duplicate order id {orderId}"
  | .unknownOrder orderId => .notFound s!"order {orderId}"
  | .noReaderId => .invalidInput "membership has no reader id"
  | .memberExists key => .database s!"membership {key} already exists"
  | .unknownMember (some key) => .notFound s!"membership for Some({Text.quoted key})"
  | .unknownMember none => .notFound "membership for None"

/-- Earlier start dates first; sources with one start date keep their order. -/
def Source.sortByStart (sources : List Source) : List Source :=
  sources.mergeSort fun a b => decide (a.startDate ≤ b.startDate)

def Order.withConfirmation (stored confirmed : Order) : Order :=
  { stored with
    confirmed := confirmed.confirmed
    startDate := confirmed.startDate
    endDate := confirmed.endDate
    snapshotId := confirmed.snapshotId }

namespace Tables

def empty : Tables := ⟨.empty, .empty, []⟩

def memberEntry? (t : Tables) (reader : Reader) : Option (String × Membership) :=
  t.members.find? fun m => m.ids.overlaps reader

def member? (t : Tables) (reader : Reader) : Option Membership := (t.memberEntry? reader).map Prod.snd

def order? (t : Tables) (orderId : String) : Option Order := t.orders.get? orderId

/-- An upgrade that was confirmed has used this order up. -/
def isConsumed (t : Tables) (sourceOrderId : String) : Bool :=
  t.draws.any fun d => d.sourceOrderId == sourceOrderId && d.isConsumed

/-- The confirmed orders of a reader that run on after the instant and have not been used up. -/
def sources (t : Tables) (reader : Reader) (asOf : Instant) : List Source :=
  let own := t.orders.values.filter fun o => o.reader.overlaps reader
  Source.sortByStart ((own.filterMap Source.ofOrder?).filter fun s =>
    s.isActive asOf && !t.isConsumed s.orderId)

def insertOrder (t : Tables) (order : Order) : Tables :=
  { t with orders := t.orders.insert order.id order }

def saveOrder (t : Tables) (order : Order) : Except TableError Tables :=
  if t.orders.contains order.id then .error (.duplicateOrder order.id)
  else .ok (t.insertOrder order)

def updateConfirmedOrder (t : Tables) (order : Order) : Except TableError Tables :=
  match t.orders.get? order.id with
  | none => .error (.unknownOrder order.id)
  | some stored => .ok { t with orders := t.orders.set order.id (stored.withConfirmation order) }

def insertMember (t : Tables) (member : Membership) : Except TableError Tables :=
  match member.ids.compoundId with
  | none => .error .noReaderId
  | some key => .ok { t with members := t.members.insert key member }

def createMember (t : Tables) (member : Membership) : Except TableError Tables :=
  match member.ids.compoundId with
  | none => .error .noReaderId
  | some key =>
    if (t.memberEntry? member.ids).isSome then .error (.memberExists key)
    else .ok { t with members := t.members.insert key member }

/-- A membership that is updated stays under the key it was found under. -/
def updateMember (t : Tables) (member : Membership) : Except TableError Tables :=
  match t.memberEntry? member.ids with
  | none => .error (.unknownMember member.ids.compoundId)
  | some (key, _) => .ok { t with members := t.members.set key member }

/-- The draw belongs to this upgrade and is still to be consumed. -/
def isPending (upgradeOrderId : String) (d : Draw) : Bool :=
  d.upgradeOrderId == upgradeOrderId && !d.isConsumed

def consume (moment : Instant) (d : Draw) : Draw := { d with consumed := some moment }

/-- Consumes the pending draws of an upgrade, and says which they were. -/
def consumeDraws (t : Tables) (upgradeOrderId : String) (moment : Instant) : List Draw × Tables :=
  ((t.draws.filter (isPending upgradeOrderId)).map (consume moment),
    { t with draws := t.draws.map fun d => if isPending upgradeOrderId d then consume moment d else d })

def changed (t : Tables) : Except TableError Tables → Except Failure Unit × Tables
  | .ok t' => (.ok (), t')
  | .error e => (.error e.failure, t)

/-- Carries out one step. A step that fails leaves the tables as they were. -/
def perform (t : Tables) : (s : Step) → Except Failure s.Answer × Tables
  | .retrieveMember reader => (.ok (t.member? reader), t)
  | .retrieveOrder orderId => (.ok (t.order? orderId), t)
  | .saveOrder order => t.changed (t.saveOrder order)
  | .updateConfirmedOrder order => t.changed (t.updateConfirmedOrder order)
  | .createMember member => t.changed (t.createMember member)
  | .updateMember member => t.changed (t.updateMember member)
  | .findSources reader asOf => (.ok (t.sources reader asOf), t)
  | .saveDraws draws => (.ok (), { t with draws := t.draws ++ draws })
  | .consumeDraws upgradeOrderId moment =>
    let (consumed, t) := t.consumeDraws upgradeOrderId moment
    (.ok consumed, t)

end Tables

end Subscriptions
