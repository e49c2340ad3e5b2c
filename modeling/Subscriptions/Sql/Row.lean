import Subscriptions.Confirmation

/-!
The rows of the three tables of a database, and how memberships, orders and draws are kept in them. Names
are kept as text, so reading a row back can meet a name that is unknown.
-/

namespace Subscriptions.Sql

set_option autoImplicit false

inductive Cell
  | null
  | bool (b : Bool)
  | integer (n : Int)
  | text (s : String)
  | date (d : Date)
  | instant (t : Instant)
deriving DecidableEq

def Cell.ofOption {α : Type} (cell : α → Cell) : Option α → Cell
  | some a => cell a
  | none => .null

structure MemberRow where
  compoundId : String
  ftcId : Option String
  unionId : Option String
  membershipId : Option String
  tier : String
  cycle : String
  expireDate : Option Date
  paymentMethod : String
  autoRenew : Bool
  status : String
  foreignSubId : Option String
deriving DecidableEq

structure OrderRow where
  id : String
  ftcId : Option String
  unionId : Option String
  planId : String
  tier : String
  cycle : String
  price : Int
  amount : Int
  currency : String
  /-- The counts are kept as integers of 32 bits with a sign. -/
  cycleCount : Int
  extraDays : Int
  kind : String
  paymentMethod : String
  created : Instant
  confirmed : Option Instant
  startDate : Option Date
  endDate : Option Date
  snapshotId : Option String
deriving DecidableEq

/-- Counts that are too large are kept as the largest one. -/
def keepCount (n : Nat) : Int := min n 2147483647

/-- Counts below zero are read as zero. -/
def readCount (n : Int) : Nat := n.toNat

def MemberRow.ofMembership? (m : Membership) : Option MemberRow :=
  m.ids.compoundId.map fun key =>
    { compoundId := key
      ftcId := m.ids.ftcId
      unionId := m.ids.unionId
      membershipId := m.id
      tier := m.tier.name
      cycle := m.cycle.name
      expireDate := m.expireDate
      paymentMethod := m.paymentMethod.name
      autoRenew := m.autoRenew
      status := m.status.name
      foreignSubId := m.foreignSubId }

def MemberRow.toMembership (row : MemberRow) : Except UnknownName Membership := do
  let tier ← Vocabulary.parse row.tier
  let cycle ← Vocabulary.parse row.cycle
  let paymentMethod ← Vocabulary.parse row.paymentMethod
  let status ← Vocabulary.parse row.status
  return {
    ids := ⟨row.ftcId, row.unionId⟩
    id := row.membershipId
    tier := tier
    cycle := cycle
    expireDate := row.expireDate
    paymentMethod := paymentMethod
    autoRenew := row.autoRenew
    status := status
    foreignSubId := row.foreignSubId }

def OrderRow.ofOrder (o : Order) : OrderRow where
  id := o.id
  ftcId := o.reader.ftcId
  unionId := o.reader.unionId
  planId := o.planId
  tier := o.tier.name
  cycle := o.cycle.name
  price := o.price
  amount := o.amount
  currency := o.currency
  cycleCount := keepCount o.cycleCount
  extraDays := keepCount o.extraDays
  kind := o.kind.name
  paymentMethod := o.paymentMethod.name
  created := o.created
  confirmed := o.confirmed
  startDate := o.startDate
  endDate := o.endDate
  snapshotId := o.snapshotId

def OrderRow.toOrder (row : OrderRow) : Except UnknownName Order := do
  let tier ← Vocabulary.parse row.tier
  let cycle ← Vocabulary.parse row.cycle
  let kind ← Vocabulary.parse row.kind
  let paymentMethod ← Vocabulary.parse row.paymentMethod
  return {
    id := row.id
    reader := ⟨row.ftcId, row.unionId⟩
    planId := row.planId
    tier := tier
    cycle := cycle
    price := row.price
    amount := row.amount
    currency := row.currency
    cycleCount := readCount row.cycleCount
    extraDays := readCount row.extraDays
    kind := kind
    paymentMethod := paymentMethod
    created := row.created
    confirmed := row.confirmed
    startDate := row.startDate
    endDate := row.endDate
    snapshotId := row.snapshotId }

inductive Relation
  | memberships
  | orders
  | proratedOrders
deriving DecidableEq

namespace Relation

/-- The rows of a relation. Those of draws are the draws themselves. -/
@[reducible] def Row : Relation → Type
  | .memberships => MemberRow
  | .orders => OrderRow
  | .proratedOrders => Draw

def name : Relation → String
  | .memberships => "memberships"
  | .orders => "orders"
  | .proratedOrders => "prorated_orders"

def columns : Relation → List String
  | .memberships =>
    ["compound_id", "ftc_id", "union_id", "membership_id", "tier", "cycle", "expire_date",
      "payment_method", "auto_renew", "status", "foreign_sub_id"]
  | .orders =>
    ["id", "ftc_id", "union_id", "plan_id", "tier", "cycle", "price", "amount", "currency",
      "cycle_count", "extra_days", "kind", "payment_method", "created_utc", "confirmed_utc",
      "start_date", "end_date", "snapshot_id"]
  | .proratedOrders =>
    ["source_order_id", "upgrade_order_id", "balance", "created_utc", "consumed_utc"]

def keyColumns : Relation → List String
  | .memberships => ["compound_id"]
  | .orders => ["id"]
  | .proratedOrders => ["source_order_id", "upgrade_order_id"]

def cells : (r : Relation) → r.Row → List Cell
  | .memberships, row =>
    [.text row.compoundId, .ofOption .text row.ftcId, .ofOption .text row.unionId,
      .ofOption .text row.membershipId, .text row.tier, .text row.cycle,
      .ofOption .date row.expireDate, .text row.paymentMethod, .bool row.autoRenew, .text row.status,
      .ofOption .text row.foreignSubId]
  | .orders, row =>
    [.text row.id, .ofOption .text row.ftcId, .ofOption .text row.unionId, .text row.planId,
      .text row.tier, .text row.cycle, .integer row.price, .integer row.amount, .text row.currency,
      .integer row.cycleCount, .integer row.extraDays, .text row.kind, .text row.paymentMethod,
      .instant row.created, .ofOption .instant row.confirmed, .ofOption .date row.startDate,
      .ofOption .date row.endDate, .ofOption .text row.snapshotId]
  | .proratedOrders, draw =>
    [.text draw.sourceOrderId, .text draw.upgradeOrderId, .integer draw.balance,
      .instant draw.created, .ofOption .instant draw.consumed]

def entries (r : Relation) (row : r.Row) : List (String × Cell) := r.columns.zip (r.cells row)

def cell (r : Relation) (row : r.Row) (column : String) : Cell :=
  ((r.entries row).lookup column).getD .null

end Relation

end Subscriptions.Sql
