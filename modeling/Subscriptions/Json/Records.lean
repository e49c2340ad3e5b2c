import Subscriptions.Json.Coded
import Subscriptions.Confirmation

/-!
The JSON of readers, memberships, plans, orders, payments, wallets and confirmations. An optional field is
written as null when it is absent, and may be missing when it is read.
-/

namespace Subscriptions

set_option autoImplicit false

open Json

/-- Counts are whole numbers of 32 bits without a sign. -/
def Json.count32? : Json → Option Nat := natBelow? 4294967296

instance : Coded Reader where
  encode r := .object [("ftc_id", ofOption .text r.ftcId), ("union_id", ofOption .text r.unionId)]
  decodeIn _ j := do
    let f ← j.record? ["ftc_id", "union_id"]
    return { ftcId := ← f.optional "ftc_id" text?, unionId := ← f.optional "union_id" text? }

instance : Coded Membership where
  encode m := .object
    [("ids", encode m.ids), ("id", ofOption .text m.id), ("tier", Vocabulary.encode m.tier),
      ("cycle", Vocabulary.encode m.cycle), ("expire_date", ofOption encode m.expireDate),
      ("payment_method", Vocabulary.encode m.paymentMethod), ("auto_renew", .bool m.autoRenew),
      ("status", Vocabulary.encode m.status), ("foreign_sub_id", ofOption .text m.foreignSubId)]
  decodeIn place j := do
    let f ← j.record? ["ids", "id", "tier", "cycle", "expire_date", "payment_method", "auto_renew",
      "status", "foreign_sub_id"]
    return {
      ids := ← f.required "ids" (decodeIn place)
      id := ← f.optional "id" text?
      tier := ← f.required "tier" (Vocabulary.decodeIn place)
      cycle := ← f.required "cycle" (Vocabulary.decodeIn place)
      expireDate := ← f.optional "expire_date" (decodeIn place)
      paymentMethod := ← f.required "payment_method" (Vocabulary.decodeIn place)
      autoRenew := ← f.required "auto_renew" bool?
      status := ← f.required "status" (Vocabulary.decodeIn place)
      foreignSubId := ← f.optional "foreign_sub_id" text? }

def Snapshot.fields (s : Snapshot) : List (String × Json) :=
  [("id", .text s.id), ("reason", Vocabulary.encode s.reason), ("created_utc", encode s.created),
    ("order_id", ofOption .text s.orderId), ("membership", encode s.membership)]

instance : Coded Snapshot where
  encode s := .object s.fields
  decodeIn place j := do
    let f ← j.record? ["id", "reason", "created_utc", "order_id", "membership"]
    return {
      id := ← f.required "id" text?
      reason := ← f.required "reason" (Vocabulary.decodeIn place)
      created := ← f.required "created_utc" (decodeIn place)
      orderId := ← f.optional "order_id" text?
      membership := ← f.required "membership" (decodeIn place) }

instance : Coded Plan where
  encode p := .object
    [("id", .text p.id), ("tier", Vocabulary.encode p.tier), ("cycle", Vocabulary.encode p.cycle),
      ("price", .integer p.price), ("discount", .integer p.discount), ("currency", .text p.currency),
      ("description", ofOption .text p.description)]
  decodeIn place j := do
    let f ← j.record? ["id", "tier", "cycle", "price", "discount", "currency", "description"]
    return {
      id := ← f.required "id" text?
      tier := ← f.required "tier" (Vocabulary.decodeIn place)
      cycle := ← f.required "cycle" (Vocabulary.decodeIn place)
      price := ← f.required "price" cents?
      discount := ← f.required "discount" cents?
      currency := ← f.required "currency" text?
      description := ← f.optional "description" text? }

/-- What is said of a plan is only read, never written. -/
def PlanSpec.decode (j : Json) : Option PlanSpec := do
  let f ← j.record? ["id", "tier", "cycle", "price", "discount", "currency", "description"]
  return {
    id := ← f.required "id" text?
    tier := ← f.optional "tier" Vocabulary.decode
    cycle := ← f.optional "cycle" Vocabulary.decode
    price := ← f.optional "price" cents?
    discount := ← f.optional "discount" cents?
    currency := ← f.optional "currency" text?
    description := ← f.optional "description" text? }

instance : Coded Order where
  encode o := .object
    [("id", .text o.id), ("reader", encode o.reader), ("plan_id", .text o.planId),
      ("tier", Vocabulary.encode o.tier), ("cycle", Vocabulary.encode o.cycle),
      ("price", .integer o.price), ("amount", .integer o.amount), ("currency", .text o.currency),
      ("cycle_count", ofNat o.cycleCount), ("extra_days", ofNat o.extraDays),
      ("kind", Vocabulary.encode o.kind), ("payment_method", Vocabulary.encode o.paymentMethod),
      ("created_utc", encode o.created), ("confirmed_utc", ofOption encode o.confirmed),
      ("start_date", ofOption encode o.startDate), ("end_date", ofOption encode o.endDate),
      ("snapshot_id", ofOption .text o.snapshotId)]
  decodeIn place j := do
    let f ← j.record? ["id", "reader", "plan_id", "tier", "cycle", "price", "amount", "currency",
      "cycle_count", "extra_days", "kind", "payment_method", "created_utc", "confirmed_utc",
      "start_date", "end_date", "snapshot_id"]
    return {
      id := ← f.required "id" text?
      reader := ← f.required "reader" (decodeIn place)
      planId := ← f.required "plan_id" text?
      tier := ← f.required "tier" (Vocabulary.decodeIn place)
      cycle := ← f.required "cycle" (Vocabulary.decodeIn place)
      price := ← f.required "price" cents?
      amount := ← f.required "amount" cents?
      currency := ← f.required "currency" text?
      cycleCount := ← f.required "cycle_count" count32?
      extraDays := ← f.required "extra_days" count32?
      kind := ← f.required "kind" (Vocabulary.decodeIn place)
      paymentMethod := ← f.required "payment_method" (Vocabulary.decodeIn place)
      created := ← f.required "created_utc" (decodeIn place)
      confirmed := ← f.optional "confirmed_utc" (decodeIn place)
      startDate := ← f.optional "start_date" (decodeIn place)
      endDate := ← f.optional "end_date" (decodeIn place)
      snapshotId := ← f.optional "snapshot_id" text? }

instance : Coded Payment where
  encode p := .object
    [("order_id", .text p.orderId), ("amount_cents", .integer p.amountCents),
      ("confirmed_utc", encode p.confirmed)]
  decodeIn place j := do
    let f ← j.record? ["order_id", "amount_cents", "confirmed_utc"]
    return {
      orderId := ← f.required "order_id" text?
      amountCents := ← f.required "amount_cents" cents?
      confirmed := ← f.required "confirmed_utc" (decodeIn place) }

instance : Coded Source where
  encode s := .object
    [("order_id", .text s.orderId), ("amount", .integer s.amount), ("start_date", encode s.startDate),
      ("end_date", encode s.endDate)]
  decodeIn place j := do
    let f ← j.record? ["order_id", "amount", "start_date", "end_date"]
    return {
      orderId := ← f.required "order_id" text?
      amount := ← f.required "amount" cents?
      startDate := ← f.required "start_date" (decodeIn place)
      endDate := ← f.required "end_date" (decodeIn place) }

instance : Coded Draw where
  encode d := .object
    [("source_order_id", .text d.sourceOrderId), ("balance", .integer d.balance),
      ("created_utc", encode d.created), ("consumed_utc", ofOption encode d.consumed),
      ("upgrade_order_id", .text d.upgradeOrderId)]
  decodeIn place j := do
    let f ← j.record? ["source_order_id", "balance", "created_utc", "consumed_utc", "upgrade_order_id"]
    return {
      sourceOrderId := ← f.required "source_order_id" text?
      balance := ← f.required "balance" cents?
      created := ← f.required "created_utc" (decodeIn place)
      consumed := ← f.optional "consumed_utc" (decodeIn place)
      upgradeOrderId := ← f.required "upgrade_order_id" text? }

instance : Coded Valued where
  encode v := .object [("source", encode v.source), ("balance", .integer v.balance)]
  decodeIn place j := do
    let f ← j.record? ["source", "balance"]
    return { source := ← f.required "source" (decodeIn place), balance := ← f.required "balance" cents? }

instance : Coded Wallet where
  encode w := .object
    [("balance", .integer w.balance), ("sources", .list (w.sources.map encode)), ("as_of", encode w.asOf)]
  decodeIn place j := do
    let f ← j.record? ["balance", "sources", "as_of"]
    return {
      balance := ← f.required "balance" cents?
      sources := ← f.required "sources" (decodeList (decodeIn place))
      asOf := ← f.required "as_of" (decodeIn place) }

instance : Coded Span where
  encode s := .object [("cycle_count", ofNat s.cycleCount), ("extra_days", ofNat s.extraDays)]
  decodeIn _ j := do
    let f ← j.record? ["cycle_count", "extra_days"]
    return {
      cycleCount := ← f.required "cycle_count" count32?
      extraDays := ← f.required "extra_days" count32? }

instance : Coded Draft where
  encode d := .object [("order", encode d.order), ("prorated", .list (d.draws.map encode))]
  decodeIn place j := do
    let f ← j.record? ["order", "prorated"]
    return {
      order := ← f.required "order" (decodeIn place)
      draws := ← f.required "prorated" (decodeList (decodeIn place)) }

def Confirmation.fields (c : Confirmation) : List (String × Json) :=
  [("order", encode c.order), ("membership", encode c.membership), ("snapshot", encode c.snapshot)]

instance : Coded Confirmation where
  encode c := .object c.fields
  decodeIn place j := do
    let f ← j.record? ["order", "membership", "snapshot"]
    return {
      order := ← f.required "order" (decodeIn place)
      membership := ← f.required "membership" (decodeIn place)
      snapshot := ← f.required "snapshot" (decodeIn place) }

end Subscriptions
