import Subscriptions.Json.Records
import Subscriptions.Sql.Row

/-!
The JSON of rows of a database: objects that hold the cells by the names of their columns.
-/

namespace Subscriptions

set_option autoImplicit false

open Json

namespace Sql

def Cell.toJson : Cell → Json
  | .null => .null
  | .bool b => .bool b
  | .integer n => .integer n
  | .text s => .text s
  | .date d => encode d
  | .instant t => encode t

def rowJson (r : Relation) (row : r.Row) : Json :=
  .object ((r.entries row).map fun e => (e.1, e.2.toJson))

def integer32? : Json → Option Int
  | .integer n => if -2147483648 ≤ n ∧ n < 2147483648 then some n else none
  | _ => none

instance : Coded MemberRow where
  encode := rowJson .memberships
  decodeIn place j := do
    let f ← j.record? (Relation.columns .memberships)
    return {
      compoundId := ← f.required "compound_id" text?
      ftcId := ← f.optional "ftc_id" text?
      unionId := ← f.optional "union_id" text?
      membershipId := ← f.optional "membership_id" text?
      tier := ← f.required "tier" text?
      cycle := ← f.required "cycle" text?
      expireDate := ← f.optional "expire_date" (decodeIn place)
      paymentMethod := ← f.required "payment_method" text?
      autoRenew := ← f.required "auto_renew" bool?
      status := ← f.required "status" text?
      foreignSubId := ← f.optional "foreign_sub_id" text? }

instance : Coded OrderRow where
  encode := rowJson .orders
  decodeIn place j := do
    let f ← j.record? (Relation.columns .orders)
    return {
      id := ← f.required "id" text?
      ftcId := ← f.optional "ftc_id" text?
      unionId := ← f.optional "union_id" text?
      planId := ← f.required "plan_id" text?
      tier := ← f.required "tier" text?
      cycle := ← f.required "cycle" text?
      price := ← f.required "price" cents?
      amount := ← f.required "amount" cents?
      currency := ← f.required "currency" text?
      cycleCount := ← f.required "cycle_count" integer32?
      extraDays := ← f.required "extra_days" integer32?
      kind := ← f.required "kind" text?
      paymentMethod := ← f.required "payment_method" text?
      created := ← f.required "created_utc" (decodeIn place)
      confirmed := ← f.optional "confirmed_utc" (decodeIn place)
      startDate := ← f.optional "start_date" (decodeIn place)
      endDate := ← f.optional "end_date" (decodeIn place)
      snapshotId := ← f.optional "snapshot_id" text? }

end Sql

end Subscriptions
