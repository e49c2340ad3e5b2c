import Subscriptions.Proofs.Json.Variation

/-!
Records are read back, from whatever varies the objects that they are written as. Amounts have to fit into 64 bits with
a sign and counts into 32 without one.
-/

namespace Subscriptions

set_option autoImplicit false

open Json

/-- The numbers of an order have the sizes that they are kept in. -/
structure Order.Fits (o : Order) : Prop where
  price : FitsCents o.price
  amount : FitsCents o.amount
  cycleCount : o.cycleCount < 4294967296
  extraDays : o.extraDays < 4294967296

structure Valued.Fits (v : Valued) : Prop where
  amount : FitsCents v.source.amount
  balance : FitsCents v.balance

structure Wallet.Fits (w : Wallet) : Prop where
  balance : FitsCents w.balance
  sources : ∀ v ∈ w.sources, v.Fits

structure Draft.Fits (d : Draft) : Prop where
  order : d.order.Fits
  draws : ∀ draw ∈ d.draws, FitsCents draw.balance

namespace Json.Reads

variable (place : Json.Place)

theorem reader (r : Reader) : Reads (decodeIn place) (encode r) r := by
  apply Reads.record
  · rfl
  · decide
  intro f hf
  simp [hf.optional "ftc_id" r.ftcId Reads.text, hf.optional "union_id" r.unionId Reads.text]

theorem membership (m : Membership) : Reads (decodeIn place) (encode m) m := by
  apply Reads.record
  · rfl
  · decide
  intro f hf
  simp [hf.required "ids" (reader place m.ids), hf.optional "id" m.id Reads.text,
    hf.required "tier" (Reads.vocabulary place m.tier), hf.required "cycle" (Reads.vocabulary place m.cycle),
    hf.optional "expire_date" m.expireDate (Reads.date place),
    hf.required "payment_method" (Reads.vocabulary place m.paymentMethod),
    hf.required "auto_renew" (Reads.bool m.autoRenew), hf.required "status" (Reads.vocabulary place m.status),
    hf.optional "foreign_sub_id" m.foreignSubId Reads.text]

theorem snapshot (s : Snapshot) : Reads (decodeIn place) (encode s) s := by
  apply Reads.record
  · rfl
  · decide
  intro f hf
  rw [Snapshot.fields] at hf
  simp [hf.required "id" (Reads.text s.id), hf.required "reason" (Reads.vocabulary place s.reason),
    hf.required "created_utc" (Reads.instant place s.created), hf.optional "order_id" s.orderId Reads.text,
    hf.required "membership" (membership place s.membership)]

theorem order {o : Order} (h : o.Fits) : Reads (decodeIn place) (encode o) o := by
  apply Reads.record
  · rfl
  · decide
  intro f hf
  simp [hf.required "id" (Reads.text o.id), hf.required "reader" (reader place o.reader),
    hf.required "plan_id" (Reads.text o.planId), hf.required "tier" (Reads.vocabulary place o.tier),
    hf.required "cycle" (Reads.vocabulary place o.cycle), hf.required "price" (Reads.cents h.price),
    hf.required "amount" (Reads.cents h.amount), hf.required "currency" (Reads.text o.currency),
    hf.required "cycle_count" (Reads.count h.cycleCount), hf.required "extra_days" (Reads.count h.extraDays),
    hf.required "kind" (Reads.vocabulary place o.kind),
    hf.required "payment_method" (Reads.vocabulary place o.paymentMethod),
    hf.required "created_utc" (Reads.instant place o.created),
    hf.optional "confirmed_utc" o.confirmed (Reads.instant place),
    hf.optional "start_date" o.startDate (Reads.date place), hf.optional "end_date" o.endDate (Reads.date place),
    hf.optional "snapshot_id" o.snapshotId Reads.text]

theorem source {s : Source} (h : FitsCents s.amount) : Reads (decodeIn place) (encode s) s := by
  apply Reads.record
  · rfl
  · decide
  intro f hf
  simp [hf.required "order_id" (Reads.text s.orderId), hf.required "amount" (Reads.cents h),
    hf.required "start_date" (Reads.date place s.startDate), hf.required "end_date" (Reads.date place s.endDate)]

theorem valued {v : Valued} (h : v.Fits) : Reads (decodeIn place) (encode v) v := by
  apply Reads.record
  · rfl
  · decide
  intro f hf
  simp [hf.required "source" (source place h.amount), hf.required "balance" (Reads.cents h.balance)]

theorem wallet {w : Wallet} (h : w.Fits) : Reads (decodeIn place) (encode w) w := by
  apply Reads.record
  · rfl
  · decide
  intro f hf
  have hsources : Reads (decodeList (decodeIn place)) (.list (w.sources.map encode)) w.sources :=
    Reads.list fun v hv => valued place (h.sources v hv)
  simp [hf.required "balance" (Reads.cents h.balance), hf.required "sources" hsources,
    hf.required "as_of" (Reads.instant place w.asOf)]

theorem draw {d : Draw} (h : FitsCents d.balance) : Reads (decodeIn place) (encode d) d := by
  apply Reads.record
  · rfl
  · decide
  intro f hf
  simp [hf.required "source_order_id" (Reads.text d.sourceOrderId), hf.required "balance" (Reads.cents h),
    hf.required "created_utc" (Reads.instant place d.created),
    hf.optional "consumed_utc" d.consumed (Reads.instant place),
    hf.required "upgrade_order_id" (Reads.text d.upgradeOrderId)]

theorem draft {d : Draft} (h : d.Fits) : Reads (decodeIn place) (encode d) d := by
  apply Reads.record
  · rfl
  · decide
  intro f hf
  have hdraws : Reads (decodeList (decodeIn place)) (.list (d.draws.map encode)) d.draws :=
    Reads.list fun draw hdraw => Reads.draw place (h.draws draw hdraw)
  simp [hf.required "order" (order place h.order), hf.required "prorated" hdraws]

theorem confirmation {c : Confirmation} (h : c.order.Fits) : Reads (decodeIn place) (encode c) c := by
  apply Reads.record
  · rfl
  · decide
  intro f hf
  rw [Confirmation.fields] at hf
  simp [hf.required "order" (order place h), hf.required "membership" (membership place c.membership),
    hf.required "snapshot" (snapshot place c.snapshot)]

end Json.Reads

end Subscriptions
