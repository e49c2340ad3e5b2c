import Subscriptions.Ledger
import Subscriptions.Proofs.Confirmation
import Subscriptions.Proofs.Store.Members
import Subscriptions.Proofs.Store.Transaction

/-!
What a payment does to the tables. One relation says all of it, and the work of the transaction is proved
to do exactly that.
-/

namespace Subscriptions

set_option autoImplicit false

/-- A draw once an order is paid: an upgrade consumes its own. -/
def Draw.afterPayment (order : Order) (moment : Instant) (d : Draw) : Draw :=
  if order.kind = .upgrade ∧ Tables.isPending order.id d = true then Tables.consume moment d else d

namespace Draw

variable {order : Order} {moment : Instant} {d : Draw}

@[simp] theorem sourceOrderId_afterPayment :
    (d.afterPayment order moment).sourceOrderId = d.sourceOrderId := by
  unfold afterPayment
  split <;> rfl

@[simp] theorem upgradeOrderId_afterPayment :
    (d.afterPayment order moment).upgradeOrderId = d.upgradeOrderId := by
  unfold afterPayment
  split <;> rfl

@[simp] theorem balance_afterPayment : (d.afterPayment order moment).balance = d.balance := by
  unfold afterPayment
  split <;> rfl

@[simp] theorem created_afterPayment : (d.afterPayment order moment).created = d.created := by
  unfold afterPayment
  split <;> rfl

theorem afterPayment_of_ne (h : d.upgradeOrderId ≠ order.id) : d.afterPayment order moment = d := by
  simp [afterPayment, Tables.isPending, h]

theorem consumed_afterPayment_of_eq (hk : order.kind = .upgrade) (h : d.upgradeOrderId = order.id)
    (hd : d.consumed = none) : (d.afterPayment order moment).consumed = some moment := by
  simp [afterPayment, Tables.isPending, Tables.consume, Draw.isConsumed, hk, h, hd]

theorem isConsumed_afterPayment (h : d.isConsumed = true) :
    (d.afterPayment order moment).isConsumed = true := by
  simp [afterPayment, Tables.isPending, h]

end Draw

/-- The draws that the payment of an order consumes, as they are then. -/
def Tables.consumedBy (t : Tables) (order : Order) (moment : Instant) : List Draw :=
  match order.kind with
  | .upgrade => (t.consumeDraws order.id moment).1
  | .create | .renew => []

/-- A payment for an order is applied, from the first tables to the second. -/
structure Settled (payment : Payment) (fresh : FreshIds) (order : Order) (t : Tables)
    (c : Confirmation) (t' : Tables) : Prop where
  found : t.order? payment.orderId = some order
  applies : payment.Applies order (t.memberOf order.reader)
  made : Confirmation.Made payment order (t.memberOf order.reader) fresh c
  saved : t.saveMember c.membership (t.member? order.reader) = .ok { t with members := t'.members }
  orders : t'.orders = t.orders.set order.id c.order
  draws : t'.draws = t.draws.map (Draw.afterPayment order payment.confirmed)

namespace Settlement

variable {wrap : Failure → Rejection} {payment : Payment} {fresh : FreshIds} {order : Order}
  {t t' : Tables} {s : Settlement} {c : Confirmation}

theorem eval_saveMember (stored : Option Membership) (member : Membership) :
    (saveMember stored member).eval wrap t =
      match t.saveMember member stored with
      | .ok t' => .ok ((), t')
      | .error e => .error (wrap e.failure) := by
  cases stored <;>
    simp only [saveMember, Tables.saveMember, Work.ask, Work.eval, Tables.perform, Tables.changed]
  · cases t.createMember member <;> rfl
  · cases t.updateMember member <;> rfl

theorem eval_consumeDraws (wrap : Failure → Rejection) (t : Tables) (order : Order) (payment : Payment) :
    (consumeDraws order payment).eval wrap t = .ok (t.consumedBy order payment.confirmed,
      { t with draws := t.draws.map (Draw.afterPayment order payment.confirmed) }) := by
  have hother (hk : order.kind ≠ .upgrade) :
      t.draws.map (Draw.afterPayment order payment.confirmed) = t.draws := by
    apply List.map_id''
    intro d
    rw [Draw.afterPayment, if_neg fun h => hk h.1]
  cases hk : order.kind with
  | create =>
    rw [hother (by simp [hk])]
    simp only [consumeDraws, Tables.consumedBy, hk]
    rfl
  | renew =>
    rw [hother (by simp [hk])]
    simp only [consumeDraws, Tables.consumedBy, hk]
    rfl
  | upgrade =>
    have hown : Draw.afterPayment order payment.confirmed = fun d =>
        if Tables.isPending order.id d then Tables.consume payment.confirmed d else d := by
      funext d
      simp only [Draw.afterPayment, hk, true_and]
    rw [hown]
    simp only [consumeDraws, Tables.consumedBy, hk]
    rfl

theorem updateConfirmedOrder_of_made {member : Membership} (hf : t.order? payment.orderId = some order)
    (ha : payment.Applies order member) (hm : Confirmation.Made payment order member fresh c) :
    t.updateConfirmedOrder c.order = .ok { t with orders := t.orders.set order.id c.order } := by
  have hid : c.order.id = order.id := by rw [hm.kept]; rfl
  have hget : t.orders.get? c.order.id = some order := by rw [hid, ← ha.named]; exact hf
  simp only [Tables.updateConfirmedOrder, hget]
  rw [← hm.kept, hid]

/-- Once the order is found and the payment accepted, only the membership can still get in the way. -/
theorem eval_work_of_build (wrap : Failure → Rejection) (hf : t.order? payment.orderId = some order)
    (hb : Confirmation.build payment order (t.memberOf order.reader) fresh = .ok c) :
    (work payment fresh).eval wrap t =
      match t.saveMember c.membership (t.member? order.reader) with
      | .ok t' => .ok (⟨c, t.consumedBy order payment.confirmed⟩,
          { members := t'.members
            orders := t.orders.set order.id c.order
            draws := t.draws.map (Draw.afterPayment order payment.confirmed) })
      | .error e => .error (wrap e.failure) := by
  obtain ⟨ha, hm⟩ := Confirmation.build_eq_ok hb
  have hu := updateConfirmedOrder_of_made hf ha hm
  simp only [Tables.memberOf] at hb
  simp only [work, Work.bind_def, Work.ask, Work.bind, Work.eval, Tables.perform, hf, Work.eval_bind,
    Work.eval_ofExcept, hb, hu, Tables.changed, eval_saveMember, Tables.saveMember_withOrders]
  cases hs : t.saveMember c.membership (t.member? order.reader) with
  | error e => rfl
  | ok u =>
    simp only [Except.map, eval_consumeDraws]
    rw [Tables.eq_of_saveMember hs]
    rfl

theorem eval_work_of_rejected {r : Rejection} (hf : t.order? payment.orderId = some order)
    (hb : Confirmation.build payment order (t.memberOf order.reader) fresh = .error r) :
    (work payment fresh).eval wrap t = .error r := by
  simp only [Tables.memberOf] at hb
  simp only [work, Work.bind_def, Work.ask, Work.bind, Work.eval, Tables.perform, hf, Work.eval_bind,
    Work.eval_ofExcept, hb]

theorem settled_of_eval (h : (work payment fresh).eval wrap t = .ok (s, t')) :
    ∃ order, Settled payment fresh order t s.confirmation t' ∧
      s.consumed = t.consumedBy order payment.confirmed := by
  cases hf : t.order? payment.orderId with
  | none =>
    simp only [work, Work.bind_def, Work.ask, Work.bind, Work.eval, Tables.perform, hf] at h
    cases h
  | some order =>
    cases hb : Confirmation.build payment order (t.memberOf order.reader) fresh with
    | error r =>
      rw [eval_work_of_rejected hf hb] at h
      cases h
    | ok c =>
      obtain ⟨ha, hm⟩ := Confirmation.build_eq_ok hb
      rw [eval_work_of_build wrap hf hb] at h
      split at h
      · rename_i u hs
        obtain ⟨rfl, rfl⟩ := Prod.mk.injEq .. ▸ Except.ok.inj h
        exact ⟨order, ⟨hf, ha, hm, Tables.eq_of_saveMember hs ▸ hs, rfl, rfl⟩, rfl⟩
      · cases h

theorem exists_eval_work (hf : t.order? payment.orderId = some order)
    (ha : payment.Applies order (t.memberOf order.reader)) (hr : order.reader.isEmpty = false) :
    ∃ s t', (work payment fresh).eval wrap t = .ok (s, t') := by
  obtain ⟨c, hb⟩ := Confirmation.exists_build_eq_ok ha fresh
  have he := eval_work_of_build wrap hf hb
  have hm := (Confirmation.build_eq_ok hb).2
  have hids : c.membership.ids = (t.memberOf order.reader).ids.merge order.reader := by
    rw [hm.membership, hm.kept]
    rfl
  obtain ⟨u, hu⟩ := Tables.exists_saveMember hids hr
  rw [hu] at he
  exact ⟨_, _, he⟩

end Settlement

namespace Settled

variable {payment : Payment} {fresh : FreshIds} {order : Order} {t t' : Tables} {c : Confirmation}

theorem id_eq (h : Settled payment fresh order t c t') : c.order.id = order.id := by
  rw [h.made.kept]
  rfl

theorem reader_eq (h : Settled payment fresh order t c t') : c.order.reader = order.reader := by
  rw [h.made.kept]
  rfl

theorem kind_eq (h : Settled payment fresh order t c t') : c.order.kind = order.kind := by
  rw [h.made.kept]
  rfl

theorem created_eq (h : Settled payment fresh order t c t') : c.order.created = order.created := by
  rw [h.made.kept]
  rfl

theorem price_eq (h : Settled payment fresh order t c t') : c.order.price = order.price := by
  rw [h.made.kept]
  rfl

theorem amount_eq (h : Settled payment fresh order t c t') : c.order.amount = order.amount := by
  rw [h.made.kept]
  rfl

theorem tier_eq (h : Settled payment fresh order t c t') : c.membership.tier = order.tier := by
  rw [h.made.membership, h.made.kept]
  rfl

theorem expireDate_eq (h : Settled payment fresh order t c t') :
    c.membership.expireDate = c.order.endDate := by
  rw [h.made.membership]
  rfl

theorem autoRenew_eq (h : Settled payment fresh order t c t') : c.membership.autoRenew = false := by
  rw [h.made.membership]
  rfl

theorem order?_eq (h : Settled payment fresh order t c t') (id : String) :
    t'.order? id = if id = payment.orderId then some c.order else t.order? id := by
  have hf : t.orders.get? order.id = some order := by
    rw [← h.applies.named]
    exact h.found
  simp only [Tables.order?, h.orders, Table.get?_set, hf, h.applies.named, Option.map_some]

theorem order?_of_confirmed (h : Settled payment fresh order t c t') {id : String} {o : Order}
    (ho : t.order? id = some o) (hc : o.isConfirmed = true) :
    id ≠ payment.orderId ∧ t'.order? id = some o := by
  have hne : id ≠ payment.orderId := by
    rintro rfl
    obtain rfl := Option.some.inj (h.found.symm.trans ho)
    simp [Order.isConfirmed, h.applies.unconfirmed] at hc
  rw [h.order?_eq, if_neg hne]
  exact ⟨hne, ho⟩

theorem order?_kept (h : Settled payment fresh order t c t') {id : String} {o : Order}
    (ho : t.order? id = some o) : ∃ o', t'.order? id = some o' ∧ o' = o.withConfirmation o' := by
  by_cases hid : id = payment.orderId
  · obtain rfl : order = o := Option.some.inj (h.found.symm.trans (hid ▸ ho))
    refine ⟨c.order, ?_, h.made.kept⟩
    rw [h.order?_eq, if_pos hid]
  · refine ⟨o, ?_, rfl⟩
    rw [h.order?_eq, if_neg hid]
    exact ho

theorem ids_eq (h : Settled payment fresh order t c t') :
    c.membership.ids = (t.memberOf order.reader).ids.merge order.reader := by
  rw [h.made.membership, h.made.kept]
  rfl

theorem member?_eq (h : Settled payment fresh order t c t') (hr : order.reader.isEmpty = false) :
    t'.member? order.reader = some c.membership := by
  have hs := Tables.member?_of_saveMember h.ids_eq hr h.saved
  exact hs

end Settled

end Subscriptions
