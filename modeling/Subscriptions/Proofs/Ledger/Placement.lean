import Subscriptions.Ledger
import Subscriptions.Proofs.Store.Members
import Subscriptions.Proofs.Store.Sources
import Subscriptions.Proofs.Store.Transaction

/-!
What the making of an order does to the tables: the order is new, and with it are saved its draws.
-/

namespace Subscriptions

set_option autoImplicit false

def OrderRequest.purchase (request : OrderRequest) (plan : Plan) (t : Tables) : Purchase where
  reader := request.reader
  plan := plan
  paymentMethod := request.paymentMethod
  member := t.memberOf request.reader
  now := request.now

def OrderRequest.wallet (request : OrderRequest) (kind : OrderKind) (t : Tables) : Wallet :=
  match kind with
  | .upgrade => Wallet.ofSources (t.sources request.reader request.now) request.now
  | .create | .renew => Wallet.empty request.now

theorem OrderRequest.fits_wallet_balance (request : OrderRequest) (kind : OrderKind) (t : Tables) :
    FitsCents (request.wallet kind t).balance := by
  cases kind with
  | create | renew => exact (by decide : FitsCents 0)
  | upgrade => exact Wallet.fits_balance _ _

theorem Catalogue.get?_of_require {c : Catalogue} {planId : String} {plan : Plan} (h : c.require planId = .ok plan) :
    c.get? planId = some plan := by
  unfold require at h
  split at h
  · rename_i hp
    rw [hp, Except.ok.inj h]
  · cases h

/-- An order is made on request, from the first tables to the second. -/
structure Placed (shop : Shop) (request : OrderRequest) (orderId : String) (plan : Plan)
    (kind : OrderKind) (t : Tables) (draft : Draft) (t' : Tables) : Prop where
  onSale : shop.catalogue.get? request.planId = some plan
  accepted : shop.policy.check (request.purchase plan t) = .ok kind
  drafted : draft = shop.policy.draft (request.purchase plan t) kind (request.wallet kind t) orderId
  isNew : t.order? orderId = none
  tables : t' = { t.insertOrder draft.order with draws := t.draws ++ draft.draws }

namespace Shop

variable {wrap : Failure → Failure} {shop : Shop} {request : OrderRequest} {plan : Plan}
  {orderId : String} {t : Tables}

theorem eval_walletWork (kind : OrderKind) :
    (walletWork request.reader request.now kind).eval wrap t = .ok (request.wallet kind t, t) := by
  cases kind <;> rfl

/-- An order is made unless the rules refuse it or its id is taken. -/
theorem eval_orderWork :
    (shop.orderWork request plan orderId).eval wrap t =
      match shop.policy.check (request.purchase plan t) with
      | .error refusal => .error (.refused refusal)
      | .ok kind =>
        let draft := shop.policy.draft (request.purchase plan t) kind (request.wallet kind t) orderId
        if t.orders.contains orderId then .error (wrap (TableError.duplicateOrder orderId).failure)
        else .ok (draft, { t.insertOrder draft.order with draws := t.draws ++ draft.draws }) := by
  have hp : request.purchase plan t = ⟨request.reader, plan, request.paymentMethod,
      (t.member? request.reader).getD (Membership.zero request.reader), request.now⟩ := rfl
  simp only [orderWork, Work.bind_def, Work.ask, Work.bind, Work.eval, Tables.perform, Work.eval_bind,
    Work.eval_ofExcept, ← hp, eval_walletWork]
  cases hc : shop.policy.check (request.purchase plan t) with
  | error refusal => rfl
  | ok kind =>
    have hok : Except.mapError Failure.refused (.ok kind : Except Refusal OrderKind) = .ok kind := rfl
    simp only [hok]
    rw [← hp]
    generalize hd : shop.policy.draft (request.purchase plan t) kind (request.wallet kind t) orderId = draft
    have hid : draft.order.id = orderId := by
      rw [← hd]
      rfl
    simp only [Tables.saveOrder, hid]
    by_cases hn : t.orders.contains orderId = true
    · simp only [hn, if_true, Tables.changed]
    · simp only [hn, if_false, Tables.changed, Bool.false_eq_true]
      split
      · rename_i he
        rw [List.isEmpty_iff.mp he, List.append_nil]
        rfl
      · rfl

theorem placed_of_eval {draft : Draft} {t' : Tables} (hs : shop.catalogue.require request.planId = .ok plan)
    (h : (shop.orderWork request plan orderId).eval wrap t = .ok (draft, t')) :
    ∃ kind, Placed shop request orderId plan kind t draft t' := by
  have hget := Catalogue.get?_of_require hs
  rw [eval_orderWork] at h
  split at h
  · cases h
  · rename_i kind hc
    simp only at h
    split at h
    · cases h
    · rename_i hn
      obtain ⟨rfl, rfl⟩ := Prod.mk.injEq .. ▸ Except.ok.inj h
      exact ⟨kind, hget, hc, rfl, Table.contains_eq_false_iff.mp (by simpa using hn), rfl⟩

end Shop

namespace Placed

variable {shop : Shop} {request : OrderRequest} {orderId : String} {plan : Plan} {kind : OrderKind}
  {t t' : Tables} {draft : Draft}

theorem id_eq (h : Placed shop request orderId plan kind t draft t') : draft.order.id = orderId := by
  rw [h.drafted]
  rfl

theorem reader_eq (h : Placed shop request orderId plan kind t draft t') :
    draft.order.reader = request.reader := by
  rw [h.drafted]
  rfl

theorem kind_eq (h : Placed shop request orderId plan kind t draft t') : draft.order.kind = kind := by
  rw [h.drafted]
  rfl

theorem tier_eq (h : Placed shop request orderId plan kind t draft t') : draft.order.tier = plan.tier := by
  rw [h.drafted]
  rfl

theorem created_eq (h : Placed shop request orderId plan kind t draft t') :
    draft.order.created = request.now := by
  rw [h.drafted]
  rfl

theorem confirmed_eq (h : Placed shop request orderId plan kind t draft t') :
    draft.order.confirmed = none := by
  rw [h.drafted]
  rfl

theorem order?_eq (h : Placed shop request orderId plan kind t draft t') (id : String) :
    t'.order? id = if id = orderId then some draft.order else t.order? id := by
  rw [h.tables]
  simp only [Tables.order?, Tables.insertOrder, Table.get?_insert, h.id_eq]

theorem order?_kept (h : Placed shop request orderId plan kind t draft t') {id : String} {o : Order}
    (ho : t.order? id = some o) : id ≠ orderId ∧ t'.order? id = some o := by
  have hne : id ≠ orderId := by
    rintro rfl
    rw [h.isNew] at ho
    cases ho
  rw [h.order?_eq, if_neg hne]
  exact ⟨hne, ho⟩

theorem members_eq (h : Placed shop request orderId plan kind t draft t') : t'.members = t.members := by
  rw [h.tables]
  rfl

theorem draws_eq (h : Placed shop request orderId plan kind t draft t') :
    t'.draws = t.draws ++ draft.draws := by
  rw [h.tables]

theorem draws_of_upgrade (h : Placed shop request orderId plan .upgrade t draft t') :
    draft.draws = (Wallet.ofSources (t.sources request.reader request.now) request.now).draws orderId := by
  rw [h.drafted]
  rfl

theorem mem_draws (h : Placed shop request orderId plan kind t draft t') {d : Draw} (hd : d ∈ draft.draws) :
    kind = .upgrade ∧ ∃ s ∈ t.sources request.reader request.now, 0 < s.balance request.now ∧
      d = ⟨s.orderId, s.balance request.now, request.now, none, orderId⟩ := by
  cases kind with
  | create =>
    rw [h.drafted] at hd
    cases hd
  | renew =>
    rw [h.drafted] at hd
    cases hd
  | upgrade =>
    rw [h.draws_of_upgrade] at hd
    exact ⟨rfl, Wallet.mem_draws hd⟩

end Placed

end Subscriptions
