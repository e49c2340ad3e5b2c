import Subscriptions.Proofs.Ledger.Regular
import Subscriptions.Proofs.Period

/-!
What is stored in any run is well formed: orders are what the policy allows and have a period exactly if they
are confirmed, and every membership is what a confirmed order of its reader has brought about.
-/

namespace Subscriptions

set_option autoImplicit false

/-- An order as it is made: nothing is set that belongs to its confirmation. -/
structure Order.IsOpen (o : Order) : Prop where
  confirmed : o.confirmed = none
  startDate : o.startDate = none
  endDate : o.endDate = none
  snapshotId : o.snapshotId = none

/-- An order once it is paid: it has a period, which ends after it starts and where it should. -/
structure Order.IsPaid (o : Order) (start finish : Date) : Prop where
  confirmed : o.isConfirmed = true
  startDate : o.startDate = some start
  endDate : o.endDate = some finish
  periodEnd : o.periodEnd start = some finish
  forward : start < finish

structure Order.WellFormed (p : Policy) (o : Order) : Prop where
  reader : o.reader.isEmpty = false
  tier : o.tier ≠ .none
  cycle : o.cycle ≠ .none
  currency : o.currency = p.currency
  method : o.paymentMethod = .alipay ∨ o.paymentMethod = .wechat
  price : 0 < o.price
  amount : 0 ≤ o.amount
  atMost : o.kind ≠ .upgrade → o.amount ≤ o.price
  lasting : 1 ≤ o.cycleCount
  ordinary : 0 < o.amount ∨ o.kind ≠ .upgrade → o.cycleCount = 1 ∧ o.extraDays = p.extraDays
  premium : o.kind = .upgrade → o.tier = .premium
  period : o.IsOpen ∨ ∃ start finish, o.IsPaid start finish

/-- A membership as orders bring it about, with a stored order that has brought about this one. -/
structure Tables.Entitles (t : Tables) (m : Membership) : Prop where
  id : m.id.isSome = true
  tier : m.tier ≠ .none
  cycle : m.cycle ≠ .none
  autoRenew : m.autoRenew = false
  status : m.status = .none
  foreignSubId : m.foreignSubId = none
  order : ∃ key o, t.order? key = some o ∧ o.isConfirmed = true ∧ o.reader.overlaps m.ids = true ∧
    o.tier = m.tier ∧ o.cycle = m.cycle ∧ o.paymentMethod = m.paymentMethod ∧ o.endDate = m.expireDate

structure Tables.WellFormed (p : Policy) (t : Tables) : Prop where
  keyed : ∀ {key o}, t.order? key = some o → o.id = key
  orders : ∀ {key o}, t.order? key = some o → o.WellFormed p
  members : ∀ m ∈ t.members.values, t.Entitles m

theorem Tables.wellFormed_empty (p : Policy) : empty.WellFormed p where
  keyed h := by cases h
  orders h := by cases h
  members _ h := by cases h

theorem PaymentMethod.isOneOff_iff {method : PaymentMethod} :
    method.isOneOff = true ↔ method = .alipay ∨ method = .wechat := by
  cases method <;> simp [isOneOff]

/-- What the policy accepts becomes a well-formed order. -/
theorem Policy.Accepts.wellFormed {p : Policy} {purchase : Purchase} {kind : OrderKind} (h : p.Accepts purchase kind)
    (wallet : Wallet) (orderId : String) : (p.draft purchase kind wallet orderId).order.WellFormed p := by
  obtain ⟨htier, hcycle, hprice, _, _⟩ := Plan.fault?_eq_none_iff.mp h.plan
  have hquote : p.Allows kind purchase.plan.price (p.quote kind purchase.plan wallet) :=
    allows_quote kind h.plan wallet
  constructor
  · exact h.reader
  · exact htier
  · exact hcycle
  · exact h.currency
  · exact PaymentMethod.isOneOff_iff.mp h.method
  · exact hprice
  · exact hquote.nonneg
  · exact hquote.atMost
  · exact hquote.lasting
  · exact hquote.ordinary
  · intro hk
    obtain rfl : kind = .upgrade := hk
    exact tier_of_upgrade h.kind
  · exact .inl ⟨rfl, rfl, rfl, rfl⟩

/-- A membership stays as good as it was while confirmed orders stay stored. -/
theorem Tables.Entitles.kept {t t' : Tables} {m : Membership} (h : t.Entitles m)
    (hkept : ∀ {key o}, t.order? key = some o → o.isConfirmed = true → t'.order? key = some o) :
    t'.Entitles m := by
  obtain ⟨key, o, ho, hc, hrest⟩ := h.order
  exact { h with order := ⟨key, o, hkept ho hc, hc, hrest⟩ }

theorem Placed.wellFormed {shop : Shop} {request : OrderRequest} {orderId : String} {plan : Plan}
    {kind : OrderKind} {t t' : Tables} {draft : Draft}
    (h : Placed shop request orderId plan kind t draft t') (hr : t.Regular)
    (ht : t.WellFormed shop.policy) : t'.WellFormed shop.policy where
  keyed := (h.regular hr).keyed
  orders := by
    intro key o ho
    rw [h.order?_eq] at ho
    split at ho
    · rw [← Option.some.inj ho, h.drafted]
      exact (Policy.check_eq_ok_iff.mp h.accepted).wellFormed _ orderId
    · exact ht.orders ho
  members := by
    intro m hm
    rw [h.members_eq] at hm
    exact (ht.members m hm).kept fun ho _ => (h.order?_kept ho).2

namespace Settled

variable {payment : Payment} {fresh : FreshIds} {order : Order} {t t' : Tables} {c : Confirmation}

/-- The period of an order depends on nothing that its confirmation sets. -/
theorem exists_isPaid (h : Settled payment fresh order t c t') (hn : 1 ≤ order.cycleCount) :
    ∃ start finish, (order.withConfirmation c.order).IsPaid start finish := by
  obtain ⟨finish, hend⟩ := h.applies.ends
  refine ⟨Confirmation.startDate order (t.memberOf order.reader) payment.confirmed.date, finish, ?_⟩
  constructor
  · have hc : c.order.isConfirmed = true := by
      rw [Order.isConfirmed, h.made.confirmed]
      rfl
    exact hc
  · exact h.made.starts
  · exact h.made.ends.trans hend
  · exact hend
  · exact Order.lt_of_periodEnd hn hend

theorem wellFormed_order {p : Policy} (h : Settled payment fresh order t c t') (ho : order.WellFormed p) :
    c.order.WellFormed p := by
  rw [h.made.kept]
  exact { ho with period := .inr (h.exists_isPaid ho.lasting) }

theorem entitles {p : Policy} (h : Settled payment fresh order t c t') (ht : t.WellFormed p) :
    t'.Entitles c.membership := by
  have ho := h.wellFormed_order (ht.orders h.found)
  have hid : c.membership.id.isSome = true := by
    rw [h.made.membership]
    simp [Membership.ofOrder]
  have hstored : t'.order? payment.orderId = some c.order := by
    rw [h.order?_eq, if_pos rfl]
  have hpaid : c.order.isConfirmed = true := by
    rw [Order.isConfirmed, h.made.confirmed]
    rfl
  have hreader : c.order.reader.overlaps c.membership.ids = true := by
    rw [h.reader_eq, Reader.overlaps_comm]
    exact Tables.overlaps_of_member? (h.member?_eq (ht.orders h.found).reader)
  rw [h.made.membership] at hid hreader ⊢
  exact ⟨hid, ho.tier, ho.cycle, rfl, rfl, rfl, payment.orderId, c.order, hstored, hpaid, hreader, rfl, rfl,
    rfl, rfl⟩

theorem wellFormed {p : Policy} (h : Settled payment fresh order t c t') (hr : t.Regular)
    (ht : t.WellFormed p) : t'.WellFormed p where
  keyed := (h.regular hr).keyed
  orders := by
    intro key o ho
    rw [h.order?_eq] at ho
    split at ho
    · rw [← Option.some.inj ho]
      exact h.wellFormed_order (ht.orders h.found)
    · exact ht.orders ho
  members := by
    intro m hm
    rcases Tables.mem_values_of_saveMember h.saved hm with rfl | hm
    · exact h.entitles ht
    · exact (ht.members m hm).kept fun ho hc => (h.order?_of_confirmed ho hc).2

end Settled

theorem Ledger.wellFormed_after (settings : Settings) (catalogue : Catalogue) (commands : List Command) :
    ((opened settings catalogue).after commands).tables.WellFormed settings.policy := by
  have h : ((opened settings catalogue).after commands).tables.Regular ∧
      ((opened settings catalogue).after commands).tables.WellFormed settings.policy := by
    refine tables_after (l := opened settings catalogue)
      (P := fun t => t.Regular ∧ t.WellFormed settings.policy) rfl ?_ ?_ ?_ commands
    · intro _ _ _ _ _ _ _ h ht
      exact ⟨h.regular ht.1, h.wellFormed ht.1 ht.2⟩
    · intro _ _ _ _ _ _ h ht
      exact ⟨h.regular ht.1, h.wellFormed ht.1 ht.2⟩
    · exact ⟨Tables.regular_empty, Tables.wellFormed_empty _⟩
  exact h.2

end Subscriptions
