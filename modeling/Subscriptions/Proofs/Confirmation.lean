import Subscriptions.Confirmation
import Subscriptions.Store.Tables

/-!
When a payment applies to an order, and what it then makes of the order and the membership.
-/

namespace Subscriptions

set_option autoImplicit false

/-- Nothing speaks against the payment: it names the order, the order is open, the amount is right, the
upgrade has not been made and the period has an end. -/
structure Payment.Applies (payment : Payment) (order : Order) (member : Membership) : Prop where
  named : payment.orderId = order.id
  unconfirmed : order.confirmed = none
  amount : order.amount = payment.amountCents
  noDuplicate : order.kind = .upgrade → member.tier = .premium →
    member.isValid payment.confirmed.date = false
  ends : ∃ finish,
    order.periodEnd (Confirmation.startDate order member payment.confirmed.date) = some finish

/-- A membership that does not renew itself has expired once its last day is over. -/
theorem Membership.isExpired_eq {m : Membership} {last : Date} (hlast : m.expireDate = some last)
    (ha : m.autoRenew = false) (today : Date) : m.isExpired today = decide (last < today) := by
  simp only [isExpired, hlast, ha, Bool.not_false, Bool.and_true]

namespace Confirmation

variable {payment : Payment} {order : Order} {member : Membership} {fresh : FreshIds} {c : Confirmation}
  {last today : Date}

theorem startDate_of_not_isValid (hv : member.isValid today = false) : startDate order member today = today := by
  simp only [startDate, Membership.isZero_or_isExpired, hv, Bool.not_false, if_true]

theorem startDate_of_upgrade (hk : order.kind = .upgrade) : startDate order member today = today := by
  unfold startDate
  rw [hk]
  split <;> rfl

theorem startDate_of_isValid (hv : member.isValid today = true) (hk : order.kind ≠ .upgrade) :
    startDate order member today = member.expireDate.getD today := by
  simp only [startDate, Membership.isZero_or_isExpired, hv, Bool.not_true, Bool.false_eq_true, if_false]
  cases hkind : order.kind with
  | create | renew => rfl
  | upgrade => exact absurd hkind hk

theorem startDate_of_over (hlast : member.expireDate = some last) (ha : member.autoRenew = false)
    (hover : last < today) : startDate order member today = today := by
  apply startDate_of_not_isValid
  simp only [Membership.isValid_eq, Membership.isExpired_eq hlast ha, hover, decide_true, Bool.or_true, Bool.not_true]

theorem startDate_of_running (hz : member.isZero = false) (hlast : member.expireDate = some last)
    (ha : member.autoRenew = false) (hrunning : ¬last < today) (hk : order.kind ≠ .upgrade) :
    startDate order member today = last := by
  have hvalid : member.isValid today = true := by
    simp only [Membership.isValid_eq, hz, Membership.isExpired_eq hlast ha, hrunning, decide_false, Bool.or_false,
      Bool.not_false]
  rw [startDate_of_isValid hvalid hk, hlast, Option.getD_some]

/-- What an accepted payment leaves of the old order and the old membership. -/
structure Made (payment : Payment) (order : Order) (member : Membership) (fresh : FreshIds)
    (c : Confirmation) : Prop where
  kept : c.order = order.withConfirmation c.order
  confirmed : c.order.confirmed = some payment.confirmed
  starts : c.order.startDate = some (startDate order member payment.confirmed.date)
  ends : c.order.endDate = order.periodEnd (startDate order member payment.confirmed.date)
  membership : c.membership = Membership.ofOrder c.order member fresh.membership
  snapshot : c.snapshot =
    (Snapshot.take member fresh.snapshot order.kind.snapshotReason payment.confirmed).withOrder order.id

theorem build_eq_ok (h : build payment order member fresh = .ok c) :
    payment.Applies order member ∧ Made payment order member fresh c := by
  unfold build at h
  split at h
  · cases h
  rename_i hid
  split at h
  · cases h
  rename_i hopen
  split at h
  · cases h
  rename_i hamount
  simp only at h
  split at h
  · cases h
  rename_i hdup
  split at h
  · cases h
  rename_i finish hend
  simp only [Order.confirm?, hopen] at h
  obtain rfl := Except.ok.inj h
  refine ⟨⟨Decidable.not_not.mp hid, ?_, Decidable.not_not.mp hamount, ?_, finish, hend⟩,
    rfl, rfl, rfl, hend.symm, rfl, rfl⟩
  · simpa [Order.isConfirmed] using hopen
  · intro hk ht
    simpa [hk, ht] using hdup

theorem not_duplicate
    (h : order.kind = .upgrade → member.tier = .premium → member.isValid payment.confirmed.date = false) :
    ¬(order.kind = .upgrade ∧ member.isValid payment.confirmed.date = true ∧ member.tier = .premium) := by
  rintro ⟨hk, hv, ht⟩
  rw [h hk ht] at hv
  cases hv

theorem build_of_applies (h : payment.Applies order member) (fresh : FreshIds) {finish : Date}
    (hend : order.periodEnd (startDate order member payment.confirmed.date) = some finish) :
    let copy := (Snapshot.take member fresh.snapshot order.kind.snapshotReason payment.confirmed).withOrder order.id
    let confirmed : Order :=
      { order with
        confirmed := some payment.confirmed
        startDate := some (startDate order member payment.confirmed.date)
        endDate := some finish
        snapshotId := if copy.isEmpty then none else some copy.id }
    build payment order member fresh =
      .ok ⟨confirmed, Membership.ofOrder confirmed member fresh.membership, copy⟩ := by
  have hdup := not_duplicate h.noDuplicate
  simp only [build, h.named, h.amount, Order.isConfirmed, h.unconfirmed, Order.confirm?, hdup, hend,
    ne_eq, not_true_eq_false, Option.isSome_none, Bool.false_eq_true, if_false]

theorem exists_build_eq_ok (h : payment.Applies order member) (fresh : FreshIds) :
    ∃ c, build payment order member fresh = .ok c := by
  obtain ⟨finish, hend⟩ := h.ends
  exact ⟨_, build_of_applies h fresh hend⟩

/-- The order names the copy that is worth keeping. -/
theorem snapshotId_of_build (h : build payment order member fresh = .ok c) :
    c.order.snapshotId = if member.isZero then none else some c.snapshot.id := by
  obtain ⟨happlies, _⟩ := build_eq_ok h
  obtain ⟨finish, hend⟩ := happlies.ends
  have hbuilt := build_of_applies happlies fresh hend
  obtain rfl := Except.ok.inj (h.symm.trans hbuilt)
  rfl

theorem build_of_endless (hid : payment.orderId = order.id) (hopen : order.confirmed = none)
    (hamount : order.amount = payment.amountCents)
    (hdup : order.kind = .upgrade → member.tier = .premium → member.isValid payment.confirmed.date = false)
    (hend : order.periodEnd (startDate order member payment.confirmed.date) = none) :
    build payment order member fresh = .error (.invalidCycle order.id) := by
  simp only [build, hid, hamount, Order.isConfirmed, hopen, not_duplicate hdup, hend, ne_eq, not_true_eq_false,
    Option.isSome_none, Bool.false_eq_true, if_false]

/-- A confirmed order is not confirmed again, whatever is paid and whenever. -/
theorem build_of_confirmed (hid : payment.orderId = order.id) (ho : order.isConfirmed = true) :
    build payment order member fresh = .error (.alreadyConfirmed order.id) := by
  simp [build, hid, ho]

end Confirmation

end Subscriptions
