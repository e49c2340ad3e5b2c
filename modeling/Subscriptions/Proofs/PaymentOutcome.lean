import Subscriptions.Proofs.Confirmation
import Subscriptions.Proofs.Period

/-!
What comes of a payment, for every payment, order and membership: the first of five reasons against it, or else a
confirmed order, a membership and a copy of the old one that agree with each other.
-/

namespace Subscriptions

set_option autoImplicit false

/-- The order goes on where a valid membership ends. An upgrade never does. -/
def Order.GoesOnFrom (order : Order) (member : Membership) (today last : Date) : Prop :=
  order.kind ≠ .upgrade ∧ member.isValid today = true ∧ member.expireDate = some last

/-- The day on which the period begins, if the order is paid today. -/
def Order.BeginsOn (order : Order) (member : Membership) (today start : Date) : Prop :=
  order.GoesOnFrom member today start ∨ (∀ last, ¬order.GoesOnFrom member today last) ∧ start = today

/-- The first reason against a payment. Each one stands only if none before it does. -/
inductive Payment.Rejected (payment : Payment) (order : Order) (member : Membership) : Rejection → Prop
  | mismatch (other : payment.orderId ≠ order.id) :
    Rejected payment order member (.orderMismatch order.id payment.orderId)
  | repeated (named : payment.orderId = order.id) (confirmed : order.confirmed ≠ none) :
    Rejected payment order member (.alreadyConfirmed order.id)
  | amount (named : payment.orderId = order.id) (unconfirmed : order.confirmed = none)
    (differs : order.amount ≠ payment.amountCents) :
    Rejected payment order member (.amountMismatch order.id order.amount payment.amountCents)
  | duplicate (named : payment.orderId = order.id) (unconfirmed : order.confirmed = none)
    (amount : order.amount = payment.amountCents) (upgrade : order.kind = .upgrade)
    (premium : member.tier = .premium) (valid : member.isValid payment.confirmed.date = true) :
    Rejected payment order member (.duplicateUpgrade order.id)
  | endless (named : payment.orderId = order.id) (unconfirmed : order.confirmed = none)
    (amount : order.amount = payment.amountCents)
    (noDuplicate : order.kind = .upgrade → member.tier = .premium →
      member.isValid payment.confirmed.date = false) {start : Date}
    (begins : order.BeginsOn member payment.confirmed.date start) (endless : order.periodEnd start = none) :
    Rejected payment order member (.invalidCycle order.id)

/-- The order is kept but for its confirmation: the instant of the payment, a period that runs forward from the day on
which it begins, and the copy that is worth keeping. The membership is rebuilt from the order, and keeps what was
known of its reader. The copy is of the membership as it was. -/
structure Confirmation.Honours (payment : Payment) (order : Order) (member : Membership) (fresh : FreshIds)
    (c : Confirmation) : Prop where
  kept : c.order = order.withConfirmation c.order
  confirmed : c.order.confirmed = some payment.confirmed
  period : ∃ start finish, order.BeginsOn member payment.confirmed.date start ∧
    order.periodEnd start = some finish ∧ start ≤ finish ∧
    c.order.startDate = some start ∧ c.order.endDate = some finish
  named : c.order.snapshotId = if member.tier = .none then none else some c.snapshot.id
  membership : c.membership =
    { ids := ⟨member.ids.ftcId.or order.reader.ftcId, member.ids.unionId.or order.reader.unionId⟩
      id := member.id.or (some fresh.membership)
      tier := order.tier
      cycle := order.cycle
      expireDate := c.order.endDate
      paymentMethod := order.paymentMethod
      autoRenew := false
      status := .none
      foreignSubId := none }
  copy : c.snapshot =
    { id := fresh.snapshot
      reason := order.kind.snapshotReason
      created := payment.confirmed
      orderId := some order.id
      membership := member }

namespace Confirmation

variable {payment : Payment} {order : Order} {member : Membership} {fresh : FreshIds} {c d : Confirmation}
  {r : Rejection} {today start : Date}

theorem beginsOn_iff : order.BeginsOn member today start ↔ start = startDate order member today := by
  unfold Order.BeginsOn Order.GoesOnFrom
  cases hv : member.isValid today with
  | false => simp [startDate_of_not_isValid hv]
  | true =>
    by_cases hk : order.kind = .upgrade
    · simp [startDate_of_upgrade hk, hk]
    · rw [startDate_of_isValid hv hk]
      cases hlast : member.expireDate with
      | none => simp
      | some last => simp [hk, eq_comm]

theorem rejected_of_build (h : build payment order member fresh = .error r) : payment.Rejected order member r := by
  unfold build at h
  split at h
  · rename_i other
    obtain rfl := Except.error.inj h
    exact .mismatch other
  rename_i named
  have named : payment.orderId = order.id := Decidable.not_not.mp named
  split at h
  · rename_i confirmed
    obtain rfl := Except.error.inj h
    exact .repeated named (Option.isSome_iff_ne_none.mp confirmed)
  rename_i unconfirmed
  have unconfirmed : order.confirmed = none := by simpa [Order.isConfirmed] using unconfirmed
  split at h
  · rename_i differs
    obtain rfl := Except.error.inj h
    exact .amount named unconfirmed differs
  rename_i amount
  have amount : order.amount = payment.amountCents := Decidable.not_not.mp amount
  simp only at h
  split at h
  · rename_i dup
    obtain rfl := Except.error.inj h
    exact .duplicate named unconfirmed amount dup.1 dup.2.2 dup.2.1
  rename_i single
  have noDuplicate : order.kind = .upgrade → member.tier = .premium →
      member.isValid payment.confirmed.date = false := by
    intro hk ht
    simpa [hk, ht] using single
  split at h
  · rename_i endless
    obtain rfl := Except.error.inj h
    exact .endless named unconfirmed amount noDuplicate (beginsOn_iff.mpr rfl) endless
  · simp only [Order.confirm?, Order.isConfirmed, unconfirmed, Option.isSome_none, Bool.false_eq_true, if_false] at h
    cases h

theorem build_of_rejected (h : payment.Rejected order member r) : build payment order member fresh = .error r := by
  cases h with
  | mismatch other => simp only [build, ne_eq, other, not_false_eq_true, if_true]
  | repeated named confirmed => exact build_of_confirmed named (Option.isSome_iff_ne_none.mpr confirmed)
  | amount named unconfirmed differs =>
    simp only [build, named, Order.isConfirmed, unconfirmed, differs, ne_eq, not_true_eq_false, not_false_eq_true,
      Option.isSome_none, Bool.false_eq_true, if_true, if_false]
  | duplicate named unconfirmed amount upgrade premium valid =>
    simp only [build, named, Order.isConfirmed, unconfirmed, amount, upgrade, premium, valid, ne_eq, not_true_eq_false,
      Option.isSome_none, Bool.false_eq_true, and_self, if_true, if_false]
  | endless named unconfirmed amount noDuplicate begins endless =>
    rw [beginsOn_iff] at begins
    rw [begins] at endless
    exact build_of_endless named unconfirmed amount noDuplicate endless

theorem honours_of_build (h : build payment order member fresh = .ok c) : Honours payment order member fresh c := by
  obtain ⟨happlies, hmade⟩ := build_eq_ok h
  obtain ⟨finish, hend⟩ := happlies.ends
  have hlast : c.order.endDate = some finish := hmade.ends.trans hend
  have hnamed : c.order.snapshotId = if member.isZero then none else some c.snapshot.id := snapshotId_of_build h
  constructor
  · exact hmade.kept
  · exact hmade.confirmed
  · exact ⟨_, finish, beginsOn_iff.mpr rfl, hend, Order.le_of_periodEnd hend, hmade.starts, hlast⟩
  · simpa [Membership.isZero] using hnamed
  · rw [hmade.membership, hmade.kept]
    rfl
  · exact hmade.snapshot

/-- Nothing about the confirmation is left open. -/
theorem Honours.eq (h : Honours payment order member fresh c) (h' : Honours payment order member fresh d) :
    c = d := by
  obtain ⟨start, finish, hstart, hend, _, hfirst, hlast⟩ := h.period
  obtain ⟨start', finish', hstart', hend', _, hfirst', hlast'⟩ := h'.period
  rw [beginsOn_iff] at hstart hstart'
  obtain rfl : start = start' := hstart.trans hstart'.symm
  obtain rfl : finish = finish' := Option.some.inj (hend.symm.trans hend')
  have hcopy : c.snapshot = d.snapshot := h.copy.trans h'.copy.symm
  have horder : c.order = d.order := by
    rw [h.kept, h'.kept]
    simp only [Order.withConfirmation, h.confirmed, h'.confirmed, hfirst, hfirst', hlast, hlast', h.named, h'.named,
      hcopy]
  have hmembership : c.membership = d.membership := by
    rw [h.membership, h'.membership, horder]
  cases c
  cases d
  rw [Confirmation.mk.injEq]
  exact ⟨horder, hmembership, hcopy⟩

/-- A payment is rejected for the first reason against it, and only a period without an end may be tried again. If
there is no reason against it, it is applied, and this settles everything about the order, the membership and the
copy. -/
theorem build_outcomes (payment : Payment) (order : Order) (member : Membership) (fresh : FreshIds) :
    (∀ r, build payment order member fresh = .error r ↔ payment.Rejected order member r) ∧
      (∀ r, payment.Rejected order member r → (r.retry = true ↔ r.kind = .invalidCycle)) ∧
      ((∃ r, payment.Rejected order member r) ∨ ∃ c, build payment order member fresh = .ok c) ∧
      ∀ c, build payment order member fresh = .ok c ↔
        (∀ r, ¬payment.Rejected order member r) ∧ Honours payment order member fresh c := by
  have hrejected (r : Rejection) :
      build payment order member fresh = .error r ↔ payment.Rejected order member r :=
    ⟨rejected_of_build, build_of_rejected⟩
  refine ⟨hrejected, ?_, ?_, ?_⟩
  · intro r h
    cases h <;> simp [Rejection.retry, Rejection.kind]
  · cases hb : build payment order member fresh with
    | error r => exact .inl ⟨r, rejected_of_build hb⟩
    | ok c => exact .inr ⟨c, rfl⟩
  · intro c
    constructor
    · intro hc
      refine ⟨?_, honours_of_build hc⟩
      intro r hr
      rw [build_of_rejected hr] at hc
      cases hc
    · rintro ⟨hnone, hc⟩
      cases hb : build payment order member fresh with
      | error r => exact absurd (rejected_of_build hb) (hnone r)
      | ok d => rw [(honours_of_build hb).eq hc]

end Confirmation

end Subscriptions
