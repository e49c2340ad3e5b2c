import Subscriptions.Proofs.PaymentOutcome
import Subscriptions.Proofs.Policy
import Subscriptions.Samples
import Subscriptions.Settings.Basic

/-!
Whether what is paid for lies ahead. A period never begins before the day of its payment, except where a membership
that renews itself has run on past its last day: what is bought then continues from that day.
-/

namespace Subscriptions

set_option autoImplicit false

namespace Membership

variable {m : Membership} {today : Date}

/-- The last day has passed, and the membership is valid only because it renews itself. -/
def RunsOn (m : Membership) (today : Date) : Prop :=
  m.isZero = false ∧ m.autoRenew = true ∧ ∃ last ∈ m.expireDate, last < today

theorem RunsOn.isValid {day : Date} (h : m.RunsOn day) (today : Date) : m.isValid today = true := by
  obtain ⟨hzero, hauto, last, hlast, _⟩ := h
  simp only [Membership.isValid, isExpired, hzero, hauto, Option.mem_def.mp hlast, Bool.not_true, Bool.and_false,
    Bool.not_false, Bool.and_self]

/-- A valid membership has days left, unless it runs on without any. -/
theorem runsOn_of_isValid {last : Date} (hv : m.isValid today = true) (hlast : m.expireDate = some last)
    (hover : last < today) : m.RunsOn today := by
  simp only [Membership.isValid, isExpired, hlast, hover, decide_true, Bool.true_and, Bool.not_not,
    Bool.and_eq_true, Bool.not_eq_true'] at hv
  exact ⟨hv.1, hv.2, last, hlast, hover⟩

theorem isValid_of_le {finish : Date} (htier : m.tier ≠ .none) (hlast : m.expireDate = some finish)
    (h : today ≤ finish) : m.isValid today = true := by
  have hover : ¬finish < today := Int.not_lt.mpr h
  simp only [Membership.isValid, isZero, isExpired, hlast, hover, decide_false, Bool.false_and, Bool.not_false,
    Bool.and_true]
  simpa using htier

end Membership

namespace Policy

variable {p : Policy} {purchase : Purchase} {kind : OrderKind} {member : Membership} {plan : Plan} {today day : Date}

/-- A membership that runs on is sold more time in two cases: a gateway has given the subscription up, or the
membership renews itself without any gateway and the plan is of its tier. -/
theorem kind_of_runsOn (h : member.RunsOn day) (haccepted : p.classify member plan today = .ok kind)
    (hk : kind ≠ .upgrade) :
    kind = .create ∧ member.status.permitsNewSubscription = true ∨
      kind = .renew ∧ member.paymentMethod.isGatewayManaged = false ∧ member.tier = plan.tier := by
  cases classifies_of_eq haccepted with
  | lapsed invalid =>
    rw [h.isValid] at invalid
    cases invalid
  | givenUp _ permits => exact .inl ⟨rfl, permits⟩
  | renew valid _ own same _ =>
    have hauto : member.autoRenew = true := h.2.1
    have hmethod : member.paymentMethod.isGatewayManaged = false := by
      simpa only [Membership.isGatewayAutoRenewing, valid, hauto, Bool.true_and] using own
    exact .inr ⟨rfl, hmethod, same⟩
  | upgrade => exact absurd rfl hk

end Policy

namespace Confirmation

variable {payment : Payment} {order : Order} {member : Membership} {fresh : FreshIds} {c : Confirmation}
  {today : Date}

theorem startDate_of_runsOn (h : member.RunsOn today) (hk : order.kind ≠ .upgrade) :
    member.expireDate = some (startDate order member today) := by
  have hv := h.isValid today
  obtain ⟨_, _, last, hlast, _⟩ := h
  rw [startDate_of_isValid hv hk, Option.mem_def.mp hlast, Option.getD_some]

/-- A period begins before today exactly if it continues a membership that runs on. -/
theorem startDate_lt_iff :
    startDate order member today < today ↔ order.kind ≠ .upgrade ∧ member.RunsOn today := by
  constructor
  · intro h
    by_cases hk : order.kind = .upgrade
    · rw [startDate_of_upgrade hk] at h
      exact absurd h (Int.lt_irrefl _)
    refine ⟨hk, ?_⟩
    cases hv : member.isValid today with
    | false =>
      rw [startDate_of_not_isValid hv] at h
      exact absurd h (Int.lt_irrefl _)
    | true =>
      rw [startDate_of_isValid hv hk] at h
      cases hlast : member.expireDate with
      | none =>
        rw [hlast] at h
        exact absurd h (Int.lt_irrefl _)
      | some last =>
        rw [hlast] at h
        exact Membership.runsOn_of_isValid hv hlast h
  · rintro ⟨hk, h⟩
    have hstart := startDate_of_runsOn h hk
    obtain ⟨_, _, last, hlast, hover⟩ := h
    rw [Option.mem_def.mp hlast] at hstart
    rw [← Option.some.inj hstart]
    exact hover

/-- What begins today or later is valid today, whatever the membership was before. -/
theorem isValid_of_starts_ahead (h : build payment order member fresh = .ok c) (htier : order.tier ≠ .none)
    (hahead : payment.confirmed.date ≤ startDate order member payment.confirmed.date) :
    c.membership.isValid payment.confirmed.date = true := by
  have hc := honours_of_build h
  obtain ⟨start, finish, hstart, _, hforward, _, hlast⟩ := hc.period
  rw [beginsOn_iff] at hstart
  rw [← hstart] at hahead
  have hsold : c.membership.tier ≠ .none := by
    rw [hc.membership]
    exact htier
  have hexpires : c.membership.expireDate = some finish := by
    rw [hc.membership]
    exact hlast
  exact Membership.isValid_of_le hsold hexpires (Int.le_trans hahead hforward)

theorem ahead_iff (h : build payment order member fresh = .ok c) (htier : order.tier ≠ .none) :
    (∃ start ∈ c.order.startDate, payment.confirmed.date ≤ start) ∧
        c.membership.isValid payment.confirmed.date = true ↔
      ¬(order.kind ≠ .upgrade ∧ member.RunsOn payment.confirmed.date) := by
  have hstarts := (build_eq_ok h).2.starts
  rw [← startDate_lt_iff]
  constructor
  · rintro ⟨⟨start, hstart, hahead⟩, _⟩
    obtain rfl := Option.some.inj (hstarts.symm.trans hstart)
    exact Int.not_lt.mpr hahead
  · intro hahead
    have hahead : payment.confirmed.date ≤ startDate order member payment.confirmed.date := Int.not_lt.mp hahead
    exact ⟨⟨_, hstarts, hahead⟩, isValid_of_starts_ahead h htier hahead⟩

theorem starts_of_runsOn (h : build payment order member fresh = .ok c) (hk : order.kind ≠ .upgrade)
    (hruns : member.RunsOn payment.confirmed.date) : c.order.startDate = member.expireDate := by
  rw [startDate_of_runsOn hruns hk]
  exact (build_eq_ok h).2.starts

end Confirmation

namespace Samples

/-- The second of June 2024. -/
def dayOfPurchase : Date := ⟨19876, by decide⟩

def monthBought (member : Membership) : Purchase where
  reader := reader "reader-1"
  plan := PlanSpec.plan
    { id := "standard_month", tier := some .standard, cycle := some .month, price := some 3500 }
  paymentMethod := .wechat
  member := member
  now := dayOfPurchase.midnight

def monthPaid (orderId : String) : Payment := ⟨orderId, 3500, dayOfPurchase.midnight⟩

/-- It was to renew itself on 2024-03-01. -/
def canceledSubscription : Membership :=
  withStatus (autoRenewing (member (reader "reader-1") "mmb_1" .standard ⟨19783, by decide⟩) .stripe "sub_1") .canceled

end Samples

namespace Confirmation

variable {p : Policy} {purchase : Purchase} {kind : OrderKind} {wallet : Wallet} {orderId : String}
  {payment : Payment} {fresh : FreshIds} {c : Confirmation}

/-- What is sold lies ahead when it is paid for, and makes a membership that is valid then, except where the membership
at hand runs on past its last day and is not upgraded. The time sold is then counted from that day; either a gateway had
given the subscription up, or no gateway was there to renew it. -/
theorem paid_ahead_iff (hchecked : p.check purchase = .ok kind)
    (hpaid : build payment (p.draft purchase kind wallet orderId).order purchase.member fresh = .ok c) :
    let today := payment.confirmed.date
    ((∃ start ∈ c.order.startDate, today ≤ start) ∧ c.membership.isValid today = true ↔
        ¬(kind ≠ .upgrade ∧ purchase.member.RunsOn today)) ∧
      (kind ≠ .upgrade → purchase.member.RunsOn today →
        c.order.startDate = purchase.member.expireDate ∧
          (kind = .create ∧ purchase.member.status.permitsNewSubscription = true ∨
            kind = .renew ∧ purchase.member.paymentMethod.isGatewayManaged = false ∧
              purchase.member.tier = purchase.plan.tier)) := by
  intro today
  have haccepts := Policy.check_eq_ok_iff.mp hchecked
  have hsold : purchase.plan.tier ≠ .none := (Plan.fault?_eq_none_iff.mp haccepts.plan).1
  constructor
  · exact ahead_iff hpaid hsold
  · intro hk hruns
    exact ⟨starts_of_runsOn hpaid hk hruns, Policy.kind_of_runsOn hruns haccepts.kind hk⟩

/-- The reader had a membership until March, and buys a month that begins in June. -/
theorem month_of_lapsed_member_ahead :
    let m := Samples.member (Samples.reader "reader-1") "mmb_1" .standard ⟨19783, by decide⟩
    let bought := Samples.monthBought m
    let order := (Settings.standard.policy.draft bought .create (.empty bought.now) "order-1").order
    let payment := Samples.monthPaid order.id
    Settings.standard.policy.check bought = .ok .create ∧
      ∃ c, build payment order m ⟨"mmb_2", "snp_1"⟩ = .ok c ∧
        (∃ start ∈ c.order.startDate, payment.confirmed.date ≤ start) ∧
        c.membership.isValid payment.confirmed.date = true := by
  intro m bought order payment
  have hchecked : Settings.standard.policy.check bought = .ok .create :=
    Policy.check_eq_ok_iff.mpr ⟨rfl, rfl, rfl, rfl, rfl⟩
  have hexpired : m.isValid payment.confirmed.date = false := by decide +kernel
  have hbuilt : ∃ c, build payment order m ⟨"mmb_2", "snp_1"⟩ = .ok c := by
    apply exists_build_eq_ok
    have hends : order.periodEnd (startDate order m payment.confirmed.date) = some ⟨19907, by decide⟩ := by
      decide +kernel
    exact ⟨rfl, rfl, rfl, fun _ _ => hexpired, _, hends⟩
  obtain ⟨c, hpaid⟩ := hbuilt
  have hover : ¬(OrderKind.create ≠ .upgrade ∧ m.RunsOn payment.confirmed.date) := by
    rintro ⟨_, hruns⟩
    exact absurd (hexpired.symm.trans (hruns.isValid _)) Bool.false_ne_true
  exact ⟨hchecked, c, hpaid, (paid_ahead_iff hchecked hpaid).1.mpr hover⟩

/-- A reader whose subscription was cancelled buys a month in June, and is sold the one that began in March. -/
theorem month_of_canceled_subscription_past :
    let m := Samples.canceledSubscription
    let bought := Samples.monthBought m
    let order := (Settings.standard.policy.draft bought .create (.empty bought.now) "order-1").order
    let payment := Samples.monthPaid order.id
    Settings.standard.policy.check bought = .ok .create ∧ bought.now ≤ payment.confirmed ∧
      ∃ c, build payment order m ⟨"mmb_2", "snp_1"⟩ = .ok c ∧
        ¬(∃ start ∈ c.order.startDate, payment.confirmed.date ≤ start) ∧
        c.membership.isValid payment.confirmed.date = false := by
  intro m bought order payment
  have hchecked : Settings.standard.policy.check bought = .ok .create :=
    Policy.check_eq_ok_iff.mpr ⟨rfl, rfl, rfl, rfl, rfl⟩
  have hmarch : startDate order m payment.confirmed.date = ⟨19783, by decide⟩ := by decide +kernel
  have hends : order.periodEnd (startDate order m payment.confirmed.date) = some ⟨19815, by decide⟩ := by
    decide +kernel
  have happlies : payment.Applies order m :=
    ⟨rfl, rfl, rfl, fun hk => (by cases hk), _, hends⟩
  refine ⟨hchecked, by decide, _, build_of_applies happlies ⟨"mmb_2", "snp_1"⟩ hends, ?_, by decide +kernel⟩
  rintro ⟨start, hfirst, hahead⟩
  have hfirst : startDate order m payment.confirmed.date = start := Option.some.inj hfirst
  rw [← hfirst, hmarch] at hahead
  exact absurd hahead (by decide)

end Confirmation

end Subscriptions
