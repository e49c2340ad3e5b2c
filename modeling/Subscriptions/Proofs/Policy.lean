import Subscriptions.Policy
import Subscriptions.Proofs.Wallet

/-!
What follows from an order being accepted: what was right about the purchase, what the kind of the order
says about the membership, and what an upgrade is charged.
-/

namespace Subscriptions

set_option autoImplicit false

theorem Tier.canUpgradeTo_iff {a b : Tier} : a.canUpgradeTo b = true ↔ a = .standard ∧ b = .premium := by
  cases a <;> cases b <;> simp [canUpgradeTo]

theorem Plan.validate_eq_ok_iff {plan : Plan} : plan.validate = .ok () ↔ plan.fault? = none := by
  unfold validate
  cases plan.fault? <;> simp

theorem Plan.netPrice_bounds {plan : Plan} (h : plan.fault? = none) :
    0 ≤ plan.netPrice ∧ plan.netPrice ≤ plan.price := by
  obtain ⟨_, _, hprice, hdiscount, hless⟩ := fault?_eq_none_iff.mp h
  have hrest : 0 ≤ plan.price - plan.discount := by omega
  have hwrap := wrapCents_le hrest
  unfold netPrice
  omega

namespace Policy

variable {p : Policy} {purchase : Purchase} {member : Membership} {plan : Plan} {wallet : Wallet}
  {kind : OrderKind} {today : Date}

structure Accepts (p : Policy) (purchase : Purchase) (kind : OrderKind) : Prop where
  reader : purchase.reader.isEmpty = false
  method : purchase.paymentMethod.isOneOff = true
  plan : purchase.plan.fault? = none
  currency : purchase.plan.currency = p.currency
  kind : p.classify purchase.member purchase.plan purchase.now.date = .ok kind

theorem check_eq_ok_iff : p.check purchase = .ok kind ↔ p.Accepts purchase kind := by
  unfold check Plan.validate
  constructor
  · intro h
    simp only at h
    split at h
    · cases h
    rename_i hr
    split at h
    · cases h
    rename_i hm
    cases hf : purchase.plan.fault? with
    | some fault => simp [hf] at h
    | none =>
      simp only [hf] at h
      split at h
      · rename_i hc
        exact ⟨by simpa using hr, by simpa using hm, hf, hc, h⟩
      · cases h
  · intro h
    simp only [h.reader, h.method, h.plan, h.currency, h.kind, Bool.false_eq_true, Bool.not_true, if_true,
      if_false]

/-- Of the reader himself the rules only ask that there is one. -/
theorem check_withReader {r : Reader} (h : purchase.reader.isEmpty = false) (hr : r.isEmpty = false) :
    p.check { purchase with reader := r } = p.check purchase := by
  simp only [check, h, hr]

/-- What comes of a purchase, and why: the first rule that applies to the membership. -/
inductive Classifies (p : Policy) (member : Membership) (plan : Plan) (today : Date) : Except Refusal OrderKind → Prop
  | lapsed (invalid : member.isValid today = false) : Classifies p member plan today (.ok .create)
  | givenUp (valid : member.isValid today = true) (permits : member.status.permitsNewSubscription = true) :
    Classifies p member plan today (.ok .create)
  | managed (valid : member.isValid today = true) (kept : member.status.permitsNewSubscription = false)
    (managed : member.isGatewayAutoRenewing today = true) :
    Classifies p member plan today (.error (.foreignAutoRenew member.paymentMethod))
  | renew (valid : member.isValid today = true) (kept : member.status.permitsNewSubscription = false)
    (own : member.isGatewayAutoRenewing today = false) (same : member.tier = plan.tier)
    (within : member.withinRenewalWindow today p.renewalWindowYears = true) :
    Classifies p member plan today (.ok .renew)
  | beyond (valid : member.isValid today = true) (kept : member.status.permitsNewSubscription = false)
    (own : member.isGatewayAutoRenewing today = false) (same : member.tier = plan.tier)
    (outside : member.withinRenewalWindow today p.renewalWindowYears = false) :
    Classifies p member plan today
      (.error (.renewalWindowExceeded (member.expireDate.getD today) p.renewalWindowYears))
  | upgrade (valid : member.isValid today = true) (kept : member.status.permitsNewSubscription = false)
    (own : member.isGatewayAutoRenewing today = false) (higher : member.tier.canUpgradeTo plan.tier = true) :
    Classifies p member plan today (.ok .upgrade)
  | lower (valid : member.isValid today = true) (kept : member.status.permitsNewSubscription = false)
    (own : member.isGatewayAutoRenewing today = false) (other : member.tier ≠ plan.tier)
    (lower : member.tier.canUpgradeTo plan.tier = false) :
    Classifies p member plan today (.error (.downgradeNotAllowed member.tier plan.tier))

theorem classifies (p : Policy) (member : Membership) (plan : Plan) (today : Date) :
    p.Classifies member plan today (p.classify member plan today) := by
  unfold classify
  rw [Membership.isZero_or_isExpired]
  cases hv : member.isValid today with
  | false => exact .lapsed hv
  | true =>
    rw [if_neg (by decide)]
    split
    · rename_i hpermits
      exact .givenUp hv hpermits
    rename_i hkept
    have hkept : member.status.permitsNewSubscription = false := eq_false_of_ne_true hkept
    split
    · rename_i hmanaged
      exact .managed hv hkept hmanaged
    rename_i hown
    have hown : member.isGatewayAutoRenewing today = false := eq_false_of_ne_true hown
    split
    · rename_i hsame
      split
      · rename_i hwithin
        exact .renew hv hkept hown hsame hwithin
      · rename_i hbeyond
        exact .beyond hv hkept hown hsame (eq_false_of_ne_true hbeyond)
    rename_i hother
    split
    · rename_i hhigher
      exact .upgrade hv hkept hown hhigher
    · rename_i hlower
      exact .lower hv hkept hown hother (eq_false_of_ne_true hlower)

/-- No two of the reasons lead to different outcomes. -/
theorem Classifies.eq {outcome : Except Refusal OrderKind} (h : p.Classifies member plan today outcome) :
    p.classify member plan today = outcome := by
  unfold classify
  rw [Membership.isZero_or_isExpired]
  cases h with
  | lapsed invalid => simp only [invalid, Bool.not_false, if_true]
  | givenUp valid permits => simp only [valid, permits, Bool.not_true, Bool.false_eq_true, if_false, if_true]
  | managed valid kept managed =>
    simp only [valid, kept, managed, Bool.not_true, Bool.false_eq_true, if_false, if_true]
  | renew valid kept own same within =>
    simp only [valid, kept, own, same, within, Bool.not_true, Bool.false_eq_true, if_false, if_true]
  | beyond valid kept own same outside =>
    simp only [valid, kept, own, same, outside, Bool.not_true, Bool.false_eq_true, if_false, if_true]
  | upgrade valid kept own higher =>
    have hother : member.tier ≠ plan.tier := by
      rw [(Tier.canUpgradeTo_iff.mp higher).1, (Tier.canUpgradeTo_iff.mp higher).2]
      decide
    simp only [valid, kept, own, hother, higher, Bool.not_true, Bool.false_eq_true, if_false, if_true]
  | lower valid kept own other lower =>
    simp only [valid, kept, own, other, lower, Bool.not_true, Bool.false_eq_true, if_false]

theorem classifies_of_eq (h : p.classify member plan today = .ok kind) : p.Classifies member plan today (.ok kind) :=
  h ▸ p.classifies member plan today

/-- While a premium membership is valid, orders for it sell nothing but premium. -/
theorem tier_eq_premium (ht : member.tier = .premium) (hv : member.isValid today = true)
    (hs : member.status = .none) (h : p.classify member plan today = .ok kind) :
    plan.tier = .premium := by
  cases classifies_of_eq h with
  | lapsed invalid =>
    rw [hv] at invalid
    cases invalid
  | givenUp _ permits =>
    rw [hs] at permits
    cases permits
  | renew _ _ _ same _ => rw [← same, ht]
  | upgrade _ _ _ higher =>
    rw [ht] at higher
    cases higher

theorem canUpgradeTo_of_upgrade (h : p.classify member plan today = .ok .upgrade) :
    member.tier.canUpgradeTo plan.tier = true := by
  cases classifies_of_eq h with
  | upgrade _ _ _ higher => exact higher

theorem tier_of_upgrade (h : p.classify member plan today = .ok .upgrade) : plan.tier = .premium :=
  (Tier.canUpgradeTo_iff.mp (canUpgradeTo_of_upgrade h)).2

/-- An upgrade is charged the list price less the balance, as 64 bits keep it, also where the balance is turned into
time. -/
theorem quote_upgrade_amount (p : Policy) (plan : Plan) (hfits : FitsCents wallet.balance) :
    (p.quote .upgrade plan wallet).amount = max (wrapCents (plan.price - wallet.balance)) 0 := by
  simp only [quote]
  split
  · rename_i span hc
    obtain ⟨hprice, hcovers, _⟩ := Wallet.covers_of_convert? hc
    have hless : FitsCents (plan.price - wallet.balance) := by
      unfold FitsCents at hfits ⊢
      omega
    rw [wrapCents_of_fits hless]
    simp only
    omega
  · rfl

theorem quote_upgrade_amount_nonneg (p : Policy) (plan : Plan) (wallet : Wallet) :
    0 ≤ (p.quote .upgrade plan wallet).amount := by
  simp only [quote]
  split
  · exact Int.le_refl 0
  · exact Int.le_max_right _ _

/-- A balance that is not below zero does not raise the price. -/
theorem quote_upgrade_amount_le (hprice : 0 < plan.price) (hnonneg : 0 ≤ wallet.balance)
    (hfits : FitsCents wallet.balance) : (p.quote .upgrade plan wallet).amount ≤ plan.price := by
  rw [p.quote_upgrade_amount plan hfits]
  rcases Int.le_total 0 (plan.price - wallet.balance) with hrest | hrest
  · have hwrap := wrapCents_le hrest
    omega
  · have hless : FitsCents (plan.price - wallet.balance) := by
      unfold FitsCents at hfits ⊢
      omega
    rw [wrapCents_of_fits hless]
    omega

theorem quote_eq_of_balance_eq {other : Wallet} (h : wallet.balance = other.balance) (kind : OrderKind) :
    p.quote kind plan wallet = p.quote kind plan other := by
  cases kind with
  | create | renew => rfl
  | upgrade => simp only [quote, Wallet.convert?, h]

/-- Two wallets make the same of an upgrade if they have the same balance, and otherwise only if both pay for all of
it and buy the same time. -/
theorem quote_upgrade_eq_iff (p : Policy) (plan : Plan) {other : Wallet} (hwallet : FitsCents wallet.balance)
    (hother : FitsCents other.balance) :
    p.quote .upgrade plan wallet = p.quote .upgrade plan other ↔
      wallet.balance = other.balance ∨
        (p.quote .upgrade plan wallet).amount = 0 ∧ (p.quote .upgrade plan other).amount = 0 ∧
        (p.quote .upgrade plan wallet).cycleCount = (p.quote .upgrade plan other).cycleCount ∧
        (p.quote .upgrade plan wallet).extraDays = (p.quote .upgrade plan other).extraDays := by
  have hcharge := p.quote_upgrade_amount plan hwallet
  have hcharge' := p.quote_upgrade_amount plan hother
  constructor
  · intro heq
    by_cases hfree : (p.quote .upgrade plan wallet).amount = 0
    · exact .inr ⟨hfree, heq ▸ hfree, by rw [heq], by rw [heq]⟩
    · have hamounts : (p.quote .upgrade plan wallet).amount = (p.quote .upgrade plan other).amount := by rw [heq]
      have hrest : wrapCents (plan.price - wallet.balance) = wrapCents (plan.price - other.balance) := by omega
      have hsame : wrapCents wallet.balance = wrapCents other.balance :=
        (Int.bmod_sub_cancel_left plan.price).mp hrest
      rw [wrapCents_of_fits hwallet, wrapCents_of_fits hother] at hsame
      exact .inl hsame
  · rintro (hbalance | ⟨hfree, hfree', hcycles, hdays⟩)
    · exact quote_eq_of_balance_eq hbalance .upgrade
    · exact (Quote.mk.injEq ..).mpr ⟨hfree.trans hfree'.symm, hcycles, hdays⟩

/-- Nothing is sold for less than one cycle, whatever is in the wallet. -/
theorem one_le_cycleCount_quote (p : Policy) (kind : OrderKind) (plan : Plan) (wallet : Wallet) :
    1 ≤ (p.quote kind plan wallet).cycleCount := by
  cases kind with
  | create | renew => exact Nat.le_refl 1
  | upgrade =>
    simp only [quote]
    split
    · rename_i span hs
      exact (Wallet.covers_of_convert? hs).2.2
    · exact Nat.le_refl 1

/-- A quote never pays the reader, and sells at least one cycle; it sells anything but one cycle with the usual extra
days only for an upgrade that costs nothing. Nothing but an upgrade costs more than the list price. -/
structure Allows (p : Policy) (kind : OrderKind) (price : Int) (q : Quote) : Prop where
  nonneg : 0 ≤ q.amount
  atMost : kind ≠ .upgrade → q.amount ≤ price
  lasting : 1 ≤ q.cycleCount
  ordinary : 0 < q.amount ∨ kind ≠ .upgrade → q.cycleCount = 1 ∧ q.extraDays = p.extraDays

theorem allows_quote (kind : OrderKind) (hplan : plan.fault? = none) (wallet : Wallet) :
    p.Allows kind plan.price (p.quote kind plan wallet) := by
  have hnet := Plan.netPrice_bounds hplan
  cases kind with
  | create | renew => exact ⟨hnet.1, fun _ => hnet.2, Nat.le_refl 1, fun _ => ⟨rfl, rfl⟩⟩
  | upgrade =>
    refine ⟨p.quote_upgrade_amount_nonneg plan wallet, fun hne => absurd rfl hne,
      p.one_le_cycleCount_quote .upgrade plan wallet, ?_⟩
    rintro (hpos | hne)
    · simp only [quote] at hpos ⊢
      split
      · rename_i span hs
        simp [hs] at hpos
      · exact ⟨rfl, rfl⟩
    · exact absurd rfl hne

end Policy

end Subscriptions
