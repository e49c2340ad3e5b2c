import Subscriptions.Proofs.Period
import Subscriptions.Proofs.Policy
import Subscriptions.Samples
import Subscriptions.Settings.Basic

/-!
How the kind of order that a purchase comes to changes from day to day. A membership can lapse, and then a new one is
sold whatever was sold or refused before; until it does, only the renewal window moves on, so that a renewal that was
refused is sold. A wider window turns no sale into a refusal either.
-/

namespace Subscriptions

set_option autoImplicit false

namespace Membership

variable {m : Membership} {today day : Date} {years wider : Nat}

theorem isExpired_mono (hle : today ≤ day) (h : m.isExpired today = true) : m.isExpired day = true := by
  unfold isExpired at h ⊢
  cases hlast : m.expireDate with
  | none => simpa only [hlast] using h
  | some last =>
    simp only [hlast, Bool.and_eq_true, decide_eq_true_eq] at h ⊢
    exact ⟨Int.lt_of_lt_of_le h.1 hle, h.2⟩

theorem isValid_iff : m.isValid today = true ↔ m.isZero = false ∧ m.isExpired today = false := by
  simp only [isValid, Bool.and_eq_true, Bool.not_eq_true']

theorem isValid_anti (hle : today ≤ day) (h : m.isValid day = true) : m.isValid today = true := by
  rw [isValid_iff] at h ⊢
  refine ⟨h.1, ?_⟩
  cases htoday : m.isExpired today with
  | false => rfl
  | true =>
    rw [isExpired_mono hle htoday] at h
    exact h.2

/-- A membership that was valid is not so any more because it has lapsed. -/
theorem isExpired_of_not_isValid (h : m.isValid today = true) (hday : m.isValid day = false) :
    m.isExpired day = true := by
  have hzero := (isValid_iff.mp h).1
  simpa only [isValid_eq, hzero, Bool.false_or, Bool.not_eq_false'] using hday

/-- What a gateway renews does not lapse, so it is renewed on any other day too. -/
theorem isGatewayAutoRenewing_of_day (h : m.isGatewayAutoRenewing today = true) (day : Date) :
    m.isGatewayAutoRenewing day = true := by
  simp only [isGatewayAutoRenewing, Bool.and_eq_true] at h ⊢
  obtain ⟨⟨hvalid, hauto⟩, hmanaged⟩ := h
  have hopen : m.isExpired day = false := by
    unfold isExpired
    cases m.expireDate <;> simp [hauto]
  exact ⟨⟨isValid_iff.mpr ⟨(isValid_iff.mp hvalid).1, hopen⟩, hauto⟩, hmanaged⟩

theorem isGatewayAutoRenewing_congr (m : Membership) (today day : Date) :
    m.isGatewayAutoRenewing today = m.isGatewayAutoRenewing day :=
  Bool.eq_iff_iff.mpr ⟨(isGatewayAutoRenewing_of_day · day), (isGatewayAutoRenewing_of_day · today)⟩

theorem withinRenewalWindow_eq_false_iff :
    m.withinRenewalWindow today years = false ↔
      ∃ last ∈ m.expireDate, ∃ limit ∈ today.addMonths (12 * years), limit < last := by
  have hmonths : today.addMonths (min (years * 12) 4294967295) = today.addMonths (12 * years) := by
    by_cases h : years * 12 ≤ 4294967295
    · rw [Nat.min_eq_left h, Nat.mul_comm]
    · have hbig : ¬12 * years < 2147483648 := by omega
      have hmin : ¬min (years * 12) 4294967295 < 2147483648 := by omega
      simp only [Date.addMonths, hbig, hmin, if_false]
  unfold withinRenewalWindow
  rw [hmonths]
  cases m.expireDate with
  | none => simp
  | some last =>
    cases today.addMonths (12 * years) with
    | none => simp
    | some limit => simp [Date.le_def, Date.lt_def]

/-- The window moves on with the days, and is no smaller for more years. -/
theorem withinRenewalWindow_mono (hle : today ≤ day) (hwider : years ≤ wider)
    (h : m.withinRenewalWindow today years = true) : m.withinRenewalWindow day wider = true := by
  cases hday : m.withinRenewalWindow day wider with
  | true => rfl
  | false =>
    obtain ⟨last, hlast, limit, hlimit, hlt⟩ := withinRenewalWindow_eq_false_iff.mp hday
    obtain ⟨earlier, hearlier, hle'⟩ := Date.exists_addMonths_le hle hlimit
    obtain ⟨nearer, hnearer, hle''⟩ := Date.exists_addMonths_of_le (Nat.mul_le_mul_left 12 hwider) hearlier
    have hbefore : nearer < last := Int.lt_of_le_of_lt (Int.le_trans hle'' hle') hlt
    have hbeyond : m.withinRenewalWindow today years = false :=
      withinRenewalWindow_eq_false_iff.mpr ⟨last, hlast, nearer, hnearer, hbefore⟩
    rw [h] at hbeyond
    cases hbeyond

theorem expireDate_getD_of_beyond (h : m.withinRenewalWindow today years = false) (day : Date) :
    m.expireDate.getD today = m.expireDate.getD day := by
  obtain ⟨last, hlast, _⟩ := withinRenewalWindow_eq_false_iff.mp h
  rw [Option.mem_def.mp hlast, Option.getD_some, Option.getD_some]

end Membership

theorem Tier.eq_of_not_canUpgradeTo {a b : Tier} (ha : a ≠ .none) (hb : b ≠ .none) (hne : a ≠ b)
    (h : a.canUpgradeTo b = false) : a = .premium ∧ b = .standard := by
  cases a <;> cases b <;> simp_all [canUpgradeTo]

namespace Policy

variable {p : Policy} {member : Membership} {plan : Plan} {today day : Date} {outcome : Except Refusal OrderKind}
  {kind : OrderKind}

/-- What may become of the outcome for a purchase by a later day. What needs a valid membership may be a new one once the
membership has lapsed, and a renewal that was refused may come within the window. -/
inductive MayBecome (member : Membership) (day : Date) : Except Refusal OrderKind → Except Refusal OrderKind → Prop
  | same (outcome : Except Refusal OrderKind) : MayBecome member day outcome outcome
  | renewalLapsed (lapsed : member.isExpired day = true) : MayBecome member day (.ok .renew) (.ok .create)
  | upgradeLapsed (lapsed : member.isExpired day = true) : MayBecome member day (.ok .upgrade) (.ok .create)
  | beyondLapsed (last : Date) (years : Nat) (lapsed : member.isExpired day = true) :
    MayBecome member day (.error (.renewalWindowExceeded last years)) (.ok .create)
  | lowerLapsed (current target : Tier) (lapsed : member.isExpired day = true) :
    MayBecome member day (.error (.downgradeNotAllowed current target)) (.ok .create)
  | windowReached (last : Date) (years : Nat) :
    MayBecome member day (.error (.renewalWindowExceeded last years)) (.ok .renew)

/-- As long as the membership is valid only the window moves. -/
theorem Classifies.mayBecome_of_isValid (h : p.Classifies member plan today outcome) (hle : today ≤ day)
    (hday : member.isValid day = true) : MayBecome member day outcome (p.classify member plan day) := by
  have hgateway := member.isGatewayAutoRenewing_congr today day
  cases h with
  | lapsed invalid =>
    rw [Membership.isValid_anti hle hday] at invalid
    cases invalid
  | givenUp _ permits =>
    rw [Classifies.eq (.givenUp hday permits)]
    exact .same _
  | managed _ kept managed =>
    rw [hgateway] at managed
    rw [Classifies.eq (.managed hday kept managed)]
    exact .same _
  | renew _ kept own same within =>
    rw [hgateway] at own
    have hstill := Membership.withinRenewalWindow_mono hle (Nat.le_refl _) within
    rw [Classifies.eq (.renew hday kept own same hstill)]
    exact .same _
  | beyond _ kept own same outside =>
    rw [hgateway] at own
    cases hwindow : member.withinRenewalWindow day p.renewalWindowYears with
    | true =>
      rw [Classifies.eq (.renew hday kept own same hwindow)]
      exact .windowReached _ _
    | false =>
      rw [Classifies.eq (.beyond hday kept own same hwindow), Membership.expireDate_getD_of_beyond outside day]
      exact .same _
  | upgrade _ kept own higher =>
    rw [hgateway] at own
    rw [Classifies.eq (.upgrade hday kept own higher)]
    exact .same _
  | lower _ kept own other lower =>
    rw [hgateway] at own
    rw [Classifies.eq (.lower hday kept own other lower)]
    exact .same _

/-- Once the membership is not valid any more, a new one is sold. -/
theorem Classifies.mayBecome_of_not_isValid (h : p.Classifies member plan today outcome)
    (hday : member.isValid day = false) : MayBecome member day outcome (p.classify member plan day) := by
  rw [Classifies.eq (.lapsed hday)]
  cases h with
  | lapsed | givenUp => exact .same _
  | managed _ _ managed =>
    have hstill : member.isGatewayAutoRenewing day = true := Membership.isGatewayAutoRenewing_of_day managed day
    simp only [Membership.isGatewayAutoRenewing, hday, Bool.false_and, Bool.false_eq_true] at hstill
  | renew valid => exact .renewalLapsed (Membership.isExpired_of_not_isValid valid hday)
  | beyond valid => exact .beyondLapsed _ _ (Membership.isExpired_of_not_isValid valid hday)
  | upgrade valid => exact .upgradeLapsed (Membership.isExpired_of_not_isValid valid hday)
  | lower valid => exact .lowerLapsed _ _ (Membership.isExpired_of_not_isValid valid hday)

theorem mayBecome (p : Policy) (member : Membership) (plan : Plan) (hle : today ≤ day) :
    MayBecome member day (p.classify member plan today) (p.classify member plan day) := by
  have h := p.classifies member plan today
  cases hday : member.isValid day with
  | true => exact h.mayBecome_of_isValid hle hday
  | false => exact h.mayBecome_of_not_isValid hday

theorem classify_withWindow {years : Nat} (hwider : p.renewalWindowYears ≤ years)
    (h : p.classify member plan today = .ok kind) :
    ({ p with renewalWindowYears := years } : Policy).classify member plan today = .ok kind := by
  apply Classifies.eq
  cases classifies_of_eq h with
  | lapsed invalid => exact .lapsed invalid
  | givenUp valid permits => exact .givenUp valid permits
  | renew valid kept own same within =>
    exact .renew valid kept own same (Membership.withinRenewalWindow_mono (Int.le_refl _) hwider within)
  | upgrade valid kept own higher => exact .upgrade valid kept own higher

theorem check_withWindow {purchase : Purchase} {years : Nat} (hwider : p.renewalWindowYears ≤ years)
    (h : p.check purchase = .ok kind) : ({ p with renewalWindowYears := years } : Policy).check purchase = .ok kind := by
  have haccepts := check_eq_ok_iff.mp h
  exact check_eq_ok_iff.mpr
    ⟨haccepts.reader, haccepts.method, haccepts.plan, haccepts.currency, classify_withWindow hwider haccepts.kind⟩

theorem tiers_of_downgrade {current target : Tier} (hplan : plan.tier ≠ .none)
    (h : p.classify member plan today = .error (.downgradeNotAllowed current target)) :
    member.tier = .premium ∧ plan.tier = .standard := by
  have hc := p.classifies member plan today
  rw [h] at hc
  cases hc with
  | lower valid _ _ other lower =>
    have hzero := (Membership.isValid_iff.mp valid).1
    have hmember : member.tier ≠ .none := by simpa [Membership.isZero] using hzero
    exact Tier.eq_of_not_canUpgradeTo hmember hplan other lower

/-- The outcome for a purchase stays what it is until the membership lapses, but for a renewal that comes within the
window: a renewal that was allowed is never refused, and a gateway's renewal stands in the way for good. A wider window
refuses nothing that was sold, and for plans that can be sold the one way down is from premium to standard. -/
theorem classify_over_days (p : Policy) (member : Membership) (plan : Plan) :
    (∀ today day, today ≤ day →
        MayBecome member day (p.classify member plan today) (p.classify member plan day)) ∧
      (∀ today day, today ≤ day → p.classify member plan today = .ok .renew →
        p.classify member plan day = .ok .renew ∨ p.classify member plan day = .ok .create) ∧
      (∀ today day method, today ≤ day → p.classify member plan today = .error (.foreignAutoRenew method) →
        p.classify member plan day = .error (.foreignAutoRenew method)) ∧
      (∀ years, p.renewalWindowYears ≤ years →
        let wider : Policy := { p with renewalWindowYears := years }
        (∀ today kind, p.classify member plan today = .ok kind → wider.classify member plan today = .ok kind) ∧
          ∀ reader method now kind, p.check ⟨reader, plan, method, member, now⟩ = .ok kind →
            wider.check ⟨reader, plan, method, member, now⟩ = .ok kind) ∧
      (plan.validate = .ok () → ∀ today current target,
        p.classify member plan today = .error (.downgradeNotAllowed current target) →
          member.tier = .premium ∧ plan.tier = .standard) := by
  refine ⟨?_, ?_, ?_, ?_, ?_⟩
  · intro today day hle
    exact p.mayBecome member plan hle
  · intro today day hle hrenew
    have h := p.mayBecome member plan hle
    rw [hrenew] at h
    generalize p.classify member plan day = later at h
    cases h with
    | same => exact .inl rfl
    | renewalLapsed => exact .inr rfl
  · intro today day method hle hmanaged
    have h := p.mayBecome member plan hle
    rw [hmanaged] at h
    generalize p.classify member plan day = later at h
    cases h with
    | same => rfl
  · intro years hwider wider
    constructor
    · intro today kind h
      exact classify_withWindow hwider h
    · intro reader method now kind h
      exact check_withWindow hwider h
  · intro hvalid today current target h
    have hsold : plan.tier ≠ .none := (Plan.fault?_eq_none_iff.mp (Plan.validate_eq_ok_iff.mp hvalid)).1
    exact tiers_of_downgrade hsold h

/-- In June 2024 a membership that lasts until June 2028 is not renewed; a year later it is, and the purchase accepted, also
with a wider window, and on the day after its last a new one is sold. While a gateway renews it, it is never renewed
here, and a premium one lasting as long cannot be brought down to standard. -/
theorem renewal_comes_within_window :
    let p := Settings.standard.policy
    let plan : Plan := ⟨"standard_year", .standard, .year, 25800, 0, "cny", none⟩
    let last : Date := ⟨21336, by decide⟩
    let member := Samples.member (Samples.reader "reader-1") "mmb_1" .standard last
    let managed := Samples.autoRenewing member .stripe "sub_1"
    let premium := Samples.member (Samples.reader "reader-2") "mmb_2" .premium last
    let june24 : Date := ⟨19875, by decide⟩
    let june25 : Date := ⟨20240, by decide⟩
    let lapsed : Date := ⟨21337, by decide⟩
    let purchase : Purchase := ⟨member.ids, plan, .wechat, member, june25.midnight⟩
    plan.validate = .ok () ∧
      p.classify member plan june24 = .error (.renewalWindowExceeded last 3) ∧
      p.classify member plan june25 = .ok .renew ∧ p.classify member plan lapsed = .ok .create ∧
      MayBecome member june25 (.error (.renewalWindowExceeded last 3)) (.ok .renew) ∧
      (p.classify member plan lapsed = .ok .renew ∨ p.classify member plan lapsed = .ok .create) ∧
      p.classify managed plan lapsed = .error (.foreignAutoRenew .stripe) ∧
      ({ p with renewalWindowYears := 4 } : Policy).classify member plan june25 = .ok .renew ∧
      p.check purchase = .ok .renew ∧ ({ p with renewalWindowYears := 4 } : Policy).check purchase = .ok .renew ∧
      p.classify premium plan june24 = .error (.downgradeNotAllowed .premium .standard) ∧
      premium.tier = .premium ∧ plan.tier = .standard := by
  intro p plan last member managed premium june24 june25 lapsed purchase
  have hbeyond : p.classify member plan june24 = .error (.renewalWindowExceeded last 3) :=
    Classifies.eq (.beyond (by decide) rfl (by decide) rfl (by decide +kernel))
  have hrenew : p.classify member plan june25 = .ok .renew :=
    Classifies.eq (.renew (by decide) rfl (by decide) rfl (by decide +kernel))
  have haccepted : p.check purchase = .ok .renew :=
    check_eq_ok_iff.mpr ⟨by decide, by decide, by decide, by decide, hrenew⟩
  have hcreate : p.classify member plan lapsed = .ok .create := Classifies.eq (.lapsed (by decide))
  have hgateway : p.classify managed plan june24 = .error (.foreignAutoRenew .stripe) :=
    Classifies.eq (.managed (by decide) rfl (by decide))
  have hlower : p.classify premium plan june24 = .error (.downgradeNotAllowed .premium .standard) :=
    Classifies.eq (.lower (by decide) rfl (by decide) (by decide) rfl)
  obtain ⟨hchanges, hkept, _, hwiden, _⟩ := classify_over_days p member plan
  obtain ⟨_, _, hforeign, _, _⟩ := classify_over_days p managed plan
  obtain ⟨_, _, _, _, hdown⟩ := classify_over_days p premium plan
  obtain ⟨hwider, hwiderCheck⟩ := hwiden 4 (by decide)
  have hchange := hchanges june24 june25 (by decide)
  rw [hbeyond, hrenew] at hchange
  exact ⟨rfl, hbeyond, hrenew, hcreate, hchange, hkept june25 lapsed (by decide) hrenew,
    hforeign june24 lapsed .stripe (by decide) hgateway, hwider june25 .renew hrenew,
    haccepted, hwiderCheck member.ids .wechat june25.midnight .renew haccepted,
    hlower, hdown rfl june24 .premium .standard hlower⟩

end Policy

end Subscriptions
