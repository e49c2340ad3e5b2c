import Subscriptions.Policy
import Subscriptions.Proofs.Conversion

/-!
Prices and balances in checked arithmetic. For amounts and prices up to the largest price nothing halts, and all comes
out as it does where it would wrap around.
-/

namespace Subscriptions

set_option autoImplicit false

namespace Source

variable {s : Source} {asOf : Instant} {cents amount remaining total : Int}

theorem checkedRoundUpToUnit_eq (h : cents + 100 < Width.limit .bits64) :
    checkedRoundUpToUnit cents = some (toWholeUnits cents) := by
  unfold checkedRoundUpToUnit toWholeUnits
  by_cases hunit : 100 ≤ cents
  · have hquotient : (cents + 99) / 100 * 100 ≤ cents + 99 := Int.ediv_mul_le _ (by decide)
    have hnonneg : 0 ≤ (cents + 99) / 100 * 100 := by omega
    have hadd : Width.bits64.add cents 100 = some (cents + 100) :=
      Width.add_of_fits (.of_nonneg (by omega) h)
    have hsub : Width.bits64.sub (cents + 100) 1 = some (cents + 100 - 1) :=
      Width.sub_of_fits (.of_nonneg (by omega) (by omega))
    have hless : cents + 100 - 1 = cents + 99 := by omega
    have hdiv : Width.bits64.div (cents + 99) 100 = some ((cents + 99) / 100) :=
      Width.div_of_nonneg (by omega) (by omega) (by decide)
    have hmul : Width.bits64.mul ((cents + 99) / 100) 100 = some ((cents + 99) / 100 * 100) :=
      Width.mul_of_fits (.of_nonneg hnonneg (by omega))
    simp only [if_pos hunit, hadd, hsub, hless, hdiv, hmul, Option.bind_eq_bind, Option.bind_some]
  · simp only [if_neg hunit]

/-- As many seconds as there are on all days that have a date. -/
def maxSeconds : Int := 16544868105600

theorem secondsUntil_midnight_le (d e : Date) : d.midnight.secondsUntil e.midnight ≤ maxSeconds := by
  have hd := d.inRange
  have he := e.inRange
  rw [Date.secondsUntil_midnight]
  unfold maxSeconds
  omega

/-- The largest price times all seconds there are is far from the limit of 128 bits. -/
theorem bits128_share_eq (ha : 0 ≤ amount) (hmax : amount ≤ Plan.maxPrice) (hr : 0 ≤ remaining)
    (hle : remaining ≤ total) (ht : 0 < total) (hseconds : total ≤ maxSeconds) :
    Width.bits128.share amount remaining total = some (share amount remaining total) := by
  have hproduct : amount * remaining ≤ Plan.maxPrice * maxSeconds :=
    Int.mul_le_mul hmax (Int.le_trans hle hseconds) hr (by decide)
  have hlimit : Plan.maxPrice * maxSeconds + maxSeconds < Width.limit .bits128 := by decide
  exact Width.share_of_nonneg ha hr ht (by omega)

theorem checkedWorth_eq (ha : 0 ≤ amount) (hmax : amount ≤ Plan.maxPrice) (hr : 0 ≤ remaining)
    (hle : remaining ≤ total) (ht : 0 < total) (hseconds : total ≤ maxSeconds) :
    checkedWorth amount remaining total = some (worth amount remaining total) := by
  have hlimits : maxSeconds < Width.limit .bits64 ∧ Plan.maxPrice + 100 < Width.limit .bits64 := by decide
  have hlower : 0 ≤ share amount remaining total := share_nonneg ha hr ht
  have hupper : share amount remaining total ≤ amount := share_le_amount ha ht hle
  have htotal : Width.bits64.check total = some total :=
    Width.check_of_fits (.of_nonneg (Int.le_of_lt ht) (by omega))
  have hremaining : Width.bits64.check remaining = some remaining :=
    Width.check_of_fits (.of_nonneg hr (by omega))
  have hshare := bits128_share_eq ha hmax hr hle ht hseconds
  have hcents : Width.bits64.check (share amount remaining total) = some (share amount remaining total) :=
    Width.check_of_fits (.of_nonneg hlower (by omega))
  have hround : checkedRoundUpToUnit (share amount remaining total) =
      some (toWholeUnits (share amount remaining total)) := checkedRoundUpToUnit_eq (by omega)
  simp only [checkedWorth, htotal, hremaining, hshare, hcents, hround, Option.bind_eq_bind, Option.bind_some]
  rfl

theorem checkedBalance_eq (hmax : s.amount ≤ Plan.maxPrice) (asOf : Instant) :
    s.checkedBalance asOf = some (s.balance asOf) := by
  by_cases hvoid : s.amount ≤ 0 ∨ s.endDate.midnight ≤ asOf ∨ s.endDate.midnight ≤ s.startDate.midnight
  · simp only [checkedBalance, balance, if_pos hvoid]
  by_cases hbefore : asOf < s.startDate.midnight
  · simp only [checkedBalance, balance, if_neg hvoid, if_pos hbefore]
  have hgoes : s.Ongoing asOf := by
    simp only [not_or, Int.not_le] at hvoid
    exact ⟨hvoid.1, hvoid.2.2, hvoid.2.1⟩
  have hbegun : s.startDate.midnight ≤ asOf := Instant.not_lt.mp hbefore
  have hlargest : Plan.maxPrice ≤ maxAmount := by decide
  rw [balance_of_running (Int.le_trans hmax hlargest) hgoes hbegun]
  simp only [checkedBalance, if_neg hvoid, if_neg hbefore]
  exact checkedWorth_eq (Int.le_of_lt hgoes.paid) hmax hgoes.remaining_nonneg (remaining_le_total hbegun)
    hgoes.total_pos (secondsUntil_midnight_le s.startDate s.endDate)

end Source

namespace Wallet

variable {sources : List Source} {asOf : Instant} {w : Wallet} {plan : Plan}

theorem mapM_checkedBalance (h : ∀ s ∈ sources, s.amount ≤ Plan.maxPrice) :
    sources.mapM (fun s => (s.checkedBalance asOf).map (Valued.mk s)) =
      some (sources.map fun s => ⟨s, s.balance asOf⟩) := by
  induction sources with
  | nil => rfl
  | cons s sources ih =>
    obtain ⟨hs, hrest⟩ := List.forall_mem_cons.mp h
    rw [List.mapM_cons, Source.checkedBalance_eq hs, ih hrest]
    rfl

theorem checkedValue_eq (h : ∀ s ∈ sources, s.amount ≤ Plan.maxPrice) :
    checkedValue sources asOf = some (value sources asOf) := by
  rw [checkedValue, mapM_checkedBalance h]
  rfl

theorem checkedOfSources_eq (h : ∀ s ∈ sources, s.amount ≤ Plan.maxPrice)
    (hless : exactSum ((value sources asOf).map (·.balance)) < Width.limit .bits64) :
    checkedOfSources sources asOf = some (ofSources sources asOf) := by
  have htotal : Width.bits64.total ((value sources asOf).map (·.balance)) = some (ofSources sources asOf).balance :=
    Width.total_eq_sumCents (fun x hx => (balances_le h x hx).1) hless
  rw [checkedOfSources, checkedValue_eq h, Option.bind_eq_bind, Option.bind_some, htotal]
  rfl

theorem checkedConvert?_eq (hmax : plan.price ≤ Plan.maxPrice) (hless : w.balance < Width.limit .bits64)
    (extraDays : Nat) : w.checkedConvert? plan extraDays = some (w.convert? plan extraDays) := by
  unfold checkedConvert? convert?
  by_cases hcovers : plan.price ≤ 0 ∨ w.balance < plan.price
  · simp only [if_pos hcovers]
  simp only [if_neg hcovers]
  cases hdays : plan.cycle.nominalDays with
  | none => rfl
  | some daysPerCycle =>
    have hprice : 0 < plan.price := by omega
    have hbalance : 0 ≤ w.balance := by omega
    have hleft : 0 ≤ w.balance % plan.price := Int.emod_nonneg _ (Int.ne_of_gt hprice)
    have hpos : 0 ≤ daysPerCycle := Int.le_of_lt (Cycle.nominalDays_bounds hdays).1
    have hsum : w.balance % plan.price * daysPerCycle + plan.price < Width.limit .bits64 :=
      (Width.fits_bits64_iff.mpr (fitsCents_rest hprice hmax hdays).2).2
    have hdiv : Width.bits64.div w.balance plan.price = some (w.balance / plan.price) :=
      Width.div_of_nonneg hbalance hless hprice
    have hrem : Width.bits64.rem w.balance plan.price = some (w.balance % plan.price) :=
      Width.rem_of_nonneg hbalance hless hprice
    have hshare : Width.bits64.share (w.balance % plan.price) daysPerCycle plan.price =
        some (w.restDays plan daysPerCycle) := Width.share_of_nonneg hleft hpos hprice hsum
    simp only [hdiv, hrem, hshare, days_eq_restDays hprice hmax hdays, Option.bind_eq_bind, Option.bind_some]
    rfl

/-- Not far beyond the largest price, the days of what is left of a balance no longer fit. -/
example :
    let price := Plan.maxPrice + 2
    let w : Wallet := ⟨2 * price - 1, [], ⟨0, 0, by decide, by decide⟩⟩
    w.balance < Width.limit .bits64 ∧ w.checkedConvert? (Samples.premiumYear price) 1 = none := by
  decide

end Wallet

namespace Policy

variable {p : Policy} {plan : Plan} {wallet : Wallet}

theorem checkedNetPrice_eq (hmax : plan.price ≤ Plan.maxPrice) (hvalid : plan.fault? = none) :
    plan.checkedNetPrice = some plan.netPrice := by
  obtain ⟨_, _, hprice, hdiscount, hless⟩ := Plan.fault?_eq_none_iff.mp hvalid
  have hlimit : Plan.maxPrice < Width.limit .bits64 := by decide
  have hsub : Width.bits64.sub plan.price plan.discount = some (plan.price - plan.discount) :=
    Width.sub_of_fits (.of_nonneg (by omega) (by omega))
  have hrest : FitsCents (plan.price - plan.discount) :=
    Width.fits_bits64_iff.mp (.of_nonneg (by omega) (by omega))
  rw [Plan.checkedNetPrice, hsub, Plan.netPrice, wrapCents_of_fits hrest]
  rfl

theorem checkedQuote_eq (p : Policy) (kind : OrderKind) (hmax : plan.price ≤ Plan.maxPrice)
    (hvalid : plan.fault? = none) (hnonneg : 0 ≤ wallet.balance) (hless : wallet.balance < Width.limit .bits64) :
    p.checkedQuote kind plan wallet = some (p.quote kind plan wallet) := by
  have hprice := (Plan.fault?_eq_none_iff.mp hvalid).2.2.1
  have hlimit : Plan.maxPrice < Width.limit .bits64 := by decide
  have hrest : Width.Fits .bits64 (plan.price - wallet.balance) := ⟨by omega, by omega⟩
  simp only [checkedQuote, checkedNetPrice_eq hmax hvalid, Option.bind_eq_bind, Option.bind_some]
  cases kind with
  | create | renew => rfl
  | upgrade =>
    simp only [Wallet.checkedConvert?_eq hmax hless, Option.bind_some, quote]
    cases wallet.convert? plan p.extraDays with
    | some span => rfl
    | none =>
      rw [Width.sub_of_fits hrest, wrapCents_of_fits (Width.fits_bits64_iff.mp hrest)]
      rfl

theorem checkedDraft_eq (p : Policy) {purchase : Purchase} (kind : OrderKind)
    (hmax : purchase.plan.price ≤ Plan.maxPrice) (hvalid : purchase.plan.fault? = none) (hnonneg : 0 ≤ wallet.balance)
    (hless : wallet.balance < Width.limit .bits64) (orderId : String) :
    p.checkedDraft purchase kind wallet orderId = some (p.draft purchase kind wallet orderId) := by
  rw [checkedDraft, checkedQuote_eq p kind hmax hvalid hnonneg hless]
  rfl

end Policy

end Subscriptions
