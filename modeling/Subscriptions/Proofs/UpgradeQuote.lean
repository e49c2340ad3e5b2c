import Subscriptions.Proofs.Conversion
import Subscriptions.Proofs.Policy

/-!
What an upgrade costs, from the sources that pay for it. The order in which the sources come makes no difference. Who
waits has a smaller balance, and with it is charged no less and granted no more time, also where the balance pays for
all of the upgrade before and for a part of it afterwards. The start of the second after a leap second is the one
exception, as for each source.
-/

namespace Subscriptions

set_option autoImplicit false

/-- Amounts of which each can be rounded up, and which can be added up, within 64 bits. -/
structure Source.Bounded (sources : List Source) : Prop where
  each : ∀ s ∈ sources, s.amount ≤ maxAmount
  sum : exactSum (sources.map fun s => max s.amount 0) ≤ 9223372036854775807

namespace Wallet

variable {sources shuffled : List Source} {t t' : Instant}

theorem balance_ofSources_perm (h : sources.Perm shuffled) (t : Instant) :
    (ofSources sources t).balance = (ofSources shuffled t).balance := by
  rw [balance_ofSources, balance_ofSources, sumCents_eq, sumCents_eq, exactSum_perm (h.map _)]

theorem draws_perm (h : sources.Perm shuffled) (t : Instant) (orderId : String) :
    ((ofSources sources t).draws orderId).Perm ((ofSources shuffled t).draws orderId) :=
  ((h.map _).filter _).map _

/-- No balance exceeds what was paid, so adding it up stays within 64 bits and is exact. -/
theorem balance_ofSources_of_bounded (hbounded : Source.Bounded sources) (t : Instant) :
    (ofSources sources t).balance = exactSum (sources.map fun s => s.balance t) ∧
      0 ≤ (ofSources sources t).balance := by
  have hcredits : sources.map (fun s => s.credit t) = sources.map fun s => s.balance t :=
    List.map_congr_left fun s hs => Source.credit_eq_balance (hbounded.each s hs) t
  have hnonneg : 0 ≤ exactSum (sources.map fun s => s.balance t) := by
    apply exactSum_nonneg
    intro x hx
    obtain ⟨s, hs, rfl⟩ := List.mem_map.mp hx
    exact Source.balance_nonneg (hbounded.each s hs) t
  have hpaid : exactSum (sources.map fun s => s.balance t) ≤ exactSum (sources.map fun s => max s.amount 0) :=
    exactSum_map_mono fun s hs => Source.balance_le (hbounded.each s hs) t
  have hfits : FitsCents (exactSum (sources.map fun s => s.balance t)) := by
    have hsum := hbounded.sum
    unfold FitsCents
    omega
  have hexact : (ofSources sources t).balance = exactSum (sources.map fun s => s.balance t) := by
    rw [balance_ofSources, hcredits, sumCents_of_fits hfits]
  exact ⟨hexact, hexact ▸ hnonneg⟩

theorem balance_ofSources_anti (hbounded : Source.Bounded sources) (h : t ≤ t') (hpast : ¬t.RunsPast t') :
    (ofSources sources t').balance ≤ (ofSources sources t).balance := by
  rw [(balance_ofSources_of_bounded hbounded t).1, (balance_ofSources_of_bounded hbounded t').1]
  apply exactSum_map_mono
  intro s hs
  exact Source.balance_anti (hbounded.each s hs) h hpast

end Wallet

/-- Fewer cycles than another quote, or as many and no more days on top. -/
def Quote.NoLonger (a b : Quote) : Prop :=
  a.cycleCount < b.cycleCount ∨ a.cycleCount = b.cycleCount ∧ a.extraDays ≤ b.extraDays

instance (a b : Quote) : Decidable (a.NoLonger b) := inferInstanceAs (Decidable (_ ∨ _))

/-- With a smaller balance there are fewer cycles, or as many with a smaller rest. -/
theorem Wallet.Converts.noLonger {w poorer : Wallet} {plan : Plan} {extraDays : Nat} {days : Int} {span shorter : Span}
    (h : w.Converts plan extraDays days span) (h' : poorer.Converts plan extraDays days shorter)
    (hle : poorer.balance ≤ w.balance) :
    shorter.cycleCount < span.cycleCount ∨
      shorter.cycleCount = span.cycleCount ∧ shorter.extraDays ≤ span.extraDays := by
  have hcycles : poorer.balance / plan.price ≤ w.balance / plan.price := Int.ediv_le_ediv h.priced hle
  rcases Int.lt_or_eq_of_le hcycles with hfewer | hsame
  · left
    have := h.cycles
    have := h'.cycles
    omega
  · right
    have hrest : poorer.balance % plan.price ≤ w.balance % plan.price := by
      have hsplit := Int.mul_ediv_add_emod w.balance plan.price
      have hsplit' := Int.mul_ediv_add_emod poorer.balance plan.price
      rw [hsame] at hsplit'
      omega
    have hdays : poorer.restDays plan days ≤ w.restDays plan days :=
      Source.share_mono h.priced
        (Int.mul_le_mul_of_nonneg_right hrest (Int.le_of_lt (Cycle.nominalDays_bounds h.cycle).1))
    have := h.cycles
    have := h'.cycles
    have := h.rest
    have := h'.rest
    omega

namespace Policy

variable {p : Policy} {plan : Plan} {w poorer : Wallet}

/-- A balance that does not cover the plan buys one cycle with the usual days, and one that covers it no less. -/
theorem quote_noLonger (hle : poorer.balance ≤ w.balance) (hmax : plan.price ≤ Plan.maxPrice)
    (hcycles : w.balance / plan.price < 4294967296)
    (hdays : p.extraDays + 365 < 4294967296) :
    (p.quote .upgrade plan poorer).NoLonger (p.quote .upgrade plan w) := by
  cases hw : w.convert? plan p.extraDays with
  | none =>
    have hpoorer : poorer.convert? plan p.extraDays = none := by
      rw [Wallet.convert?_eq_none_iff hmax] at hw ⊢
      rcases hw with hfree | hshort | hnone | hmany | ⟨days, hd, hlong⟩
      · exact .inl hfree
      · exact .inr (.inl (by omega))
      · exact .inr (.inr (.inl hnone))
      · exact absurd hcycles (Int.not_lt.mpr hmany)
      · by_cases hprice : plan.price ≤ 0
        · exact .inl hprice
        have hbounds := Cycle.nominalDays_bounds hd
        have hrest := w.restDays_le (Int.not_le.mp hprice) hd
        omega
    simp only [quote, hw, hpoorer]
    exact .inr ⟨rfl, Nat.le_refl _⟩
  | some span =>
    obtain ⟨days, hc⟩ := (Wallet.convert?_eq_some_iff hmax).mp hw
    cases hpoorer : poorer.convert? plan p.extraDays with
    | none =>
      have hone := hc.grants.lasting
      have hextra := hc.grants.extra
      simp only [quote, hw, hpoorer, Quote.NoLonger]
      omega
    | some shorter =>
      obtain ⟨days', hc'⟩ := (Wallet.convert?_eq_some_iff hmax).mp hpoorer
      obtain rfl : days = days' := hc.days_eq hc'.cycle
      simp only [quote, hw, hpoorer]
      exact hc.noLonger hc' hle

/-- A larger balance that fits leaves no more of the price to pay. -/
theorem quote_upgrade_amount_anti (hprice : 0 < plan.price) (hfits : FitsCents plan.price)
    (hpoorer : 0 ≤ poorer.balance) (hle : poorer.balance ≤ w.balance) (hw : FitsCents w.balance) :
    (p.quote .upgrade plan w).amount ≤ (p.quote .upgrade plan poorer).amount := by
  unfold FitsCents at hfits hw
  have hsmaller : FitsCents poorer.balance := ⟨by omega, by omega⟩
  have hrest : FitsCents (plan.price - w.balance) := ⟨by omega, by omega⟩
  have hrest' : FitsCents (plan.price - poorer.balance) := ⟨by omega, by omega⟩
  rw [quote_upgrade_amount p plan hw, quote_upgrade_amount p plan hsmaller, wrapCents_of_fits hrest,
    wrapCents_of_fits hrest']
  omega

end Policy

end Subscriptions
