import Subscriptions.Proofs.Cents
import Subscriptions.Wallet

/-!
What a wallet holds: of each source a share that is positive and at most what was paid for it, and one draw
for each when an upgrade is made. Its balance is their sum, as far as 64 bits keep it.
-/

namespace Subscriptions

set_option autoImplicit false

theorem Instant.not_lt {a b : Instant} : ¬a < b ↔ b ≤ a := by
  rw [lt_def, le_def]
  omega

/-- Between two instants in order there are no seconds or some. A leap second may run on past the second instant,
but by less than a second. -/
theorem Instant.secondsUntil_nonneg {a b : Instant} (h : ¬b ≤ a) : 0 ≤ a.secondsUntil b := by
  have ha := a.nanos_lt
  have hless : -1000000000 < b.totalNanos - a.totalNanos := by
    rw [le_def] at h
    simp only [totalNanos]
    omega
  unfold secondsUntil
  rcases Int.lt_or_le (b.totalNanos - a.totalNanos) 0 with hneg | hnonneg
  · have hsmall : -(b.totalNanos - a.totalNanos) < 1000000000 := by omega
    have hzero : (-(b.totalNanos - a.totalNanos)).tdiv 1000000000 = 0 :=
      Int.tdiv_eq_zero_of_lt (by omega) hsmall
    rw [Int.neg_tdiv] at hzero
    omega
  · exact Int.tdiv_nonneg hnonneg (by omega)

theorem Date.secondsUntil_midnight (d e : Date) : d.midnight.secondsUntil e.midnight = (e.day - d.day) * 86400 := by
  have hnanos : e.midnight.totalNanos - d.midnight.totalNanos = (e.day - d.day) * 86400 * 1000000000 := by
    simp only [Instant.totalNanos, midnight]
    omega
  rw [Instant.secondsUntil, hnanos, Int.mul_tdiv_cancel _ (by omega)]

theorem Date.secondsUntil_midnight_pos {d e : Date} (h : ¬e.midnight ≤ d.midnight) :
    0 < d.midnight.secondsUntil e.midnight := by
  have hdays : d.day < e.day := by
    rw [Instant.le_def] at h
    simp only [midnight] at h
    omega
  rw [secondsUntil_midnight]
  omega

namespace Source

/-- What a source adds to a wallet. -/
def credit (s : Source) (asOf : Instant) : Int := max (s.balance asOf) 0

variable {o : Order} {s : Source} {asOf : Instant}

theorem ofOrder?_eq_some (h : ofOrder? o = some s) :
    o.isConfirmed = true ∧ s.orderId = o.id ∧ s.amount = o.amount := by
  unfold ofOrder? at h
  split at h
  · rename_i hc _ _
    obtain rfl := Option.some.inj h
    exact ⟨by simp [Order.isConfirmed, hc], rfl, rfl⟩
  · cases h

theorem balance_le_amount (h : 0 < s.balance asOf) : s.balance asOf ≤ s.amount := by
  simp only [balance] at h ⊢
  split
  · rename_i hn
    rw [if_pos hn] at h
    cases h
  · split
    · exact Int.le_refl _
    · exact Int.min_le_right _ _

theorem share_nonneg {amount remaining total : Int} (ha : 0 ≤ amount) (hr : 0 ≤ remaining) (ht : 0 < total) :
    0 ≤ share amount remaining total := by
  have hproduct := Int.mul_nonneg ha hr
  exact Int.ediv_nonneg (by omega) (by omega)

theorem balance_of_not_isActive (h : s.isActive asOf = false) : s.balance asOf = 0 := by
  simp only [isActive, decide_eq_false_iff_not, Instant.not_lt] at h
  simp only [balance, h, true_or, or_true, if_true]

end Source

theorem Cycle.nominalDays_bounds {c : Cycle} {days : Int} (h : c.nominalDays = some days) : 0 < days ∧ days ≤ 365 := by
  cases c with
  | none => cases h
  | month =>
    obtain rfl := Option.some.inj h
    decide
  | year =>
    obtain rfl := Option.some.inj h
    decide

/-- Days that do not fit do so no better with more on top of them. -/
theorem Span.ofCounts?_eq_some_iff {cycles days : Int} {extraDays : Nat} {span : Span} :
    Span.ofCounts? cycles days extraDays = some span ↔
      span.cycleCount = cycles ∧ 0 ≤ days ∧ span.extraDays = days + extraDays ∧
        span.cycleCount < 4294967296 ∧ span.extraDays < 4294967296 := by
  simp only [ofCounts?, Option.bind_eq_bind, Option.pure_def, Option.bind_eq_some_iff, count?_eq_some_iff,
    Option.some.injEq]
  constructor
  · rintro ⟨cycleCount, ⟨rfl, hcycles⟩, restDays, ⟨rfl, _⟩, extra, ⟨hextra, hdays⟩, rfl⟩
    have hsum : (extra : Int) = restDays + extraDays := by omega
    exact ⟨rfl, Int.natCast_nonneg restDays, hsum, hcycles, hdays⟩
  · rintro ⟨hcycles, hnonneg, hdays, hfewer, hless⟩
    refine ⟨span.cycleCount, ⟨hcycles.symm, hfewer⟩, days.toNat, ⟨by omega, by omega⟩, span.extraDays,
      ⟨by omega, hless⟩, rfl⟩

namespace Wallet

variable {sources : List Source} {asOf : Instant} {orderId : String} {v : Valued} {d : Draw}

theorem mem_value_iff : v ∈ value sources asOf ↔
    v.source ∈ sources ∧ v.balance = v.source.balance asOf ∧ 0 < v.balance := by
  simp only [value, List.mem_filter, List.mem_map, decide_eq_true_eq]
  constructor
  · rintro ⟨⟨s, hs, rfl⟩, hv⟩
    exact ⟨hs, rfl, hv⟩
  · rintro ⟨hs, hb, hv⟩
    refine ⟨⟨v.source, hs, ?_⟩, hv⟩
    rw [← hb]

/-- Sources worth nothing are left out of a wallet, which does not change what the others come to. -/
theorem exactSum_value (sources : List Source) (asOf : Instant) :
    exactSum ((value sources asOf).map (·.balance)) = exactSum (sources.map fun s => s.credit asOf) := by
  unfold value
  induction sources with
  | nil => rfl
  | cons s sources ih =>
    simp only [exactSum, Source.credit] at ih ⊢
    by_cases hpos : 0 < s.balance asOf
    · simp only [List.map_cons, List.filter_cons, hpos, decide_true, if_true, List.foldr_cons, ih]
      omega
    · simp only [List.map_cons, List.filter_cons, hpos, decide_false, if_false, Bool.false_eq_true,
        List.foldr_cons, ih]
      omega

theorem balance_ofSources (sources : List Source) (asOf : Instant) :
    (ofSources sources asOf).balance = sumCents (sources.map fun s => s.credit asOf) := by
  rw [sumCents_eq, ← exactSum_value, ← sumCents_eq]
  rfl

theorem fits_balance (sources : List Source) (asOf : Instant) : FitsCents (ofSources sources asOf).balance :=
  fits_sumCents _

theorem draws_ofSources : (ofSources sources asOf).draws orderId =
    (value sources asOf).map fun v => ⟨v.source.orderId, v.balance, asOf, none, orderId⟩ := rfl

theorem mem_draws (h : d ∈ (ofSources sources asOf).draws orderId) :
    ∃ s ∈ sources, 0 < s.balance asOf ∧ d = ⟨s.orderId, s.balance asOf, asOf, none, orderId⟩ := by
  rw [draws_ofSources] at h
  obtain ⟨v, hv, rfl⟩ := List.mem_map.mp h
  obtain ⟨hs, hb, hpos⟩ := mem_value_iff.mp hv
  rw [hb] at hpos ⊢
  exact ⟨v.source, hs, hpos, rfl⟩

theorem map_balance_draws (sources : List Source) (asOf : Instant) (orderId : String) :
    ((ofSources sources asOf).draws orderId).map (·.balance) = (value sources asOf).map (·.balance) := by
  rw [draws_ofSources, List.map_map]
  rfl

theorem nodup_draws (h : (sources.map (·.orderId)).Nodup) :
    (((ofSources sources asOf).draws orderId).map (·.sourceOrderId)).Nodup := by
  have hv : ((value sources asOf).map (·.source.orderId)).Sublist (sources.map (·.orderId)) := by
    have hf := (List.filter_sublist (p := fun v : Valued => decide (0 < v.balance))
      (l := sources.map fun s => ⟨s, s.balance asOf⟩)).map (·.source.orderId)
    rwa [List.map_map] at hf
  rw [draws_ofSources, List.map_map]
  exact hv.nodup h

theorem length_value_le (sources : List Source) (asOf : Instant) : (value sources asOf).length ≤ sources.length := by
  have hle := List.length_filter_le (fun v : Valued => decide (0 < v.balance))
    (sources.map fun s => ⟨s, s.balance asOf⟩)
  rwa [List.length_map] at hle

theorem balances_le {most : Int} (h : ∀ s ∈ sources, s.amount ≤ most) :
    ∀ x ∈ (value sources asOf).map (·.balance), 0 ≤ x ∧ x ≤ most := by
  intro x hx
  obtain ⟨v, hv, rfl⟩ := List.mem_map.mp hx
  obtain ⟨hsource, hbalance, hpos⟩ := mem_value_iff.mp hv
  rw [hbalance] at hpos ⊢
  exact ⟨Int.le_of_lt hpos, Int.le_trans (Source.balance_le_amount hpos) (h _ hsource)⟩

/-- So many sources of at most so much are worth less than a limit in all. -/
theorem exactSum_value_lt {most limit : Int} {count : Nat} (h : ∀ s ∈ sources, s.amount ≤ most)
    (hcount : sources.length ≤ count) (hless : count * most < limit) (hlimit : 0 < limit) :
    exactSum ((value sources asOf).map (·.balance)) < limit := by
  apply exactSum_lt (balances_le h) _ hless hlimit
  rw [List.length_map]
  exact Nat.le_trans (length_value_le sources asOf) hcount

theorem exactSum_value_nonneg (sources : List Source) (asOf : Instant) :
    0 ≤ exactSum ((value sources asOf).map (·.balance)) := by
  apply exactSum_nonneg
  intro x hx
  obtain ⟨v, hv, rfl⟩ := List.mem_map.mp hx
  exact Int.le_of_lt (mem_value_iff.mp hv).2.2

variable {w : Wallet} {plan : Plan} {extraDays : Nat} {span : Span}

/-- A balance that is turned into time covers the plan, so it buys a cycle at least. -/
theorem covers_of_convert? (h : w.convert? plan extraDays = some span) :
    0 < plan.price ∧ plan.price ≤ w.balance ∧ 1 ≤ span.cycleCount := by
  unfold convert? at h
  split at h
  · cases h
  rename_i hcovers
  obtain ⟨hprice, hbalance⟩ : 0 < plan.price ∧ plan.price ≤ w.balance := by omega
  split at h
  · cases h
  obtain ⟨hcycles, _⟩ := Span.ofCounts?_eq_some_iff.mp h
  have hone : 1 ≤ w.balance / plan.price :=
    Int.le_ediv_of_mul_le hprice (by rw [Int.one_mul]; exact hbalance)
  exact ⟨hprice, hbalance, by omega⟩

end Wallet

end Subscriptions
