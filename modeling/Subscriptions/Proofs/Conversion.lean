import Mathlib.Data.Rat.Floor
import Subscriptions.Proofs.Proration

/-!
What a balance buys. As many cycles as it pays for and the days that the rest pays for are rounded up only once: taken
together they are what the whole balance is worth at the daily rate of the plan, with a part of a day counted as a whole
one. Nothing is bought if the balance does not cover the plan or a count does not fit into 32 bits, and only then.
-/

namespace Subscriptions

set_option autoImplicit false

/-- The largest price at which the days of a year times a part of the price, and the price on top, fit into 64 bits. -/
def Plan.maxPrice : Int := 9223372036854775807 / 366

/-- The days of a span if its cycles have the given number of days. -/
def Span.daysAt (span : Span) (days : Int) : Int := span.cycleCount * days + span.extraDays

theorem Cycle.nominalDays_eq_none_iff {c : Cycle} : c.nominalDays = Option.none ↔ c = .none := by
  cases c <;> simp [nominalDays]

namespace Source

variable {amount amount' remaining total : Int}

/-- A share is the exact quotient, rounded up. -/
theorem share_eq_ceil (ht : 0 < total) : share amount remaining total = ⌈(amount * remaining / total : ℚ)⌉ := by
  have hlower : amount * remaining ≤ share amount remaining total * total := le_share_mul ht
  have hupper : share amount remaining total * total < amount * remaining + total := share_mul_lt ht
  have htotal : (0 : ℚ) < total := by exact_mod_cast ht
  symm
  rw [Int.ceil_eq_iff, lt_div_iff₀ htotal, div_le_iff₀ htotal]
  constructor
  · have hless : (share amount remaining total - 1) * total < amount * remaining := by
      rw [Int.sub_mul, Int.one_mul]
      omega
    exact_mod_cast hless
  · exact_mod_cast hlower

/-- Whole multiples of the total can be shared out first. -/
theorem share_eq_quotient_add (ht : 0 < total) :
    share amount remaining total = amount / total * remaining + share (amount % total) remaining total := by
  have hsplit : amount * remaining + total - 1 =
      amount % total * remaining + total - 1 + total * (amount / total * remaining) := by
    have hproduct : amount * remaining = amount % total * remaining + total * (amount / total * remaining) := by
      rw [← Int.mul_assoc, ← Int.add_mul, Int.emod_add_mul_ediv]
    omega
  calc share amount remaining total
      = (amount % total * remaining + total - 1 + total * (amount / total * remaining)) / total := by
        rw [← hsplit, share]
    _ = (amount % total * remaining + total - 1) / total + amount / total * remaining :=
        Int.add_mul_ediv_left _ _ (Int.ne_of_gt ht)
    _ = amount / total * remaining + share (amount % total) remaining total := Int.add_comm _ _

theorem share_le_remaining (ht : 0 < total) (hr : 0 ≤ remaining) (ha : amount ≤ total) :
    share amount remaining total ≤ remaining := by
  have hupper : share amount remaining total * total < amount * remaining + total := share_mul_lt ht
  have hwhole : amount * remaining ≤ total * remaining := Int.mul_le_mul_of_nonneg_right ha hr
  have hnext : share amount remaining total * total < (remaining + 1) * total := by
    rw [Int.add_mul, Int.one_mul, Int.mul_comm remaining]
    omega
  have hless := Int.lt_of_mul_lt_mul_right hnext (Int.le_of_lt ht)
  omega

end Source

namespace Wallet

variable {w richer : Wallet} {plan : Plan} {extraDays : Nat} {days : Int} {span longer : Span}

/-- The days that are bought with what the whole cycles leave of the balance. -/
def restDays (w : Wallet) (plan : Plan) (days : Int) : Int := Source.share (w.balance % plan.price) days plan.price

theorem restDays_nonneg (hprice : 0 < plan.price) (hdays : plan.cycle.nominalDays = some days) :
    0 ≤ w.restDays plan days :=
  Source.share_nonneg (Int.emod_nonneg _ (Int.ne_of_gt hprice)) (Int.le_of_lt (Cycle.nominalDays_bounds hdays).1) hprice

/-- A balance is turned into time if it covers the plan and both counts fit, and then into these counts. -/
structure Converts (w : Wallet) (plan : Plan) (extraDays : Nat) (days : Int) (span : Span) : Prop where
  priced : 0 < plan.price
  covers : plan.price ≤ w.balance
  cycle : plan.cycle.nominalDays = some days
  cycles : (span.cycleCount : Int) = w.balance / plan.price
  rest : (span.extraDays : Int) = w.restDays plan days + extraDays
  cycles_lt : span.cycleCount < 4294967296
  rest_lt : span.extraDays < 4294967296

/-- What is computed on the way from a balance to days stays within 64 bits. -/
theorem fitsCents_rest (hprice : 0 < plan.price) (hmax : plan.price ≤ Plan.maxPrice)
    (hdays : plan.cycle.nominalDays = some days) :
    FitsCents (w.balance % plan.price * days) ∧ FitsCents (w.balance % plan.price * days + plan.price) := by
  have hrest : 0 ≤ w.balance % plan.price := Int.emod_nonneg _ (Int.ne_of_gt hprice)
  have hless : w.balance % plan.price < plan.price := Int.emod_lt_of_pos _ hprice
  obtain ⟨hpos, hyear⟩ := Cycle.nominalDays_bounds hdays
  have hlower : 0 ≤ w.balance % plan.price * days := Int.mul_nonneg hrest (Int.le_of_lt hpos)
  have hupper : w.balance % plan.price * days ≤ w.balance % plan.price * 365 :=
    Int.mul_le_mul_of_nonneg_left hyear hrest
  unfold Plan.maxPrice at hmax
  unfold FitsCents
  omega

/-- Up to the largest price, nothing wraps around on the way to the days. -/
theorem days_eq_restDays (hprice : 0 < plan.price) (hmax : plan.price ≤ Plan.maxPrice)
    (hdays : plan.cycle.nominalDays = some days) :
    (wrapCents (w.balance % plan.price * days + plan.price - 1)).tdiv plan.price = w.restDays plan days := by
  have hfits : FitsCents (w.balance % plan.price * days + plan.price) := (fitsCents_rest hprice hmax hdays).2
  have hproduct : 0 ≤ w.balance % plan.price * days :=
    Int.mul_nonneg (Int.emod_nonneg _ (Int.ne_of_gt hprice)) (Int.le_of_lt (Cycle.nominalDays_bounds hdays).1)
  have hless : FitsCents (w.balance % plan.price * days + plan.price - 1) := by
    unfold FitsCents at hfits ⊢
    omega
  rw [wrapCents_of_fits hless, Int.tdiv_eq_ediv_of_nonneg (by omega)]
  rfl

theorem convert?_eq_some_iff (hmax : plan.price ≤ Plan.maxPrice) :
    w.convert? plan extraDays = some span ↔ ∃ days, w.Converts plan extraDays days span := by
  unfold convert?
  by_cases hcovers : plan.price ≤ 0 ∨ w.balance < plan.price
  · rw [if_pos hcovers]
    constructor
    · intro h
      cases h
    · rintro ⟨days, h⟩
      have hprice := h.priced
      have hbalance := h.covers
      omega
  rw [if_neg hcovers]
  obtain ⟨hprice, hbalance⟩ : 0 < plan.price ∧ plan.price ≤ w.balance := by omega
  cases hdays : plan.cycle.nominalDays with
  | none =>
    constructor
    · intro h
      cases h
    · rintro ⟨days, h⟩
      rw [h.cycle] at hdays
      cases hdays
  | some days =>
    have hrest := w.restDays_nonneg hprice hdays
    simp only [days_eq_restDays hprice hmax hdays, Span.ofCounts?_eq_some_iff]
    constructor
    · rintro ⟨hcycles, _, hextra, hfewer, hless⟩
      exact ⟨days, hprice, hbalance, hdays, hcycles, hextra, hfewer, hless⟩
    · rintro ⟨other, h⟩
      obtain rfl : days = other := Option.some.inj (hdays.symm.trans h.cycle)
      exact ⟨h.cycles, hrest, h.rest, h.cycles_lt, h.rest_lt⟩

theorem Converts.days_eq {other : Int} (h : w.Converts plan extraDays days span)
    (hother : plan.cycle.nominalDays = some other) : days = other :=
  Option.some.inj (h.cycle.symm.trans hother)

theorem Converts.lasting (h : w.Converts plan extraDays days span) : 1 ≤ span.cycleCount := by
  have hone : 1 ≤ w.balance / plan.price :=
    Int.le_ediv_of_mul_le h.priced (by rw [Int.one_mul]; exact h.covers)
  have hcycles := h.cycles
  omega

theorem restDays_le (hprice : 0 < plan.price) (hdays : plan.cycle.nominalDays = some days) :
    w.restDays plan days ≤ days := by
  have hpos : 0 ≤ days := Int.le_of_lt (Cycle.nominalDays_bounds hdays).1
  have hless : w.balance % plan.price < plan.price := Int.emod_lt_of_pos _ hprice
  exact Source.share_le_remaining hprice hpos (Int.le_of_lt hless)

theorem exists_converts (hprice : 0 < plan.price) (hcovers : plan.price ≤ w.balance)
    (hdays : plan.cycle.nominalDays = some days) (hcycles : w.balance / plan.price < 4294967296)
    (hrest : w.restDays plan days + extraDays < 4294967296) : ∃ span, w.Converts plan extraDays days span := by
  have hwhole : 0 ≤ w.balance / plan.price := Int.ediv_nonneg (by omega) (by omega)
  have hnonneg := w.restDays_nonneg hprice hdays
  refine ⟨⟨(w.balance / plan.price).toNat, (w.restDays plan days).toNat + extraDays⟩,
    hprice, hcovers, hdays, ?_, ?_, ?_, ?_⟩
  all_goals
    simp only
    omega

/-- There are five reasons for which a balance is not turned into time. -/
theorem convert?_eq_none_iff (hmax : plan.price ≤ Plan.maxPrice) :
    w.convert? plan extraDays = none ↔ plan.price ≤ 0 ∨ w.balance < plan.price ∨ plan.cycle = .none ∨
      4294967296 ≤ w.balance / plan.price ∨
      ∃ days ∈ plan.cycle.nominalDays, 4294967296 ≤ w.restDays plan days + extraDays := by
  constructor
  · intro h
    apply Classical.byContradiction
    simp only [not_or, Int.not_le, Int.not_lt, not_exists, not_and]
    rintro ⟨hprice, hcovers, hcycle, hcycles, hrest⟩
    obtain ⟨days, hdays⟩ := Option.ne_none_iff_exists'.mp (fun hn => hcycle (Cycle.nominalDays_eq_none_iff.mp hn))
    obtain ⟨span, hspan⟩ := exists_converts hprice hcovers hdays hcycles (hrest days hdays)
    rw [(convert?_eq_some_iff hmax).mpr ⟨days, hspan⟩] at h
    cases h
  · intro h
    apply Option.eq_none_iff_forall_ne_some.mpr
    intro span hspan
    obtain ⟨days, hc⟩ := (convert?_eq_some_iff hmax).mp hspan
    have hcycles := hc.cycles_lt
    have hrest := hc.rest_lt
    rcases h with hfree | hshort | hnone | hmany | ⟨other, hother, hlong⟩
    · exact absurd hc.priced (Int.not_lt.mpr hfree)
    · exact absurd hc.covers (Int.not_le.mpr hshort)
    · have hdays := hc.cycle
      rw [hnone] at hdays
      cases hdays
    · have hcount := hc.cycles
      omega
    · obtain rfl : days = other := hc.days_eq hother
      have hcount := hc.rest
      omega

/-- What a balance is turned into: the cycles that it pays for, and in all as many days as the exact quotient by the
daily rate, rounded up. -/
structure Grants (w : Wallet) (plan : Plan) (extraDays : Nat) (days : Int) (span : Span) : Prop where
  cycles : (span.cycleCount : Int) = w.balance / plan.price
  lasting : 1 ≤ span.cycleCount
  extra : extraDays ≤ span.extraDays
  rest : span.extraDays ≤ extraDays + days
  total : span.daysAt days - extraDays = ⌈(w.balance * days / plan.price : ℚ)⌉
  enough : w.balance * days ≤ (span.daysAt days - extraDays) * plan.price
  less_than_a_day : (span.daysAt days - extraDays) * plan.price < w.balance * days + plan.price

theorem Converts.daysAt_eq (h : w.Converts plan extraDays days span) :
    span.daysAt days - extraDays = Source.share w.balance days plan.price := by
  rw [Source.share_eq_quotient_add h.priced, Span.daysAt, h.cycles, h.rest, restDays]
  omega

theorem Converts.grants (h : w.Converts plan extraDays days span) : w.Grants plan extraDays days span := by
  have hnonneg := w.restDays_nonneg h.priced h.cycle
  have hle := w.restDays_le h.priced h.cycle
  have hrest := h.rest
  have htotal := h.daysAt_eq
  refine ⟨h.cycles, h.lasting, by omega, by omega, ?_, ?_, ?_⟩
  · rw [htotal, Source.share_eq_ceil h.priced]
  · rw [htotal]
    exact Source.le_share_mul h.priced
  · rw [htotal]
    exact Source.share_mul_lt h.priced

theorem Converts.daysAt_mono (h : w.Converts plan extraDays days span) (h' : richer.Converts plan extraDays days longer)
    (hle : w.balance ≤ richer.balance) : span.daysAt days ≤ longer.daysAt days := by
  have hdays : 0 ≤ days := Int.le_of_lt (Cycle.nominalDays_bounds h.cycle).1
  have hworth : Source.share w.balance days plan.price ≤ Source.share richer.balance days plan.price :=
    Source.share_mono h.priced (Int.mul_le_mul_of_nonneg_right hle hdays)
  rw [← h.daysAt_eq, ← h'.daysAt_eq] at hworth
  omega

/-- A balance is turned into no time for one of five reasons and otherwise into whole cycles and days that are worth it
at the daily rate, rounded up once to a day; a larger balance never into less time. No price up to the largest makes a
value on the way leave 64 bits. -/
theorem convert?_exact (w : Wallet) (plan : Plan) (extraDays : Nat) (hmax : plan.price ≤ Plan.maxPrice) :
    (w.convert? plan extraDays = none ↔ plan.price ≤ 0 ∨ w.balance < plan.price ∨ plan.cycle = .none ∨
        4294967296 ≤ w.balance / plan.price ∨
        ∃ days ∈ plan.cycle.nominalDays,
          4294967296 ≤ ⌈((w.balance % plan.price : Int) * days / plan.price : ℚ)⌉ + extraDays) ∧
      (∀ span, w.convert? plan extraDays = some span →
        ∃ days ∈ plan.cycle.nominalDays, w.Grants plan extraDays days span) ∧
      (∀ richer : Wallet, w.balance ≤ richer.balance → ∀ days ∈ plan.cycle.nominalDays, ∀ span longer,
        w.convert? plan extraDays = some span → richer.convert? plan extraDays = some longer →
          span.daysAt days ≤ longer.daysAt days) ∧
      ∀ days ∈ plan.cycle.nominalDays, 0 < plan.price →
        FitsCents (w.balance % plan.price * days) ∧ FitsCents (w.balance % plan.price * days + plan.price) := by
  refine ⟨?_, ?_, ?_, ?_⟩
  · rw [convert?_eq_none_iff hmax]
    by_cases hprice : plan.price ≤ 0
    · simp only [hprice, true_or]
    · have hpos : 0 < plan.price := Int.not_le.mp hprice
      simp only [restDays, Source.share_eq_ceil hpos]
  · intro span h
    obtain ⟨days, hc⟩ := (convert?_eq_some_iff hmax).mp h
    exact ⟨days, hc.cycle, hc.grants⟩
  · intro richer hle days hdays span longer h h'
    obtain ⟨days, hc⟩ := (convert?_eq_some_iff hmax).mp h
    obtain ⟨days', hc'⟩ := (convert?_eq_some_iff hmax).mp h'
    obtain rfl : days = days' := hc.days_eq hc'.cycle
    obtain rfl := hc.days_eq hdays
    exact hc.daysAt_mono hc' hle
  · intro days hdays hprice
    exact fitsCents_rest hprice hmax hdays

end Wallet

/-- A plan for a premium year at some price. -/
def Samples.premiumYear (price : Int) : Plan := ⟨"premium_year", .premium, .year, price, 0, "cny", none⟩

/-- Two and a half times the price of a year buys two years and, with the 183rd day begun, half a year. -/
theorem Wallet.half_year_left_over :
    let plan := Samples.premiumYear 199800
    let w : Wallet := ⟨499500, [], ⟨0, 0, by decide, by decide⟩⟩
    plan.price ≤ Plan.maxPrice ∧ w.convert? plan 1 = some ⟨2, 184⟩ ∧ w.Grants plan 1 365 ⟨2, 184⟩ := by
  intro plan w
  have hmax : plan.price ≤ Plan.maxPrice := by decide
  have hbought : w.convert? plan 1 = some ⟨2, 184⟩ := by decide
  obtain ⟨_, hexact, _, _⟩ := convert?_exact w plan 1 hmax
  obtain ⟨days, hdays, hgrants⟩ := hexact _ hbought
  obtain rfl : 365 = days := Option.some.inj hdays
  exact ⟨hmax, hbought, hgrants⟩

end Subscriptions
