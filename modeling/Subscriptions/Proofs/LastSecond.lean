import Subscriptions.Proofs.Proration

/-!
Whether time that is still to come is worth something. What was paid for is worth something as long as a whole second
of its period is left. In the last second the period is not over, but the time left is counted in whole seconds before
anything is rounded up, and so it is worth nothing.
-/

namespace Subscriptions

set_option autoImplicit false

namespace Instant

variable {a b : Instant}

theorem secondsUntil_pos_iff : 0 < a.secondsUntil b ↔ a.totalNanos + 1000000000 ≤ b.totalNanos := by
  unfold secondsUntil
  constructor
  · intro h
    apply Int.not_lt.mp
    intro hshort
    have hless : b.totalNanos - a.totalNanos ≤ 999999999 := by omega
    have hnone : (b.totalNanos - a.totalNanos).tdiv 1000000000 ≤ Int.tdiv 999999999 1000000000 :=
      Int.tdiv_le_tdiv (by decide) hless
    have hzero : Int.tdiv 999999999 1000000000 = 0 := by decide
    omega
  · intro h
    have hmore : 1000000000 ≤ b.totalNanos - a.totalNanos := by omega
    have hsome : Int.tdiv 1000000000 1000000000 ≤ (b.totalNanos - a.totalNanos).tdiv 1000000000 :=
      Int.tdiv_le_tdiv (by decide) hmore
    have hone : Int.tdiv 1000000000 1000000000 = 1 := by decide
    omega

end Instant

namespace Source

variable {s : Source} {t : Instant} {amount remaining total : Int}

theorem share_pos_iff (ha : 0 < amount) (hr : 0 ≤ remaining) (ht : 0 < total) :
    0 < share amount remaining total ↔ 0 < remaining := by
  constructor
  · intro h
    refine Int.lt_iff_le_and_ne.mpr ⟨hr, ?_⟩
    rintro rfl
    have hupper : share amount 0 total * total < amount * 0 + total := share_mul_lt ht
    have hlower : 1 * total ≤ share amount 0 total * total := Int.mul_le_mul_of_nonneg_right h (Int.le_of_lt ht)
    omega
  · intro h
    have hproduct : 0 < amount * remaining := Int.mul_pos ha h
    have hshare : amount * remaining ≤ share amount remaining total * total := le_share_mul ht
    exact Int.pos_of_mul_pos_left (Int.lt_of_lt_of_le hproduct hshare) ht

theorem worth_pos_iff (ha : 0 < amount) (hr : 0 ≤ remaining) (ht : 0 < total) :
    0 < worth amount remaining total ↔ 0 < remaining := by
  rw [← share_pos_iff ha hr ht]
  unfold worth toWholeUnits
  split <;> omega

/-- The last second of the period has begun, and less than all of it is left. -/
def RunsOut (s : Source) (t : Instant) : Prop := t.seconds + 1 = s.endDate.midnight.seconds ∧ 0 < t.nanos

theorem isActive_iff : s.isActive t = true ↔ t < s.endDate.midnight := decide_eq_true_iff

theorem RunsOut.isActive (h : s.RunsOut t) : s.isActive t = true := by
  have hsecond : t.seconds + 1 = s.endDate.midnight.seconds := h.1
  rw [isActive_iff, Instant.lt_def]
  omega

/-- A leap second right before the end is part of the last second, so it never holds a whole second more. -/
theorem secondsUntil_end_pos_iff :
    0 < t.secondsUntil s.endDate.midnight ↔ s.isActive t = true ∧ ¬s.RunsOut t := by
  have hnanos := t.nanos_lt
  rw [Instant.secondsUntil_pos_iff, isActive_iff, Instant.lt_def]
  simp only [RunsOut, Instant.totalNanos, Date.midnight]
  omega

theorem Ongoing.isActive (h : s.Ongoing t) : s.isActive t = true := isActive_iff.mpr h.before_end

theorem Ongoing.of_isActive (hpaid : 0 < s.amount) (hforward : s.startDate < s.endDate)
    (h : s.isActive t = true) : s.Ongoing t where
  paid := hpaid
  forward hback := by
    rw [Date.lt_def] at hforward
    rw [Instant.le_def] at hback
    simp only [Date.midnight] at hback
    omega
  unfinished hover := Instant.not_lt.mpr hover (isActive_iff.mp h)

theorem balance_pos_iff (hmax : s.amount ≤ maxAmount) (hpaid : 0 < s.amount) (hforward : s.startDate < s.endDate) :
    0 < s.balance t ↔ s.isActive t = true ∧ ¬s.RunsOut t := by
  rw [← secondsUntil_end_pos_iff]
  cases standing hmax t with
  | ended hover hb =>
    have hnone : ¬0 < t.secondsUntil s.endDate.midnight := fun hsome =>
      hover (.of_isActive hpaid hforward (secondsUntil_end_pos_iff.mp hsome).1)
    exact ⟨fun h => absurd hb (Int.ne_of_gt h), fun h => absurd h hnone⟩
  | early hgoes hbefore hb =>
    -- A period lasts for a day at least, so its last second is not before it.
    have hwhole : 0 < t.secondsUntil s.endDate.midnight := by
      refine secondsUntil_end_pos_iff.mpr ⟨hgoes.isActive, ?_⟩
      rintro ⟨hlast, _⟩
      rw [Instant.lt_def] at hbefore
      rw [Date.lt_def] at hforward
      simp only [Date.midnight] at hbefore hlast
      omega
    exact ⟨fun _ => hwhole, fun _ => hb ▸ hpaid⟩
  | running hgoes _ hb =>
    rw [hb]
    exact worth_pos_iff hpaid hgoes.remaining_nonneg hgoes.total_pos

/-- What was paid for a period is active exactly while it is worth something, but for the last second: there it is
active and worth nothing. -/
theorem isActive_iff_balance_pos_iff (s : Source) (hmax : s.amount ≤ maxAmount) (hpaid : 0 < s.amount)
    (hforward : s.startDate < s.endDate) (t : Instant) :
    ((s.isActive t = true ↔ 0 < s.balance t) ↔ ¬s.RunsOut t) ∧
      (s.RunsOut t → s.isActive t = true ∧ s.balance t = 0) := by
  have hworth : 0 < s.balance t ↔ s.isActive t = true ∧ ¬s.RunsOut t := balance_pos_iff hmax hpaid hforward
  constructor
  · constructor
    · intro hagree hlast
      exact (hworth.mp (hagree.mp hlast.isActive)).2 hlast
    · intro hlong
      exact ⟨fun hactive => hworth.mpr ⟨hactive, hlong⟩, fun hsome => (hworth.mp hsome).1⟩
  · intro hlast
    have hnone : ¬0 < s.balance t := fun hsome => (hworth.mp hsome).2 hlast
    have hnonneg := balance_nonneg hmax t
    exact ⟨hlast.isActive, by omega⟩

/-- As its last second begins, a day pass is worth a cent. -/
theorem dayPass_worth_cent :
    let s := dayPass 25800
    let t : Instant := ⟨1704153599, 0, by decide, by decide⟩
    s.amount ≤ maxAmount ∧ 0 < s.amount ∧ s.startDate < s.endDate ∧
      (s.isActive t = true ↔ 0 < s.balance t) ∧ s.balance t = 1 := by
  intro s t
  have hlong : ¬s.RunsOut t := fun hlast => absurd hlast.2 (by decide)
  have hagree := (isActive_iff_balance_pos_iff s (by decide) (by decide) (by decide) t).1.mpr hlong
  exact ⟨by decide, by decide, by decide, hagree, by decide⟩

/-- Half a second before its end a day pass is active, and worth nothing. -/
theorem dayPass_active_for_nothing :
    let s := dayPass 25800
    let t : Instant := ⟨1704153599, 500000000, by decide, by decide⟩
    0 < s.amount ∧ s.startDate < s.endDate ∧ s.isActive t = true ∧ s.balance t = 0 ∧
      ¬(s.isActive t = true ↔ 0 < s.balance t) := by
  decide

end Source

end Subscriptions
