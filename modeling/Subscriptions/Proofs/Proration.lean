import Subscriptions.Proofs.Wallet

/-!
How the worth of a purchase follows the time that is left of it. It never exceeds what was paid, falls as time
passes, and stays less than one unit above the exact share of the seconds still to come. The one exception to the
falling is the start of the second after a leap second, as leap seconds run on past it.
-/

namespace Subscriptions

set_option autoImplicit false

namespace Instant

variable {a b c : Instant}

/-- The first instant lies within a leap second, and the second one is where the next second starts. -/
def RunsPast (a b : Instant) : Prop := b.seconds = a.seconds + 1 ∧ b.nanos = 0 ∧ 1000000000 < a.nanos

instance (a b : Instant) : Decidable (a.RunsPast b) := inferInstanceAs (Decidable (_ ∧ _))

theorem totalNanos_midnight_le {d : Date} (h : d.midnight ≤ a) : d.midnight.totalNanos ≤ a.totalNanos := by
  rw [le_def] at h
  simp only [Date.midnight, totalNanos] at h ⊢
  omega

theorem secondsUntil_anti (h : a.totalNanos ≤ b.totalNanos) (c : Instant) :
    b.secondsUntil c ≤ a.secondsUntil c := by
  unfold secondsUntil
  apply Int.tdiv_le_tdiv
  · omega
  · omega

/-- A leap second runs on past the start of the next one, but once that has begun, no more whole seconds are left than
within the leap second. -/
theorem secondsUntil_midnight_anti {d : Date} (h : a ≤ b) (hpast : ¬a.RunsPast b) (hopen : b < d.midnight) :
    b.secondsUntil d.midnight ≤ a.secondsUntil d.midnight := by
  by_cases hle : a.totalNanos ≤ b.totalNanos
  · exact secondsUntil_anti hle _
  · have ha := a.nanos_lt
    rw [le_def] at h
    rw [lt_def] at hopen
    simp only [RunsPast, totalNanos, secondsUntil, Date.midnight] at hpast hle hopen ⊢
    rw [Int.tdiv_eq_ediv_of_nonneg (by omega), Int.tdiv_eq_ediv_of_nonneg (by omega)]
    omega

end Instant

namespace Source

section Rounding

variable {amount amount' remaining remaining' total cents cents' : Int}

theorem le_share_mul (ht : 0 < total) : amount * remaining ≤ share amount remaining total * total := by
  have h := Int.lt_ediv_add_one_mul_self (amount * remaining + total - 1) ht
  rw [Int.add_mul, Int.one_mul] at h
  unfold share
  omega

theorem share_mul_lt (ht : 0 < total) : share amount remaining total * total < amount * remaining + total := by
  have h := Int.ediv_mul_le (amount * remaining + total - 1) (Int.ne_of_gt ht)
  unfold share
  omega

theorem share_mono (ht : 0 < total) (h : amount * remaining ≤ amount' * remaining') :
    share amount remaining total ≤ share amount' remaining' total := by
  unfold share
  apply Int.ediv_le_ediv ht
  omega

/-- The share of all the time is the whole amount. -/
theorem share_self (ht : 0 < total) : share amount total total = amount := by
  have hlower : amount * total ≤ share amount total total * total := le_share_mul ht
  have hupper : share amount total total * total < amount * total + total := share_mul_lt ht
  have hnext : share amount total total * total < (amount + 1) * total := by
    rw [Int.add_mul, Int.one_mul]
    exact hupper
  have hle := Int.le_of_mul_le_mul_right hlower ht
  have hlt := Int.lt_of_mul_lt_mul_right hnext (Int.le_of_lt ht)
  omega

theorem share_le_amount (ha : 0 ≤ amount) (ht : 0 < total) (hr : remaining ≤ total) :
    share amount remaining total ≤ amount := by
  calc share amount remaining total
      ≤ share amount total total := share_mono ht (Int.mul_le_mul_of_nonneg_left hr ha)
    _ = amount := share_self ht

/-- Rounded up to whole units, however large the number. -/
def toWholeUnits (cents : Int) : Int := if 100 ≤ cents then (cents + 99) / 100 * 100 else cents

theorem le_toWholeUnits : cents ≤ toWholeUnits cents := by
  unfold toWholeUnits
  split <;> omega

theorem toWholeUnits_le : toWholeUnits cents ≤ cents + 99 := by
  unfold toWholeUnits
  split <;> omega

theorem toWholeUnits_mono (h : cents ≤ cents') : toWholeUnits cents ≤ toWholeUnits cents' := by
  unfold toWholeUnits
  split <;> split <;> omega

theorem toWholeUnits_whole (cents : Int) : toWholeUnits cents < 100 ∨ 100 ∣ toWholeUnits cents := by
  unfold toWholeUnits
  split
  · exact .inr (Int.dvd_mul_left _ _)
  · left
    omega

/-- The largest amount that can be rounded up to a unit within 64 bits. -/
def maxAmount : Int := 9223372036854775807 - 99

theorem roundUpToUnit_eq (h : cents ≤ maxAmount) : roundUpToUnit cents = toWholeUnits cents := by
  unfold roundUpToUnit toWholeUnits
  split
  · have hnonneg : 0 ≤ cents + 99 := by omega
    have hfits : FitsCents (cents + 99) := by
      unfold maxAmount at h
      unfold FitsCents
      omega
    rw [wrapCents_of_fits hfits, Int.tdiv_eq_ediv_of_nonneg hnonneg]
  · rfl

/-- Less than a cent is added to make the share whole, and less than a unit to round it up. -/
theorem toWholeUnits_share_mul_lt (ht : 0 < total) :
    toWholeUnits (share amount remaining total) * total < amount * remaining + 100 * total := by
  have hshare : share amount remaining total * total < amount * remaining + total := share_mul_lt ht
  have hround : toWholeUnits (share amount remaining total) ≤ share amount remaining total + 99 :=
    toWholeUnits_le
  have hscaled := Int.mul_le_mul_of_nonneg_right hround (Int.le_of_lt ht)
  rw [Int.add_mul] at hscaled
  omega

end Rounding

variable {s larger : Source} {t t' : Instant}

/-- What the time left is worth, of all the time that was paid for. -/
def worth (amount remaining total : Int) : Int := min (toWholeUnits (share amount remaining total)) amount

theorem worth_mono {amount amount' remaining remaining' total : Int} (ht : 0 < total) (hr : 0 ≤ remaining)
    (ha' : 0 ≤ amount') (hamount : amount ≤ amount') (hremaining : remaining ≤ remaining') :
    worth amount remaining total ≤ worth amount' remaining' total := by
  have hless : amount * remaining ≤ amount' * remaining := Int.mul_le_mul_of_nonneg_right hamount hr
  have hsooner : amount' * remaining ≤ amount' * remaining' := Int.mul_le_mul_of_nonneg_left hremaining ha'
  have hround := toWholeUnits_mono (share_mono ht (Int.le_trans hless hsooner))
  unfold worth
  omega

theorem worth_self {amount total : Int} (ht : 0 < total) : worth amount total total = amount := by
  have hround : share amount total total ≤ toWholeUnits (share amount total total) := le_toWholeUnits
  rw [share_self ht] at hround
  unfold worth
  rw [share_self ht]
  omega

theorem le_worth_mul {amount remaining total : Int} (ht : 0 < total) (ha : 0 ≤ amount)
    (hr : remaining ≤ total) : amount * remaining ≤ worth amount remaining total * total := by
  have hshare : amount * remaining ≤ share amount remaining total * total := le_share_mul ht
  have hround : share amount remaining total * total ≤ toWholeUnits (share amount remaining total) * total :=
    Int.mul_le_mul_of_nonneg_right le_toWholeUnits (Int.le_of_lt ht)
  have hwhole : amount * remaining ≤ amount * total := Int.mul_le_mul_of_nonneg_left hr ha
  unfold worth
  rcases Int.le_total (toWholeUnits (share amount remaining total)) amount with h | h
  · rw [Int.min_eq_left h]
    exact Int.le_trans hshare hround
  · rw [Int.min_eq_right h]
    exact hwhole

theorem worth_mul_lt {amount remaining total : Int} (ht : 0 < total) :
    worth amount remaining total * total < amount * remaining + 100 * total := by
  calc worth amount remaining total * total
      ≤ toWholeUnits (share amount remaining total) * total :=
        Int.mul_le_mul_of_nonneg_right (Int.min_le_left _ _) (Int.le_of_lt ht)
    _ < amount * remaining + 100 * total := toWholeUnits_share_mul_lt ht

/-- Something was paid for a period, and the period is not over. -/
structure Ongoing (s : Source) (t : Instant) : Prop where
  paid : 0 < s.amount
  forward : ¬s.endDate.midnight ≤ s.startDate.midnight
  unfinished : ¬s.endDate.midnight ≤ t

theorem Ongoing.earlier (h : s.Ongoing t') (hle : t ≤ t') : s.Ongoing t where
  paid := h.paid
  forward := h.forward
  unfinished hover := by
    apply h.unfinished
    rw [Instant.le_def] at hle hover ⊢
    omega

theorem Ongoing.of_amount_le (h : s.Ongoing t) (hfirst : larger.startDate = s.startDate)
    (hlast : larger.endDate = s.endDate) (hamount : s.amount ≤ larger.amount) : larger.Ongoing t where
  paid := Int.lt_of_lt_of_le h.paid hamount
  forward := by
    rw [hfirst, hlast]
    exact h.forward
  unfinished := by
    rw [hlast]
    exact h.unfinished

/-- The source is over or void, or its period is still to come, or it has begun. -/
inductive Standing (s : Source) (t : Instant) : Prop
  | ended (ongoing : ¬s.Ongoing t) (balance : s.balance t = 0)
  | early (ongoing : s.Ongoing t) (before : t < s.startDate.midnight) (balance : s.balance t = s.amount)
  | running (ongoing : s.Ongoing t) (begun : s.startDate.midnight ≤ t)
      (balance : s.balance t = worth s.amount (t.secondsUntil s.endDate.midnight)
        (s.startDate.midnight.secondsUntil s.endDate.midnight))

theorem Ongoing.before_end (h : s.Ongoing t) : t < s.endDate.midnight := by
  have hopen := h.unfinished
  rw [Instant.le_def] at hopen
  rw [Instant.lt_def]
  omega

theorem Ongoing.total_pos (h : s.Ongoing t) : 0 < s.startDate.midnight.secondsUntil s.endDate.midnight :=
  Date.secondsUntil_midnight_pos h.forward

theorem Ongoing.remaining_nonneg (h : s.Ongoing t) : 0 ≤ t.secondsUntil s.endDate.midnight :=
  Instant.secondsUntil_nonneg h.unfinished

theorem remaining_le_total (begun : s.startDate.midnight ≤ t) :
    t.secondsUntil s.endDate.midnight ≤ s.startDate.midnight.secondsUntil s.endDate.midnight :=
  Instant.secondsUntil_anti (Instant.totalNanos_midnight_le begun) s.endDate.midnight

theorem balance_of_running (hmax : s.amount ≤ maxAmount) (h : s.Ongoing t)
    (begun : s.startDate.midnight ≤ t) :
    s.balance t = worth s.amount (t.secondsUntil s.endDate.midnight)
      (s.startDate.midnight.secondsUntil s.endDate.midnight) := by
  have hvoid : ¬(s.amount ≤ 0 ∨ s.endDate.midnight ≤ t ∨ s.endDate.midnight ≤ s.startDate.midnight) := by
    rintro (hfree | hover | hback)
    · exact absurd h.paid (Int.not_lt.mpr hfree)
    · exact h.unfinished hover
    · exact h.forward hback
  have hbegun : ¬t < s.startDate.midnight := Instant.not_lt.mpr begun
  -- The share of an amount within 64 bits is within them too.
  have hlower := share_nonneg (Int.le_of_lt h.paid) h.remaining_nonneg h.total_pos
  have hupper := share_le_amount (Int.le_of_lt h.paid) h.total_pos (remaining_le_total begun)
  have hfits : FitsCents (share s.amount (t.secondsUntil s.endDate.midnight)
      (s.startDate.midnight.secondsUntil s.endDate.midnight)) := by
    unfold maxAmount at hmax
    unfold FitsCents
    omega
  simp only [balance, if_neg hvoid, if_neg hbegun, if_pos hfits, roundUpToUnit_eq (Int.le_trans hupper hmax), worth]

theorem standing (hmax : s.amount ≤ maxAmount) (t : Instant) : s.Standing t := by
  by_cases hvoid : s.amount ≤ 0 ∨ s.endDate.midnight ≤ t ∨ s.endDate.midnight ≤ s.startDate.midnight
  · apply Standing.ended
    · intro h
      rcases hvoid with hfree | hover | hback
      · exact absurd h.paid (Int.not_lt.mpr hfree)
      · exact h.unfinished hover
      · exact h.forward hback
    · simp only [balance, if_pos hvoid]
  · have h : s.Ongoing t := by
      simp only [not_or, Int.not_le] at hvoid
      exact ⟨hvoid.1, hvoid.2.2, hvoid.2.1⟩
    by_cases hbefore : t < s.startDate.midnight
    · exact .early h hbefore (by simp only [balance, if_neg hvoid, if_pos hbefore])
    · have begun := Instant.not_lt.mp hbefore
      exact .running h begun (balance_of_running hmax h begun)

theorem worth_nonneg {amount remaining total : Int} (ha : 0 ≤ amount) (hr : 0 ≤ remaining) (ht : 0 < total) :
    0 ≤ worth amount remaining total := by
  have hshare : 0 ≤ share amount remaining total := share_nonneg ha hr ht
  have hround : share amount remaining total ≤ toWholeUnits (share amount remaining total) := le_toWholeUnits
  unfold worth
  omega

/-- Nothing that has been paid for is worth less than nothing. -/
theorem balance_nonneg (hmax : s.amount ≤ maxAmount) (t : Instant) : 0 ≤ s.balance t := by
  cases standing hmax t with
  | ended _ hb => exact Int.le_of_eq hb.symm
  | early hgoes _ hb => exact hb ▸ Int.le_of_lt hgoes.paid
  | running hgoes _ hb =>
    rw [hb]
    exact worth_nonneg (Int.le_of_lt hgoes.paid) hgoes.remaining_nonneg hgoes.total_pos

theorem credit_eq_balance (hmax : s.amount ≤ maxAmount) (t : Instant) : s.credit t = s.balance t :=
  Int.max_eq_left (balance_nonneg hmax t)

theorem balance_le (hmax : s.amount ≤ maxAmount) (t : Instant) : s.balance t ≤ max s.amount 0 := by
  cases standing hmax t with
  | ended _ hb => omega
  | early _ _ hb => omega
  | running _ _ hb =>
    unfold worth at hb
    omega

theorem balance_anti (hmax : s.amount ≤ maxAmount) (h : t ≤ t') (hpast : ¬t.RunsPast t') :
    s.balance t' ≤ s.balance t := by
  cases standing hmax t' with
  | ended _ hb' =>
    rw [hb']
    exact balance_nonneg hmax t
  | early hgoes' hbefore hb' =>
    cases standing hmax t with
    | ended hover _ => exact absurd (hgoes'.earlier h) hover
    | early _ _ hb => exact Int.le_of_eq (hb'.trans hb.symm)
    | running _ begun _ =>
      rw [Instant.le_def] at h begun
      rw [Instant.lt_def] at hbefore
      omega
  | running hgoes' _ hb' =>
    cases standing hmax t with
    | ended hover _ => exact absurd (hgoes'.earlier h) hover
    | early _ _ hb =>
      rw [hb, hb']
      exact Int.min_le_right _ _
    | running _ _ hb =>
      have hopen : t' < s.endDate.midnight := hgoes'.before_end
      have hless := Instant.secondsUntil_midnight_anti h hpast hopen
      rw [hb, hb']
      exact worth_mono hgoes'.total_pos hgoes'.remaining_nonneg (Int.le_of_lt hgoes'.paid) (Int.le_refl _) hless

theorem balance_eq_amount (hmax : s.amount ≤ maxAmount) (hpaid : 0 < s.amount)
    (hforward : s.startDate < s.endDate) (h : t ≤ s.startDate.midnight) : s.balance t = s.amount := by
  rw [Date.lt_def] at hforward
  cases standing hmax t with
  | ended hover _ =>
    refine absurd ⟨hpaid, ?_, ?_⟩ hover
    · rw [Instant.le_def]
      simp only [Date.midnight]
      omega
    · rw [Instant.le_def] at h ⊢
      simp only [Date.midnight] at h ⊢
      omega
  | early _ _ hb => exact hb
  | running hgoes begun hb =>
    obtain rfl : t = s.startDate.midnight := by
      rw [Instant.le_def] at h begun
      apply Instant.ext
      · omega
      · omega
    rw [hb]
    exact worth_self hgoes.total_pos

theorem balance_mono (hlarger : larger.amount ≤ maxAmount) (hfirst : larger.startDate = s.startDate)
    (hlast : larger.endDate = s.endDate) (h : s.amount ≤ larger.amount) (t : Instant) :
    s.balance t ≤ larger.balance t := by
  cases standing (Int.le_trans h hlarger) t with
  | ended _ hb =>
    rw [hb]
    exact balance_nonneg hlarger t
  | early hgoes hbefore hb =>
    cases standing hlarger t with
    | ended hover _ => exact absurd (hgoes.of_amount_le hfirst hlast h) hover
    | early _ _ hb' => omega
    | running _ begun _ =>
      rw [hfirst] at begun
      exact absurd hbefore (Instant.not_lt.mpr begun)
  | running hgoes begun hb =>
    cases standing hlarger t with
    | ended hover _ => exact absurd (hgoes.of_amount_le hfirst hlast h) hover
    | early _ hbefore _ =>
      rw [hfirst] at hbefore
      exact absurd hbefore (Instant.not_lt.mpr begun)
    | running hgoes' _ hb' =>
      rw [hfirst, hlast] at hb'
      rw [hb, hb']
      exact worth_mono hgoes.total_pos hgoes.remaining_nonneg (Int.le_of_lt hgoes'.paid) h (Int.le_refl _)

theorem balance_whole (hmax : s.amount ≤ maxAmount) (t : Instant) :
    s.balance t < 100 ∨ 100 ∣ s.balance t ∨ s.balance t = s.amount := by
  cases standing hmax t with
  | ended _ hb => omega
  | early _ _ hb => exact .inr (.inr hb)
  | running _ _ hb =>
    have hwhole := toWholeUnits_whole (share s.amount (t.secondsUntil s.endDate.midnight)
      (s.startDate.midnight.secondsUntil s.endDate.midnight))
    unfold worth at hb
    omega

/-- While the period runs, the worth is at least the exact share of the seconds left. Less than a unit is added to
it, unless the amount is so far below nothing that the share is more than a unit below nothing too. -/
theorem balance_within_unit (hmax : s.amount ≤ maxAmount) (begun : s.startDate.midnight ≤ t)
    (unfinished : t < s.endDate.midnight) :
    let remaining := t.secondsUntil s.endDate.midnight
    let total := s.startDate.midnight.secondsUntil s.endDate.midnight
    0 ≤ remaining ∧ 0 < total ∧ s.amount * remaining ≤ s.balance t * total ∧
      (s.balance t * total < s.amount * remaining + 100 * total ↔ -100 * total < s.amount * remaining) := by
  intro remaining total
  have hopen : ¬s.endDate.midnight ≤ t := fun h => Instant.not_lt.mpr h unfinished
  have hforward : ¬s.endDate.midnight ≤ s.startDate.midnight := by
    intro hback
    rw [Instant.le_def] at begun hback hopen
    omega
  have hnonneg : 0 ≤ remaining := Instant.secondsUntil_nonneg hopen
  have htotal : 0 < total := Date.secondsUntil_midnight_pos hforward
  refine ⟨hnonneg, htotal, ?_⟩
  by_cases hpaid : 0 < s.amount
  · have hproduct : 0 ≤ s.amount * remaining := Int.mul_nonneg (Int.le_of_lt hpaid) hnonneg
    rw [balance_of_running hmax ⟨hpaid, hforward, hopen⟩ begun]
    refine ⟨le_worth_mul htotal (Int.le_of_lt hpaid) (remaining_le_total begun), ?_⟩
    constructor
    · intro _
      omega
    · intro _
      exact worth_mul_lt htotal
  · have hfree : s.amount ≤ 0 := Int.not_lt.mp hpaid
    have hproduct : s.amount * remaining ≤ 0 := Int.mul_nonpos_of_nonpos_of_nonneg hfree hnonneg
    have hb : s.balance t = 0 := by simp only [balance, hfree, true_or, if_true]
    rw [hb]
    omega

/-- A source that lasts for the first day of 2024. -/
def dayPass (amount : Int) : Source := ⟨"A", amount, ⟨19723, by decide⟩, ⟨19724, by decide⟩⟩

/-- The middle of a leap second right before noon of that day. -/
def leapBeforeNoon : Instant := ⟨1704110399, 1500000000, by decide, by decide⟩

def noon : Instant := ⟨1704110400, 0, by decide, by decide⟩

end Source

end Subscriptions
