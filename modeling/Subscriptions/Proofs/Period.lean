import Subscriptions.Order

/-!
Periods run forward: counting months or days on from a date leads to a later one, so an order for at least
one cycle ends after it starts.
-/

namespace Subscriptions

set_option autoImplicit false

namespace Date

variable {d e : Date} {n : Nat}

/-- The next month begins after the date, and the sum lies in that month or a later one. -/
theorem lt_of_addMonths (hn : 0 < n) (h : d.addMonths n = some e) : d < e := by
  simp only [addMonths] at h
  split at h
  · have he := ofDay?_eq_some_iff.mp h
    have hd := Month.start_ofDay_le d.day
    have hnext : Month.start (d.month + 1) ≤ Month.start (d.month + n) :=
      Month.start_mono (by omega)
    have hlength := Month.length_bounds (d.month + n)
    have hm : d.month = Month.ofDay d.day := rfl
    rw [lt_def, he]
    rw [hm] at hnext hlength ⊢
    omega
  · cases h

theorem addMonths_eq_some_iff :
    d.addMonths n = some e ↔ n < 2147483648 ∧ e.day = Month.start (d.month + n) +
      min (d.day - Month.start d.month) (Month.length (d.month + n) - 1) := by
  simp only [addMonths]
  by_cases hn : n < 2147483648
  · rw [if_pos hn, ofDay?_eq_some_iff]
    exact ⟨fun h => ⟨hn, h⟩, fun h => h.2⟩
  · rw [if_neg hn]
    exact ⟨fun h => (by cases h), fun h => absurd h.1 hn⟩

/-- Whatever is added, the sum is no earlier than the date. -/
theorem day_le_sum (d : Date) (n : Nat) :
    d.day ≤ Month.start (d.month + n) + min (d.day - Month.start d.month) (Month.length (d.month + n) - 1) := by
  have hd : Month.start d.month ≤ d.day ∧ d.day < Month.start (d.month + 1) := Month.start_ofDay_le d.day
  rcases Nat.eq_zero_or_pos n with rfl | hn
  · have hzero : d.month + ((0 : Nat) : Int) = d.month := Int.add_zero _
    rw [hzero]
    simp only [Month.length]
    omega
  · have hlength := Month.length_bounds (d.month + n)
    have hnext : Month.start (d.month + 1) ≤ Month.start (d.month + n) := Month.start_mono (by omega)
    omega

theorem le_of_addMonths (h : d.addMonths n = some e) : d ≤ e := by
  rw [le_def, (addMonths_eq_some_iff.mp h).2]
  exact d.day_le_sum n

/-- A sum exists if some date is no earlier. -/
theorem exists_addMonths (hn : n < 2147483648)
    (h : Month.start (d.month + n) + min (d.day - Month.start d.month) (Month.length (d.month + n) - 1) ≤ e.day) :
    ∃ d', d.addMonths n = some d' ∧ d' ≤ e := by
  have hlower := d.day_le_sum n
  generalize hsum : Month.start (d.month + n) +
    min (d.day - Month.start d.month) (Month.length (d.month + n) - 1) = sum at h hlower
  have hrange : -96465292 ≤ sum ∧ sum ≤ 95026236 := by
    have := d.inRange
    have := e.inRange
    omega
  exact ⟨⟨sum, hrange⟩, addMonths_eq_some_iff.mpr ⟨hn, hsum.symm⟩, h⟩

/-- Counted on from an earlier date, the same number of months comes to no later date. -/
theorem exists_addMonths_le {e' : Date} (hle : d ≤ e) (h : e.addMonths n = some e') :
    ∃ d', d.addMonths n = some d' ∧ d' ≤ e' := by
  obtain ⟨hn, he'⟩ := addMonths_eq_some_iff.mp h
  have hd : Month.start d.month ≤ d.day ∧ d.day < Month.start (d.month + 1) := Month.start_ofDay_le d.day
  have he : Month.start e.month ≤ e.day ∧ e.day < Month.start (e.month + 1) := Month.start_ofDay_le e.day
  have hmonths : d.month ≤ e.month := Month.ofDay_mono hle
  have hlength := Month.length_bounds (d.month + n)
  have hlength' := Month.length_bounds (e.month + n)
  rw [le_def] at hle
  apply exists_addMonths hn
  rcases Int.lt_or_eq_of_le hmonths with hlt | heq
  · -- The sum of the earlier date lies in an earlier month.
    have hnext : Month.start (d.month + n + 1) ≤ Month.start (e.month + n) := Month.start_mono (by omega)
    have hlast : Month.length (d.month + n) =
      Month.start (d.month + n + 1) - Month.start (d.month + n) := rfl
    omega
  · rw [heq] at hd ⊢
    omega

/-- Fewer months, counted on from the same date, come to no later date. -/
theorem exists_addMonths_of_le {m : Nat} (hle : m ≤ n) (h : d.addMonths n = some e) :
    ∃ d', d.addMonths m = some d' ∧ d' ≤ e := by
  obtain ⟨hn, he⟩ := addMonths_eq_some_iff.mp h
  have hd : Month.start d.month ≤ d.day ∧ d.day < Month.start (d.month + 1) := Month.start_ofDay_le d.day
  have hlength := Month.length_bounds (d.month + n)
  apply exists_addMonths (Nat.lt_of_le_of_lt hle hn)
  rcases Nat.lt_or_eq_of_le hle with hlt | rfl
  · -- With fewer months the sum lies in an earlier month.
    have hnext : Month.start (d.month + m + 1) ≤ Month.start (d.month + n) := Month.start_mono (by omega)
    have hlast : Month.length (d.month + m) =
      Month.start (d.month + m + 1) - Month.start (d.month + m) := rfl
    omega
  · exact Int.le_of_eq he.symm

theorem le_of_addDays (h : d.addDays n = some e) : d ≤ e := by
  have he := ofDay?_eq_some_iff.mp h
  rw [le_def, he]
  omega

end Date

theorem Cycle.lt_of_addTo {c : Cycle} {d e : Date} {n : Nat} (hn : 0 < n) (h : c.addTo d n = some e) :
    d < e := by
  cases c with
  | none => cases h
  | month => exact Date.lt_of_addMonths hn h
  | year =>
    simp only [addTo] at h
    split at h
    · exact Date.lt_of_addMonths (by omega) h
    · cases h

theorem Cycle.le_of_addTo {c : Cycle} {d e : Date} {n : Nat} (h : c.addTo d n = some e) : d ≤ e := by
  cases c with
  | none => cases h
  | month => exact Date.le_of_addMonths h
  | year =>
    simp only [addTo] at h
    split at h
    · exact Date.le_of_addMonths h
    · cases h

/-- No period ends before it starts, not even one of no cycles. -/
theorem Order.le_of_periodEnd {o : Order} {start finish : Date} (h : o.periodEnd start = some finish) :
    start ≤ finish := by
  obtain ⟨d, hd, hfinish⟩ := Option.bind_eq_some_iff.mp h
  exact Int.le_trans (Cycle.le_of_addTo hd) (Date.le_of_addDays hfinish)

theorem Order.lt_of_periodEnd {o : Order} {start finish : Date} (hn : 1 ≤ o.cycleCount)
    (h : o.periodEnd start = some finish) : start < finish := by
  obtain ⟨d, hd, hfinish⟩ := Option.bind_eq_some_iff.mp h
  have hcycles := Cycle.lt_of_addTo hn hd
  have hdays := Date.le_of_addDays hfinish
  rw [Date.lt_def] at hcycles ⊢
  rw [Date.le_def] at hdays
  omega

end Subscriptions
