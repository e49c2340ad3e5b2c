import Subscriptions.Calendar.Date

/-!
Dates by their month and the day of the month. The two determine the date, dates of one month compare as their
days do, and the first and the last month that have dates have all of theirs.
-/

namespace Subscriptions.Date

set_option autoImplicit false

variable {d e : Date} {k : Int} {n : Nat}

theorem month_eq_iff : d.month = k ↔ Month.start k ≤ d.day ∧ d.day < Month.start (k + 1) :=
  Month.ofDay_eq_iff

theorem day_eq (d : Date) : d.day = Month.start d.month + d.dayOfMonth - 1 := by
  have hd := month_eq_iff.mp (rfl : d.month = d.month)
  simp only [dayOfMonth]
  omega

theorem one_le_dayOfMonth (d : Date) : 1 ≤ d.dayOfMonth := Nat.le_add_left 1 _

theorem dayOfMonth_le (d : Date) : (d.dayOfMonth : Int) ≤ Month.length d.month := by
  have hd := month_eq_iff.mp (rfl : d.month = d.month)
  have hday := d.day_eq
  simp only [Month.length]
  omega

theorem eq_of_month_eq (hmonth : d.month = e.month) (hday : d.dayOfMonth = e.dayOfMonth) : d = e := by
  apply Date.ext
  rw [d.day_eq, e.day_eq, hmonth, hday]

theorem le_iff_of_month_eq (hmonth : d.month = e.month) : d ≤ e ↔ d.dayOfMonth ≤ e.dayOfMonth := by
  rw [le_def, d.day_eq, e.day_eq, hmonth]
  omega

/-- The months from January of the first year to December of the last. -/
theorem month_bounds (d : Date) : -3145716 ≤ d.month ∧ d.month ≤ 3145715 := by
  have hrange := d.inRange
  have hfirst : Month.ofDay (-96465292) = -3145716 := by decide
  have hlast : Month.ofDay 95026236 = 3145715 := by decide
  constructor
  · rw [← hfirst]
    exact Month.ofDay_mono hrange.1
  · rw [← hlast]
    exact Month.ofDay_mono hrange.2

theorem exists_of_month (hk : -3145716 ≤ k ∧ k ≤ 3145715) (hn : 1 ≤ n) (hlength : (n : Int) ≤ Month.length k) :
    ∃ d : Date, d.month = k ∧ d.dayOfMonth = n := by
  have hfirst : Month.start (-3145716) ≤ Month.start k := Month.start_mono hk.1
  have hlast : Month.start (k + 1) ≤ Month.start 3145716 := Month.start_mono (by omega)
  have hbegin : Month.start (-3145716) = -96465292 := by decide
  have hend : Month.start 3145716 = 95026237 := by decide
  have hnext : Month.start (k + 1) = Month.start k + Month.length k := by
    simp only [Month.length]
    omega
  let d : Date := ⟨Month.start k + n - 1, by omega⟩
  have hmonth : d.month = k := month_eq_iff.mpr (by simp only [d]; omega)
  refine ⟨d, hmonth, ?_⟩
  have hday := d.day_eq
  rw [hmonth] at hday
  simp only [d] at hday ⊢
  omega

/-- A date is read off its year, its month and the day of the month. -/
@[simp] theorem ofCivil?_self (d : Date) : ofCivil? d.year d.monthOfYear d.dayOfMonth = some d := by
  have hmonth : 12 * d.year + d.monthOfYear - 1 = d.month := by
    simp only [year, monthOfYear]
    omega
  have hlength := d.dayOfMonth_le
  have hone := d.one_le_dayOfMonth
  have hnumber : 1 ≤ d.monthOfYear ∧ d.monthOfYear ≤ 12 := by
    simp only [monthOfYear]
    omega
  simp only [ofCivil?, hmonth]
  rw [if_pos ⟨hnumber.1, hnumber.2, hone, hlength⟩, ← d.day_eq, ofDay?_day]

end Subscriptions.Date
