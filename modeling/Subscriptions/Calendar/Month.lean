/-!
The proleptic Gregorian calendar, counted in months. Month `k` is the month `k % 12` (from zero) of the
year `k / 12`, and days are counted from 1970-01-01. The first day of each month and the month of each
day determine each other.
-/

namespace Subscriptions.Month

set_option autoImplicit false

/-- Leap days before the March of a year: one in four years, but in centuries only one in four. -/
def leapDays (year : Int) : Int := year / 4 - year / 100 + year / 400

/-- The first day of month `k`. Years are taken to begin in March, so that a leap day ends its year. -/
def start (k : Int) : Int :=
  let year := (k - 2) / 12
  let month := (k - 2) % 12
  365 * year + leapDays year + (153 * month + 2) / 5 - 719468

def length (k : Int) : Int := start (k + 1) - start k

/-- The month of a day. Four hundred years have 4800 months and 146097 days, so the quotient is off by at
most one month. -/
def ofDay (day : Int) : Int :=
  let k := (day + 719468) * 4800 / 146097 + 2
  if day < start k then k - 1 else if start (k + 1) ≤ day then k + 1 else k

theorem leapDays_succ (y : Int) : leapDays (y + 1) = leapDays y ∨ leapDays (y + 1) = leapDays y + 1 := by
  have h4 : y / 4 = 100 * (y / 400) + 25 * (y % 400 / 100) + y % 100 / 4 := by omega
  have h100 : y / 100 = 4 * (y / 400) + y % 400 / 100 := by omega
  simp only [leapDays]
  by_cases h : y % 4 = 3
  · by_cases hc : y % 100 = 99
    · by_cases he : y % 400 = 399 <;> omega
    · have : (y + 1) / 100 = y / 100 := by omega
      have : (y + 1) / 400 = y / 400 := by omega
      omega
  · have : (y + 1) / 4 = y / 4 := by omega
    have : (y + 1) / 100 = y / 100 := by omega
    have : (y + 1) / 400 = y / 400 := by omega
    omega

theorem length_bounds (k : Int) : 28 ≤ length k ∧ length k ≤ 31 := by
  have hl := leapDays_succ ((k - 2) / 12)
  simp only [length, start]
  by_cases hm : (k - 2) % 12 = 11
  · have hy : (k + 1 - 2) / 12 = (k - 2) / 12 + 1 := by omega
    have hm' : (k + 1 - 2) % 12 = 0 := by omega
    rw [hy, hm, hm']
    omega
  · have hy : (k + 1 - 2) / 12 = (k - 2) / 12 := by omega
    have hm' : (k + 1 - 2) % 12 = (k - 2) % 12 + 1 := by omega
    rw [hy, hm']
    omega

theorem start_lt_succ (k : Int) : start k < start (k + 1) := by
  have h := length_bounds k
  simp only [length] at h
  omega

theorem start_add_le (k : Int) (n : Nat) : start k + n ≤ start (k + n) := by
  induction n with
  | zero => simp
  | succ n ih =>
    have h := start_lt_succ (k + n)
    have e : k + ((n + 1 : Nat) : Int) = k + n + 1 := by omega
    rw [e]
    omega

theorem start_strictMono {j k : Int} (h : j < k) : start j < start k := by
  have hn := start_add_le j (k - j).toNat
  have e : j + ((k - j).toNat : Int) = k := by omega
  rw [e] at hn
  omega

theorem start_mono {j k : Int} (h : j ≤ k) : start j ≤ start k := by
  rcases Int.lt_or_eq_of_le h with h | rfl
  · exact Int.le_of_lt (start_strictMono h)
  · exact Int.le_refl _

theorem start_near (k : Int) :
    146097 * (k - 2) - 12000 ≤ 4800 * (start k + 719468) ∧
      4800 * (start k + 719468) ≤ 146097 * (k - 2) + 16000 := by
  simp only [start, leapDays]
  omega

theorem start_ofDay_le (day : Int) : start (ofDay day) ≤ day ∧ day < start (ofDay day + 1) := by
  simp only [ofDay]
  generalize hk : (day + 719468) * 4800 / 146097 + 2 = k
  have hp := start_near (k - 1)
  have hs := start_near (k + 2)
  split
  · have e : k - 1 + 1 = k := by omega
    rw [e]
    omega
  · split
    · have e : k + 1 + 1 = k + 2 := by omega
      rw [e]
      omega
    · omega

theorem ofDay_eq_iff {day k : Int} : ofDay day = k ↔ start k ≤ day ∧ day < start (k + 1) := by
  have h := start_ofDay_le day
  constructor
  · rintro rfl
    exact h
  · intro hk
    rcases Int.lt_trichotomy (ofDay day) k with hlt | heq | hgt
    · have := start_mono (show ofDay day + 1 ≤ k by omega)
      omega
    · exact heq
    · have := start_mono (show k + 1 ≤ ofDay day by omega)
      omega

theorem ofDay_mono {d e : Int} (h : d ≤ e) : ofDay d ≤ ofDay e := by
  have hd := start_ofDay_le d
  have he := start_ofDay_le e
  apply Int.not_lt.mp
  intro hlt
  have := start_mono (show ofDay e + 1 ≤ ofDay d by omega)
  omega

end Subscriptions.Month
