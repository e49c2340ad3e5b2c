import Subscriptions.Calendar.Month

/-!
Calendar dates. A date is a count of days from 1970-01-01 within the years -262143 to 262142, so dates
compare as their counts do; year, month and day of the month are read off it.
-/

namespace Subscriptions

set_option autoImplicit false

/-- A day from -262143-01-01 to 262142-12-31. -/
@[ext] structure Date where
  day : Int
  inRange : -96465292 ≤ day ∧ day ≤ 95026236
deriving DecidableEq

namespace Date

instance : LE Date := ⟨fun a b => a.day ≤ b.day⟩
instance : LT Date := ⟨fun a b => a.day < b.day⟩

theorem le_def {a b : Date} : a ≤ b ↔ a.day ≤ b.day := Iff.rfl
theorem lt_def {a b : Date} : a < b ↔ a.day < b.day := Iff.rfl

instance (a b : Date) : Decidable (a ≤ b) := inferInstanceAs (Decidable (a.day ≤ b.day))
instance (a b : Date) : Decidable (a < b) := inferInstanceAs (Decidable (a.day < b.day))

def ofDay? (day : Int) : Option Date :=
  if h : -96465292 ≤ day ∧ day ≤ 95026236 then some ⟨day, h⟩ else none

theorem ofDay?_eq_some_iff {n : Int} {d : Date} : ofDay? n = some d ↔ d.day = n := by
  simp only [ofDay?]
  constructor
  · intro h
    split at h
    · injection h with h
      rw [← h]
    · cases h
  · rintro rfl
    rw [dif_pos d.inRange]

@[simp] theorem ofDay?_day (d : Date) : ofDay? d.day = some d := ofDay?_eq_some_iff.mpr rfl

def month (d : Date) : Int := Month.ofDay d.day

def year (d : Date) : Int := d.month / 12

def monthOfYear (d : Date) : Nat := (d.month % 12).toNat + 1

def dayOfMonth (d : Date) : Nat := (d.day - Month.start d.month).toNat + 1

def ofCivil? (year : Int) (month day : Nat) : Option Date :=
  let k := 12 * year + month - 1
  if 1 ≤ month ∧ month ≤ 12 ∧ 1 ≤ day ∧ (day : Int) ≤ Month.length k then
    ofDay? (Month.start k + day - 1)
  else none

def addDays (d : Date) (n : Nat) : Option Date := ofDay? (d.day + n)

/-- The same day of the month, `n` months on, or the last day of that month if it is shorter.
No more than `2 ^ 31 - 1` months can be added. -/
def addMonths (d : Date) (n : Nat) : Option Date :=
  if n < 2147483648 then
    let k := d.month + n
    ofDay? (Month.start k + min (d.day - Month.start d.month) (Month.length k - 1))
  else none

end Date

end Subscriptions
