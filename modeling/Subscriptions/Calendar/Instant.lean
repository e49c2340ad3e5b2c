import Subscriptions.Calendar.Date

/-!
Instants of universal time, counted in seconds and nanoseconds from the start of 1970. A leap second
repeats the last second of a minute with a fraction that runs on past one whole second, so instants
compare by their seconds first and then by their fractions.
-/

namespace Subscriptions

set_option autoImplicit false

/-- An instant on one of the days that have a date. -/
@[ext] structure Instant where
  seconds : Int
  nanos : Nat
  inRange : -96465292 * 86400 ≤ seconds ∧ seconds < 95026237 * 86400
  nanos_lt : nanos < 1000000000 ∨ (nanos < 2000000000 ∧ seconds % 60 = 59)
deriving DecidableEq

namespace Instant

instance : LT Instant := ⟨fun a b => a.seconds < b.seconds ∨ (a.seconds = b.seconds ∧ a.nanos < b.nanos)⟩
instance : LE Instant := ⟨fun a b => a.seconds < b.seconds ∨ (a.seconds = b.seconds ∧ a.nanos ≤ b.nanos)⟩

theorem lt_def {a b : Instant} :
    a < b ↔ a.seconds < b.seconds ∨ (a.seconds = b.seconds ∧ a.nanos < b.nanos) := Iff.rfl
theorem le_def {a b : Instant} :
    a ≤ b ↔ a.seconds < b.seconds ∨ (a.seconds = b.seconds ∧ a.nanos ≤ b.nanos) := Iff.rfl

instance (a b : Instant) : Decidable (a < b) :=
  inferInstanceAs (Decidable (a.seconds < b.seconds ∨ (a.seconds = b.seconds ∧ a.nanos < b.nanos)))
instance (a b : Instant) : Decidable (a ≤ b) :=
  inferInstanceAs (Decidable (a.seconds < b.seconds ∨ (a.seconds = b.seconds ∧ a.nanos ≤ b.nanos)))

/-- The instant of a count of seconds and a fraction, if it lies on a day that has a date. -/
def ofParts? (seconds : Int) (nanos : Nat) : Option Instant :=
  if h : (-96465292 * 86400 ≤ seconds ∧ seconds < 95026237 * 86400) ∧
      (nanos < 1000000000 ∨ (nanos < 2000000000 ∧ seconds % 60 = 59)) then
    some ⟨seconds, nanos, h.1, h.2⟩
  else none

def date (t : Instant) : Date :=
  ⟨t.seconds / 86400, by have := t.inRange; omega⟩

def totalNanos (t : Instant) : Int := t.seconds * 1000000000 + t.nanos

def secondsUntil (a b : Instant) : Int := Int.tdiv (b.totalNanos - a.totalNanos) 1000000000

theorem date_mono {a b : Instant} (h : a ≤ b) : a.date ≤ b.date := by
  rw [Date.le_def]
  rcases le_def.mp h with h | h <;> simp only [date] <;> omega

end Instant

def Date.midnight (d : Date) : Instant :=
  ⟨d.day * 86400, 0, by have := d.inRange; omega, by omega⟩

@[simp] theorem Date.date_midnight (d : Date) : d.midnight.date = d := by
  ext
  simp only [Instant.date, Date.midnight]
  omega

end Subscriptions
