import Subscriptions.Cents
import Subscriptions.Order

/-!
What is left of a purchase. A confirmed order whose period has not run out is worth the part of its
amount that falls to the time still to come. In checked arithmetic every operation on cents is carried
out one after the other at the width that it has.
-/

namespace Subscriptions

set_option autoImplicit false

structure Source where
  orderId : String
  amount : Int
  startDate : Date
  endDate : Date
deriving DecidableEq

namespace Source

def ofOrder? (o : Order) : Option Source :=
  match o.confirmed, o.startDate, o.endDate with
  | some _, some first, some last => some ⟨o.id, o.amount, first, last⟩
  | _, _, _ => none

/-- Some of the paid period lies after the instant. -/
def isActive (s : Source) (asOf : Instant) : Bool := decide (asOf < s.endDate.midnight)

/-- Up to the next whole unit of a hundred cents; less than one unit stays as it is. -/
def roundUpToUnit (cents : Int) : Int :=
  if 100 ≤ cents then (wrapCents (cents + 99)).tdiv 100 * 100 else cents

def checkedRoundUpToUnit (cents : Int) : Option Int :=
  if 100 ≤ cents then do
    let sum ← Width.bits64.add cents 100
    let less ← Width.bits64.sub sum 1
    let units ← Width.bits64.div less 100
    Width.bits64.mul units 100
  else some cents

/-- The share of the amount for the seconds still to come, with a part of a cent counted as a whole one. In 128 bits
there is room for it, whatever the amount. -/
def share (amount remaining total : Int) : Int := (amount * remaining + total - 1) / total

/-- The worth of a source at an instant: all of the amount before the period starts, nothing once it is
over, and in between the share of the time left, rounded up and never above the amount. -/
def balance (s : Source) (asOf : Instant) : Int :=
  let first := s.startDate.midnight
  let last := s.endDate.midnight
  if s.amount ≤ 0 ∨ last ≤ asOf ∨ last ≤ first then 0
  else if asOf < first then s.amount
  else
    let raw := share s.amount (asOf.secondsUntil last) (first.secondsUntil last)
    min (roundUpToUnit (if FitsCents raw then raw else s.amount)) s.amount

/-- What the time left is worth. This halts where the share does not fit into 64 bits, so there is no need for
another value in its place. -/
def checkedWorth (amount remaining total : Int) : Option Int := do
  let total ← Width.bits64.check total
  let remaining ← Width.bits64.check remaining
  let raw ← Width.bits128.share amount remaining total
  let cents ← Width.bits64.check raw
  let rounded ← checkedRoundUpToUnit cents
  return min rounded amount

def checkedBalance (s : Source) (asOf : Instant) : Option Int :=
  let first := s.startDate.midnight
  let last := s.endDate.midnight
  if s.amount ≤ 0 ∨ last ≤ asOf ∨ last ≤ first then some 0
  else if asOf < first then some s.amount
  else checkedWorth s.amount (asOf.secondsUntil last) (first.secondsUntil last)

end Source

end Subscriptions
