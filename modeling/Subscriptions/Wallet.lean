import Subscriptions.Plan
import Subscriptions.Proration

/-!
Wallets: the worth of all of a reader's sources at one instant, what it buys of a plan, and the draws
that record which sources an upgrade was paid from.
-/

namespace Subscriptions

set_option autoImplicit false

structure Valued where
  source : Source
  balance : Int
deriving DecidableEq

/-- The record that an upgrade draws on a source. It is written with the upgrade and marked as consumed
when the upgrade is confirmed. -/
structure Draw where
  sourceOrderId : String
  balance : Int
  created : Instant
  consumed : Option Instant
  upgradeOrderId : String
deriving DecidableEq

def Draw.isConsumed (d : Draw) : Bool := d.consumed.isSome

/-- A time that has been bought: cycles, and days on top of them. -/
structure Span where
  cycleCount : Nat
  extraDays : Nat
deriving DecidableEq

/-- So many cycles and days, and the extra days on top, if all of these counts fit. -/
def Span.ofCounts? (cycles days : Int) (extraDays : Nat) : Option Span := do
  let cycleCount ← count? cycles
  let restDays ← count? days
  let extra ← count? (restDays + extraDays : Nat)
  return ⟨cycleCount, extra⟩

structure Wallet where
  balance : Int
  sources : List Valued
  asOf : Instant
deriving DecidableEq

namespace Wallet

def empty (asOf : Instant) : Wallet := ⟨0, [], asOf⟩

def value (sources : List Source) (asOf : Instant) : List Valued :=
  (sources.map fun s => (⟨s, s.balance asOf⟩ : Valued)).filter fun v => decide (0 < v.balance)

/-- The wallet of the given sources. Sources worth nothing are left out of it. -/
def ofSources (sources : List Source) (asOf : Instant) : Wallet :=
  ⟨sumCents ((value sources asOf).map (·.balance)), value sources asOf, asOf⟩

def checkedValue (sources : List Source) (asOf : Instant) : Option (List Valued) := do
  let valued ← sources.mapM fun s => (s.checkedBalance asOf).map (Valued.mk s)
  return valued.filter fun v => decide (0 < v.balance)

def checkedOfSources (sources : List Source) (asOf : Instant) : Option Wallet := do
  let valued ← checkedValue sources asOf
  let balance ← Width.bits64.total (valued.map (·.balance))
  return ⟨balance, valued, asOf⟩

def covers (w : Wallet) (plan : Plan) : Bool := decide (plan.price ≤ w.balance)

/-- The time that a balance buys if it covers the plan: as many cycles as it pays for, and the rest as
days at the plan's daily rate, a part of a day counted as a whole one. -/
def convert? (w : Wallet) (plan : Plan) (extraDays : Nat) : Option Span :=
  if plan.price ≤ 0 ∨ w.balance < plan.price then none
  else
    match plan.cycle.nominalDays with
    | none => none
    | some daysPerCycle =>
      let cycles := w.balance / plan.price
      let leftover := w.balance % plan.price
      let days := (wrapCents (leftover * daysPerCycle + plan.price - 1)).tdiv plan.price
      Span.ofCounts? cycles days extraDays

/-- What the balance buys, if it buys anything: a count that does not fit is no reason to halt. -/
def checkedConvert? (w : Wallet) (plan : Plan) (extraDays : Nat) : Option (Option Span) :=
  if plan.price ≤ 0 ∨ w.balance < plan.price then some none
  else
    match plan.cycle.nominalDays with
    | none => some none
    | some daysPerCycle => do
      let cycles ← Width.bits64.div w.balance plan.price
      let leftover ← Width.bits64.rem w.balance plan.price
      let days ← Width.bits64.share leftover daysPerCycle plan.price
      return Span.ofCounts? cycles days extraDays

/-- The draws of an upgrade on this wallet, none of them consumed yet. -/
def draws (w : Wallet) (upgradeOrderId : String) : List Draw :=
  w.sources.map fun v => ⟨v.source.orderId, v.balance, w.asOf, none, upgradeOrderId⟩

end Wallet

end Subscriptions
