import Subscriptions.Calendar.Instant
import Subscriptions.Reader
import Subscriptions.Terms

/-!
Orders. An order fixes what a reader buys and for how much; it is confirmed once, when its payment has
been verified, and only then has a period.
-/

namespace Subscriptions

set_option autoImplicit false

structure Order where
  id : String
  reader : Reader
  planId : String
  tier : Tier
  cycle : Cycle
  /-- The list price of the plan when the order was made, in cents. -/
  price : Int
  /-- What the reader is charged, in cents. -/
  amount : Int
  currency : String
  cycleCount : Nat
  extraDays : Nat
  kind : OrderKind
  paymentMethod : PaymentMethod
  created : Instant
  confirmed : Option Instant
  startDate : Option Date
  endDate : Option Date
  snapshotId : Option String
deriving DecidableEq

namespace Order

def isConfirmed (o : Order) : Bool := o.confirmed.isSome

def isFree (o : Order) : Bool := o.amount == 0

/-- The end of the period if it starts on the given date: the cycles first, then the extra days. -/
def periodEnd (o : Order) (start : Date) : Option Date :=
  (o.cycle.addTo start o.cycleCount).bind fun d => d.addDays o.extraDays

/-- The order once confirmed; a confirmed order is not confirmed again. -/
def confirm? (o : Order) (moment : Instant) (start finish : Date) (snapshotId : Option String) : Option Order :=
  if o.isConfirmed then none
  else some { o with
    confirmed := some moment, startDate := some start, endDate := some finish, snapshotId := snapshotId }

end Order

end Subscriptions
