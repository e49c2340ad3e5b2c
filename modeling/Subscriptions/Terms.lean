import Subscriptions.Calendar.Date
import Subscriptions.Vocabulary

/-!
The terms in which memberships and orders are described: tiers, billing cycles, ways of paying, what a
gateway says of a subscription, and the purposes of orders and of copies of memberships.
-/

namespace Subscriptions

set_option autoImplicit false

inductive Tier
  | none
  | standard
  | premium
deriving DecidableEq

inductive Cycle
  | none
  | month
  | year
deriving DecidableEq

inductive PaymentMethod
  | none
  | alipay
  | wechat
  | stripe
  | apple
  | b2b
deriving DecidableEq

/-- What a gateway with subscriptions of its own says about one of them. -/
inductive Status
  | none
  | active
  | canceled
  | incomplete
  | incompleteExpired
  | pastDue
  | trialing
  | unpaid
deriving DecidableEq

inductive OrderKind
  | create
  | renew
  | upgrade
deriving DecidableEq

inductive SnapshotReason
  | create
  | renew
  | upgrade
  | webhook
deriving DecidableEq

def Tier.name : Tier → String
  | .none => "none"
  | .standard => "standard"
  | .premium => "premium"

def Cycle.name : Cycle → String
  | .none => "none"
  | .month => "month"
  | .year => "year"

def PaymentMethod.name : PaymentMethod → String
  | .none => "none"
  | .alipay => "alipay"
  | .wechat => "wechat"
  | .stripe => "stripe"
  | .apple => "apple"
  | .b2b => "b2b"

def Status.name : Status → String
  | .none => "none"
  | .active => "active"
  | .canceled => "canceled"
  | .incomplete => "incomplete"
  | .incompleteExpired => "incomplete_expired"
  | .pastDue => "past_due"
  | .trialing => "trialing"
  | .unpaid => "unpaid"

def OrderKind.name : OrderKind → String
  | .create => "create"
  | .renew => "renew"
  | .upgrade => "upgrade"

def SnapshotReason.name : SnapshotReason → String
  | .create => "create"
  | .renew => "renew"
  | .upgrade => "upgrade"
  | .webhook => "webhook"

instance : Vocabulary Tier where
  all := [.none, .standard, .premium]
  name := Tier.name
  noun := "tier"
  blank := some .none

instance : Vocabulary Cycle where
  all := [.none, .month, .year]
  name := Cycle.name
  noun := "cycle"
  blank := some .none

instance : Vocabulary PaymentMethod where
  all := [.none, .alipay, .wechat, .stripe, .apple, .b2b]
  name := PaymentMethod.name
  noun := "payment method"
  blank := some .none

instance : Vocabulary Status where
  all := [.none, .active, .canceled, .incomplete, .incompleteExpired, .pastDue, .trialing, .unpaid]
  name := Status.name
  noun := "subscription status"
  blank := some .none

instance : Vocabulary OrderKind where
  all := [.create, .renew, .upgrade]
  name := OrderKind.name
  noun := "order kind"
  blank := none

instance : Vocabulary SnapshotReason where
  all := [.create, .renew, .upgrade, .webhook]
  name := SnapshotReason.name
  noun := "snapshot reason"
  blank := none

/-- The one way up is from standard to premium. -/
def Tier.canUpgradeTo : Tier → Tier → Bool
  | .standard, .premium => true
  | _, _ => false

/-- The days that a cycle counts for when a part of it is given a price. -/
def Cycle.nominalDays : Cycle → Option Int
  | .none => Option.none
  | .month => some 30
  | .year => some 365

/-- The date `count` cycles later. The number of months in the years must stay below `2 ^ 32`. -/
def Cycle.addTo (cycle : Cycle) (date : Date) (count : Nat) : Option Date :=
  match cycle with
  | .none => Option.none
  | .month => date.addMonths count
  | .year => if count * 12 < 4294967296 then date.addMonths (count * 12) else Option.none

/-- Gateways that keep subscriptions of their own and renew them by themselves. -/
def PaymentMethod.isGatewayManaged : PaymentMethod → Bool
  | .stripe | .apple => true
  | .none | .alipay | .wechat | .b2b => false

/-- Gateways that settle a single order. -/
def PaymentMethod.isOneOff : PaymentMethod → Bool
  | .alipay | .wechat => true
  | .none | .stripe | .apple | .b2b => false

/-- The gateway has given the subscription up, so a new one may begin. -/
def Status.permitsNewSubscription : Status → Bool
  | .canceled | .incompleteExpired | .pastDue | .unpaid => true
  | .none | .active | .incomplete | .trialing => false

/-- A copy taken when an order is paid names the purpose of that order. -/
def OrderKind.snapshotReason : OrderKind → SnapshotReason
  | .create => .create
  | .renew => .renew
  | .upgrade => .upgrade

end Subscriptions
