import Subscriptions.Order

/-!
Memberships: what a reader is entitled to and until when, and the copies that are kept of a membership
before an order replaces it.
-/

namespace Subscriptions

set_option autoImplicit false

structure Membership where
  ids : Reader
  id : Option String
  tier : Tier
  cycle : Cycle
  expireDate : Option Date
  paymentMethod : PaymentMethod
  autoRenew : Bool
  status : Status
  foreignSubId : Option String
deriving DecidableEq

namespace Membership

def zero (ids : Reader) : Membership where
  ids := ids
  id := none
  tier := .none
  cycle := .none
  expireDate := none
  paymentMethod := .none
  autoRenew := false
  status := .none
  foreignSubId := none

def isZero (m : Membership) : Bool := m.tier == .none

/-- The last day has passed and nothing renews the membership by itself. Without a last day only the
renewal counts. -/
def isExpired (m : Membership) (today : Date) : Bool :=
  match m.expireDate with
  | some last => decide (last < today) && !m.autoRenew
  | none => !m.autoRenew

def isValid (m : Membership) (today : Date) : Bool := !m.isZero && !m.isExpired today

theorem isValid_eq (m : Membership) (today : Date) : m.isValid today = !(m.isZero || m.isExpired today) := by
  rw [isValid, Bool.not_or]

theorem isZero_or_isExpired (m : Membership) (today : Date) : (m.isZero || m.isExpired today) = !m.isValid today := by
  rw [isValid_eq, Bool.not_not]

/-- The last day lies no more than the given number of years ahead. The months of the years are cut off
at `2 ^ 32 - 1`, and a limit beyond all dates is no limit. -/
def withinRenewalWindow (m : Membership) (today : Date) (years : Nat) : Bool :=
  match m.expireDate with
  | none => true
  | some last =>
    match today.addMonths (min (years * 12) 4294967295) with
    | some limit => decide (last ≤ limit)
    | none => true

/-- Valid, and renewed by a gateway on a schedule of its own. -/
def isGatewayAutoRenewing (m : Membership) (today : Date) : Bool :=
  m.isValid today && m.autoRenew && m.paymentMethod.isGatewayManaged

/-- The membership that a confirmed order brings about. The ids already known are kept and `freshId` is
used only for a first purchase; nothing of a gateway's own subscription is left. -/
def ofOrder (order : Order) (previous : Membership) (freshId : String) : Membership where
  ids := previous.ids.merge order.reader
  id := previous.id.or (some freshId)
  tier := order.tier
  cycle := order.cycle
  expireDate := order.endDate
  paymentMethod := order.paymentMethod
  autoRenew := false
  status := .none
  foreignSubId := none

end Membership

/-- A copy of a membership, taken right before it was replaced. -/
structure Snapshot where
  id : String
  reason : SnapshotReason
  created : Instant
  orderId : Option String
  membership : Membership
deriving DecidableEq

namespace Snapshot

def take (m : Membership) (id : String) (reason : SnapshotReason) (created : Instant) : Snapshot :=
  ⟨id, reason, created, none, m⟩

def withOrder (s : Snapshot) (orderId : String) : Snapshot := { s with orderId := some orderId }

/-- The copy of no membership is not worth keeping. -/
def isEmpty (s : Snapshot) : Bool := s.membership.isZero

end Snapshot

end Subscriptions
