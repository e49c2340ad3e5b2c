import Subscriptions.Failure

/-!
Confirmations: a verified payment turns an order and a membership into a confirmed order and a new
membership, or is rejected. Nothing here reads or writes a store.
-/

namespace Subscriptions

set_option autoImplicit false

structure Payment where
  orderId : String
  amountCents : Int
  confirmed : Instant
deriving DecidableEq

def Payment.free (orderId : String) (confirmed : Instant) : Payment := ⟨orderId, 0, confirmed⟩

inductive RejectionKind
  | alreadyConfirmed
  | amountMismatch
  | duplicateUpgrade
  | orderNotFound
  | orderMismatch
  | invalidCycle
  | storage
deriving DecidableEq

def RejectionKind.name : RejectionKind → String
  | .alreadyConfirmed => "already_confirmed"
  | .amountMismatch => "amount_mismatch"
  | .duplicateUpgrade => "duplicate_upgrade"
  | .orderNotFound => "order_not_found"
  | .orderMismatch => "order_mismatch"
  | .invalidCycle => "invalid_cycle"
  | .storage => "storage"

instance : Vocabulary RejectionKind where
  all := [.alreadyConfirmed, .amountMismatch, .duplicateUpgrade, .orderNotFound, .orderMismatch,
    .invalidCycle, .storage]
  name := RejectionKind.name
  noun := "rejection"
  blank := none

inductive Rejection
  | alreadyConfirmed (orderId : String)
  | amountMismatch (orderId : String) (expected actual : Int)
  | duplicateUpgrade (orderId : String)
  | orderNotFound (orderId : String)
  | orderMismatch (expected actual : String)
  | invalidCycle (orderId : String)
  | storage (reason : String)
deriving DecidableEq

namespace Rejection

def kind : Rejection → RejectionKind
  | .alreadyConfirmed _ => .alreadyConfirmed
  | .amountMismatch _ _ _ => .amountMismatch
  | .duplicateUpgrade _ => .duplicateUpgrade
  | .orderNotFound _ => .orderNotFound
  | .orderMismatch _ _ => .orderMismatch
  | .invalidCycle _ => .invalidCycle
  | .storage _ => .storage

def message : Rejection → String
  | .alreadyConfirmed orderId => s!"Order {orderId} is already confirmed"
  | .amountMismatch orderId expected actual =>
    s!"Order {orderId} charges {expected} cents but {actual} cents were paid"
  | .duplicateUpgrade orderId => s!"Order {orderId} upgrades a membership that is already premium"
  | .orderNotFound orderId => s!"Order {orderId} not found"
  | .orderMismatch expected actual => s!"Payment for order {actual} applied to order {expected}"
  | .invalidCycle orderId => s!"Order {orderId} has no computable end date"
  | .storage reason => reason

/-- The gateway should deliver the payment again. -/
def retry : Rejection → Bool
  | .invalidCycle _ | .storage _ => true
  | _ => false

def display (r : Rejection) : String := s!"{r.kind.name}: {r.message}"

/-- A failure of the service on the way to a confirmation is reported as one of its store. -/
def ofFailure (f : Failure) : Rejection := .storage f.message

end Rejection

structure Confirmation where
  order : Order
  membership : Membership
  snapshot : Snapshot
deriving DecidableEq

/-- Ids that have not been used before, for what a confirmation creates. -/
structure FreshIds where
  membership : String
  snapshot : String
deriving DecidableEq

namespace Confirmation

/-- The day on which the period begins: where a valid membership ends, unless the order is an upgrade, or
else the day of the payment. -/
def startDate (order : Order) (member : Membership) (today : Date) : Date :=
  if member.isZero || member.isExpired today then today
  else
    match order.kind with
    | .upgrade => today
    | .create | .renew => member.expireDate.getD today

/-- Applies a payment. The first reason against it decides: it names another order, the order is confirmed
already, the amount differs, the upgrade has been made, the period has no end. -/
def build (payment : Payment) (order : Order) (member : Membership) (fresh : FreshIds) :
    Except Rejection Confirmation :=
  if payment.orderId ≠ order.id then .error (.orderMismatch order.id payment.orderId)
  else if order.isConfirmed then .error (.alreadyConfirmed order.id)
  else if order.amount ≠ payment.amountCents then
    .error (.amountMismatch order.id order.amount payment.amountCents)
  else
    let today := payment.confirmed.date
    if order.kind = .upgrade ∧ member.isValid today = true ∧ member.tier = .premium then
      .error (.duplicateUpgrade order.id)
    else
      let start := startDate order member today
      match order.periodEnd start with
      | none => .error (.invalidCycle order.id)
      | some finish =>
        let snapshot :=
          (Snapshot.take member fresh.snapshot order.kind.snapshotReason payment.confirmed).withOrder order.id
        let snapshotId := if snapshot.isEmpty then none else some snapshot.id
        match order.confirm? payment.confirmed start finish snapshotId with
        | none => .error (.alreadyConfirmed order.id)
        | some confirmed =>
          .ok ⟨confirmed, Membership.ofOrder confirmed member fresh.membership, snapshot⟩

end Confirmation

end Subscriptions
