import Subscriptions.Confirmation

/-!
Audit events: what is put on record about every order made and every confirmation tried.
-/

namespace Subscriptions

set_option autoImplicit false

inductive AuditEvent
  | orderCreated (orderId readerId planId : String) (kind : OrderKind) (amount : Int)
  | paymentConfirmed (orderId readerId : String) (kind : OrderKind) (amount : Int) (membershipId : String)
  | confirmationRejected (orderId : String) (reason : RejectionKind) (retry : Bool)
  | prorationConsumed (upgradeOrderId : String) (sources : Nat) (balance : Int)
deriving DecidableEq

namespace AuditEvent

def kind : AuditEvent → String
  | .orderCreated .. => "order_created"
  | .paymentConfirmed .. => "payment_confirmed"
  | .confirmationRejected .. => "confirmation_rejected"
  | .prorationConsumed .. => "proration_consumed"

def message : AuditEvent → String
  | .orderCreated orderId readerId planId kind amount =>
    s!"Order created: order={orderId}, reader={readerId}, plan={planId}, kind={kind.name}, amount={amount}"
  | .paymentConfirmed orderId readerId kind amount membershipId =>
    s!"Payment confirmed: order={orderId}, reader={readerId}, kind={kind.name}, amount={amount}, membership={membershipId}"
  | .confirmationRejected orderId reason retry =>
    s!"Confirmation rejected: order={orderId}, reason={reason.name}, retry={retry}"
  | .prorationConsumed upgradeOrderId sources balance =>
    s!"Proration consumed: upgrade={upgradeOrderId}, sources={sources}, balance={balance}"

end AuditEvent

end Subscriptions
