import Subscriptions.Calendar.Written
import Subscriptions.Membership
import Subscriptions.Wallet

/-!
The rules under which orders are made: which kind of order a reader may place, what it costs, and why one
is refused.
-/

namespace Subscriptions

set_option autoImplicit false

inductive Refusal
  | missingReader
  | planNotFound (planId : String)
  | invalidPlan (planId : String) (reason : String)
  | unsupportedPaymentMethod (method : PaymentMethod)
  | foreignAutoRenew (method : PaymentMethod)
  | renewalWindowExceeded (expireDate : Date) (windowYears : Nat)
  | downgradeNotAllowed (current target : Tier)
deriving DecidableEq

namespace Refusal

def code : Refusal → String
  | .missingReader => "missing_reader"
  | .planNotFound _ => "plan_not_found"
  | .invalidPlan _ _ => "invalid_plan"
  | .unsupportedPaymentMethod _ => "unsupported_payment_method"
  | .foreignAutoRenew _ => "foreign_auto_renew"
  | .renewalWindowExceeded _ _ => "renewal_window_exceeded"
  | .downgradeNotAllowed _ _ => "downgrade_not_allowed"

/-- The request is at fault, not the settings of the service. -/
def isClientError : Refusal → Bool
  | .invalidPlan _ _ => false
  | _ => true

def message : Refusal → String
  | .missingReader => "Order requires a reader id"
  | .planNotFound planId => s!"Plan not found: {planId}"
  | .invalidPlan planId reason => s!"Plan '{planId}' is misconfigured: {reason}"
  | .unsupportedPaymentMethod method => s!"Payment method '{method.name}' cannot settle orders"
  | .foreignAutoRenew method => s!"Membership is auto-renewed through {method.name}"
  | .renewalWindowExceeded expireDate windowYears =>
    s!"Membership expiring on {expireDate.toText} is beyond the {windowYears}-year renewal window"
  | .downgradeNotAllowed current target => s!"Cannot switch from {current.name} to {target.name}"

end Refusal

def Plan.validate (p : Plan) : Except Refusal Unit :=
  match p.fault? with
  | some fault => .error (.invalidPlan p.id fault.message)
  | none => .ok ()

def Catalogue.require (c : Catalogue) (planId : String) : Except Refusal Plan :=
  match c.get? planId with
  | some plan => .ok plan
  | none => .error (.planNotFound planId)

structure Quote where
  amount : Int
  cycleCount : Nat
  extraDays : Nat
deriving DecidableEq

/-- An order that has not been saved, with the draws to save along with it. -/
structure Draft where
  order : Order
  draws : List Draw
deriving DecidableEq

def Draft.appliedBalance (d : Draft) : Int := sumCents (d.draws.map (·.balance))

def Draft.checkedAppliedBalance (d : Draft) : Option Int := Width.bits64.total (d.draws.map (·.balance))

/-- A wish to buy a plan, next to the membership as it stands. -/
structure Purchase where
  reader : Reader
  plan : Plan
  paymentMethod : PaymentMethod
  member : Membership
  now : Instant

/-- The order for an accepted purchase. Only an upgrade draws on the wallet. -/
def Purchase.draft (purchase : Purchase) (quote : Quote) (kind : OrderKind) (wallet : Wallet) (orderId : String) :
    Draft :=
  let plan := purchase.plan
  { order :=
      { id := orderId
        reader := purchase.reader
        planId := plan.id
        tier := plan.tier
        cycle := plan.cycle
        price := plan.price
        amount := quote.amount
        currency := plan.currency
        cycleCount := quote.cycleCount
        extraDays := quote.extraDays
        kind := kind
        paymentMethod := purchase.paymentMethod
        created := purchase.now
        confirmed := none
        startDate := none
        endDate := none
        snapshotId := none }
    draws :=
      match kind with
      | .upgrade => wallet.draws orderId
      | .create | .renew => [] }

structure Policy where
  renewalWindowYears : Nat
  extraDays : Nat
  currency : String

namespace Policy

/-- The kind of order by which a membership comes to a plan. The first rule that applies decides: nothing
valid to build on, a subscription that was given up, one that renews itself, the same tier, a higher
tier. -/
def classify (p : Policy) (member : Membership) (plan : Plan) (today : Date) :
    Except Refusal OrderKind :=
  if member.isZero || member.isExpired today then .ok .create
  else if member.status.permitsNewSubscription then .ok .create
  else if member.isGatewayAutoRenewing today then .error (.foreignAutoRenew member.paymentMethod)
  else if member.tier = plan.tier then
    if member.withinRenewalWindow today p.renewalWindowYears then .ok .renew
    else .error (.renewalWindowExceeded (member.expireDate.getD today) p.renewalWindowYears)
  else if member.tier.canUpgradeTo plan.tier then .ok .upgrade
  else .error (.downgradeNotAllowed member.tier plan.tier)

/-- New and renewed memberships cost the discounted price. An upgrade costs the list price less the
balance, and a balance that covers the price is turned into time. -/
def quote (p : Policy) (kind : OrderKind) (plan : Plan) (wallet : Wallet) : Quote :=
  match kind with
  | .create | .renew => ⟨plan.netPrice, 1, p.extraDays⟩
  | .upgrade =>
    match wallet.convert? plan p.extraDays with
    | some span => ⟨0, span.cycleCount, span.extraDays⟩
    | none => ⟨max (wrapCents (plan.price - wallet.balance)) 0, 1, p.extraDays⟩

/-- The discounted price is computed whatever the kind of the order. -/
def checkedQuote (p : Policy) (kind : OrderKind) (plan : Plan) (wallet : Wallet) : Option Quote := do
  let netPrice ← plan.checkedNetPrice
  match kind with
  | .create | .renew => return ⟨netPrice, 1, p.extraDays⟩
  | .upgrade =>
    match ← wallet.checkedConvert? plan p.extraDays with
    | some span => return ⟨0, span.cycleCount, span.extraDays⟩
    | none =>
      let rest ← Width.bits64.sub plan.price wallet.balance
      return ⟨max rest 0, 1, p.extraDays⟩

def check (p : Policy) (purchase : Purchase) : Except Refusal OrderKind :=
  let plan := purchase.plan
  if purchase.reader.isEmpty then .error .missingReader
  else if !purchase.paymentMethod.isOneOff then
    .error (.unsupportedPaymentMethod purchase.paymentMethod)
  else
    match plan.validate with
    | .error refusal => .error refusal
    | .ok () =>
      if plan.currency = p.currency then p.classify purchase.member plan purchase.now.date
      else .error (.invalidPlan plan.id (PlanFault.foreignCurrency plan.currency).message)

def draft (p : Policy) (purchase : Purchase) (kind : OrderKind) (wallet : Wallet) (orderId : String) : Draft :=
  purchase.draft (p.quote kind purchase.plan wallet) kind wallet orderId

def checkedDraft (p : Policy) (purchase : Purchase) (kind : OrderKind) (wallet : Wallet) (orderId : String) :
    Option Draft := do
  let quote ← p.checkedQuote kind purchase.plan wallet
  return purchase.draft quote kind wallet orderId

end Policy

end Subscriptions
