import Subscriptions.Audit
import Subscriptions.Outbox.Queue
import Subscriptions.Settings.Basic
import Subscriptions.Store.Backend

/-!
The ledger: orders are made and payments applied, each in one transaction. Only what has been committed
goes on record as done and leads to tasks; a payment that could not be applied goes on record as rejected.
In checked arithmetic it does the same in the same transactions, but where an operation on cents halts, the
whole command does.
-/

namespace Subscriptions

set_option autoImplicit false

structure Shop where
  catalogue : Catalogue
  policy : Policy

structure OrderRequest where
  reader : Reader
  planId : String
  paymentMethod : PaymentMethod
  now : Instant

def Reader.recordId (r : Reader) : String := r.compoundId.getD ""

namespace Shop

/-- The sources of an upgrade, and nothing for other kinds of orders. -/
def walletWork (reader : Reader) (now : Instant) : OrderKind → Work Failure Wallet
  | .upgrade => do
    let sources ← Work.ask (.findSources reader now)
    return Wallet.ofSources sources now
  | .create | .renew => return Wallet.empty now

def checkedWalletWork (reader : Reader) (now : Instant) : OrderKind → Work (Option Failure) Wallet
  | .upgrade => do
    let sources ← Work.ask (.findSources reader now)
    Work.ofOption (Wallet.checkedOfSources sources now)
  | .create | .renew => return Wallet.empty now

/-- The transaction that makes an order: read the membership, decide, price, save. -/
def orderWork (shop : Shop) (request : OrderRequest) (plan : Plan) (orderId : String) :
    Work Failure Draft := do
  let stored ← Work.ask (.retrieveMember request.reader)
  let purchase : Purchase :=
    { reader := request.reader
      plan := plan
      paymentMethod := request.paymentMethod
      member := stored.getD (Membership.zero request.reader)
      now := request.now }
  let kind ← Work.ofExcept ((shop.policy.check purchase).mapError .refused)
  let wallet ← walletWork request.reader request.now kind
  let draft := shop.policy.draft purchase kind wallet orderId
  Work.ask (.saveOrder draft.order)
  unless draft.draws.isEmpty do
    Work.ask (.saveDraws draft.draws)
  return draft

def checkedOrderWork (shop : Shop) (request : OrderRequest) (plan : Plan) (orderId : String) :
    Work (Option Failure) Draft := do
  let stored ← Work.ask (.retrieveMember request.reader)
  let purchase : Purchase :=
    { reader := request.reader
      plan := plan
      paymentMethod := request.paymentMethod
      member := stored.getD (Membership.zero request.reader)
      now := request.now }
  let kind ← Work.ofExcept ((shop.policy.check purchase).mapError fun refusal => some (.refused refusal))
  let wallet ← checkedWalletWork request.reader request.now kind
  let draft ← Work.ofOption (shop.policy.checkedDraft purchase kind wallet orderId)
  Work.ask (.saveOrder draft.order)
  unless draft.draws.isEmpty do
    Work.ask (.saveDraws draft.draws)
  return draft

end Shop

/-- What a transaction for a payment leaves behind: the confirmation and the draws it has consumed. -/
structure Settlement where
  confirmation : Confirmation
  consumed : List Draw

namespace Settlement

def saveMember (stored : Option Membership) (member : Membership) : Work Rejection Unit :=
  match stored with
  | some _ => Work.ask (.updateMember member)
  | none => Work.ask (.createMember member)

/-- An upgrade consumes its draws at the instant of its payment. -/
def consumeDraws (order : Order) (payment : Payment) : Work Rejection (List Draw) :=
  match order.kind with
  | .upgrade => Work.ask (.consumeDraws order.id payment.confirmed)
  | .create | .renew => return []

/-- The transaction that applies a payment: read the order and the membership, confirm, write both. -/
def work (payment : Payment) (fresh : FreshIds) : Work Rejection Settlement := do
  let some order ← Work.ask (.retrieveOrder payment.orderId)
    | .refuse (.orderNotFound payment.orderId)
  let stored ← Work.ask (.retrieveMember order.reader)
  let member := stored.getD (Membership.zero order.reader)
  let confirmation ← Work.ofExcept (Confirmation.build payment order member fresh)
  Work.ask (.updateConfirmedOrder confirmation.order)
  saveMember stored confirmation.membership
  let consumed ← consumeDraws order payment
  return ⟨confirmation, consumed⟩

/-- The tasks that follow a settlement: a copy of the old membership, if there was one, then the notice. -/
def tasks (s : Settlement) : List Task :=
  let notice := Task.notifyConfirmation s.confirmation
  if s.confirmation.snapshot.isEmpty then [notice]
  else [.backupSnapshot s.confirmation.snapshot, notice]

def events (s : Settlement) : List AuditEvent :=
  let order := s.confirmation.order
  let confirmed := AuditEvent.paymentConfirmed order.id order.reader.recordId order.kind order.amount
    (s.confirmation.membership.id.getD "")
  if s.consumed.isEmpty then [confirmed]
  else [confirmed, .prorationConsumed order.id s.consumed.length (sumCents (s.consumed.map (·.balance)))]

def checkedEvents (s : Settlement) : Option (List AuditEvent) := do
  let order := s.confirmation.order
  let confirmed := AuditEvent.paymentConfirmed order.id order.reader.recordId order.kind order.amount
    (s.confirmation.membership.id.getD "")
  if s.consumed.isEmpty then return [confirmed]
  else
    let balance ← Width.bits64.total (s.consumed.map (·.balance))
    return [confirmed, .prorationConsumed order.id s.consumed.length balance]

end Settlement

/-- A shop with its store, the outbox for what follows a commit, and the record of events. -/
structure Ledger (σ τ : Type) where
  shop : Shop
  backend : Backend σ τ
  store : σ
  outbox : Outbox
  record : List AuditEvent

namespace Ledger

variable {σ τ : Type}

def start (settings : Settings) (catalogue : Catalogue) (backend : Backend σ τ) (store : σ) :
    Ledger σ τ where
  shop := ⟨catalogue, settings.policy⟩
  backend := backend
  store := store
  outbox := Outbox.start settings.tasks.capacity settings.tasks.retryPolicy
  record := []

/-- Makes an order. An unknown plan is refused before the store is asked for anything. -/
def createOrder (l : Ledger σ τ) (request : OrderRequest) (orderId : String) :
    Except Failure Draft × Ledger σ τ :=
  match l.shop.catalogue.require request.planId with
  | .error refusal => (.error (.refused refusal), l)
  | .ok plan =>
    match l.backend.transact id (l.shop.orderWork request plan orderId) l.store with
    | (.error f, store) => (.error f, { l with store := store })
    | (.ok draft, store) =>
      let order := draft.order
      let event := AuditEvent.orderCreated order.id request.reader.recordId order.planId order.kind order.amount
      (.ok draft, { l with store := store, record := l.record ++ [event] })

/-- What has been applied of the balance is computed once the order is committed. -/
def checkedCreateOrder (l : Ledger σ τ) (request : OrderRequest) (orderId : String) :
    Option (Except Failure Draft × Ledger σ τ) :=
  match l.shop.catalogue.require request.planId with
  | .error refusal => some (.error (.refused refusal), l)
  | .ok plan =>
    match l.backend.transact some (l.shop.checkedOrderWork request plan orderId) l.store with
    | (.error none, _) => none
    | (.error (some f), store) => some (.error f, { l with store := store })
    | (.ok draft, store) => do
      let _ ← draft.checkedAppliedBalance
      let order := draft.order
      let event := AuditEvent.orderCreated order.id request.reader.recordId order.planId order.kind order.amount
      return (.ok draft, { l with store := store, record := l.record ++ [event] })

/-- Applies a payment. However often it is delivered, it takes effect at most once. -/
def confirmPayment (l : Ledger σ τ) (payment : Payment) (fresh : FreshIds) :
    Except Rejection Confirmation × Ledger σ τ :=
  match l.backend.transact Rejection.ofFailure (Settlement.work payment fresh) l.store with
  | (.error r, store) =>
    let event := AuditEvent.confirmationRejected payment.orderId r.kind r.retry
    (.error r, { l with store := store, record := l.record ++ [event] })
  | (.ok settlement, store) =>
    (.ok settlement.confirmation,
      { l with
        store := store
        outbox := settlement.tasks.foldl Outbox.dispatch l.outbox
        record := l.record ++ settlement.events })

def checkedConfirmPayment (l : Ledger σ τ) (payment : Payment) (fresh : FreshIds) :
    Option (Except Rejection Confirmation × Ledger σ τ) :=
  match l.backend.transact Rejection.ofFailure (Settlement.work payment fresh) l.store with
  | (.error r, store) =>
    let event := AuditEvent.confirmationRejected payment.orderId r.kind r.retry
    some (.error r, { l with store := store, record := l.record ++ [event] })
  | (.ok settlement, store) => do
    let events ← settlement.checkedEvents
    return (.ok settlement.confirmation,
      { l with
        store := store
        outbox := settlement.tasks.foldl Outbox.dispatch l.outbox
        record := l.record ++ events })

def confirmFreeOrder (l : Ledger σ τ) (orderId : String) (now : Instant) (fresh : FreshIds) :
    Except Rejection Confirmation × Ledger σ τ :=
  l.confirmPayment (Payment.free orderId now) fresh

end Ledger

end Subscriptions
