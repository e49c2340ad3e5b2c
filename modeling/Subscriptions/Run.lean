import Subscriptions.Ledger
import Subscriptions.Store.Memory

/-!
Runs of a ledger over the store in memory: any requests in any order, with failures asked for in between.
A checked run halts where a command does.
-/

namespace Subscriptions

set_option autoImplicit false

inductive Command
  | create (request : OrderRequest) (orderId : String)
  | pay (payment : Payment) (fresh : FreshIds)
  | failNext (op : Operation) (times : Nat)

inductive Reply
  | created (result : Except Failure Draft)
  | paid (result : Except Rejection Confirmation)
  | noted

def Reply.isSuccess : Reply → Bool
  | .created (.ok _) | .paid (.ok _) => true
  | .created (.error _) | .paid (.error _) | .noted => false

def Reply.confirmation? : Reply → Option Confirmation
  | .paid (.ok c) => some c
  | .paid (.error _) | .created _ | .noted => none

abbrev MemoryLedger := Ledger MemoryStore Tables

namespace Ledger

def opened (settings : Settings) (catalogue : Catalogue) : MemoryLedger :=
  start settings catalogue MemoryStore.backend .empty

def tables (l : MemoryLedger) : Tables := l.store.tables

def execute (l : MemoryLedger) : Command → Reply × MemoryLedger
  | .create request orderId =>
    (.created (l.createOrder request orderId).1, (l.createOrder request orderId).2)
  | .pay payment fresh =>
    (.paid (l.confirmPayment payment fresh).1, (l.confirmPayment payment fresh).2)
  | .failNext op times => (.noted, { l with store := l.store.failNext op times })

def after (l : MemoryLedger) (commands : List Command) : MemoryLedger :=
  commands.foldl (fun l command => (l.execute command).2) l

/-- The commands of a run with what each was answered. -/
def transcript (l : MemoryLedger) : List Command → List (Command × Reply)
  | [] => []
  | command :: commands =>
    (command, (l.execute command).1) :: transcript (l.execute command).2 commands

def checkedExecute (l : MemoryLedger) : Command → Option (Reply × MemoryLedger)
  | .create request orderId => do
    let (result, l) ← l.checkedCreateOrder request orderId
    return (.created result, l)
  | .pay payment fresh => do
    let (result, l) ← l.checkedConfirmPayment payment fresh
    return (.paid result, l)
  | .failNext op times => some (.noted, { l with store := l.store.failNext op times })

/-- The ledger after a run in checked arithmetic, if nothing in it halts. -/
def checkedAfter (l : MemoryLedger) (commands : List Command) : Option MemoryLedger :=
  commands.foldlM (fun l command => (l.checkedExecute command).map Prod.snd) l

end Ledger

end Subscriptions
