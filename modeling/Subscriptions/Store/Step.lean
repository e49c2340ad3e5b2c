import Subscriptions.Confirmation

/-!
What a transaction asks of a store, step by step, and the work of one transaction written as such steps.
A step that fails ends the work, so work says only how to go on from an answer.
-/

namespace Subscriptions

set_option autoImplicit false

inductive Step
  | retrieveMember (reader : Reader)
  | retrieveOrder (orderId : String)
  | saveOrder (order : Order)
  | updateConfirmedOrder (order : Order)
  | createMember (member : Membership)
  | updateMember (member : Membership)
  | findSources (reader : Reader) (asOf : Instant)
  | saveDraws (draws : List Draw)
  | consumeDraws (upgradeOrderId : String) (moment : Instant)

@[reducible] def Step.Answer : Step → Type
  | .retrieveMember _ => Option Membership
  | .retrieveOrder _ => Option Order
  | .findSources _ _ => List Source
  | .consumeDraws _ _ => List Draw
  | .saveOrder _ | .updateConfirmedOrder _ | .createMember _ | .updateMember _ | .saveDraws _ => Unit

/-- A step together with what it was answered. -/
structure Call where
  step : Step
  answer : Except Failure step.Answer

def Call.isOk (c : Call) : Bool := c.answer.isOk

/-- Everything that a store can be asked to do, apart from giving a transaction up. -/
inductive Operation
  | begin
  | retrieveMember
  | retrieveOrder
  | saveOrder
  | updateConfirmedOrder
  | createMember
  | updateMember
  | findSources
  | saveDraws
  | consumeDraws
  | commit
deriving DecidableEq

def Step.operation : Step → Operation
  | .retrieveMember _ => .retrieveMember
  | .retrieveOrder _ => .retrieveOrder
  | .saveOrder _ => .saveOrder
  | .updateConfirmedOrder _ => .updateConfirmedOrder
  | .createMember _ => .createMember
  | .updateMember _ => .updateMember
  | .findSources _ _ => .findSources
  | .saveDraws _ => .saveDraws
  | .consumeDraws _ _ => .consumeDraws

namespace Operation

def all : List Operation :=
  [.begin, .retrieveMember, .retrieveOrder, .saveOrder, .updateConfirmedOrder, .createMember,
    .updateMember, .findSources, .saveDraws, .consumeDraws, .commit]

def name : Operation → String
  | .begin => "begin"
  | .retrieveMember => "retrieve_member"
  | .retrieveOrder => "retrieve_order"
  | .saveOrder => "save_order"
  | .updateConfirmedOrder => "update_confirmed_order"
  | .createMember => "create_member"
  | .updateMember => "update_member"
  | .findSources => "find_proration_sources"
  | .saveDraws => "save_proration_sources"
  | .consumeDraws => "consume_proration_sources"
  | .commit => "commit"

def title : Operation → String
  | .begin => "Begin"
  | .retrieveMember => "RetrieveMember"
  | .retrieveOrder => "RetrieveOrder"
  | .saveOrder => "SaveOrder"
  | .updateConfirmedOrder => "UpdateConfirmedOrder"
  | .createMember => "CreateMember"
  | .updateMember => "UpdateMember"
  | .findSources => "FindProrationSources"
  | .saveDraws => "SaveProrationSources"
  | .consumeDraws => "ConsumeProrationSources"
  | .commit => "Commit"

instance : Vocabulary Operation where
  all := all
  name := name
  noun := "operation"
  blank := none

end Operation

/-- The work of a transaction that yields an `α` or is given up with an `ε`. -/
inductive Work (ε α : Type) : Type
  | done (a : α)
  | refuse (e : ε)
  | step (s : Step) (next : s.Answer → Work ε α)

namespace Work

variable {ε α β : Type}

def bind : Work ε α → (α → Work ε β) → Work ε β
  | .done a, f => f a
  | .refuse e, _ => .refuse e
  | .step s next, f => .step s fun x => (next x).bind f

instance : Monad (Work ε) where
  pure := .done
  bind := bind

def ask (s : Step) : Work ε s.Answer := .step s .done

def ofExcept : Except ε α → Work ε α
  | .ok a => .done a
  | .error e => .refuse e

/-- What the option holds, or work that is given up without a reason, because it has halted. -/
def ofOption : Option α → Work (Option ε) α
  | some a => .done a
  | none => .refuse none

end Work

end Subscriptions
