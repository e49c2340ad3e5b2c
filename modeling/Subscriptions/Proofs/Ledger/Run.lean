import Subscriptions.Proofs.Ledger.Placement
import Subscriptions.Proofs.Ledger.Settlement
import Subscriptions.Run
import Subscriptions.Samples

/-!
What a run does to the tables. A command makes an order, applies a payment or leaves the tables alone, and what those
two keep is kept by every run.
-/

namespace Subscriptions

set_option autoImplicit false

inductive Change (shop : Shop) (t : Tables) : Command → Reply → Tables → Prop
  | kept {command : Command} {reply : Reply} (h : reply.isSuccess = false) : Change shop t command reply t
  | placed {request : OrderRequest} {orderId : String} {plan : Plan} {kind : OrderKind} {draft : Draft}
      {t' : Tables} (h : Placed shop request orderId plan kind t draft t') :
      Change shop t (.create request orderId) (.created (.ok draft)) t'
  | settled {payment : Payment} {fresh : FreshIds} {order : Order} {c : Confirmation} {t' : Tables}
      (h : Settled payment fresh order t c t') :
      Change shop t (.pay payment fresh) (.paid (.ok c)) t'

theorem Change.preserves {P : Tables → Prop} {shop : Shop} {t t' : Tables} {command : Command}
    {reply : Reply} (h : Change shop t command reply t')
    (placed : ∀ {request orderId plan kind draft},
      Placed shop request orderId plan kind t draft t' → P t → P t')
    (settled : ∀ {payment fresh order c}, Settled payment fresh order t c t' → P t → P t')
    (ht : P t) : P t' := by
  cases h with
  | kept _ => exact ht
  | placed h => exact placed h ht
  | settled h => exact settled h ht

theorem Change.exists_settled_of_confirmation {shop : Shop} {t t' : Tables} {command : Command} {reply : Reply}
    {c : Confirmation} (h : Change shop t command reply t') (hc : reply.confirmation? = some c) :
    ∃ payment fresh order, command = .pay payment fresh ∧ Settled payment fresh order t c t' := by
  cases h with
  | kept hf =>
    unfold Reply.confirmation? at hc
    split at hc
    · cases hf
    · cases hc
    · cases hc
    · cases hc
  | placed _ => cases hc
  | settled h =>
    obtain rfl := Option.some.inj hc
    exact ⟨_, _, _, rfl, h⟩

theorem Change.members_eq {shop : Shop} {t t' : Tables} {command : Command} {reply : Reply}
    (h : Change shop t command reply t') (hc : reply.confirmation? = none) : t'.members = t.members := by
  cases h with
  | kept _ => rfl
  | placed h => exact h.members_eq
  | settled _ => cases hc

namespace Ledger

variable {l : MemoryLedger} {request : OrderRequest} {orderId : String} {payment : Payment}
  {fresh : FreshIds} {draft : Draft} {c : Confirmation}

theorem after_append (l : MemoryLedger) (xs ys : List Command) :
    l.after (xs ++ ys) = (l.after xs).after ys :=
  List.foldl_append

theorem after_concat (l : MemoryLedger) (commands : List Command) (command : Command) :
    l.after (commands ++ [command]) = ((l.after commands).execute command).2 := by
  rw [after_append]
  rfl

theorem after_append_cons (l : MemoryLedger) (xs : List Command) (command : Command) (ys : List Command) :
    l.after (xs ++ command :: ys) = ((l.after xs).execute command).2.after ys := by
  rw [List.append_cons, after_append, after_concat]

theorem createOrder_cases (hb : l.backend = MemoryStore.backend) (request : OrderRequest)
    (orderId : String) :
    (∃ f, (l.createOrder request orderId).1 = .error f ∧
      (l.createOrder request orderId).2.tables = l.tables) ∨
    (∃ draft plan kind, (l.createOrder request orderId).1 = .ok draft ∧
      Placed l.shop request orderId plan kind l.tables draft (l.createOrder request orderId).2.tables) := by
  unfold createOrder
  rw [hb]
  cases hs : l.shop.catalogue.require request.planId with
  | error refusal => exact .inl ⟨.refused refusal, rfl, rfl⟩
  | ok plan =>
    rcases MemoryStore.transact_cases id (l.shop.orderWork request plan orderId) l.store with
      ⟨op, _, _, ht⟩ | ⟨f, _, ht⟩ | ⟨_, draft, t', he, ht⟩
    · simp only [ht]
      exact .inl ⟨MemoryStore.injected op, rfl, rfl⟩
    · simp only [ht]
      exact .inl ⟨f, rfl, rfl⟩
    · obtain ⟨kind, hp⟩ := Shop.placed_of_eval hs he
      simp only [ht]
      exact .inr ⟨draft, plan, kind, rfl, hp⟩

theorem createOrder_ok (hb : l.backend = MemoryStore.backend)
    (h : (l.createOrder request orderId).1 = .ok draft) :
    ∃ plan kind, Placed l.shop request orderId plan kind l.tables draft
      (l.createOrder request orderId).2.tables := by
  rcases createOrder_cases hb request orderId with ⟨f, hf, _⟩ | ⟨d, plan, kind, hd, hp⟩
  · rw [h] at hf
    cases hf
  · obtain rfl : d = draft := Except.ok.inj (hd.symm.trans h)
    exact ⟨plan, kind, hp⟩

theorem createOrder_error {f : Failure} (hb : l.backend = MemoryStore.backend)
    (h : (l.createOrder request orderId).1 = .error f) :
    (l.createOrder request orderId).2.tables = l.tables := by
  rcases createOrder_cases hb request orderId with ⟨_, _, ht⟩ | ⟨d, _, _, hd, _⟩
  · exact ht
  · rw [h] at hd
    cases hd

theorem createOrder_fst (l : MemoryLedger) (request : OrderRequest) (orderId : String) :
    (l.createOrder request orderId).1 =
      match l.shop.catalogue.require request.planId with
      | .error refusal => .error (.refused refusal)
      | .ok plan => (l.backend.transact id (l.shop.orderWork request plan orderId) l.store).1 := by
  unfold createOrder
  cases l.shop.catalogue.require request.planId with
  | error refusal => rfl
  | ok plan =>
    simp only
    cases l.backend.transact id (l.shop.orderWork request plan orderId) l.store with
    | mk result store => cases result <;> rfl

theorem createOrder_of_calm (hb : l.backend = MemoryStore.backend) (hcalm : ∀ op, l.store.faults op = 0)
    (request : OrderRequest) (orderId : String) :
    (l.createOrder request orderId).1 =
      match l.shop.catalogue.require request.planId with
      | .error refusal => .error (.refused refusal)
      | .ok plan =>
        match l.shop.policy.check (request.purchase plan l.tables) with
        | .error refusal => .error (.refused refusal)
        | .ok kind =>
          if l.tables.orders.contains orderId then .error (TableError.duplicateOrder orderId).failure
          else .ok (l.shop.policy.draft (request.purchase plan l.tables) kind (request.wallet kind l.tables)
            orderId) := by
  have ht : l.store.tables = l.tables := rfl
  rw [createOrder_fst, hb]
  cases l.shop.catalogue.require request.planId with
  | error refusal => rfl
  | ok plan =>
    simp only [MemoryStore.transact_of_calm hcalm, Shop.eval_orderWork, ht]
    cases l.shop.policy.check (request.purchase plan l.tables) with
    | error refusal => rfl
    | ok kind =>
      simp only
      split <;> rfl

/-- A payment fails where it was made to, or is given up, or is applied; only then the tables change. -/
theorem confirmPayment_cases (hb : l.backend = MemoryStore.backend) (payment : Payment)
    (fresh : FreshIds) :
    (∃ op, 0 < l.store.faults op ∧
      (l.confirmPayment payment fresh).1 = .error (.ofFailure (MemoryStore.injected op)) ∧
      (l.confirmPayment payment fresh).2.tables = l.tables) ∨
    (∃ r, (Settlement.work payment fresh).eval Rejection.ofFailure l.tables = .error r ∧
      (l.confirmPayment payment fresh).1 = .error r ∧
      (l.confirmPayment payment fresh).2.tables = l.tables) ∨
    ((∀ op ∈ MemoryStore.calls (Settlement.work payment fresh) l.tables, l.store.faults op = 0) ∧
      ∃ s t', (Settlement.work payment fresh).eval Rejection.ofFailure l.tables = .ok (s, t') ∧
        (l.confirmPayment payment fresh).1 = .ok s.confirmation ∧
        (l.confirmPayment payment fresh).2.tables = t') := by
  unfold confirmPayment
  rw [hb]
  rcases MemoryStore.transact_cases Rejection.ofFailure (Settlement.work payment fresh) l.store with
    ⟨op, _, hf, ht⟩ | ⟨r, he, ht⟩ | ⟨hcalm, s, t', he, ht⟩
  · simp only [ht]
    exact .inl ⟨op, Nat.pos_of_ne_zero hf, rfl, rfl⟩
  · simp only [ht]
    exact .inr (.inl ⟨r, he, rfl, rfl⟩)
  · simp only [ht]
    exact .inr (.inr ⟨hcalm, s, t', he, rfl, rfl⟩)

theorem confirmPayment_ok (hb : l.backend = MemoryStore.backend)
    (h : (l.confirmPayment payment fresh).1 = .ok c) :
    (∀ op ∈ MemoryStore.calls (Settlement.work payment fresh) l.tables, l.store.faults op = 0) ∧
      ∃ order, Settled payment fresh order l.tables c (l.confirmPayment payment fresh).2.tables := by
  rcases confirmPayment_cases hb payment fresh with
    ⟨_, _, hr, _⟩ | ⟨_, _, hr, _⟩ | ⟨hcalm, s, t', he, hs, ht⟩
  · rw [h] at hr
    cases hr
  · rw [h] at hr
    cases hr
  · obtain rfl : s.confirmation = c := Except.ok.inj (hs.symm.trans h)
    obtain ⟨order, h, _⟩ := Settlement.settled_of_eval he
    rw [ht]
    exact ⟨hcalm, order, h⟩

theorem confirmPayment_error {r : Rejection} (hb : l.backend = MemoryStore.backend)
    (h : (l.confirmPayment payment fresh).1 = .error r) :
    (l.confirmPayment payment fresh).2.tables = l.tables := by
  rcases confirmPayment_cases hb payment fresh with
    ⟨_, _, _, ht⟩ | ⟨_, _, _, ht⟩ | ⟨_, _, _, _, hs, _⟩
  · exact ht
  · exact ht
  · rw [h] at hs
    cases hs

theorem exists_settled (hb : l.backend = MemoryStore.backend)
    (hok : (l.confirmPayment payment fresh).1.isOk = true) :
    (∀ op ∈ MemoryStore.calls (Settlement.work payment fresh) l.tables, l.store.faults op = 0) ∧
      ∃ order c, Settled payment fresh order l.tables c (l.confirmPayment payment fresh).2.tables := by
  cases hc : (l.confirmPayment payment fresh).1 with
  | error r =>
    rw [hc] at hok
    cases hok
  | ok c =>
    obtain ⟨hcalm, order, h⟩ := confirmPayment_ok hb hc
    exact ⟨hcalm, order, c, h⟩

theorem confirmPayment_isOk_iff (hb : l.backend = MemoryStore.backend) {order : Order}
    (hf : l.tables.order? payment.orderId = some order) (hr : order.reader.isEmpty = false) :
    (l.confirmPayment payment fresh).1.isOk = true ↔
      payment.Applies order (l.tables.memberOf order.reader) ∧
        ∀ op ∈ MemoryStore.calls (Settlement.work payment fresh) l.tables, l.store.faults op = 0 := by
  constructor
  · intro hok
    obtain ⟨hcalm, o, _, h⟩ := exists_settled hb hok
    obtain rfl : o = order := Option.some.inj (h.found.symm.trans hf)
    exact ⟨h.applies, hcalm⟩
  · rintro ⟨ha, hcalm⟩
    obtain ⟨s, t', he⟩ : ∃ s t', (Settlement.work payment fresh).eval Rejection.ofFailure l.tables =
        .ok (s, t') := Settlement.exists_eval_work hf ha hr
    have ht := MemoryStore.transact_eq_ok_iff.mpr ⟨hcalm, t', he, rfl⟩
    rw [confirmPayment, hb, ht]
    rfl

theorem change_execute (hb : l.backend = MemoryStore.backend) (command : Command) :
    Change l.shop l.tables command (l.execute command).1 (l.execute command).2.tables := by
  cases command with
  | create request orderId =>
    simp only [execute]
    cases h : (l.createOrder request orderId).1 with
    | ok draft =>
      obtain ⟨plan, kind, hp⟩ := createOrder_ok hb h
      exact .placed hp
    | error f =>
      rw [createOrder_error hb h]
      exact .kept rfl
  | pay payment fresh =>
    simp only [execute]
    cases h : (l.confirmPayment payment fresh).1 with
    | ok c =>
      obtain ⟨_, order, hs⟩ := confirmPayment_ok hb h
      exact .settled hs
    | error r =>
      rw [confirmPayment_error hb h]
      exact .kept rfl
  | failNext op times => exact .kept rfl

theorem execute_fixed (l : MemoryLedger) (command : Command) :
    (l.execute command).2.backend = l.backend ∧ (l.execute command).2.shop = l.shop := by
  cases command with
  | create request orderId =>
    simp only [execute, createOrder]
    split
    · exact ⟨rfl, rfl⟩
    · split <;> exact ⟨rfl, rfl⟩
  | pay payment fresh =>
    simp only [execute, confirmPayment]
    split <;> exact ⟨rfl, rfl⟩
  | failNext op times => exact ⟨rfl, rfl⟩

theorem backend_after (l : MemoryLedger) (commands : List Command) :
    (l.after commands).backend = l.backend := by
  induction commands generalizing l with
  | nil => rfl
  | cons command commands ih => exact (ih _).trans (execute_fixed l command).1

theorem shop_after (l : MemoryLedger) (commands : List Command) : (l.after commands).shop = l.shop := by
  induction commands generalizing l with
  | nil => rfl
  | cons command commands ih => exact (ih _).trans (execute_fixed l command).2

theorem change_after (hb : l.backend = MemoryStore.backend) (commands : List Command) (command : Command) :
    Change l.shop (l.after commands).tables command ((l.after commands).execute command).1
      (l.after (commands ++ [command])).tables := by
  rw [after_concat, ← shop_after l commands]
  exact change_execute ((backend_after l commands).trans hb) command

/-- What is kept by making an order and by applying a payment is kept by every run. -/
theorem tables_after {P : Tables → Prop} (hb : l.backend = MemoryStore.backend)
    (placed : ∀ {request orderId plan kind t draft t'},
      Placed l.shop request orderId plan kind t draft t' → P t → P t')
    (settled : ∀ {payment fresh order t c t'}, Settled payment fresh order t c t' → P t → P t')
    (h : P l.tables) (commands : List Command) : P (l.after commands).tables := by
  induction commands generalizing l with
  | nil => exact h
  | cons command commands ih =>
    obtain ⟨hbackend, hshop⟩ := execute_fixed l command
    have hnext : P (l.execute command).2.tables := (change_execute hb command).preserves placed settled h
    rw [← hshop] at placed
    exact ih (hbackend.trans hb) placed hnext

/-- What does not hold at first comes to hold at one command of the run. -/
theorem exists_first {P : Tables → Prop} {commands : List Command} (hn : ¬P l.tables)
    (h : P (l.after commands).tables) :
    ∃ before command rest, commands = before ++ command :: rest ∧ ¬P (l.after before).tables ∧
      P (l.after (before ++ [command])).tables := by
  induction commands generalizing l with
  | nil => exact absurd h hn
  | cons command commands ih =>
    by_cases hc : P (l.execute command).2.tables
    · exact ⟨[], command, commands, rfl, hn, hc⟩
    · obtain ⟨before, first, rest, rfl, hbefore, hfirst⟩ := ih hc h
      exact ⟨command :: before, first, rest, rfl, hbefore, hfirst⟩

end Ledger

/-- A result that has something to show is a success. -/
theorem exists_eq_ok {ε α β : Type} {r : Except ε α} {f : α → β} {b : β} (h : r.toOption.map f = some b) :
    ∃ a, r = .ok a ∧ f a = b := by
  cases r with
  | error e => cases h
  | ok a => exact ⟨a, rfl, Option.some.inj h⟩

namespace Samples

/-- The day so many days after the first of June 2024. -/
def day (n : Fin 1000) : Date := ⟨19875 + n.val, by omega⟩

def order (id planId : String) (n : Fin 1000) : Command :=
  .create ⟨reader "reader-1", planId, .alipay, (day n).midnight⟩ id

def pay (id : String) (cents : Int) (n : Fin 1000) : Command :=
  .pay ⟨id, cents, (day n).midnight⟩ ⟨"mmb_1", "snp_1"⟩

end Samples

end Subscriptions
