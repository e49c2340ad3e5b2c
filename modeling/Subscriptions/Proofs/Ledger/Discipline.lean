import Subscriptions.Proofs.Ledger.Run
import Subscriptions.Proofs.Store.Exchange

/-!
How the ledger deals with its store, whatever the store answers: one transaction at most, ended once, by a
commit exactly if every call has succeeded and the rules agree. So an operation that fails has changed nothing.
-/

namespace Subscriptions

set_option autoImplicit false

variable {ε α β : Type}

/-- What an operation has asked of its store, and what it replies. An operation that is not ready leaves the
store alone; the rules decide on what the calls were answered. -/
structure Disciplined (wrap : Failure → ε) (ready : Except ε Unit)
    (decides : List Call → Except ε β → Prop) (log : List Exchange) (reply : Except ε α) : Prop where
  unready : ∀ {e}, ready = .error e → log = [] ∧ reply = .error e
  begins : ready = .ok () → log.countP Exchange.isBegin = 1
  unbegun : ∀ {f}, .begin (.error f) ∈ log → log = [.begin (.error f)] ∧ reply = .error (wrap f)
  ends : .begin (.ok ()) ∈ log → ∃ calls result,
    let accepted := (∀ c ∈ calls, c.isOk = true) ∧ ∃ x, decides calls (.ok x)
    accepted ∧ log = session calls (.commit result) ∨ ¬accepted ∧ log = session calls (.rollback result)
  succeeds : reply.isOk = true ↔ .commit (.ok ()) ∈ log
  uncommitted : ∀ {f}, .commit (.error f) ∈ log → reply = .error (wrap f)
  original : ∀ {calls result}, log = session calls (.rollback result) →
    (∃ call ∈ calls, ∃ f, call.answer = .error f ∧ reply = .error (wrap f)) ∨
      (∀ c ∈ calls, c.isOk = true) ∧ ∃ e, decides calls (.error e) ∧ reply = .error e

section Discipline

variable {wrap : Failure → ε} {ready : Except ε Unit} {decides : List Call → Except ε β → Prop}
  {log : List Exchange} {reply : Except ε α}

/-- What is made of a good result in the end does not matter to the store. -/
theorem Disciplined.map {γ : Type} (h : Disciplined wrap ready decides log reply) (f : α → γ) :
    Disciplined wrap ready decides log (reply.map f) := by
  have herror {e : ε} (he : reply = .error e) : reply.map f = .error e := by
    rw [he]
    rfl
  have hok : (reply.map f).isOk = reply.isOk := by
    cases reply <;> rfl
  constructor
  · intro e he
    exact ⟨(h.unready he).1, herror (h.unready he).2⟩
  · exact h.begins
  · intro g hg
    exact ⟨(h.unbegun hg).1, herror (h.unbegun hg).2⟩
  · exact h.ends
  · rw [hok]
    exact h.succeeds
  · intro g hc
    exact herror (h.uncommitted hc)
  · intro calls result hl
    rcases h.original hl with ⟨call, hm, g, hg, he⟩ | ⟨hcalls, e, hd, he⟩
    · exact .inl ⟨call, hm, g, hg, herror he⟩
    · exact .inr ⟨hcalls, e, hd, herror he⟩

theorem mem_session {calls : List Call} {last x : Exchange} :
    x ∈ session calls last ↔ x = .begin (.ok ()) ∨ (∃ c ∈ calls, .perform c = x) ∨ x = last := by
  simp [session]

theorem session_inj {calls calls' : List Call} {last last' : Exchange}
    (h : session calls last = session calls' last') : calls = calls' ∧ last = last' := by
  obtain ⟨hcalls, hlast⟩ := List.append_inj' (List.cons.inj h).2 rfl
  exact ⟨(List.map_inj_right fun _ _ => Exchange.perform.inj).mp hcalls, List.singleton_inj.mp hlast⟩

theorem countP_session {calls : List Call} {last : Exchange} (h : last.isBegin = false) :
    (session calls last).countP Exchange.isBegin = 1 := by
  have hcalls : ∀ x ∈ calls.map Exchange.perform, ¬x.isBegin = true := by
    intro x hx
    obtain ⟨c, _, rfl⟩ := List.mem_map.mp hx
    simp [Exchange.isBegin]
  rw [session, List.countP_cons_of_pos rfl, List.countP_append, List.countP_eq_zero.mpr hcalls,
    List.countP_singleton, h]
  rfl

/-- A transaction was begun, or nothing else happened. -/
theorem Disciplined.mem_begin (h : Disciplined wrap ready decides log reply) {x : Exchange} (hx : x ∈ log)
    (hb : x.isBegin = false) : .begin (.ok ()) ∈ log := by
  have hready : ready = .ok () := by
    cases hr : ready with
    | ok _ => rfl
    | error e =>
      rw [(h.unready hr).1] at hx
      cases hx
  obtain ⟨y, hy, hbegin⟩ := List.countP_pos_iff.mp (Nat.lt_of_lt_of_eq Nat.one_pos (h.begins hready).symm)
  cases y with
  | begin result =>
    cases result with
    | ok _ => exact hy
    | error f =>
      rw [(h.unbegun hy).1] at hx
      rw [List.mem_singleton.mp hx] at hb
      cases hb
  | perform _ | commit _ | rollback _ => cases hbegin

/-- A rollback is the last that a store is asked for. -/
theorem Disciplined.eq_session_of_rollback (h : Disciplined wrap ready decides log reply)
    (hr : log.any Exchange.isRollback = true) : ∃ calls result, log = session calls (.rollback result) := by
  obtain ⟨x, hx, hroll⟩ := List.any_eq_true.mp hr
  have hb : x.isBegin = false := by
    cases x <;> first | rfl | cases hroll
  obtain ⟨calls, result, ⟨_, hl⟩ | ⟨_, hl⟩⟩ := h.ends (h.mem_begin hx hb)
  · rw [hl, mem_session] at hx
    rcases hx with rfl | ⟨c, _, rfl⟩ | rfl <;> cases hroll
  · exact ⟨calls, result, hl⟩

end Discipline

/-- What the rules make of the answers: work that was done they have accepted, and work that was given up
they have not. -/
structure Work.Follows (work : Work ε α) (decides : List Call → Except ε β → Prop) : Prop where
  accepted : ∀ {calls a}, work.Converses calls (.done a) → ∃ x, decides calls (.ok x)
  refused : ∀ {calls e}, work.Converses calls (.refused e) → ∀ v, decides calls v ↔ v = .error e

namespace Backend.Conducted

variable {wrap : Failure → ε} {work : Work ε α} {decides : List Call → Except ε β → Prop}
  {log : List Exchange} {reply : Except ε α}

theorem begins_once (h : Conducted wrap work log reply) : log.countP Exchange.isBegin = 1 := by
  cases h with
  | notBegun f => rfl
  | committed h => exact countP_session rfl
  | notCommitted h f => exact countP_session rfl
  | refused h result => exact countP_session rfl
  | failed h result => exact countP_session rfl

/-- The calls of a transaction, the request that ended it, and whether it was fit to be committed. -/
theorem ends_once (h : Conducted wrap work log reply) (hw : work.Follows decides)
    (hb : .begin (.ok ()) ∈ log) : ∃ calls result,
      let accepted := (∀ c ∈ calls, c.isOk = true) ∧ ∃ x, decides calls (.ok x)
      accepted ∧ log = session calls (.commit result) ∨
        ¬accepted ∧ log = session calls (.rollback result) := by
  cases h with
  | notBegun f => simp at hb
  | committed h => exact ⟨_, _, .inl ⟨⟨h.all_ok_of_done, hw.accepted h⟩, rfl⟩⟩
  | notCommitted h f => exact ⟨_, _, .inl ⟨⟨h.all_ok_of_done, hw.accepted h⟩, rfl⟩⟩
  | refused h result =>
    refine ⟨_, result, .inr ⟨?_, rfl⟩⟩
    rintro ⟨_, x, hx⟩
    cases (hw.refused h _).mp hx
  | failed h result =>
    refine ⟨_, result, .inr ⟨?_, rfl⟩⟩
    rintro ⟨hok, _⟩
    obtain ⟨before, call, rfl, _, hcall⟩ := h.exists_failed
    have hc := hok call (by simp)
    rw [Call.isOk, hcall] at hc
    cases hc

theorem isOk_iff (h : Conducted wrap work log reply) : reply.isOk = true ↔ .commit (.ok ()) ∈ log := by
  cases h with
  | committed h => simp [mem_session, Except.isOk, Except.toBool]
  | notBegun f => simp [Except.isOk, Except.toBool]
  | notCommitted h f => simp [mem_session, Except.isOk, Except.toBool]
  | refused h result => simp [mem_session, Except.isOk, Except.toBool]
  | failed h result => simp [mem_session, Except.isOk, Except.toBool]

/-- A transaction that was rolled back is reported as what it was given up for, whatever the rollback
itself has come to. -/
theorem original_error (h : Conducted wrap work log reply) (hw : work.Follows decides) {calls : List Call}
    {result : Except Failure Unit} (hl : log = session calls (.rollback result)) :
    (∃ call ∈ calls, ∃ f, call.answer = .error f ∧ reply = .error (wrap f)) ∨
      (∀ c ∈ calls, c.isOk = true) ∧ ∃ e, decides calls (.error e) ∧ reply = .error e := by
  cases h with
  | notBegun f => simp [session] at hl
  | committed h => cases (session_inj hl).2
  | notCommitted h f => cases (session_inj hl).2
  | refused h r =>
    obtain ⟨rfl, _⟩ := session_inj hl
    exact .inr ⟨h.all_ok_of_refused, _, (hw.refused h _).mpr rfl, rfl⟩
  | failed h r =>
    obtain ⟨rfl, _⟩ := session_inj hl
    obtain ⟨before, call, rfl, _, hcall⟩ := h.exists_failed
    exact .inl ⟨call, by simp, _, hcall, rfl⟩

theorem disciplined (h : Conducted wrap work log reply) (hw : work.Follows decides) :
    Disciplined wrap (.ok ()) decides log reply where
  unready he := by cases he
  begins _ := h.begins_once
  unbegun hb := by
    cases h with
    | notBegun f =>
      simp only [List.mem_singleton, Exchange.begin.injEq, Except.error.injEq] at hb
      rw [hb]
      exact ⟨rfl, rfl⟩
    | committed h | notCommitted h f | refused h result | failed h result => simp [mem_session] at hb
  ends := h.ends_once hw
  succeeds := h.isOk_iff
  uncommitted hc := by
    cases h with
    | notCommitted h f =>
      simp only [mem_session, Exchange.commit.injEq, Except.error.injEq, reduceCtorEq, and_false,
        exists_false, false_or] at hc
      rw [hc]
    | notBegun f => simp at hc
    | committed h | refused h result | failed h result => simp [mem_session] at hc
  original := h.original_error hw

end Backend.Conducted

namespace Shop

variable {shop : Shop} {request : OrderRequest} {plan : Plan} {orderId : String}

/-- An order for a plan that is not on sale is refused before anything else. -/
def ready (shop : Shop) (request : OrderRequest) : Except Failure Unit :=
  match shop.catalogue.require request.planId with
  | .ok _ => .ok ()
  | .error refusal => .error (.refused refusal)

/-- The rules decide on an order by the plan and the membership that was found. -/
def Decides (shop : Shop) (request : OrderRequest) (calls : List Call) (v : Except Failure OrderKind) :
    Prop :=
  ∃ plan stored, shop.catalogue.require request.planId = .ok plan ∧
    ⟨.retrieveMember request.reader, .ok stored⟩ ∈ calls ∧
    v = (shop.policy.check ⟨request.reader, plan, request.paymentMethod,
      stored.getD (Membership.zero request.reader), request.now⟩).mapError .refused

theorem neverRefuses_walletWork (reader : Reader) (now : Instant) (kind : OrderKind) :
    (walletWork reader now kind).NeverRefuses := by
  cases kind with
  | create => trivial
  | renew => trivial
  | upgrade => exact (Work.neverRefuses_ask _).bind fun _ => trivial

/-- An order is refused, if at all, right after the membership has been read. -/
theorem exists_orderWork_eq (shop : Shop) (request : OrderRequest) (plan : Plan) (orderId : String) :
    ∃ write : Option Membership → OrderKind → Work Failure Draft,
      (∀ stored kind, (write stored kind).NeverRefuses) ∧
      shop.orderWork request plan orderId = .step (.retrieveMember request.reader) fun stored =>
        (Work.ofExcept ((shop.policy.check ⟨request.reader, plan, request.paymentMethod,
          stored.getD (Membership.zero request.reader), request.now⟩).mapError .refused)).bind
            (write stored) := by
  refine ⟨_, ?_, rfl⟩
  intro stored kind
  apply (neverRefuses_walletWork request.reader request.now kind).bind
  intro wallet
  apply (Work.neverRefuses_ask _).bind
  intro _
  split
  · trivial
  · exact (Work.neverRefuses_ask _).bind fun _ => trivial

theorem follows_orderWork (hs : shop.catalogue.require request.planId = .ok plan) :
    (shop.orderWork request plan orderId).Follows (shop.Decides request) := by
  obtain ⟨write, hwrite, heq⟩ := exists_orderWork_eq shop request plan orderId
  rw [heq]
  constructor
  · intro calls draft h
    cases h with
    | @answered _ _ stored calls _ rest =>
      rcases rest.of_ofExcept_bind (hwrite stored) with ⟨e, _, _, he⟩ | ⟨kind, hkind, _⟩
      · cases he
      · exact ⟨kind, plan, stored, hs, by simp, hkind.symm⟩
  · intro calls e h v
    cases h with
    | @answered _ _ stored calls _ rest =>
      rcases rest.of_ofExcept_bind (hwrite stored) with ⟨f, hf, rfl, he⟩ | ⟨_, _, hne⟩
      · obtain rfl := Ending.refused.inj he
        constructor
        · rintro ⟨p, found, hp, hfound, rfl⟩
          obtain rfl : plan = p := Except.ok.inj (hs.symm.trans hp)
          obtain rfl : found = stored := by simpa using hfound
          exact hf
        · rintro rfl
          exact ⟨plan, stored, hs, by simp, hf.symm⟩
      · exact absurd rfl (hne e)

end Shop

namespace Settlement

variable {payment : Payment} {fresh : FreshIds}

/-- The rules decide on a payment by the order and the membership that were found. -/
def Decides (payment : Payment) (fresh : FreshIds) (calls : List Call) (v : Except Rejection Confirmation) :
    Prop :=
  (⟨.retrieveOrder payment.orderId, .ok none⟩ ∈ calls ∧ v = .error (.orderNotFound payment.orderId)) ∨
    ∃ order stored, ⟨.retrieveOrder payment.orderId, .ok (some order)⟩ ∈ calls ∧
      ⟨.retrieveMember order.reader, .ok stored⟩ ∈ calls ∧
      v = Confirmation.build payment order (stored.getD (Membership.zero order.reader)) fresh

theorem neverRefuses_saveMember (stored : Option Membership) (member : Membership) :
    (saveMember stored member).NeverRefuses := by
  cases stored with
  | none => exact Work.neverRefuses_ask _
  | some _ => exact Work.neverRefuses_ask _

theorem neverRefuses_consumeDraws (order : Order) (payment : Payment) :
    (consumeDraws order payment).NeverRefuses := by
  unfold consumeDraws
  split
  · exact Work.neverRefuses_ask _
  · trivial
  · trivial

/-- A payment is rejected, if at all, right after its order and the membership have been read. -/
theorem exists_work_eq (payment : Payment) (fresh : FreshIds) :
    ∃ write : Order → Option Membership → Confirmation → Work Rejection Settlement,
      (∀ order stored c, (write order stored c).NeverRefuses) ∧
      work payment fresh = .step (.retrieveOrder payment.orderId) fun
        | none => .refuse (.orderNotFound payment.orderId)
        | some order => .step (.retrieveMember order.reader) fun stored =>
          (Work.ofExcept (Confirmation.build payment order
            (stored.getD (Membership.zero order.reader)) fresh)).bind (write order stored) := by
  refine ⟨fun order stored c => (Work.ask (.updateConfirmedOrder c.order)).bind fun _ =>
    (saveMember stored c.membership).bind fun _ =>
      (consumeDraws order payment).bind fun consumed => .done ⟨c, consumed⟩, ?_, ?_⟩
  case refine_2 =>
    apply congrArg (Work.step _)
    funext found
    cases found <;> rfl
  intro order stored c
  apply (Work.neverRefuses_ask _).bind
  intro _
  apply (neverRefuses_saveMember stored c.membership).bind
  intro _
  exact (neverRefuses_consumeDraws order payment).bind fun _ => trivial

theorem follows_work (payment : Payment) (fresh : FreshIds) :
    (work payment fresh).Follows (Decides payment fresh) := by
  obtain ⟨write, hwrite, heq⟩ := exists_work_eq payment fresh
  rw [heq]
  constructor
  · intro calls s h
    cases h with
    | @answered _ _ found calls _ rest =>
      cases found with
      | none => cases rest
      | some order =>
        cases rest with
        | @answered _ _ stored calls _ rest =>
          rcases rest.of_ofExcept_bind (hwrite order stored) with ⟨e, _, _, he⟩ | ⟨c, hc, _⟩
          · cases he
          · exact ⟨c, .inr ⟨order, stored, by simp, by simp, hc.symm⟩⟩
  · intro calls e h v
    cases h with
    | @answered _ _ found calls _ rest =>
      cases found with
      | none =>
        cases rest with
        | refused _ => simp [Decides]
      | some order =>
        cases rest with
        | @answered _ _ stored calls _ rest =>
          rcases rest.of_ofExcept_bind (hwrite order stored) with ⟨r, hr, rfl, he⟩ | ⟨_, _, hne⟩
          · obtain rfl := Ending.refused.inj he
            constructor
            · rintro (⟨hnone, _⟩ | ⟨o, m, ho, hm, rfl⟩)
              · simp at hnone
              · obtain rfl : o = order := by simpa using ho
                obtain rfl : m = stored := by simpa using hm
                exact hr
            · rintro rfl
              exact .inr ⟨order, stored, by simp, by simp, hr.symm⟩
          · exact absurd rfl (hne e)

end Settlement

namespace Ledger

variable {σ τ : Type}

/-- The same ledger, with an empty log of what its store is asked for. -/
def logged (l : Ledger σ τ) : Ledger (σ × List Exchange) τ where
  shop := l.shop
  backend := l.backend.logged
  store := (l.store, [])
  outbox := l.outbox
  record := l.record

/-- What the store was asked for since the log was begun. -/
def log (l : Ledger (σ × List Exchange) τ) : List Exchange := l.store.2

theorem createOrder_disciplined (l : Ledger σ τ) (request : OrderRequest) (orderId : String) :
    let r := l.logged.createOrder request orderId
    r.1 = (l.createOrder request orderId).1 ∧ r.2.store.1 = (l.createOrder request orderId).2.store ∧
      Disciplined id (l.shop.ready request) (l.shop.Decides request) r.2.log r.1 := by
  simp only [createOrder, logged, Shop.ready]
  cases hs : l.shop.catalogue.require request.planId with
  | error refusal =>
    refine ⟨rfl, rfl, ?_⟩
    constructor <;> simp [log, session, Except.isOk, Except.toBool]
  | ok plan =>
    obtain ⟨log, hc, ht⟩ :=
      l.backend.transact_logged id (l.shop.orderWork request plan orderId) l.store []
    have hd := hc.disciplined (Shop.follows_orderWork hs)
    simp only [ht]
    generalize l.backend.transact id (l.shop.orderWork request plan orderId) l.store = r at hd ⊢
    rcases r with ⟨_ | _, s⟩
    · exact ⟨rfl, rfl, hd⟩
    · exact ⟨rfl, rfl, hd⟩

theorem confirmPayment_disciplined (l : Ledger σ τ) (payment : Payment) (fresh : FreshIds) :
    let r := l.logged.confirmPayment payment fresh
    r.1 = (l.confirmPayment payment fresh).1 ∧ r.2.store.1 = (l.confirmPayment payment fresh).2.store ∧
      Disciplined Rejection.ofFailure (.ok ()) (Settlement.Decides payment fresh) r.2.log r.1 := by
  obtain ⟨log, hc, ht⟩ :=
    l.backend.transact_logged Rejection.ofFailure (Settlement.work payment fresh) l.store []
  have hd := (hc.disciplined (Settlement.follows_work payment fresh)).map (·.confirmation)
  simp only [confirmPayment, logged, ht]
  generalize l.backend.transact Rejection.ofFailure (Settlement.work payment fresh) l.store = r at hd ⊢
  rcases r with ⟨_ | s, store⟩
  · exact ⟨rfl, rfl, hd⟩
  · exact ⟨rfl, rfl, hd⟩

/-- Over any store whatever it answers, both operations keep to the discipline. Over the store in memory one
that fails leaves the tables as they were, whichever calls are made to fail. -/
theorem transactions_disciplined :
    (∀ {σ τ : Type} (l : Ledger σ τ) (request : OrderRequest) (orderId : String),
      let r := l.logged.createOrder request orderId
      r.1 = (l.createOrder request orderId).1 ∧ r.2.store.1 = (l.createOrder request orderId).2.store ∧
        Disciplined id (l.shop.ready request) (l.shop.Decides request) r.2.log r.1) ∧
    (∀ {σ τ : Type} (l : Ledger σ τ) (payment : Payment) (fresh : FreshIds),
      let r := l.logged.confirmPayment payment fresh
      r.1 = (l.confirmPayment payment fresh).1 ∧
        r.2.store.1 = (l.confirmPayment payment fresh).2.store ∧
        Disciplined Rejection.ofFailure (.ok ()) (Settlement.Decides payment fresh) r.2.log r.1) ∧
    ∀ l : MemoryLedger, l.backend = MemoryStore.backend →
      (∀ request orderId, (l.createOrder request orderId).1.isOk = false →
        (l.createOrder request orderId).2.tables = l.tables) ∧
      ∀ payment fresh, (l.confirmPayment payment fresh).1.isOk = false →
        (l.confirmPayment payment fresh).2.tables = l.tables := by
  refine ⟨createOrder_disciplined, confirmPayment_disciplined, ?_⟩
  intro l hb
  constructor
  · intro request orderId hr
    cases h : (l.createOrder request orderId).1 with
    | error f => exact createOrder_error hb h
    | ok draft =>
      rw [h] at hr
      cases hr
  · intro payment fresh hr
    cases h : (l.confirmPayment payment fresh).1 with
    | error r => exact confirmPayment_error hb h
    | ok c =>
      rw [h] at hr
      cases hr

/-- A payment whose last write is made to fail. -/
theorem failed_write_rolled_back :
    let l := (opened .standard Samples.catalogue).after
      [Samples.order "A" "standard_year" 0, .failNext .createMember 1]
    let payment : Payment := ⟨"A", 25800, (Samples.day 0).midnight⟩
    let fresh : FreshIds := ⟨"mmb_1", "snp_1"⟩
    (l.confirmPayment payment fresh).2.tables = l.tables ∧
      ∃ calls result, (l.logged.confirmPayment payment fresh).2.log = session calls (.rollback result) ∧
        ∃ call ∈ calls, ∃ f, call.answer = .error f ∧
          (l.confirmPayment payment fresh).1 = .error (.ofFailure f) := by
  intro l payment fresh
  obtain ⟨_, hconfirm, hmemory⟩ := transactions_disciplined
  obtain ⟨hreply, _, hd⟩ := hconfirm l payment fresh
  have hfails : (l.confirmPayment payment fresh).1.isOk = false := by decide +kernel
  have hkept := (hmemory l rfl).2 payment fresh hfails
  obtain ⟨calls, result, hl⟩ := hd.eq_session_of_rollback (by decide +kernel)
  rcases hd.original hl with ⟨call, hm, f, hf, he⟩ | ⟨hok, _⟩
  · exact ⟨hkept, calls, result, hl, call, hm, f, hf, hreply.symm.trans he⟩
  · -- The last call has failed, so not all have succeeded.
    have hfailed : (l.logged.confirmPayment payment fresh).2.log.any
        (fun | .perform c => !c.isOk | _ => false) = true := by decide +kernel
    obtain ⟨x, hx, hn⟩ := List.any_eq_true.mp hfailed
    rw [hl, mem_session] at hx
    rcases hx with rfl | ⟨c, hc, rfl⟩ | rfl
    · cases hn
    · simp [hok c hc] at hn
    · cases hn

end Ledger

end Subscriptions
