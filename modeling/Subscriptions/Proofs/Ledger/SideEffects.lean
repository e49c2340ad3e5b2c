import Subscriptions.Proofs.Ledger.DraftDraws
import Subscriptions.Proofs.Ledger.History
import Subscriptions.Proofs.Ledger.Overwritten

/-!
What requests leave outside the tables. The record and the outbox follow what has been committed: a request that fails
starts nothing, and one that succeeds is told once, with the rows as they are stored. Only of a membership of somebody
else that gives way no copy is made.
-/

namespace Subscriptions

set_option autoImplicit false

/-- From the first state to the second just these events went on record, and just these tasks to the outbox. -/
structure Ledger.Emits {σ τ : Type} (l l' : Ledger σ τ) (events : List AuditEvent) (tasks : List Task) : Prop where
  record : l'.record = l.record ++ events
  outbox : l'.outbox = tasks.foldl Outbox.dispatch l.outbox

/-- The copy that is handed on, which is none where there was no membership. -/
def Confirmation.copy? (c : Confirmation) : Option Snapshot :=
  if c.snapshot.isEmpty then none else some c.snapshot

/-- What is told of a payment is what is stored: its copy is of the membership that was found, its notice has the new
rows, and the draws that it has consumed are those that were drafted with the order. -/
structure Ledger.Announces (l l' : MemoryLedger) (orderId : String) (draft : Draft) (c : Confirmation) : Prop where
  order : l'.tables.order? orderId = some c.order
  member : l'.tables.member? c.order.reader = some c.membership
  draws : l.tables.drawsFor orderId = draft.draws
  copied : ∀ m, c.copy?.map (·.membership) = some m ↔
    m.isZero = false ∧ l.tables.member? c.order.reader = some m
  named : ∀ s ∈ c.copy?, s.orderId = some orderId
  emits : l.Emits l'
    (.paymentConfirmed orderId c.order.reader.recordId c.order.kind c.order.amount (c.membership.id.getD "") ::
      if draft.draws.isEmpty then []
      else [.prorationConsumed orderId draft.draws.length draft.appliedBalance])
    (c.copy?.toList.map Task.backupSnapshot ++ [Task.notifyConfirmation c])

namespace Settlement

variable {c : Confirmation} {draws : List Draw} {moment : Instant}

theorem tasks_eq (s : Settlement) :
    s.tasks = s.confirmation.copy?.toList.map Task.backupSnapshot ++ [Task.notifyConfirmation s.confirmation] := by
  unfold tasks Confirmation.copy?
  split <;> rfl

theorem events_of_consume :
    (Settlement.mk c (draws.map (Tables.consume moment))).events =
      .paymentConfirmed c.order.id c.order.reader.recordId c.order.kind c.order.amount (c.membership.id.getD "") ::
        if draws.isEmpty then []
        else [.prorationConsumed c.order.id draws.length (sumCents (draws.map (·.balance)))] := by
  simp only [events, List.isEmpty_map, List.length_map, List.map_map]
  split <;> rfl

end Settlement

namespace Settled

variable {payment : Payment} {fresh : FreshIds} {order : Order} {t t' : Tables} {c : Confirmation}

theorem copied_iff (h : Settled payment fresh order t c t') (m : Membership) :
    c.copy?.map (·.membership) = some m ↔ m.isZero = false ∧ t.member? order.reader = some m := by
  simp only [Confirmation.copy?, h.made.snapshot, Snapshot.isEmpty, Snapshot.withOrder, Snapshot.take,
    Tables.memberOf]
  cases t.member? order.reader with
  | none => simp [Membership.isZero, Membership.zero]
  | some old =>
    cases hz : old.isZero with
    | true =>
      simp only [Option.getD_some, hz, if_true, Option.map_none, reduceCtorEq, false_iff, not_and]
      rintro hm ⟨⟩
      rw [hz] at hm
      cases hm
    | false =>
      simp only [Option.getD_some, hz, Bool.false_eq_true, if_false, Option.map_some, Option.some.injEq]
      constructor
      · rintro rfl
        exact ⟨hz, rfl⟩
      · exact fun h => h.2

theorem orderId_of_copy (h : Settled payment fresh order t c t') {s : Snapshot} (hs : s ∈ c.copy?) :
    s.orderId = some payment.orderId := by
  unfold Confirmation.copy? at hs
  split at hs
  · cases hs
  · obtain rfl := Option.some.inj hs
    rw [h.made.snapshot, h.applies.named]
    rfl

/-- The memberships that a payment writes over are told apart by copies exactly if no stranger's is among them. -/
theorem copied_iff_overwritten (h : Settled payment fresh order t c t') (hr : order.reader.isEmpty = false)
    (hn : 1 ≤ order.cycleCount) (hp : order.kind = .upgrade → order.tier = .premium)
    (hstored : ∀ m ∈ t.members.values, m.isZero = false) :
    (∀ m, c.copy?.map (·.membership) = some m ↔ m.isZero = false ∧ t.Overwritten t' m) ↔
      ¬t.DisplacesStranger order.reader := by
  constructor
  · intro hall hd
    obtain ⟨m, hm, hgone, hother⟩ := h.exists_overwritten hr hd
    have hcopied := (hall m).mpr ⟨hstored m hm, hgone⟩
    exact hother ((h.copied_iff m).mp hcopied).2
  · intro hno m
    have hnew : ∀ old, t.member? order.reader = some old → c.membership ≠ old := by
      intro old hold
      have hmember : t.memberOf order.reader = old := by
        rw [Tables.memberOf, hold]
        rfl
      rw [← hmember]
      exact h.membership_ne hn hp (hmember ▸ hstored old (Tables.mem_values_of_member? hold))
    rw [h.copied_iff, h.overwritten_iff hnew hno]

end Settled

namespace Ledger

section Emissions

variable {σ τ : Type} {l : Ledger σ τ} {request : OrderRequest} {orderId : String} {payment : Payment}
  {fresh : FreshIds}

theorem emits_of_createOrder_error {f : Failure} (h : (l.createOrder request orderId).1 = .error f) :
    l.Emits (l.createOrder request orderId).2 [] [] := by
  unfold createOrder at h ⊢
  split at h
  · exact ⟨(List.append_nil _).symm, rfl⟩
  · split at h
    · exact ⟨(List.append_nil _).symm, rfl⟩
    · cases h

theorem emits_of_createOrder {draft : Draft} (h : (l.createOrder request orderId).1 = .ok draft) :
    l.Emits (l.createOrder request orderId).2 [.orderCreated draft.order.id request.reader.recordId
      draft.order.planId draft.order.kind draft.order.amount] [] := by
  unfold createOrder at h ⊢
  split at h
  · cases h
  · split at h
    · cases h
    · obtain rfl := Except.ok.inj h
      exact ⟨rfl, rfl⟩

theorem emits_of_confirmPayment_error {r : Rejection} (h : (l.confirmPayment payment fresh).1 = .error r) :
    l.Emits (l.confirmPayment payment fresh).2 [.confirmationRejected payment.orderId r.kind r.retry] [] := by
  unfold confirmPayment at h ⊢
  split at h
  · obtain rfl := Except.error.inj h
    exact ⟨rfl, rfl⟩
  · cases h

end Emissions

theorem exists_settled_emits {l : MemoryLedger} {payment : Payment} {fresh : FreshIds} {c : Confirmation}
    (hb : l.backend = MemoryStore.backend) (h : (l.confirmPayment payment fresh).1 = .ok c) :
    ∃ order, Settled payment fresh order l.tables c (l.confirmPayment payment fresh).2.tables ∧
      l.Emits (l.confirmPayment payment fresh).2
        (Settlement.mk c (l.tables.consumedBy order payment.confirmed)).events
        (c.copy?.toList.map Task.backupSnapshot ++ [Task.notifyConfirmation c]) := by
  unfold confirmPayment at h ⊢
  rw [hb] at h ⊢
  rcases MemoryStore.transact_cases Rejection.ofFailure (Settlement.work payment fresh) l.store with
    ⟨op, _, _, ht⟩ | ⟨r, _, ht⟩ | ⟨_, s, t', he, ht⟩
  · simp only [ht] at h
    cases h
  · simp only [ht] at h
    cases h
  · simp only [ht] at h ⊢
    obtain rfl := Except.ok.inj h
    obtain ⟨order, hs, hconsumed⟩ := Settlement.settled_of_eval he
    refine ⟨order, hs, ?_, ?_⟩
    · rw [tables, ← hconsumed]
    · rw [← s.tasks_eq]

theorem announces {l l' : MemoryLedger} {payment : Payment} {fresh : FreshIds} {order : Order} {c : Confirmation}
    {draft : Draft} (hs : Settled payment fresh order l.tables c l'.tables)
    (he : l.Emits l' (Settlement.mk c (l.tables.consumedBy order payment.confirmed)).events
      (c.copy?.toList.map Task.backupSnapshot ++ [Task.notifyConfirmation c]))
    (hreader : order.reader.isEmpty = false) (hdraws : l.tables.drawsFor payment.orderId = draft.draws)
    (hconsumed : l.tables.consumedBy order payment.confirmed =
      draft.draws.map (Tables.consume payment.confirmed)) :
    l.Announces l' payment.orderId draft c := by
  have hid : c.order.id = payment.orderId := hs.id_eq.trans hs.applies.named.symm
  rw [hconsumed, Settlement.events_of_consume, hid] at he
  constructor
  · rw [hs.order?_eq, if_pos rfl]
  · rw [hs.reader_eq]
    exact hs.member?_eq hreader
  · exact hdraws
  · rw [hs.reader_eq]
    exact hs.copied_iff
  · exact fun s => hs.orderId_of_copy
  · exact he

variable {settings : Settings} {catalogue : Catalogue} {commands : List Command}

/-- Every order of a run is well formed as it was made. -/
theorem exists_made {id : String} {o : Order}
    (ho : ((opened settings catalogue).after commands).tables.order? id = some o) :
    ∃ made : Order, made.WellFormed settings.policy ∧ o = made.withConfirmation o := by
  obtain ⟨before, request, rest, draft, _, hok, hkept⟩ := exists_createOrder ho
  obtain ⟨plan, kind, h⟩ := createOrder_ok (backend_after _ before) hok
  rw [shop_after] at h
  refine ⟨draft.order, ?_, hkept⟩
  rw [h.drafted]
  exact (Policy.check_eq_ok_iff.mp h.accepted).wellFormed _ id

theorem isZero_of_stored {m : Membership}
    (hm : m ∈ ((opened settings catalogue).after commands).tables.members.values) : m.isZero = false := by
  obtain ⟨before, payment, fresh, order, c, t', hs, rfl⟩ := exists_settled_membership hm
  obtain ⟨made, hmade, hkept⟩ := exists_made hs.found
  have htier : order.tier = made.tier := by
    rw [hkept]
    rfl
  rw [Membership.isZero, hs.tier_eq, htier]
  exact beq_eq_false_iff_ne.mpr hmade.tier

/-- A request that fails starts no task, and only a rejected payment goes on record, with its reason. An order that is
made is recorded once as it is stored, and a payment that is applied is told as it is stored, with the draws of the
draft. The copy that goes with it is of the membership that was found, so it covers all that is written over if and only
if no stranger's membership gives way. -/
theorem effects_mirror_tables (settings : Settings) (catalogue : Catalogue) (commands : List Command) :
    let first := opened settings catalogue
    let l := first.after commands
    (∀ request orderId,
      let made := l.createOrder request orderId
      (∀ f, made.1 = .error f → made.2.tables = l.tables ∧ l.Emits made.2 [] []) ∧
      ∀ draft, made.1 = .ok draft → made.2.tables.order? orderId = some draft.order ∧
        l.Emits made.2 [.orderCreated orderId draft.order.reader.recordId draft.order.planId draft.order.kind
          draft.order.amount] []) ∧
    ∀ payment fresh,
      let paid := l.confirmPayment payment fresh
      (∀ r, paid.1 = .error r → paid.2.tables = l.tables ∧
        l.Emits paid.2 [.confirmationRejected payment.orderId r.kind r.retry] []) ∧
      ∀ c, paid.1 = .ok c →
        (∃ draft, first.Drafted commands payment.orderId draft) ∧
        (∀ draft, first.Drafted commands payment.orderId draft → l.Announces paid.2 payment.orderId draft c) ∧
        ((∀ m, c.copy?.map (·.membership) = some m ↔ m.isZero = false ∧ l.tables.Overwritten paid.2.tables m) ↔
          ¬l.tables.DisplacesStranger c.order.reader) := by
  intro first l
  have hb : l.backend = MemoryStore.backend := backend_after _ commands
  constructor
  · intro request orderId made
    refine ⟨fun f h => ⟨createOrder_error hb h, emits_of_createOrder_error h⟩, ?_⟩
    intro draft h
    obtain ⟨plan, kind, hp⟩ := createOrder_ok hb h
    have he := emits_of_createOrder h
    rw [hp.id_eq, ← hp.reader_eq] at he
    refine ⟨?_, he⟩
    rw [hp.order?_eq, if_pos rfl]
  · intro payment fresh paid
    refine ⟨fun r h => ⟨confirmPayment_error hb h, emits_of_confirmPayment_error h⟩, ?_⟩
    intro c h
    obtain ⟨order, hs, he⟩ := exists_settled_emits hb h
    have hreader : order.reader.isEmpty = false := (regular_after settings catalogue commands).owned hs.found
    refine ⟨exists_drafted hs.found, ?_, ?_⟩
    · intro draft hd
      obtain ⟨hdraws, hconsumed⟩ := draws_of_drafted hd hs.found hs.applies.unconfirmed payment.confirmed
      exact announces hs he hreader hdraws hconsumed
    · obtain ⟨made, hmade, hkept⟩ := exists_made hs.found
      have hcount : 1 ≤ order.cycleCount := by
        rw [hkept]
        exact hmade.lasting
      have hpremium : order.kind = .upgrade → order.tier = .premium := by
        rw [hkept]
        exact hmade.premium
      rw [hs.reader_eq]
      exact hs.copied_iff_overwritten hreader hcount hpremium fun m hm => isZero_of_stored hm

/-- An upgrade is paid that draws on a year paid before. -/
theorem upgrade_announced :
    let first := opened .standard Samples.catalogue
    let l := first.after (Samples.upgradeMade 0 30)
    let paid := l.confirmPayment ⟨"B", 176100, (Samples.day 30).midnight⟩ ⟨"mmb_2", "snp_2"⟩
    ∃ draft c, paid.1 = .ok c ∧ first.Drafted (Samples.upgradeMade 0 30) "B" draft ∧
      draft.appliedBalance = 23700 ∧ l.Announces paid.2 "B" draft c ∧
      ∀ m, c.copy?.map (·.membership) = some m ↔ m.isZero = false ∧ l.tables.Overwritten paid.2.tables m := by
  intro first l paid
  have hreader : paid.1.toOption.map (·.order.reader) = some (Samples.reader "reader-1") := by decide +kernel
  have hown : ∀ m ∈ l.tables.members.values, m.ids.overlaps (Samples.reader "reader-1") = true := by
    decide +kernel
  obtain ⟨c, hc, hcreader⟩ := exists_eq_ok hreader
  obtain ⟨⟨draft, hdrafted⟩, hannounces, hcopied⟩ :=
    ((effects_mirror_tables .standard Samples.catalogue (Samples.upgradeMade 0 30)).2 _ _).2 c hc
  refine ⟨draft, c, hc, hdrafted, ?_, hannounces draft hdrafted, hcopied.mpr ?_⟩
  · have hdraws := (hannounces draft hdrafted).draws
    rw [Draft.appliedBalance, ← hdraws]
    decide +kernel
  · rintro ⟨key, m, hrow, hother, _⟩
    rw [hcreader, hown m (Table.mem_values_iff.mpr ⟨key, hrow⟩)] at hother
    cases hother

/-- A reader whose account id is the union id of somebody else pays for a first order, and the other's membership is
gone with nothing but the notice of the payment. -/
theorem displaced_without_copy :
    let l := (opened .standard Samples.catalogue).after [Samples.orderFor ⟨none, some "x"⟩ "A" 0,
      Samples.pay "A" 25800 0, Samples.orderFor ⟨some "x", none⟩ "B" 1]
    let paid := l.confirmPayment ⟨"B", 25800, (Samples.day 1).midnight⟩ ⟨"mmb_2", "snp_2"⟩
    paid.1.isOk = true ∧
      (∃ m ∈ l.tables.members.get? "x", m.isZero = false ∧ paid.2.tables.members.get? "x" ≠ some m) ∧
      paid.2.outbox.queue.map (·.name) = l.outbox.queue.map (·.name) ++ ["notify_confirmation"] ∧
      paid.2.outbox.dropped = l.outbox.dropped := by
  decide +kernel

end Ledger

end Subscriptions
