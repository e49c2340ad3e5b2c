import Subscriptions.Proofs.Ledger.Run
import Subscriptions.Proofs.Policy

/-!
An order that was made can be paid. If its payment comes next, with the right amount and at whatever instant, the
only thing that can be in its way is a period that runs beyond all dates.
-/

namespace Subscriptions

set_option autoImplicit false

/-- What was asked for has been paid: the order is stored with its period, the reader has what the plan sells, and
all that the order draws on has been used up. -/
structure Tables.Fulfils (t : Tables) (request : OrderRequest) (plan : Plan) (draft : Draft) (payment : Payment)
    (first finish : Date) (c : Confirmation) : Prop where
  order : t.order? payment.orderId = some c.order
  confirmed : c.order = { draft.order with
    confirmed := some payment.confirmed
    startDate := some first
    endDate := some finish
    snapshotId := c.order.snapshotId }
  member : t.member? request.reader = some c.membership
  tier : c.membership.tier = plan.tier
  cycle : c.membership.cycle = plan.cycle
  draws : ∀ d ∈ draft.draws, Tables.consume payment.confirmed d ∈ t.draws

namespace Placed

variable {shop : Shop} {request : OrderRequest} {orderId : String} {plan : Plan} {kind : OrderKind}
  {t t' : Tables} {draft : Draft}

theorem order?_self (h : Placed shop request orderId plan kind t draft t') :
    t'.order? orderId = some draft.order := by
  rw [h.order?_eq, if_pos rfl]

theorem reader_isEmpty (h : Placed shop request orderId plan kind t draft t') :
    draft.order.reader.isEmpty = false := by
  rw [h.reader_eq]
  exact (Policy.check_eq_ok_iff.mp h.accepted).reader

theorem memberOf_eq (h : Placed shop request orderId plan kind t draft t') :
    t'.memberOf draft.order.reader = t.memberOf request.reader := by
  rw [h.reader_eq]
  exact Tables.memberOf_congr h.members_eq

/-- An upgrade is made for a standard membership only, so the next payment finds no premium one. -/
theorem no_duplicate (h : Placed shop request orderId plan kind t draft t')
    (hk : draft.order.kind = .upgrade) : (t'.memberOf draft.order.reader).tier ≠ .premium := by
  have haccepted := (Policy.check_eq_ok_iff.mp h.accepted).kind
  rw [← h.kind_eq, hk] at haccepted
  have hstandard : (t.memberOf request.reader).tier = .standard :=
    (Tier.canUpgradeTo_iff.mp (Policy.canUpgradeTo_of_upgrade haccepted)).1
  rw [h.memberOf_eq, hstandard]
  intro hp
  cases hp

theorem applies (h : Placed shop request orderId plan kind t draft t') {payment : Payment}
    (hid : payment.orderId = orderId) (hamount : draft.order.amount = payment.amountCents) {finish : Date}
    (hend : draft.order.periodEnd (Confirmation.startDate draft.order (t.memberOf request.reader)
      payment.confirmed.date) = some finish) :
    payment.Applies draft.order (t'.memberOf draft.order.reader) where
  named := hid.trans h.id_eq.symm
  unconfirmed := h.confirmed_eq
  amount := hamount
  noDuplicate hk hp := absurd hp (h.no_duplicate hk)
  ends := ⟨finish, by rw [h.memberOf_eq]; exact hend⟩

theorem build_of_endless (h : Placed shop request orderId plan kind t draft t') {payment : Payment}
    (hid : payment.orderId = orderId) (hamount : draft.order.amount = payment.amountCents)
    (hend : draft.order.periodEnd (Confirmation.startDate draft.order (t.memberOf request.reader)
      payment.confirmed.date) = none) (fresh : FreshIds) :
    Confirmation.build payment draft.order (t'.memberOf draft.order.reader) fresh =
      .error (.invalidCycle orderId) := by
  rw [← h.memberOf_eq] at hend
  have hbuild : Confirmation.build payment draft.order (t'.memberOf draft.order.reader) fresh =
      .error (.invalidCycle draft.order.id) :=
    Confirmation.build_of_endless (hid.trans h.id_eq.symm) h.confirmed_eq hamount
      (fun hk hp => absurd hp (h.no_duplicate hk)) hend
  rw [hbuild, h.id_eq]

/-- A payment that is applied right after the order was made leaves nothing to be wished for. -/
theorem fulfils (h : Placed shop request orderId plan kind t draft t') {payment : Payment} {fresh : FreshIds}
    {order : Order} {c : Confirmation} {t'' : Tables} (hs : Settled payment fresh order t' c t'')
    (hid : payment.orderId = orderId) {finish : Date}
    (hend : draft.order.periodEnd (Confirmation.startDate draft.order (t.memberOf request.reader)
      payment.confirmed.date) = some finish) :
    t''.Fulfils request plan draft payment
      (Confirmation.startDate draft.order (t.memberOf request.reader) payment.confirmed.date) finish c := by
  obtain rfl : order = draft.order := by
    have hfound := hs.found
    rw [hid, h.order?_self] at hfound
    exact (Option.some.inj hfound).symm
  have hstart := hs.made.starts
  have hfinish := hs.made.ends
  rw [h.memberOf_eq] at hstart hfinish
  constructor
  · rw [hs.order?_eq, if_pos rfl]
  · rw [← hs.made.confirmed, ← hstart, ← hend, ← hfinish]
    exact hs.made.kept
  · rw [← h.reader_eq]
    exact hs.member?_eq h.reader_isEmpty
  · rw [hs.tier_eq]
    exact h.tier_eq
  · rw [hs.made.membership, hs.made.kept, h.drafted]
    rfl
  · intro d hd
    obtain ⟨rfl, s, _, _, rfl⟩ := h.mem_draws hd
    rw [hs.draws, h.draws_eq]
    refine List.mem_map.mpr ⟨_, List.mem_append_right _ hd, ?_⟩
    simp [Draw.afterPayment, Tables.isPending, Draw.isConsumed, h.kind_eq, h.id_eq]

end Placed

namespace Ledger

variable {l : MemoryLedger} {request : OrderRequest} {orderId : String} {draft : Draft}

theorem faults_of_createOrder (hb : l.backend = MemoryStore.backend)
    (h : (l.createOrder request orderId).1 = .ok draft) :
    (l.createOrder request orderId).2.store.faults = l.store.faults := by
  unfold createOrder at h ⊢
  rw [hb] at h ⊢
  cases hs : l.shop.catalogue.require request.planId with
  | error refusal => rfl
  | ok plan =>
    rw [hs] at h
    rcases MemoryStore.transact_cases id (l.shop.orderWork request plan orderId) l.store with
      ⟨op, _, _, ht⟩ | ⟨f, _, ht⟩ | ⟨_, d, t', _, ht⟩
    · simp only [ht] at h
      cases h
    · simp only [ht] at h
      cases h
    · simp only [ht]

/-- The payment of an order that was made last is applied, or its period has no end. -/
theorem confirmPayment_of_placed {shop : Shop} {plan : Plan} {kind : OrderKind} {t : Tables}
    (hb : l.backend = MemoryStore.backend) (hcalm : ∀ op, l.store.faults op = 0)
    (h : Placed shop request orderId plan kind t draft l.tables) (payment : Payment)
    (hid : payment.orderId = orderId) (hamount : draft.order.amount = payment.amountCents) (fresh : FreshIds) :
    let first := Confirmation.startDate draft.order (t.memberOf request.reader) payment.confirmed.date
    (draft.order.periodEnd first = none ∧
      (l.confirmPayment payment fresh).1 = .error (.invalidCycle orderId)) ∨
    ∃ finish c, draft.order.periodEnd first = some finish ∧ (l.confirmPayment payment fresh).1 = .ok c ∧
      (l.confirmPayment payment fresh).2.tables.Fulfils request plan draft payment first finish c := by
  intro first
  have hfound : l.tables.order? payment.orderId = some draft.order := by
    rw [hid]
    exact h.order?_self
  cases hend : draft.order.periodEnd first with
  | none =>
    have hwork : (Settlement.work payment fresh).eval Rejection.ofFailure l.tables =
        .error (.invalidCycle orderId) :=
      Settlement.eval_work_of_rejected hfound (h.build_of_endless hid hamount hend fresh)
    rcases confirmPayment_cases hb payment fresh with
      ⟨op, hf, _⟩ | ⟨r, hr, hpaid, _⟩ | ⟨_, s, t', hok, _⟩
    · rw [hcalm op] at hf
      exact absurd hf (Nat.lt_irrefl 0)
    · obtain rfl : r = .invalidCycle orderId := Except.error.inj (hr.symm.trans hwork)
      exact .inl ⟨rfl, hpaid⟩
    · rw [hok] at hwork
      cases hwork
  | some finish =>
    have hreader : draft.order.reader.isEmpty = false := h.reader_isEmpty
    have hok : (l.confirmPayment payment fresh).1.isOk = true :=
      (confirmPayment_isOk_iff hb hfound hreader).mpr ⟨h.applies hid hamount hend, fun op _ => hcalm op⟩
    cases hpaid : (l.confirmPayment payment fresh).1 with
    | error r =>
      rw [hpaid] at hok
      cases hok
    | ok c =>
      obtain ⟨_, order, hs⟩ := confirmPayment_ok hb hpaid
      exact .inr ⟨finish, c, rfl, rfl, h.fulfils hs hid hend⟩

/-- Whatever is stored, and whenever the payment comes: if nothing is made to fail, an order that has just been made
can be paid, or its period has no end. There is no other reason against its payment. -/
theorem accepted_order_payable (settings : Settings) (catalogue : Catalogue) (store : MemoryStore)
    (request : OrderRequest) (orderId : String) (draft : Draft) (moment : Instant) (fresh : FreshIds) :
    let l := start settings catalogue MemoryStore.backend store
    let made := l.createOrder request orderId
    let payment : Payment := ⟨orderId, draft.order.amount, moment⟩
    let paid := made.2.confirmPayment payment fresh
    let first := Confirmation.startDate draft.order (l.tables.memberOf request.reader) moment.date
    (∀ op, store.faults op = 0) → made.1 = .ok draft →
      (draft.order.periodEnd first = none ∧ paid.1 = .error (.invalidCycle orderId)) ∨
      ∃ finish plan c, draft.order.periodEnd first = some finish ∧ paid.1 = .ok c ∧
        catalogue.get? request.planId = some plan ∧
        paid.2.tables.Fulfils request plan draft payment first finish c := by
  intro l made payment paid first hcalm hmade
  have hb : made.2.backend = MemoryStore.backend := (execute_fixed l (.create request orderId)).1
  have hfaults : made.2.store.faults = store.faults := faults_of_createOrder (l := l) rfl hmade
  obtain ⟨plan, kind, h⟩ := createOrder_ok (l := l) rfl hmade
  rcases confirmPayment_of_placed hb (hfaults ▸ hcalm) h payment rfl rfl fresh with
    hendless | ⟨finish, c, hend, hpaid, hfulfils⟩
  · exact .inl hendless
  · exact .inr ⟨finish, plan, c, hend, hpaid, h.onSale, hfulfils⟩

/-- An upgrade that draws on a year paid before is paid, with an instant that lies before it was made. -/
theorem upgrade_payable_early :
    let store := ((opened .standard Samples.catalogue).after
      [Samples.order "A" "standard_year" 0, Samples.pay "A" 25800 0]).store
    let l := start .standard Samples.catalogue MemoryStore.backend store
    let request : OrderRequest :=
      ⟨Samples.reader "reader-1", "premium_year", .alipay, (Samples.day 30).midnight⟩
    let made := l.createOrder request "B"
    ∃ draft, made.1 = .ok draft ∧ draft.order.kind = .upgrade ∧ draft.draws.length = 1 ∧
      let payment : Payment := ⟨"B", draft.order.amount, (Samples.day 10).midnight⟩
      let paid := made.2.confirmPayment payment ⟨"mmb_2", "snp_2"⟩
      let first := Confirmation.startDate draft.order (l.tables.memberOf request.reader) (Samples.day 10)
      ∃ finish plan c, draft.order.periodEnd first = some finish ∧ paid.1 = .ok c ∧
        Samples.catalogue.get? "premium_year" = some plan ∧
        paid.2.tables.Fulfils request plan draft payment first finish c := by
  intro store l request made
  have hcalm : store.faults.total = 0 := by decide +kernel
  have hkind : made.1.toOption.map (·.order.kind) = some .upgrade := by decide +kernel
  have hdrawn : made.1.toOption.map (·.draws.length) = some 1 := by decide +kernel
  have hlasts : (made.1.toOption.bind fun d => d.order.periodEnd (Confirmation.startDate d.order
    (l.tables.memberOf request.reader) (Samples.day 10))) ≠ none := by decide +kernel
  obtain ⟨draft, hmade, hupgrade⟩ := exists_eq_ok hkind
  rw [hmade] at hdrawn hlasts
  refine ⟨draft, hmade, hupgrade, Option.some.inj hdrawn, ?_⟩
  rcases accepted_order_payable .standard Samples.catalogue store request "B" draft (Samples.day 10).midnight
    ⟨"mmb_2", "snp_2"⟩ (Faults.eq_zero_of_total hcalm) hmade with ⟨hend, _⟩ | hpaid
  · rw [Date.date_midnight] at hend
    exact absurd hend hlasts
  · rw [Date.date_midnight] at hpaid
    exact hpaid

end Ledger

end Subscriptions
