import Subscriptions.Proofs.Ledger.Accounted
import Subscriptions.Proofs.Ledger.Origin

/-!
The draws for an order. They are saved as its draft has them, and stay so until the order is paid; then it is just these
that are consumed.
-/

namespace Subscriptions

set_option autoImplicit false

def Tables.drawsFor (t : Tables) (orderId : String) : List Draw :=
  t.draws.filter fun d => d.upgradeOrderId == orderId

/-- The order is stored as it was drafted but for its confirmation, and while it has none, so are its draws. -/
def Tables.Holds (t : Tables) (draft : Draft) : Prop :=
  ∃ o, t.order? draft.order.id = some o ∧ o = draft.order.withConfirmation o ∧
    (o.confirmed = none → t.drawsFor draft.order.id = draft.draws)

/-- The order was made in the run, and this is the draft that was returned. -/
def Ledger.Drafted (l : MemoryLedger) (commands : List Command) (orderId : String) (draft : Draft) : Prop :=
  ∃ before request rest, commands = before ++ .create request orderId :: rest ∧
    ((l.after before).createOrder request orderId).1 = .ok draft

/-- Draws that are all open and all of an upgrade are consumed with it. -/
theorem Tables.consumedBy_eq {t : Tables} {order : Order} {draws : List Draw} (h : t.drawsFor order.id = draws)
    (hopen : ∀ d ∈ draws, d.consumed = none) (hk : order.kind ≠ .upgrade → draws = []) (moment : Instant) :
    t.consumedBy order moment = draws.map (consume moment) := by
  have hpending : t.draws.filter (isPending order.id) = draws := by
    have hsplit : isPending order.id = fun d => !d.isConsumed && d.upgradeOrderId == order.id := by
      funext d
      exact Bool.and_comm _ _
    rw [hsplit, ← List.filter_filter, ← drawsFor, h, List.filter_eq_self]
    intro d hd
    simp [Draw.isConsumed, hopen d hd]
  cases hkind : order.kind with
  | upgrade =>
    simp only [consumedBy, hkind, consumeDraws, hpending]
  | create | renew =>
    simp [consumedBy, hkind, hk]

namespace Placed

variable {shop : Shop} {request : OrderRequest} {orderId : String} {plan : Plan} {kind : OrderKind}
  {t t' : Tables} {draft : Draft}

theorem drawsFor_self (h : Placed shop request orderId plan kind t draft t') (ht : t.Accounted) :
    t'.drawsFor orderId = draft.draws := by
  have hold : t.draws.filter (fun d => d.upgradeOrderId == orderId) = [] := by
    rw [List.filter_eq_nil_iff]
    intro d hd
    simpa using h.upgradeOrderId_ne ht hd
  have hnew : draft.draws.filter (fun d => d.upgradeOrderId == orderId) = draft.draws := by
    rw [List.filter_eq_self]
    intro d hd
    simpa using h.upgradeOrderId_eq hd
  rw [Tables.drawsFor, h.draws_eq, List.filter_append, hold, hnew, List.nil_append]

theorem drawsFor_of_ne (h : Placed shop request orderId plan kind t draft t') {id : String} (hne : id ≠ orderId) :
    t'.drawsFor id = t.drawsFor id := by
  have hnew : draft.draws.filter (fun d => d.upgradeOrderId == id) = [] := by
    rw [List.filter_eq_nil_iff]
    intro d hd
    simpa [h.upgradeOrderId_eq hd] using hne.symm
  rw [Tables.drawsFor, h.draws_eq, List.filter_append, hnew, List.append_nil]
  rfl

theorem consumed_of_mem_draws (h : Placed shop request orderId plan kind t draft t') {d : Draw}
    (hd : d ∈ draft.draws) : d.consumed = none := by
  obtain ⟨_, s, _, _, rfl⟩ := h.mem_draws hd
  rfl

theorem draws_eq_nil (h : Placed shop request orderId plan kind t draft t') (hk : draft.order.kind ≠ .upgrade) :
    draft.draws = [] := by
  rw [List.eq_nil_iff_forall_not_mem]
  intro d hd
  exact hk (h.kind_eq.trans (h.mem_draws hd).1)

theorem holds (h : Placed shop request orderId plan kind t draft t') (ht : t.Accounted) : t'.Holds draft := by
  refine ⟨draft.order, ?_, rfl, fun _ => ?_⟩
  · rw [h.order?_eq, if_pos h.id_eq]
  · rw [h.id_eq]
    exact h.drawsFor_self ht

theorem holds_kept {made : Draft} (h : Placed shop request orderId plan kind t draft t') (ht : t.Holds made) :
    t'.Holds made := by
  obtain ⟨o, ho, hkept, hdraws⟩ := ht
  obtain ⟨hne, ho'⟩ := h.order?_kept ho
  refine ⟨o, ho', hkept, fun hopen => ?_⟩
  rw [h.drawsFor_of_ne hne]
  exact hdraws hopen

end Placed

namespace Settled

variable {payment : Payment} {fresh : FreshIds} {order : Order} {t t' : Tables} {c : Confirmation}

theorem drawsFor_of_ne (h : Settled payment fresh order t c t') {id : String} (hne : id ≠ order.id) :
    t'.drawsFor id = t.drawsFor id := by
  have hown : (t.draws.map (Draw.afterPayment order payment.confirmed)).filter (fun d => d.upgradeOrderId == id) =
      (t.drawsFor id).map (Draw.afterPayment order payment.confirmed) := by
    simp only [Tables.drawsFor, List.filter_map, Function.comp_def, Draw.upgradeOrderId_afterPayment]
  have hsame : ∀ d ∈ t.drawsFor id, d.afterPayment order payment.confirmed = d := by
    intro d hd
    have hid : d.upgradeOrderId = id := by simpa using (List.mem_filter.mp hd).2
    exact Draw.afterPayment_of_ne (hid ▸ hne)
  rw [Tables.drawsFor, h.draws, hown, List.map_congr_left hsame, List.map_id']

theorem holds_kept {made : Draft} (h : Settled payment fresh order t c t') (ht : t.Holds made) :
    t'.Holds made := by
  obtain ⟨o, ho, hkept, hdraws⟩ := ht
  by_cases hid : made.order.id = payment.orderId
  · -- This is the payment of the order, which leaves it confirmed.
    obtain rfl : order = o := Option.some.inj (h.found.symm.trans (hid ▸ ho))
    refine ⟨c.order, ?_, ?_, fun hopen => ?_⟩
    · rw [h.order?_eq, if_pos hid]
    · rw [h.made.kept, hkept]
      rfl
    · rw [h.made.confirmed] at hopen
      cases hopen
  · refine ⟨o, ?_, hkept, fun hopen => ?_⟩
    · rw [h.order?_eq, if_neg hid]
      exact ho
    · rw [h.drawsFor_of_ne (h.applies.named ▸ hid)]
      exact hdraws hopen

end Settled

namespace Ledger

theorem holds_after {l : MemoryLedger} {draft : Draft} (hb : l.backend = MemoryStore.backend)
    (h : l.tables.Holds draft) (commands : List Command) : (l.after commands).tables.Holds draft :=
  tables_after (P := fun t => t.Holds draft) hb Placed.holds_kept Settled.holds_kept h commands

variable {settings : Settings} {catalogue : Catalogue} {commands : List Command} {orderId : String}
  {draft : Draft} {order : Order}

theorem exists_drafted (ho : ((opened settings catalogue).after commands).tables.order? orderId = some order) :
    ∃ draft, (opened settings catalogue).Drafted commands orderId draft := by
  obtain ⟨before, request, rest, draft, hrun, hok, _⟩ := exists_createOrder ho
  exact ⟨draft, before, request, rest, hrun, hok⟩

/-- When an order is paid, the draws for it are those of its draft, and they are consumed. -/
theorem draws_of_drafted (h : (opened settings catalogue).Drafted commands orderId draft)
    (ho : ((opened settings catalogue).after commands).tables.order? orderId = some order)
    (hopen : order.confirmed = none) (moment : Instant) :
    ((opened settings catalogue).after commands).tables.drawsFor orderId = draft.draws ∧
      ((opened settings catalogue).after commands).tables.consumedBy order moment =
        draft.draws.map (Tables.consume moment) := by
  obtain ⟨before, request, rest, rfl, hok⟩ := h
  have hb : ((opened settings catalogue).after before).backend = MemoryStore.backend := backend_after _ before
  obtain ⟨plan, kind, hp⟩ := createOrder_ok hb hok
  have hmade : (((opened settings catalogue).after before).execute (.create request orderId)).2.tables.Holds draft :=
    hp.holds (accounted_after settings catalogue before)
  have hholds := holds_after ((execute_fixed _ _).1.trans hb) hmade rest
  rw [← after_append_cons] at hholds
  obtain ⟨o, ho', hkept, hdraws⟩ := hholds
  rw [hp.id_eq] at ho' hdraws
  obtain rfl : o = order := Option.some.inj (ho'.symm.trans ho)
  have hid : o.id = orderId := by
    rw [hkept]
    exact hp.id_eq
  have hkind : o.kind = draft.order.kind := by
    rw [hkept]
    rfl
  refine ⟨hdraws hopen, Tables.consumedBy_eq ?_ (fun d => hp.consumed_of_mem_draws) ?_ moment⟩
  · rw [hid]
    exact hdraws hopen
  · rw [hkind]
    exact hp.draws_eq_nil

end Ledger

end Subscriptions
