import Subscriptions.Proofs.Ledger.Accounted

/-!
When a source is spent twice. Open upgrades do not hide a source from one another, so several may draw on it;
all of them can be paid if the membership is not premium any more when the next payment comes.
-/

namespace Subscriptions

set_option autoImplicit false

/-- Two upgrades have used up one source. -/
def Tables.SpentTwice (t : Tables) (source : String) : Prop :=
  ∃ d ∈ t.draws, ∃ e ∈ t.draws, d.sourceOrderId = source ∧ e.sourceOrderId = source ∧
    d.isConsumed = true ∧ e.isConsumed = true ∧ d.upgradeOrderId ≠ e.upgradeOrderId

instance (t : Tables) (source : String) : Decidable (t.SpentTwice source) :=
  inferInstanceAs (Decidable (∃ d ∈ t.draws, ∃ e ∈ t.draws, _ ∧ _ ∧ _ ∧ _ ∧ _))

/-- A payment is applied to an upgrade that draws on a source which has been used up. For this the membership
found for the reader must not be a valid premium one. -/
structure Ledger.Respends (l : MemoryLedger) (payment : Payment) (fresh : FreshIds) (source : String) :
    Prop where
  drawn : ∃ d ∈ l.tables.draws, d.sourceOrderId = source ∧ d.upgradeOrderId = payment.orderId
  usedUp : l.tables.isConsumed source = true
  applies : ∃ o, l.tables.order? payment.orderId = some o ∧ payment.Applies o (l.tables.memberOf o.reader)
  calm : ∀ op ∈ MemoryStore.calls (Settlement.work payment fresh) l.tables, l.store.faults op = 0

namespace Tables

theorem not_spentTwice_empty (source : String) : ¬empty.SpentTwice source := by
  rintro ⟨d, hd, _⟩
  cases hd

end Tables

namespace Placed

variable {shop : Shop} {request : OrderRequest} {orderId : String} {plan : Plan} {kind : OrderKind}
  {t t' : Tables} {draft : Draft} {source : String}

theorem mem_draws_of_isConsumed (h : Placed shop request orderId plan kind t draft t') {d : Draw}
    (hd : d ∈ t'.draws) (hc : d.isConsumed = true) : d ∈ t.draws := by
  rw [h.draws_eq] at hd
  rcases List.mem_append.mp hd with hd | hd
  · exact hd
  · obtain ⟨_, s, _, _, rfl⟩ := h.mem_draws hd
    cases hc

theorem spentTwice_iff (h : Placed shop request orderId plan kind t draft t') :
    t'.SpentTwice source ↔ t.SpentTwice source := by
  constructor
  · rintro ⟨d, hd, e, he, hds, hes, hdc, hec, hne⟩
    have hd := h.mem_draws_of_isConsumed hd hdc
    have he := h.mem_draws_of_isConsumed he hec
    exact ⟨d, hd, e, he, hds, hes, hdc, hec, hne⟩
  · rintro ⟨d, hd, e, he, hrest⟩
    rw [Tables.SpentTwice, h.draws_eq]
    exact ⟨d, List.mem_append_left _ hd, e, List.mem_append_left _ he, hrest⟩

end Placed

namespace Settled

variable {payment : Payment} {fresh : FreshIds} {order : Order} {t t' : Tables} {c : Confirmation}
  {source : String}

theorem spentTwice_kept (h : Settled payment fresh order t c t') (hs : t.SpentTwice source) :
    t'.SpentTwice source := by
  obtain ⟨d, hd, e, he, hds, hes, hdc, hec, hne⟩ := hs
  rw [Tables.SpentTwice, h.draws]
  refine ⟨_, List.mem_map_of_mem hd, _, List.mem_map_of_mem he, ?_⟩
  simp only [Draw.sourceOrderId_afterPayment, Draw.upgradeOrderId_afterPayment]
  exact ⟨hds, hes, Draw.isConsumed_afterPayment hdc, Draw.isConsumed_afterPayment hec, hne⟩

theorem upgradeOrderId_eq (h : Settled payment fresh order t c t') {d : Draw}
    (hn : d.isConsumed = false) (hc : (d.afterPayment order payment.confirmed).isConsumed = true) :
    d.upgradeOrderId = payment.orderId := by
  by_cases he : d.upgradeOrderId = payment.orderId
  · exact he
  · rw [Draw.afterPayment_of_ne fun hid => he (hid.trans h.applies.named.symm), hn] at hc
    cases hc

theorem respent (h : Settled payment fresh order t c t') (hs : t'.SpentTwice source)
    (hn : ¬t.SpentTwice source) :
    (∃ d ∈ t.draws, d.sourceOrderId = source ∧ d.upgradeOrderId = payment.orderId) ∧
      t.isConsumed source = true := by
  obtain ⟨d', hd', e', he', hds, hes, hdc, hec, hne⟩ := hs
  rw [h.draws] at hd' he'
  obtain ⟨d, hd, rfl⟩ := List.mem_map.mp hd'
  obtain ⟨e, he, rfl⟩ := List.mem_map.mp he'
  rw [Draw.sourceOrderId_afterPayment] at hds hes
  rw [Draw.upgradeOrderId_afterPayment, Draw.upgradeOrderId_afterPayment] at hne
  rw [Tables.isConsumed_iff]
  -- One of the two was consumed before, and the other belongs to the order that is paid.
  cases hd0 : d.isConsumed with
  | true =>
    cases he0 : e.isConsumed with
    | true => exact absurd ⟨d, hd, e, he, hds, hes, hd0, he0, hne⟩ hn
    | false => exact ⟨⟨e, he, hes, h.upgradeOrderId_eq he0 hec⟩, d, hd, hds, hd0⟩
  | false =>
    have hdu := h.upgradeOrderId_eq hd0 hdc
    refine ⟨⟨d, hd, hds, hdu⟩, e, he, hes, ?_⟩
    cases he0 : e.isConsumed with
    | true => rfl
    | false => exact absurd (hdu.trans (h.upgradeOrderId_eq he0 hec).symm) hne

theorem spentTwice_of_isConsumed (h : Settled payment fresh order t c t') (ht : t.Accounted)
    (hd : ∃ d ∈ t.draws, d.sourceOrderId = source ∧ d.upgradeOrderId = payment.orderId)
    (hc : t.isConsumed source = true) : t'.SpentTwice source := by
  obtain ⟨d, hd, hds, hdu⟩ := hd
  obtain ⟨e, he, hes, hec⟩ := Tables.isConsumed_iff.mp hc
  have hopen : ∀ x ∈ t.draws, x.upgradeOrderId = payment.orderId →
      order.kind = .upgrade ∧ x.consumed = none := by
    intro x hx hxu
    obtain ⟨u, s, hb⟩ := ht.backed x hx
    obtain rfl : order = u := Option.some.inj (h.found.symm.trans (hxu ▸ hb.upgrade))
    exact ⟨hb.kind, hb.consumed.trans h.applies.unconfirmed⟩
  obtain ⟨hkind, hdn⟩ := hopen d hd hdu
  have hne : d.upgradeOrderId ≠ e.upgradeOrderId := by
    intro heq
    have hen := (hopen e he (heq.symm.trans hdu)).2
    simp [Draw.isConsumed, hen] at hec
  have hdc : (d.afterPayment order payment.confirmed).consumed = some payment.confirmed :=
    Draw.consumed_afterPayment_of_eq hkind (hdu.trans h.applies.named) hdn
  rw [Tables.SpentTwice, h.draws]
  refine ⟨_, List.mem_map_of_mem hd, _, List.mem_map_of_mem he, ?_⟩
  simp only [Draw.sourceOrderId_afterPayment, Draw.upgradeOrderId_afterPayment]
  refine ⟨hds, hes, ?_, Draw.isConsumed_afterPayment hec, hne⟩
  rw [Draw.isConsumed, hdc, Option.isSome_some]

end Settled

theorem Change.exists_payment {shop : Shop} {t t' : Tables} {command : Command} {reply : Reply}
    {source : String} (h : Change shop t command reply t') (hn : ¬t.SpentTwice source)
    (hs : t'.SpentTwice source) :
    ∃ payment fresh c, command = .pay payment fresh ∧ reply = .paid (.ok c) ∧
      (∃ d ∈ t.draws, d.sourceOrderId = source ∧ d.upgradeOrderId = payment.orderId) ∧
      t.isConsumed source = true := by
  cases h with
  | kept _ => exact absurd hs hn
  | placed h => exact absurd (h.spentTwice_iff.mp hs) hn
  | @settled payment fresh order c _ h => exact ⟨payment, fresh, c, rfl, rfl, h.respent hs hn⟩

namespace Ledger

variable {source : String}

theorem respends_of_spentTwice {l : MemoryLedger} (hb : l.backend = MemoryStore.backend)
    {command : Command} (hn : ¬l.tables.SpentTwice source)
    (hs : (l.execute command).2.tables.SpentTwice source) :
    ∃ payment fresh, command = .pay payment fresh ∧ l.Respends payment fresh source := by
  have hchange := change_execute hb command
  obtain ⟨payment, fresh, c, rfl, hreply, hdrawn, hused⟩ := hchange.exists_payment hn hs
  obtain ⟨hcalm, order, h⟩ := confirmPayment_ok hb (Reply.paid.inj hreply)
  exact ⟨payment, fresh, rfl, hdrawn, hused, ⟨order, h.found, h.applies⟩, hcalm⟩

theorem spentTwice_of_respends {l : MemoryLedger} (hb : l.backend = MemoryStore.backend)
    (hr : l.tables.Regular) (ha : l.tables.Accounted) {payment : Payment} {fresh : FreshIds}
    (h : l.Respends payment fresh source) : (l.execute (.pay payment fresh)).2.tables.SpentTwice source := by
  obtain ⟨o, ho, happlies⟩ := h.applies
  have hok := (confirmPayment_isOk_iff hb ho (hr.owned ho)).mpr ⟨happlies, h.calm⟩
  obtain ⟨_, _, _, hs⟩ := exists_settled hb hok
  exact hs.spentTwice_of_isConsumed ha h.drawn h.usedUp

/-- A source has been spent twice exactly if a payment was applied to an upgrade that draws on it after
another upgrade had used it up. -/
theorem spentTwice_iff_respends (settings : Settings) (catalogue : Catalogue) (commands : List Command)
    (source : String) :
    ((opened settings catalogue).after commands).tables.SpentTwice source ↔
      ∃ before payment fresh rest, commands = before ++ .pay payment fresh :: rest ∧
        ((opened settings catalogue).after before).Respends payment fresh source := by
  constructor
  · intro h
    obtain ⟨before, command, rest, rfl, hn, hs⟩ :=
      exists_first (l := opened settings catalogue) (P := fun t => t.SpentTwice source)
        (Tables.not_spentTwice_empty source) h
    rw [after_concat] at hs
    obtain ⟨payment, fresh, rfl, hr⟩ := respends_of_spentTwice (backend_after _ before) hn hs
    exact ⟨before, payment, fresh, rest, rfl, hr⟩
  · rintro ⟨before, payment, fresh, rest, rfl, hr⟩
    have hs := spentTwice_of_respends (backend_after _ before) (regular_after settings catalogue before)
      (accounted_after settings catalogue before) hr
    rw [List.append_cons, after_append, after_concat]
    refine tables_after (P := fun t => t.SpentTwice source) ?_ ?_ ?_ hs rest
    · rw [(execute_fixed _ _).1]
      exact backend_after _ before
    · intro _ _ _ _ _ _ _ h ht
      exact h.spentTwice_iff.mpr ht
    · intro _ _ _ _ _ _ h ht
      exact h.spentTwice_kept ht

/-- Two upgrades are made on one order. The first is paid and runs out, and then the second is paid. -/
theorem source_spent_twice :
    let commands := [Samples.order "A" "standard_year" 0, Samples.pay "A" 25800 0,
      Samples.order "B" "premium_month" 30, Samples.order "C" "premium_month" 30,
      Samples.pay "B" 4300 30, Samples.pay "C" 4300 70]
    ((opened .standard Samples.premiumMonth).after commands).tables.SpentTwice "A" := by
  decide +kernel

end Ledger

end Subscriptions
