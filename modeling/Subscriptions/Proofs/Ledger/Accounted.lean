import Subscriptions.Proofs.Ledger.Regular

/-!
Draws agree with the orders that they name. Each belongs to a stored upgrade and draws on another order of
the same reader that has been paid, it is consumed when the upgrade is, and the upgrade is charged what its
draws leave of the price, as far as 64 bits keep the difference.
-/

namespace Subscriptions

set_option autoImplicit false

/-- A draw agrees with its upgrade and with the order that it draws on. -/
structure Tables.Backs (t : Tables) (d : Draw) (u s : Order) : Prop where
  upgrade : t.order? d.upgradeOrderId = some u
  kind : u.kind = .upgrade
  created : d.created = u.created
  consumed : d.consumed = u.confirmed
  source : t.order? d.sourceOrderId = some s
  distinct : d.sourceOrderId ≠ d.upgradeOrderId
  paid : s.isConfirmed = true
  reader : s.reader.overlaps u.reader = true
  positive : 0 < d.balance
  bounded : d.balance ≤ s.amount

/-- What is drawn for an upgrade in all. -/
def Draw.totalFor (draws : List Draw) (orderId : String) : Int :=
  exactSum ((draws.filter fun d => d.upgradeOrderId == orderId).map (·.balance))

structure Tables.Accounted (t : Tables) : Prop where
  backed : ∀ d ∈ t.draws, ∃ u s, t.Backs d u s
  unique : (t.draws.map fun d => (d.sourceOrderId, d.upgradeOrderId)).Nodup
  priced : ∀ {id u}, t.order? id = some u → u.kind = .upgrade →
    u.amount = max 0 (wrapCents (u.price - Draw.totalFor t.draws id))

theorem Tables.accounted_empty : empty.Accounted where
  backed _ hd := by cases hd
  unique := List.nodup_nil
  priced h := by cases h

namespace Draw

variable {draws added : List Draw} {orderId : String} {order : Order} {moment : Instant}

theorem totalFor_append :
    totalFor (draws ++ added) orderId = totalFor draws orderId + totalFor added orderId := by
  simp only [totalFor, List.filter_append, List.map_append, exactSum_append]

theorem totalFor_of_ne (h : ∀ d ∈ draws, d.upgradeOrderId ≠ orderId) : totalFor draws orderId = 0 := by
  have hnil : draws.filter (fun d => d.upgradeOrderId == orderId) = [] := by
    rw [List.filter_eq_nil_iff]
    intro d hd
    simpa using h d hd
  rw [totalFor, hnil]
  rfl

theorem totalFor_of_eq (h : ∀ d ∈ draws, d.upgradeOrderId = orderId) :
    totalFor draws orderId = exactSum (draws.map (·.balance)) := by
  have hall : draws.filter (fun d => d.upgradeOrderId == orderId) = draws := by
    rw [List.filter_eq_self]
    intro d hd
    simpa using h d hd
  rw [totalFor, hall]

theorem totalFor_afterPayment :
    totalFor (draws.map (afterPayment order moment)) orderId = totalFor draws orderId := by
  simp only [totalFor, List.filter_map, List.map_map, Function.comp_def, upgradeOrderId_afterPayment,
    balance_afterPayment]

end Draw

namespace Placed

variable {shop : Shop} {request : OrderRequest} {orderId : String} {plan : Plan} {kind : OrderKind}
  {t t' : Tables} {draft : Draft} {d : Draw}

theorem backs_kept (h : Placed shop request orderId plan kind t draft t') {u s : Order}
    (hb : t.Backs d u s) : t'.Backs d u s :=
  { hb with
    upgrade := (h.order?_kept hb.upgrade).2
    source := (h.order?_kept hb.source).2 }

theorem backs_new (h : Placed shop request orderId plan kind t draft t') (ht : t.Regular)
    (hd : d ∈ draft.draws) : ∃ s, t'.Backs d draft.order s := by
  obtain ⟨hkind, s, hs, hpos, rfl⟩ := h.mem_draws hd
  obtain ⟨key, o, ho, hover, hsource, _⟩ := Tables.exists_order_of_mem_sources hs
  obtain ⟨hpaid, hid, hamount⟩ := Source.ofOrder?_eq_some hsource
  have hkey : s.orderId = key := hid.trans (ht.keyed ho)
  obtain ⟨hne, ho'⟩ := h.order?_kept ho
  refine ⟨o, ?_, h.kind_eq.trans hkind, h.created_eq.symm, h.confirmed_eq.symm, ?_, ?_, hpaid, ?_, hpos,
    ?_⟩
  · rw [h.order?_eq, if_pos rfl]
  · rw [hkey]
    exact ho'
  · rw [hkey]
    exact hne
  · rw [h.reader_eq]
    exact hover
  · rw [← hamount]
    exact Source.balance_le_amount hpos

theorem upgradeOrderId_ne (h : Placed shop request orderId plan kind t draft t') (ht : t.Accounted)
    (hd : d ∈ t.draws) : d.upgradeOrderId ≠ orderId := by
  obtain ⟨u, s, hb⟩ := ht.backed d hd
  exact (h.order?_kept hb.upgrade).1

theorem upgradeOrderId_eq (h : Placed shop request orderId plan kind t draft t') (hd : d ∈ draft.draws) :
    d.upgradeOrderId = orderId := by
  obtain ⟨_, s, _, _, rfl⟩ := h.mem_draws hd
  rfl

theorem nodup_draws (h : Placed shop request orderId plan kind t draft t') (ht : t.Regular) :
    (draft.draws.map fun d => (d.sourceOrderId, d.upgradeOrderId)).Nodup := by
  have hsources : (draft.draws.map (·.sourceOrderId)).Nodup := by
    cases kind with
    | upgrade =>
      rw [h.draws_of_upgrade]
      exact Wallet.nodup_draws (Tables.nodup_sources ht.keyed request.reader request.now)
    | create | renew =>
      rw [h.drafted]
      exact List.nodup_nil
  rw [List.Nodup, List.pairwise_map] at hsources ⊢
  exact hsources.imp fun hne heq => hne (congrArg Prod.fst heq)

/-- It makes no difference that the balance has been cut to 64 bits before it is taken off the price. -/
theorem amount_eq (h : Placed shop request orderId plan .upgrade t draft t') :
    draft.order.amount = max 0 (wrapCents (draft.order.price - Draw.totalFor draft.draws orderId)) := by
  have hbalance : (request.wallet .upgrade t).balance = wrapCents (Draw.totalFor draft.draws orderId) := by
    rw [Draw.totalFor_of_eq fun d hd => h.upgradeOrderId_eq hd, h.draws_of_upgrade, Wallet.map_balance_draws,
      ← sumCents_eq]
    rfl
  have hwraps : wrapCents (plan.price - wrapCents (Draw.totalFor draft.draws orderId)) =
      wrapCents (plan.price - Draw.totalFor draft.draws orderId) := Int.sub_bmod_bmod
  have hprice : draft.order.price = plan.price := by
    rw [h.drafted]
    rfl
  calc draft.order.amount
      = (shop.policy.quote .upgrade plan (request.wallet .upgrade t)).amount := by
        rw [h.drafted]
        rfl
    _ = max (wrapCents (plan.price - (request.wallet .upgrade t).balance)) 0 :=
        shop.policy.quote_upgrade_amount plan (request.fits_wallet_balance .upgrade t)
    _ = max 0 (wrapCents (draft.order.price - Draw.totalFor draft.draws orderId)) := by
        rw [hbalance, hwraps, hprice, Int.max_comm]

theorem accounted (h : Placed shop request orderId plan kind t draft t') (hr : t.Regular)
    (ht : t.Accounted) : t'.Accounted where
  backed := by
    intro d hd
    rw [h.draws_eq] at hd
    rcases List.mem_append.mp hd with hd | hd
    · obtain ⟨u, s, hb⟩ := ht.backed d hd
      exact ⟨u, s, h.backs_kept hb⟩
    · obtain ⟨s, hb⟩ := h.backs_new hr hd
      exact ⟨draft.order, s, hb⟩
  unique := by
    rw [h.draws_eq, List.map_append, List.nodup_append]
    refine ⟨ht.unique, h.nodup_draws hr, ?_⟩
    intro a ha b hb hab
    obtain ⟨d, hd, rfl⟩ := List.mem_map.mp ha
    obtain ⟨e, he, rfl⟩ := List.mem_map.mp hb
    have hsame : d.upgradeOrderId = e.upgradeOrderId := congrArg Prod.snd hab
    exact h.upgradeOrderId_ne ht hd (hsame.trans (h.upgradeOrderId_eq he))
  priced := by
    intro id u hu hk
    rw [h.order?_eq] at hu
    rw [h.draws_eq, Draw.totalFor_append]
    split at hu
    · rename_i hid
      obtain rfl := Option.some.inj hu
      obtain rfl : kind = .upgrade := h.kind_eq.symm.trans hk
      rw [hid, Draw.totalFor_of_ne fun d hd => h.upgradeOrderId_ne ht hd, Int.zero_add]
      exact h.amount_eq
    · rename_i hid
      have hnone : Draw.totalFor draft.draws id = 0 := by
        apply Draw.totalFor_of_ne
        intro d hd he
        exact hid (he.symm.trans (h.upgradeOrderId_eq hd))
      rw [hnone, Int.add_zero]
      exact ht.priced hu hk

end Placed

namespace Settled

variable {payment : Payment} {fresh : FreshIds} {order : Order} {t t' : Tables} {c : Confirmation} {d : Draw}

/-- The draws of the upgrade that is paid are consumed with it, at the same instant; all others stay. -/
theorem backs_afterPayment (h : Settled payment fresh order t c t') {u s : Order} (hb : t.Backs d u s) :
    ∃ u', t'.Backs (d.afterPayment order payment.confirmed) u' s := by
  obtain ⟨hsource, hs⟩ := h.order?_of_confirmed hb.source hb.paid
  by_cases hu : d.upgradeOrderId = payment.orderId
  · -- The upgrade is the order that is paid, so the draw is still pending.
    obtain rfl : order = u := Option.some.inj (h.found.symm.trans (hu ▸ hb.upgrade))
    have hopen : d.consumed = none := hb.consumed.trans h.applies.unconfirmed
    have hid : d.upgradeOrderId = order.id := hu.trans h.applies.named
    refine ⟨c.order, ?_, h.kind_eq.trans hb.kind, ?_, ?_, ?_, ?_, hb.paid, ?_, ?_, ?_⟩
    · rw [Draw.upgradeOrderId_afterPayment, h.order?_eq, if_pos hu]
    · rw [Draw.created_afterPayment, hb.created, h.created_eq]
    · rw [Draw.consumed_afterPayment_of_eq hb.kind hid hopen, h.made.confirmed]
    · rw [Draw.sourceOrderId_afterPayment, hs]
    · rw [Draw.sourceOrderId_afterPayment, Draw.upgradeOrderId_afterPayment]
      exact hb.distinct
    · rw [h.reader_eq]
      exact hb.reader
    · rw [Draw.balance_afterPayment]
      exact hb.positive
    · rw [Draw.balance_afterPayment]
      exact hb.bounded
  · rw [Draw.afterPayment_of_ne fun he => hu (he.trans h.applies.named.symm)]
    refine ⟨u, { hb with upgrade := ?_, source := hs }⟩
    rw [h.order?_eq, if_neg hu]
    exact hb.upgrade

theorem accounted (h : Settled payment fresh order t c t') (ht : t.Accounted) : t'.Accounted where
  backed := by
    intro d' hd'
    rw [h.draws] at hd'
    obtain ⟨d, hd, rfl⟩ := List.mem_map.mp hd'
    obtain ⟨u, s, hb⟩ := ht.backed d hd
    obtain ⟨u', hb'⟩ := h.backs_afterPayment hb
    exact ⟨u', s, hb'⟩
  unique := by
    have hkeys : t'.draws.map (fun d => (d.sourceOrderId, d.upgradeOrderId)) =
        t.draws.map fun d => (d.sourceOrderId, d.upgradeOrderId) := by
      rw [h.draws, List.map_map]
      apply List.map_congr_left
      intro d _
      simp only [Function.comp_apply, Draw.sourceOrderId_afterPayment, Draw.upgradeOrderId_afterPayment]
    rw [hkeys]
    exact ht.unique
  priced := by
    intro id u hu hk
    rw [h.draws, Draw.totalFor_afterPayment]
    rw [h.order?_eq] at hu
    split at hu
    · rename_i hid
      obtain rfl := Option.some.inj hu
      rw [h.amount_eq, h.price_eq, hid]
      exact ht.priced h.found (h.kind_eq.symm.trans hk)
    · exact ht.priced hu hk

end Settled

namespace Ledger

theorem accounted_after (settings : Settings) (catalogue : Catalogue) (commands : List Command) :
    ((opened settings catalogue).after commands).tables.Accounted := by
  have h : ((opened settings catalogue).after commands).tables.Regular ∧
      ((opened settings catalogue).after commands).tables.Accounted := by
    refine tables_after (P := fun t => t.Regular ∧ t.Accounted) rfl ?_ ?_ ?_ commands
    · intro _ _ _ _ _ _ _ h ht
      exact ⟨h.regular ht.1, h.accounted ht.1 ht.2⟩
    · intro _ _ _ _ _ _ h ht
      exact ⟨h.regular ht.1, h.accounted ht.2⟩
    · exact ⟨Tables.regular_empty, Tables.accounted_empty⟩
  exact h.2

theorem createOrder_draws {l : MemoryLedger} (hb : l.backend = MemoryStore.backend)
    (request : OrderRequest) (orderId : String) :
    ∃ added, (l.createOrder request orderId).2.tables.draws = l.tables.draws ++ added ∧
      ∀ d ∈ added, l.tables.isConsumed d.sourceOrderId = false := by
  cases hr : (l.createOrder request orderId).1 with
  | error f =>
    refine ⟨[], ?_, ?_⟩
    · rw [createOrder_error hb hr, List.append_nil]
    · intro d hd
      cases hd
  | ok draft =>
    obtain ⟨plan, kind, h⟩ := createOrder_ok hb hr
    refine ⟨draft.draws, h.draws_eq, ?_⟩
    intro d hd
    obtain ⟨_, s, hs, _, rfl⟩ := h.mem_draws hd
    obtain ⟨_, _, _, _, _, hfree⟩ := Tables.exists_order_of_mem_sources hs
    exact hfree

end Ledger

end Subscriptions
