import Mathlib
import Subscriptions.Proofs.Ledger.Accounted
import Subscriptions.Proofs.Ledger.WellFormed

/-!
What orders charge. An upgrade is charged what its draws leave of the price, and no order more than its price, wherever
the difference fits into 64 bits; and it fits in every run with a bound on the prices and on the number of orders.
Without such a bound it can wrap around, and an upgrade is charged many times its price.
-/

namespace Subscriptions

set_option autoImplicit false

/-- No plan that can be sold costs more than so much. -/
def Catalogue.PricedWithin (c : Catalogue) (most : Int) : Prop :=
  ∀ id plan, c.get? id = some plan → plan.validate = .ok () → plan.price ≤ most

/-- No order was made at a higher price than so much. -/
def Tables.PricedWithin (t : Tables) (most : Int) : Prop := ∀ id o, t.order? id = some o → o.price ≤ most

/-- No order was charged more than so much, and so much for every order is within 64 bits. -/
structure Tables.Bounded (most : Int) (t : Tables) : Prop where
  amounts : ∀ {id o}, t.order? id = some o → o.amount ≤ most
  few : t.orders.size * most < Width.limit .bits64

theorem Width.limit_bits64_pos : 0 < Width.limit .bits64 := by decide

namespace Tables

variable {t : Tables} {most : Int} {reader : Reader} {asOf : Instant} {id orderId : String} {o : Order}

theorem size_pos_of_order? (h : t.order? id = some o) : 0 < t.orders.size :=
  List.length_pos_of_mem (Table.get?_eq_some_iff.mp h)

theorem length_sources_le (t : Tables) (reader : Reader) (asOf : Instant) :
    (t.sources reader asOf).length ≤ t.orders.size := by
  unfold sources Source.sortByStart
  rw [List.length_mergeSort]
  calc ((t.orders.values.filter fun o => o.reader.overlaps reader).filterMap Source.ofOrder? |>.filter _).length
      ≤ ((t.orders.values.filter fun o => o.reader.overlaps reader).filterMap Source.ofOrder?).length :=
        List.length_filter_le _ _
    _ ≤ (t.orders.values.filter fun o => o.reader.overlaps reader).length := List.length_filterMap_le _ _
    _ ≤ t.orders.values.length := List.length_filter_le _ _
    _ = t.orders.size := List.length_map _

/-- So many orders at so much each do not come to more than 64 bits hold. -/
theorem mul_lt_limit {size : Nat} (h : (size : Int) ≤ 9223372036854775807 / most) :
    size * most < Width.limit .bits64 := by
  have hlimit : Width.limit .bits64 = 9223372036854775808 := rfl
  rcases Int.lt_or_le 0 most with hpos | hneg
  · have hproduct := Int.mul_le_of_le_ediv hpos h
    omega
  · have hproduct := Int.mul_nonpos_of_nonneg_of_nonpos (Int.natCast_nonneg size) hneg
    omega

namespace Bounded

theorem amount_le (h : t.Bounded most) {s : Source} (hs : s ∈ t.sources reader asOf) : s.amount ≤ most := by
  obtain ⟨key, o, ho, _, hsource, _⟩ := exists_order_of_mem_sources hs
  rw [(Source.ofOrder?_eq_some hsource).2.2]
  exact h.amounts ho

theorem exactSum_lt (h : t.Bounded most) (reader : Reader) (asOf : Instant) :
    exactSum ((Wallet.value (t.sources reader asOf) asOf).map (·.balance)) < Width.limit .bits64 :=
  Wallet.exactSum_value_lt (fun _ hs => h.amount_le hs) (t.length_sources_le _ _) h.few Width.limit_bits64_pos

/-- Nothing wraps around in a wallet. -/
theorem balance_nonneg (h : t.Bounded most) (request : OrderRequest) (kind : OrderKind) :
    0 ≤ (request.wallet kind t).balance := by
  cases kind with
  | create | renew => exact Int.le_refl 0
  | upgrade =>
    have hnonneg := Wallet.exactSum_value_nonneg (t.sources request.reader request.now) request.now
    have hless := h.exactSum_lt request.reader request.now
    have hbalance : (request.wallet .upgrade t).balance = _ :=
      sumCents_of_fits (Width.fits_bits64_iff.mp (.of_nonneg hnonneg hless))
    rw [hbalance]
    exact hnonneg

end Bounded

namespace Accounted

/-- The draws of one upgrade are on different orders. -/
theorem nodup_sourceOrderId (h : t.Accounted) {p : Draw → Bool} (hp : ∀ d, p d = true → d.upgradeOrderId = orderId) :
    ((t.draws.filter p).map (·.sourceOrderId)).Nodup := by
  have hunique := List.pairwise_map.mp h.unique
  apply List.pairwise_map.mpr
  refine (hunique.filter p).imp_of_mem fun {d e} hd he hne hsource => hne ?_
  have hupgrade : d.upgradeOrderId = e.upgradeOrderId :=
    (hp d (List.mem_filter.mp hd).2).trans (hp e (List.mem_filter.mp he).2).symm
  exact Prod.ext hsource hupgrade

theorem length_filter_le (h : t.Accounted) {p : Draw → Bool} (hp : ∀ d, p d = true → d.upgradeOrderId = orderId) :
    (t.draws.filter p).length ≤ t.orders.size := by
  have hkeys : (t.draws.filter p).map (·.sourceOrderId) ⊆ t.orders.entries.map Prod.fst := by
    intro id hid
    obtain ⟨d, hd, rfl⟩ := List.mem_map.mp hid
    obtain ⟨u, s, hb⟩ := h.backed d (List.mem_filter.mp hd).1
    exact List.mem_map.mpr ⟨(d.sourceOrderId, s), Table.get?_eq_some_iff.mp hb.source, rfl⟩
  have hle := ((h.nodup_sourceOrderId hp).subperm hkeys).length_le
  rwa [List.length_map, List.length_map] at hle

theorem balances_le (h : t.Accounted) (hb : t.Bounded most) {d : Draw} (hd : d ∈ t.draws) :
    0 ≤ d.balance ∧ d.balance ≤ most := by
  obtain ⟨u, s, hbacks⟩ := h.backed d hd
  exact ⟨Int.le_of_lt hbacks.positive, Int.le_trans hbacks.bounded (hb.amounts hbacks.source)⟩

theorem totalFor_nonneg (h : t.Accounted) (orderId : String) : 0 ≤ Draw.totalFor t.draws orderId := by
  apply exactSum_nonneg
  intro x hx
  obtain ⟨d, hd, rfl⟩ := List.mem_map.mp hx
  obtain ⟨u, s, hbacks⟩ := h.backed d (List.mem_filter.mp hd).1
  exact Int.le_of_lt hbacks.positive

theorem totalFor_lt (h : t.Accounted) (hb : t.Bounded most) (orderId : String) :
    Draw.totalFor t.draws orderId < Width.limit .bits64 := by
  have hbalances : ∀ x ∈ (t.draws.filter fun d => d.upgradeOrderId == orderId).map (·.balance), 0 ≤ x ∧ x ≤ most := by
    intro x hx
    obtain ⟨d, hd, rfl⟩ := List.mem_map.mp hx
    exact h.balances_le hb (List.mem_filter.mp hd).1
  apply exactSum_lt hbalances _ hb.few Width.limit_bits64_pos
  rw [List.length_map]
  exact h.length_filter_le fun d hd => beq_iff_eq.mp hd

/-- What an upgrade is charged is exact unless the difference wraps around to more than nothing. -/
theorem amount_eq_iff (h : t.Accounted) (ho : t.order? id = some o) (hk : o.kind = .upgrade) :
    let rest := o.price - Draw.totalFor t.draws id
    o.amount = max 0 rest ↔ (¬FitsCents rest → rest < 0 ∧ wrapCents rest ≤ 0) := by
  intro rest
  have hamount : o.amount = max 0 (wrapCents rest) := h.priced ho hk
  rw [hamount]
  by_cases hfits : FitsCents rest
  · rw [wrapCents_of_fits hfits]
    exact ⟨fun _ hnot => absurd hfits hnot, fun _ => rfl⟩
  · have hkept := fits_wrapCents rest
    unfold FitsCents at hfits hkept ⊢
    omega

/-- No order is charged more than its price but an upgrade whose difference wraps around to more than that. -/
theorem amount_le_price_iff {p : Policy} (h : t.Accounted) (hw : t.WellFormed p) (ho : t.order? id = some o) :
    let rest := o.price - Draw.totalFor t.draws id
    o.amount ≤ o.price ↔ (o.kind = .upgrade → ¬FitsCents rest → wrapCents rest ≤ o.price) := by
  intro rest
  have hwell := hw.orders ho
  by_cases hk : o.kind = .upgrade
  · have hprice := hwell.price
    have hamount : o.amount = max 0 (wrapCents rest) := h.priced ho hk
    have hless : o.amount ≤ o.price ↔ wrapCents rest ≤ o.price := by omega
    rw [hless]
    refine ⟨fun hle _ _ => hle, fun hwraps => ?_⟩
    by_cases hfits : FitsCents rest
    · rw [wrapCents_of_fits hfits]
      exact Int.sub_le_self _ (h.totalFor_nonneg id)
    · exact hwraps hk hfits
  · exact ⟨fun _ hupgrade => absurd hupgrade hk, fun _ => hwell.atMost hk⟩

/-- The difference fits if all that is charged is bounded. -/
theorem fits_difference {p : Policy} (h : t.Accounted) (hw : t.WellFormed p) (hb : t.Bounded most)
    (hpriced : t.PricedWithin most) (ho : t.order? id = some o) :
    FitsCents (o.price - Draw.totalFor t.draws id) := by
  have hprice := (hw.orders ho).price
  have hmost := hpriced id o ho
  have hnonneg := h.totalFor_nonneg id
  have htotal := h.totalFor_lt hb id
  have hsize : 1 * most ≤ t.orders.size * most :=
    Int.mul_le_mul_of_nonneg_right (Int.ofNat_le.mpr (size_pos_of_order? ho)) (by omega)
  have hfew := hb.few
  have hlimit : Width.limit .bits64 = 9223372036854775808 := rfl
  unfold FitsCents
  omega

end Accounted

end Tables

namespace Placed

variable {shop : Shop} {request : OrderRequest} {orderId : String} {plan : Plan} {kind : OrderKind} {t t' : Tables}
  {draft : Draft} {most : Int}

theorem size_le (h : Placed shop request orderId plan kind t draft t') : t.orders.size ≤ t'.orders.size := by
  rw [h.tables]
  exact Table.size_le_insert _ _ _

theorem amount_le_price (h : Placed shop request orderId plan kind t draft t')
    (hnonneg : 0 ≤ (request.wallet kind t).balance) : draft.order.amount ≤ draft.order.price := by
  have hvalid : plan.fault? = none := (Policy.check_eq_ok_iff.mp h.accepted).plan
  rw [h.drafted]
  cases kind with
  | create | renew => exact (Plan.netPrice_bounds hvalid).2
  | upgrade =>
    have hprice := (Plan.fault?_eq_none_iff.mp hvalid).2.2.1
    exact Policy.quote_upgrade_amount_le hprice hnonneg (request.fits_wallet_balance .upgrade t)

theorem pricedWithin (h : Placed shop request orderId plan kind t draft t')
    (hplans : shop.catalogue.PricedWithin most) (ht : t.PricedWithin most) : t'.PricedWithin most := by
  intro id o ho
  rw [h.order?_eq] at ho
  split at ho
  · have hvalid := (Policy.check_eq_ok_iff.mp h.accepted).plan
    rw [← Option.some.inj ho, h.drafted]
    exact hplans _ plan h.onSale (Plan.validate_eq_ok_iff.mpr hvalid)
  · exact ht id o ho

end Placed

namespace Settled

variable {payment : Payment} {fresh : FreshIds} {order : Order} {t t' : Tables} {c : Confirmation} {most : Int}

theorem size_eq (h : Settled payment fresh order t c t') : t'.orders.size = t.orders.size := by
  rw [h.orders, Table.size_set]

theorem pricedWithin (h : Settled payment fresh order t c t') (ht : t.PricedWithin most) : t'.PricedWithin most := by
  intro id o ho
  rw [h.order?_eq] at ho
  split at ho
  · rw [← Option.some.inj ho, h.price_eq]
    exact ht _ order h.found
  · exact ht id o ho

end Settled

/-- While the orders are few enough, none is charged more than its price. -/
def Tables.ChargedWithin (most : Int) (t : Tables) : Prop :=
  (t.orders.size : Int) ≤ 9223372036854775807 / most → ∀ id o, t.order? id = some o → o.amount ≤ o.price

namespace Tables.ChargedWithin

variable {t t' : Tables} {most : Int}

theorem bounded (h : t.ChargedWithin most) (hpriced : t.PricedWithin most)
    (hfew : (t.orders.size : Int) ≤ 9223372036854775807 / most) : t.Bounded most where
  amounts ho := Int.le_trans (h hfew _ _ ho) (hpriced _ _ ho)
  few := mul_lt_limit hfew

/-- The sources of an upgrade were charged no more than their price, so its balance does not wrap around. -/
theorem placed {shop : Shop} {request : OrderRequest} {orderId : String} {plan : Plan} {kind : OrderKind}
    {draft : Draft} (h : Placed shop request orderId plan kind t draft t') (hpriced : t.PricedWithin most)
    (ht : t.ChargedWithin most) : t'.ChargedWithin most := by
  intro hfew id o ho
  have hbefore : (t.orders.size : Int) ≤ 9223372036854775807 / most :=
    Int.le_trans (Int.ofNat_le.mpr h.size_le) hfew
  rw [h.order?_eq] at ho
  split at ho
  · obtain rfl := Option.some.inj ho
    exact h.amount_le_price ((ht.bounded hpriced hbefore).balance_nonneg request kind)
  · exact ht hbefore id o ho

theorem settled {payment : Payment} {fresh : FreshIds} {order : Order} {c : Confirmation}
    (h : Settled payment fresh order t c t') (ht : t.ChargedWithin most) : t'.ChargedWithin most := by
  intro hfew id o ho
  rw [h.size_eq] at hfew
  rw [h.order?_eq] at ho
  split at ho
  · rw [← Option.some.inj ho, h.amount_eq, h.price_eq]
    exact ht hfew _ order h.found
  · exact ht hfew id o ho

end Tables.ChargedWithin

namespace Samples

theorem pricedWithin : catalogue.PricedWithin 199800 := by
  have hprices : ∀ plan ∈ catalogue.plans, plan.price ≤ 199800 := by decide +kernel
  exact fun _ _ h _ => hprices _ (List.mem_of_find?_eq_some h)

/-- An upgrade paid in part with what is left of an order, while another upgrade on it is still open. -/
def paidUpgrade (first later next last : Fin 1000) : List Command :=
  [order "A" "standard_year" first, pay "A" 25800 first, order "B" "premium_year" later, order "C" "premium_year" next,
    pay "B" 176100 last]

/-- A year in the standard tier costs more than half of the largest amount. -/
def dear : Catalogue :=
  Catalogue.ofList
    [PlanSpec.plan
        { id := "standard_year", tier := some .standard, cycle := some .year, price := some 5000000000000000000 },
      PlanSpec.plan
        { id := "premium_year", tier := some .premium, cycle := some .year, price := some 199800 }]

/-- Two dear years are paid, and then an upgrade is ordered that draws on both. -/
def overpaid (n : Fin 1000) : List Command :=
  [order "A" "standard_year" n, pay "A" 5000000000000000000 n, order "B" "standard_year" n,
    pay "B" 5000000000000000000 n, order "C" "premium_year" n]

end Samples

namespace Ledger

variable {settings : Settings} {catalogue : Catalogue} {most : Int}

theorem priced_and_charged_after (settings : Settings) (hplans : catalogue.PricedWithin most)
    (commands : List Command) :
    let t := ((opened settings catalogue).after commands).tables
    t.PricedWithin most ∧ t.ChargedWithin most := by
  have hempty : Tables.empty.PricedWithin most ∧ Tables.empty.ChargedWithin most :=
    ⟨fun _ _ h => (by cases h), fun _ _ _ h => (by cases h)⟩
  refine tables_after (l := opened settings catalogue) (P := fun t => t.PricedWithin most ∧ t.ChargedWithin most) rfl
    ?_ ?_ hempty commands
  · intro _ _ _ _ _ _ _ h ht
    exact ⟨h.pricedWithin hplans ht.1, .placed h ht.1 ht.2⟩
  · intro _ _ _ _ _ _ h ht
    exact ⟨h.pricedWithin ht.1, .settled h ht.2⟩

theorem bounded_after (settings : Settings) (hplans : catalogue.PricedWithin most) (commands : List Command)
    (hfew : (((opened settings catalogue).after commands).tables.orders.size : Int) ≤ 9223372036854775807 / most) :
    ((opened settings catalogue).after commands).tables.Bounded most := by
  obtain ⟨hpriced, hcharged⟩ := priced_and_charged_after settings hplans commands
  exact hcharged.bounded hpriced hfew

theorem fits_difference_after (settings : Settings) (hplans : catalogue.PricedWithin most) (commands : List Command)
    (hfew : (((opened settings catalogue).after commands).tables.orders.size : Int) ≤ 9223372036854775807 / most)
    {id : String} {o : Order} (ho : ((opened settings catalogue).after commands).tables.order? id = some o) :
    FitsCents (o.price - Draw.totalFor ((opened settings catalogue).after commands).tables.draws id) :=
  (accounted_after settings catalogue commands).fits_difference (wellFormed_after settings catalogue commands)
    (bounded_after settings hplans commands hfew) (priced_and_charged_after settings hplans commands).1 ho

/-- The price and the amount that the upgrade on two dear years is stored with. -/
theorem exists_overpaid :
    ∃ u, ((opened .standard Samples.dear).after (Samples.overpaid 0)).tables.order? "C" = some u ∧
      u.kind = .upgrade ∧ u.price = 199800 ∧ u.amount = 8446744073709751416 := by
  have hstored : (((opened .standard Samples.dear).after (Samples.overpaid 0)).tables.order? "C").map
      (fun u => (u.kind, u.price, u.amount)) = some (.upgrade, 199800, 8446744073709751416) := by
    cbv
  obtain ⟨u, hu, hfields⟩ := Option.map_eq_some_iff.mp hstored
  simp only [Prod.mk.injEq] at hfields
  exact ⟨u, hu, hfields⟩

theorem totalFor_overpaid :
    Draw.totalFor ((opened .standard Samples.dear).after (Samples.overpaid 0)).tables.draws "C" =
      10000000000000000000 := by
  cbv

end Ledger

end Subscriptions
