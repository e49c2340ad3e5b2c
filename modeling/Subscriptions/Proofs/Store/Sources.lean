import Subscriptions.Proofs.Store.Table
import Subscriptions.Proofs.Wallet
import Subscriptions.Store.Tables

/-!
The sources that are found for a reader: orders of his, confirmed and not used up, each found once. What they are
worth together is the worth of all his orders.
-/

namespace Subscriptions.Tables

set_option autoImplicit false

/-- What an order is worth as a source: nothing unless it is confirmed, and nothing once it is used up. -/
def worth (t : Tables) (asOf : Instant) (o : Order) : Int :=
  match Source.ofOrder? o with
  | some s => if t.isConsumed s.orderId then 0 else s.credit asOf
  | none => 0

/-- The worth of the orders that share an id with the first reader and none with the second, as 64 bits keep it. -/
def worthApart (t : Tables) (asOf : Instant) (r s : Reader) : Int :=
  sumCents ((t.orders.values.filter fun o => o.reader.overlaps r && !o.reader.overlaps s).map (t.worth asOf))

variable {t : Tables} {reader : Reader} {asOf : Instant} {s : Source}

theorem isConsumed_iff {id : String} :
    t.isConsumed id = true ↔ ∃ d ∈ t.draws, d.sourceOrderId = id ∧ d.isConsumed = true := by
  simp [isConsumed]

theorem exists_order_of_mem_sources (h : s ∈ t.sources reader asOf) :
    ∃ key o, t.order? key = some o ∧ o.reader.overlaps reader = true ∧ Source.ofOrder? o = some s ∧
      t.isConsumed s.orderId = false := by
  simp only [sources, Source.sortByStart, List.mem_mergeSort, List.mem_filter, List.mem_filterMap,
    Bool.and_eq_true, Bool.not_eq_true'] at h
  obtain ⟨⟨o, ⟨ho, hover⟩, hs⟩, _, hfree⟩ := h
  obtain ⟨key, hkey⟩ := Table.mem_values_iff.mp ho
  exact ⟨key, o, hkey, hover, hs, hfree⟩

theorem nodup_sources (keyed : ∀ {id o}, t.order? id = some o → o.id = id) (reader : Reader)
    (asOf : Instant) : ((t.sources reader asOf).map (·.orderId)).Nodup := by
  have hids : t.orders.values.map (·.id) = t.orders.entries.map Prod.fst := by
    rw [Table.values, List.map_map]
    apply List.map_congr_left
    intro e he
    exact keyed (Table.get?_eq_some_iff.mpr he)
  have hvalues : t.orders.values.Pairwise fun a b => a.id ≠ b.id := by
    have hnodup : (t.orders.values.map (·.id)).Nodup := by
      rw [hids]
      exact t.orders.nodup
    exact List.pairwise_map.mp hnodup
  have hsources := (hvalues.filter fun o => o.reader.overlaps reader).filterMap Source.ofOrder?
    (S := fun a b => a.orderId ≠ b.orderId) (by
      intro a b hab s hs s' hs'
      rw [(Source.ofOrder?_eq_some hs).2.1, (Source.ofOrder?_eq_some hs').2.1]
      exact hab)
  have hnodup : (((t.orders.values.filter fun o => o.reader.overlaps reader).filterMap
      Source.ofOrder?).map (·.orderId)).Nodup := List.pairwise_map.mpr hsources
  unfold sources Source.sortByStart
  refine ((List.mergeSort_perm _ _).map _).nodup_iff.mpr ?_
  exact (List.filter_sublist.map _).nodup hnodup

theorem sum_sources (t : Tables) (reader : Reader) (asOf : Instant) :
    exactSum ((t.sources reader asOf).map fun s => s.credit asOf) =
      exactSum ((t.orders.values.filter fun o => o.reader.overlaps reader).map (t.worth asOf)) := by
  unfold sources Source.sortByStart
  rw [exactSum_perm ((List.mergeSort_perm _ _).map _)]
  generalize t.orders.values.filter (fun o => o.reader.overlaps reader) = own
  induction own with
  | nil => rfl
  | cons o own ih =>
    simp only [exactSum] at ih ⊢
    cases ho : Source.ofOrder? o with
    | none => simpa only [List.filterMap_cons, ho, List.map_cons, List.foldr_cons, worth, Int.zero_add] using ih
    | some s =>
      simp only [List.filterMap_cons, ho, List.filter_cons, List.map_cons, List.foldr_cons, worth, ← ih]
      cases hused : t.isConsumed s.orderId with
      | true => simp
      | false =>
        cases hactive : s.isActive asOf with
        | true => simp
        | false => simp [Source.credit, Source.balance_of_not_isActive hactive]

/-- The balance of a reader's wallet is the worth of his orders. -/
theorem balance_sources (t : Tables) (reader : Reader) (asOf : Instant) :
    (Wallet.ofSources (t.sources reader asOf) asOf).balance =
      wrapCents (exactSum ((t.orders.values.filter fun o => o.reader.overlaps reader).map (t.worth asOf))) := by
  rw [Wallet.balance_ofSources, sumCents_eq, sum_sources]

/-- Two readers have the same balance exactly if the orders in which they differ come to the same. -/
theorem balance_sources_eq_iff (t : Tables) (r s : Reader) (asOf : Instant) :
    (Wallet.ofSources (t.sources r asOf) asOf).balance = (Wallet.ofSources (t.sources s asOf) asOf).balance ↔
      t.worthApart asOf r s = t.worthApart asOf s r := by
  have hr := exactSum_filter_and (fun o => o.reader.overlaps r) (fun o => o.reader.overlaps s) (t.worth asOf)
    t.orders.values
  have hs := exactSum_filter_and (fun o => o.reader.overlaps s) (fun o => o.reader.overlaps r) (t.worth asOf)
    t.orders.values
  simp only [Bool.and_comm (Reader.overlaps _ s) (Reader.overlaps _ r)] at hs
  rw [balance_sources, balance_sources, hr, hs, worthApart, worthApart, sumCents_eq, sumCents_eq]
  exact Int.bmod_add_cancel_left _

end Subscriptions.Tables
