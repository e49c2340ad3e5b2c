import Mathlib.Data.List.Induction
import Subscriptions.Proofs.CheckedPricing
import Subscriptions.Proofs.Ledger.Charges
import Subscriptions.Proofs.Ledger.Checked

/-!
Money stays in range. With a bound on the prices and on the number of orders no sum, difference, product or quotient of
a run leaves its type: the checked run does not halt, and so the other one does not wrap around anywhere.
-/

namespace Subscriptions

set_option autoImplicit false

namespace Tables

variable {t : Tables} {most : Int} {order : Order} {moment : Instant} {d : Draw}

namespace Bounded

theorem checkedOfSources_eq (h : t.Bounded most) (hmost : most ≤ Plan.maxPrice) (request : OrderRequest) :
    Wallet.checkedOfSources (t.sources request.reader request.now) request.now =
      some (request.wallet .upgrade t) :=
  Wallet.checkedOfSources_eq (fun _ hs => Int.le_trans (h.amount_le hs) hmost) (h.exactSum_lt _ _)

end Bounded

theorem mem_consumedBy (h : d ∈ t.consumedBy order moment) :
    ∃ e ∈ t.draws, d = consume moment e := by
  unfold consumedBy at h
  split at h
  · obtain ⟨e, he, rfl⟩ := List.mem_map.mp h
    exact ⟨e, (List.mem_filter.mp he).1, rfl⟩
  · cases h
  · cases h

namespace Accounted

theorem length_consumedBy_le (h : t.Accounted) (order : Order) (moment : Instant) :
    (t.consumedBy order moment).length ≤ t.orders.size := by
  unfold consumedBy
  split
  · have hpending : (t.draws.filter (isPending order.id)).length ≤ t.orders.size :=
      h.length_filter_le fun d hd => beq_iff_eq.mp (Bool.and_eq_true_iff.mp hd).1
    exact Nat.le_trans (Nat.le_of_eq (List.length_map _)) hpending
  · exact Nat.zero_le _
  · exact Nat.zero_le _

theorem balances_consumedBy (h : t.Accounted) (hb : t.Bounded most) :
    ∀ x ∈ (t.consumedBy order moment).map (·.balance), 0 ≤ x ∧ x ≤ most := by
  intro x hx
  obtain ⟨d, hd, rfl⟩ := List.mem_map.mp hx
  obtain ⟨e, he, rfl⟩ := mem_consumedBy hd
  have hbounds := h.balances_le hb he
  exact hbounds

end Accounted

end Tables

namespace Shop

variable {t : Tables} {shop : Shop} {request : OrderRequest} {plan : Plan} {orderId : String} {most : Int}

theorem mirrors_walletWork (ht : t.Bounded most) (hmost : most ≤ Plan.maxPrice) (request : OrderRequest)
    (kind : OrderKind) :
    Work.Mirrors t (walletWork request.reader request.now kind)
      (checkedWalletWork request.reader request.now kind) := by
  cases kind with
  | create | renew => exact .done _
  | upgrade =>
    refine .step fun x t' hp => ?_
    obtain ⟨hx, rfl⟩ := Prod.mk.inj hp
    obtain rfl := Except.ok.inj hx
    have hwallet : Wallet.checkedOfSources (t.sources request.reader request.now) request.now =
        some (Wallet.ofSources (t.sources request.reader request.now) request.now) :=
      ht.checkedOfSources_eq hmost request
    simp only [Work.bind, hwallet]
    exact .done _

theorem checkedDraft_eq (ht : t.Bounded most) (hmost : most ≤ Plan.maxPrice)
    (hplan : plan.validate = .ok () → plan.price ≤ most) {kind : OrderKind}
    (hcheck : shop.policy.check (request.purchase plan t) = .ok kind) (orderId : String) :
    shop.policy.checkedDraft (request.purchase plan t) kind (request.wallet kind t) orderId =
      some (shop.policy.draft (request.purchase plan t) kind (request.wallet kind t) orderId) := by
  have hvalid : plan.fault? = none := (Policy.check_eq_ok_iff.mp hcheck).plan
  have hprice : plan.price ≤ Plan.maxPrice := Int.le_trans (hplan (Plan.validate_eq_ok_iff.mpr hvalid)) hmost
  exact shop.policy.checkedDraft_eq kind hprice hvalid (ht.balance_nonneg request kind)
    (request.fits_wallet_balance kind t).2 orderId

theorem mirrors_orderWork (ht : t.Bounded most) (hmost : most ≤ Plan.maxPrice)
    (hplan : plan.validate = .ok () → plan.price ≤ most) (shop : Shop) (request : OrderRequest) (orderId : String) :
    Work.Mirrors t (shop.orderWork request plan orderId) (shop.checkedOrderWork request plan orderId) := by
  unfold orderWork checkedOrderWork
  refine .bind (.ask t _) fun stored t' hmember => ?_
  obtain ⟨rfl, rfl⟩ := Prod.mk.inj (Except.ok.inj hmember)
  refine .bind (.ofExcept _ _) fun kind t' hkind => ?_
  obtain ⟨hcheck, rfl⟩ := Work.of_eval_ofExcept hkind
  refine .bind (mirrors_walletWork ht hmost request kind) fun wallet t' hwallet => ?_
  rw [eval_walletWork] at hwallet
  obtain ⟨rfl, rfl⟩ := Prod.mk.inj (Except.ok.inj hwallet)
  have hdraft := checkedDraft_eq ht hmost hplan hcheck orderId
  unfold OrderRequest.purchase Tables.memberOf at hdraft
  rw [hdraft]
  refine .bind (.ask t _) fun _ _ _ => ?_
  dsimp only
  split
  · exact .done _
  · exact .bind (.ask _ _) fun _ _ _ => .done _

/-- What an order draws on its sources can be added up. -/
theorem checkedAppliedBalance_eq (ht : t.Bounded most) {kind : OrderKind} {draft : Draft} {t' : Tables}
    (h : Placed shop request orderId plan kind t draft t') :
    draft.checkedAppliedBalance = some draft.appliedBalance := by
  have hnonneg : ∀ x ∈ draft.draws.map (·.balance), 0 ≤ x := by
    intro x hx
    obtain ⟨d, hd, rfl⟩ := List.mem_map.mp hx
    obtain ⟨_, s, _, hpos, rfl⟩ := h.mem_draws hd
    exact Int.le_of_lt hpos
  apply Width.total_eq_sumCents hnonneg
  cases kind with
  | create | renew =>
    rw [h.drafted]
    exact Width.limit_bits64_pos
  | upgrade =>
    rw [h.draws_of_upgrade, Wallet.map_balance_draws]
    exact ht.exactSum_lt _ _

end Shop

theorem Settlement.checkedEvents_eq {t : Tables} {s : Settlement} {order : Order} {moment : Instant} {most : Int}
    (ha : t.Accounted) (hb : t.Bounded most) (h : s.consumed = t.consumedBy order moment) :
    s.checkedEvents = some s.events := by
  have hbalances : ∀ x ∈ s.consumed.map (·.balance), 0 ≤ x ∧ x ≤ most := by
    rw [h]
    exact ha.balances_consumedBy hb
  have hcount : (s.consumed.map (·.balance)).length ≤ t.orders.size := by
    rw [List.length_map, h]
    exact ha.length_consumedBy_le order moment
  have htotal : Width.bits64.total (s.consumed.map (·.balance)) = some (sumCents (s.consumed.map (·.balance))) :=
    Width.total_eq_sumCents (fun x hx => (hbalances x hx).1)
      (exactSum_lt hbalances hcount hb.few Width.limit_bits64_pos)
  unfold checkedEvents events
  cases s.consumed.isEmpty with
  | true => rfl
  | false =>
    simp only [htotal]
    rfl

namespace Ledger

variable {l : MemoryLedger} {most : Int}

theorem checkedCreateOrder_eq (hb : l.backend = MemoryStore.backend) (ht : l.tables.Bounded most)
    (hmost : most ≤ Plan.maxPrice) (hplans : l.shop.catalogue.PricedWithin most) (request : OrderRequest)
    (orderId : String) :
    l.checkedCreateOrder request orderId = some (l.createOrder request orderId) := by
  unfold checkedCreateOrder createOrder
  cases hs : l.shop.catalogue.require request.planId with
  | error refusal => rfl
  | ok plan =>
    have hprice := hplans _ plan (Catalogue.get?_of_require hs)
    have hmirrors := Shop.mirrors_orderWork ht hmost hprice l.shop request orderId
    have htransact := MemoryStore.transact_of_mirrors (m := l.store) hmirrors
    simp only [hb, htransact]
    cases hr : MemoryStore.backend.transact id (l.shop.orderWork request plan orderId) l.store with
    | mk result store =>
      cases result with
      | error f => rfl
      | ok draft =>
        obtain ⟨_, t', he, _⟩ := MemoryStore.transact_eq_ok_iff.mp hr
        obtain ⟨kind, hplaced⟩ := Shop.placed_of_eval hs he
        simp only [Except.mapError, Shop.checkedAppliedBalance_eq ht hplaced]
        rfl

theorem checkedConfirmPayment_eq (hb : l.backend = MemoryStore.backend) (ha : l.tables.Accounted)
    (ht : l.tables.Bounded most) (payment : Payment) (fresh : FreshIds) :
    l.checkedConfirmPayment payment fresh = some (l.confirmPayment payment fresh) := by
  unfold checkedConfirmPayment confirmPayment
  cases hr : l.backend.transact Rejection.ofFailure (Settlement.work payment fresh) l.store with
  | mk result store =>
    cases result with
    | error r => rfl
    | ok s =>
      rw [hb] at hr
      obtain ⟨_, t', he, _⟩ := MemoryStore.transact_eq_ok_iff.mp hr
      obtain ⟨order, _, hconsumed⟩ := Settlement.settled_of_eval he
      simp only [Settlement.checkedEvents_eq ha ht hconsumed]
      rfl

theorem checkedExecute_eq (hb : l.backend = MemoryStore.backend) (ha : l.tables.Accounted)
    (ht : l.tables.Bounded most) (hmost : most ≤ Plan.maxPrice) (hplans : l.shop.catalogue.PricedWithin most)
    (command : Command) : l.checkedExecute command = some (l.execute command) := by
  cases command with
  | create request orderId =>
    simp only [checkedExecute, checkedCreateOrder_eq hb ht hmost hplans]
    rfl
  | pay payment fresh =>
    simp only [checkedExecute, checkedConfirmPayment_eq hb ha ht]
    rfl
  | failNext op times => rfl

end Ledger

theorem Change.size_le {shop : Shop} {t t' : Tables} {command : Command} {reply : Reply}
    (h : Change shop t command reply t') : t.orders.size ≤ t'.orders.size := by
  cases h with
  | kept _ => exact Nat.le_refl _
  | placed h => exact h.size_le
  | settled h => exact Nat.le_of_eq h.size_eq.symm

namespace Ledger

/-- If no plan that can be sold costs more than so much, which is at most the largest price, then no command halts in
checked arithmetic as long as there are no more orders than there are such prices in the largest integer; and neither
does the run up to there. A discount that is allowed is at most the price, so it needs no bound of its own. -/
theorem money_in_range (settings : Settings) (catalogue : Catalogue) {most : Int} (hmost : most ≤ Plan.maxPrice)
    (hplans : catalogue.PricedWithin most) (commands : List Command)
    (hfew : (((opened settings catalogue).after commands).tables.orders.size : Int) ≤ 9223372036854775807 / most) :
    (opened settings catalogue).checkedAfter commands = some ((opened settings catalogue).after commands) ∧
      ∀ command, ((opened settings catalogue).after commands).checkedExecute command =
        some (((opened settings catalogue).after commands).execute command) := by
  have hstep (commands : List Command)
      (hfew : (((opened settings catalogue).after commands).tables.orders.size : Int) ≤ 9223372036854775807 / most)
      (command : Command) : ((opened settings catalogue).after commands).checkedExecute command =
        some (((opened settings catalogue).after commands).execute command) := by
    apply checkedExecute_eq (backend_after _ commands) (accounted_after settings catalogue commands)
      (bounded_after settings hplans commands hfew) hmost
    rw [shop_after]
    exact hplans
  refine ⟨?_, hstep commands hfew⟩
  induction commands using List.reverseRecOn with
  | nil => rfl
  | append_singleton commands command ih =>
    have hchange := change_after (l := opened settings catalogue) rfl commands command
    have hbefore := Int.le_trans (Int.ofNat_le.mpr hchange.size_le) hfew
    rw [checkedAfter_concat, ih hbefore, Option.bind_some, hstep commands hbefore command, after_concat]
    rfl

/-- A reader goes from the standard tier to the premium tier, at prices of at most 199800 cents. -/
theorem upgrade_in_range :
    let commands := [Samples.order "A" "standard_year" 0, Samples.pay "A" 25800 0, Samples.order "B" "premium_year" 30,
      Samples.pay "B" 176100 32]
    let l := (opened .standard Samples.catalogue).after commands
    (199800 : Int) ≤ Plan.maxPrice ∧
      Samples.catalogue.PricedWithin 199800 ∧
      (l.tables.orders.size : Int) ≤ 9223372036854775807 / 199800 ∧ l.tables.draws ≠ [] ∧
      (opened .standard Samples.catalogue).checkedAfter commands = some l := by
  intro commands l
  have hmost : (199800 : Int) ≤ Plan.maxPrice := by decide
  have hfew : (l.tables.orders.size : Int) ≤ 9223372036854775807 / 199800 := by decide +kernel
  have hdrawn : l.tables.draws ≠ [] := by decide +kernel
  exact ⟨hmost, Samples.pricedWithin, hfew, hdrawn,
    (money_in_range .standard Samples.catalogue hmost Samples.pricedWithin commands hfew).1⟩

end Ledger

end Subscriptions
