import Subscriptions.Proofs.Ledger.Displacement

/-!
A reader whose ids have been linked. Under whichever of them he signs in, the same membership is found, so the same
orders are open to him. But his sources are looked for under the ids of the session alone, so an upgrade may cost
more under one id than under the other.
-/

namespace Subscriptions

set_option autoImplicit false

/-- All ids of the first reader are ids of the second. -/
def Reader.PartOf (r s : Reader) : Prop :=
  (∀ x ∈ r.ftcId, s.ftcId = some x) ∧ ∀ x ∈ r.unionId, s.unionId = some x

instance (r s : Reader) : Decidable (r.PartOf s) := inferInstanceAs (Decidable (_ ∧ _))

/-- The membership stands under the key, and no other shares an id with it. -/
def Tables.HoldsAlone (t : Tables) (key : String) (m : Membership) : Prop :=
  (key, m) ∈ t.members.entries ∧ ∀ e ∈ t.members.entries, e.2.ids.overlaps m.ids = true → e.1 = key

instance (t : Tables) (key : String) (m : Membership) : Decidable (t.HoldsAlone key m) :=
  inferInstanceAs (Decidable (_ ∧ _))

/-- The same request from a session under other ids. -/
def OrderRequest.signedIn (request : OrderRequest) (r : Reader) : OrderRequest := { request with reader := r }

theorem OrderRequest.planId_signedIn (request : OrderRequest) (r : Reader) :
    (request.signedIn r).planId = request.planId := rfl

/-- What an order charges and grants. -/
def Order.quoted (o : Order) : Quote := ⟨o.amount, o.cycleCount, o.extraDays⟩

namespace Reader

variable {q r s : Reader}

theorem PartOf.overlaps_left (h : r.PartOf s) (hq : q.overlaps r = true) : q.overlaps s = true := by
  rw [overlaps_iff] at hq ⊢
  rcases hq with ⟨x, hx, hr⟩ | ⟨x, hx, hr⟩
  · exact .inl ⟨x, hx, h.1 x hr⟩
  · exact .inr ⟨x, hx, h.2 x hr⟩

theorem PartOf.overlaps_self (h : r.PartOf s) (hr : r.isEmpty = false) : s.overlaps r = true := by
  rw [overlaps_comm]
  exact h.overlaps_left (Reader.overlaps_self hr)

end Reader

/-- Whoever signs in under ids of a membership that stands alone is found to have it. -/
theorem Tables.HoldsAlone.memberOf_eq {t : Tables} {key : String} {m : Membership} (h : t.HoldsAlone key m)
    {r : Reader} (hp : r.PartOf m.ids) (hr : r.isEmpty = false) : t.memberOf r = m := by
  obtain ⟨hrow, halone⟩ := h
  cases he : t.memberEntry? r with
  | none =>
    have hmiss := List.find?_eq_none.mp he (key, m) hrow
    exact absurd (hp.overlaps_self hr) hmiss
  | some e =>
    obtain ⟨k, m'⟩ := e
    obtain ⟨hget, hover⟩ := get?_of_entry he
    have hentry : (k, m') ∈ t.members.entries := Table.get?_eq_some_iff.mp hget
    obtain rfl : k = key := halone _ hentry (hp.overlaps_left hover)
    obtain rfl : m' = m := Option.some.inj (hget.symm.trans (Table.get?_eq_some_iff.mpr hrow))
    simp only [memberOf, member?, he, Option.map_some, Option.getD_some]

namespace Samples

def upgradeOn (day : Date) : OrderRequest := ⟨⟨none, none⟩, "premium_year", .wechat, day.midnight⟩

end Samples

namespace Ledger

variable {l : MemoryLedger}

/-- The ids of a session decide nothing about a purchase but whose membership and whose sources are looked up. -/
theorem check_signedIn (p : Policy) {t : Tables} {r₁ r₂ : Reader} (request : OrderRequest) (plan : Plan)
    (hr₁ : r₁.isEmpty = false) (hr₂ : r₂.isEmpty = false) (hm : t.memberOf r₁ = t.memberOf r₂) :
    p.check ((request.signedIn r₁).purchase plan t) = p.check ((request.signedIn r₂).purchase plan t) := by
  have hsame : (request.signedIn r₂).purchase plan t =
      { (request.signedIn r₁).purchase plan t with reader := r₂ } := by
    simp only [OrderRequest.purchase, OrderRequest.signedIn, hm]
  rw [hsame]
  exact (Policy.check_withReader hr₁ hr₂).symm

/-- Orders made under different ids charge and grant the same, but for upgrades that draw on orders of different
worth. -/
theorem quoted_draft_eq_iff (p : Policy) (t : Tables) (request : OrderRequest) (plan : Plan) (kind : OrderKind)
    (r₁ r₂ : Reader) (id₁ id₂ : String) :
    let draft (r : Reader) (id : String) : Draft :=
      p.draft ((request.signedIn r).purchase plan t) kind ((request.signedIn r).wallet kind t) id
    let o₁ := (draft r₁ id₁).order
    let o₂ := (draft r₂ id₂).order
    o₁.quoted = o₂.quoted ↔ (kind = .upgrade →
      t.worthApart request.now r₁ r₂ = t.worthApart request.now r₂ r₁ ∨
        o₁.amount = 0 ∧ o₂.amount = 0 ∧ o₁.cycleCount = o₂.cycleCount ∧ o₁.extraDays = o₂.extraDays) := by
  intro draft o₁ o₂
  cases kind with
  | create => exact ⟨fun _ h => (by cases h), fun _ => rfl⟩
  | renew => exact ⟨fun _ h => (by cases h), fun _ => rfl⟩
  | upgrade =>
    have hquotes := p.quote_upgrade_eq_iff plan ((request.signedIn r₁).fits_wallet_balance .upgrade t)
      ((request.signedIn r₂).fits_wallet_balance .upgrade t)
    have hbalances := t.balance_sources_eq_iff r₁ r₂ request.now
    simp only [true_implies]
    rw [← hbalances]
    exact hquotes

/-- Under ids of one membership that stands alone, a reader is refused the same orders and is sold the same kinds of
orders. They charge and grant the same, unless it is an upgrade and the orders that he has made under only the one
or only the other id differ in worth; then only if both are free and last as long. -/
theorem linked_orders_agree_iff (settings : Settings) (catalogue : Catalogue) (commands : List Command)
    (key : String) (m : Membership) (request : OrderRequest) (r₁ r₂ : Reader) (id₁ id₂ : String) :
    let l := (opened settings catalogue).after commands
    let first := (l.createOrder (request.signedIn r₁) id₁).1
    let second := (l.createOrder (request.signedIn r₂) id₂).1
    l.store.faults.total = 0 → l.tables.HoldsAlone key m →
      r₁.PartOf m.ids → r₂.PartOf m.ids → r₁.isEmpty = false → r₂.isEmpty = false →
      (id₁ = id₂ ∨ l.tables.order? id₁ = none ∧ l.tables.order? id₂ = none) →
      (∃ f, first = .error f ∧ second = .error f) ∨
        ∃ d₁ d₂, first = .ok d₁ ∧ second = .ok d₂ ∧ d₁.order.kind = d₂.order.kind ∧
          (d₁.order.quoted = d₂.order.quoted ↔ (d₁.order.kind = .upgrade →
            l.tables.worthApart request.now r₁ r₂ = l.tables.worthApart request.now r₂ r₁ ∨
              d₁.order.amount = 0 ∧ d₂.order.amount = 0 ∧ d₁.order.cycleCount = d₂.order.cycleCount ∧
              d₁.order.extraDays = d₂.order.extraDays)) := by
  intro l first second hcalm halone hp₁ hp₂ hr₁ hr₂ hids
  have hb : l.backend = MemoryStore.backend := backend_after _ commands
  have hmember : l.tables.memberOf r₁ = l.tables.memberOf r₂ :=
    (halone.memberOf_eq hp₁ hr₁).trans (halone.memberOf_eq hp₂ hr₂).symm
  have hfirst : first = _ := createOrder_of_calm hb (Faults.eq_zero_of_total hcalm) (request.signedIn r₁) id₁
  have hsecond : second = _ := createOrder_of_calm hb (Faults.eq_zero_of_total hcalm) (request.signedIn r₂) id₂
  rw [OrderRequest.planId_signedIn] at hfirst hsecond
  cases hplan : l.shop.catalogue.require request.planId with
  | error refusal =>
    rw [hplan] at hfirst hsecond
    exact .inl ⟨_, hfirst, hsecond⟩
  | ok plan =>
    rw [hplan] at hfirst hsecond
    simp only at hfirst hsecond
    rw [← check_signedIn l.shop.policy request plan hr₁ hr₂ hmember] at hsecond
    cases hcheck : l.shop.policy.check ((request.signedIn r₁).purchase plan l.tables) with
    | error refusal =>
      rw [hcheck] at hfirst hsecond
      exact .inl ⟨_, hfirst, hsecond⟩
    | ok kind =>
      rw [hcheck] at hfirst hsecond
      simp only at hfirst hsecond
      have htaken : (l.tables.orders.contains id₁ = true ∧ id₁ = id₂) ∨
          (l.tables.orders.contains id₁ = false ∧ l.tables.orders.contains id₂ = false) := by
        rcases hids with rfl | ⟨hnew₁, hnew₂⟩
        · cases hc : l.tables.orders.contains id₁ with
          | true => exact .inl ⟨rfl, rfl⟩
          | false => exact .inr ⟨rfl, rfl⟩
        · exact .inr ⟨Table.contains_eq_false_iff.mpr hnew₁, Table.contains_eq_false_iff.mpr hnew₂⟩
      rcases htaken with ⟨htaken, rfl⟩ | ⟨hfree₁, hfree₂⟩
      · rw [if_pos htaken] at hfirst hsecond
        exact .inl ⟨_, hfirst, hsecond⟩
      · simp only [hfree₁, hfree₂, Bool.false_eq_true, if_false] at hfirst hsecond
        exact .inr ⟨_, _, hfirst, hsecond, rfl,
          quoted_draft_eq_iff l.shop.policy l.tables request plan kind r₁ r₂ id₁ id₂⟩

/-- A reader whose only order was made under both his ids upgrades for the same under either. -/
theorem upgrade_under_either_id :
    let l := (opened .standard Samples.catalogue).after
      [Samples.orderFor ⟨some "x", some "y"⟩ "A" 0, Samples.pay "A" 25800 0]
    let upgrade := Samples.upgradeOn (Samples.day 100)
    ∃ d₁ d₂, (l.createOrder (upgrade.signedIn ⟨some "x", none⟩) "B").1 = .ok d₁ ∧
      (l.createOrder (upgrade.signedIn ⟨none, some "y"⟩) "C").1 = .ok d₂ ∧
      d₁.order.kind = d₂.order.kind ∧ d₁.order.quoted = d₂.order.quoted := by
  intro l upgrade
  have hm : (l.tables.members.get? "x").isSome = true := by decide +kernel
  have halone : l.tables.HoldsAlone "x" (Option.get _ hm) := by decide +kernel +revert
  have hp₁ : Reader.PartOf ⟨some "x", none⟩ (Option.get _ hm).ids := by decide +kernel +revert
  have hp₂ : Reader.PartOf ⟨none, some "y"⟩ (Option.get _ hm).ids := by decide +kernel +revert
  have hcalm : l.store.faults.total = 0 := by decide +kernel
  have hmade : (l.createOrder (upgrade.signedIn ⟨some "x", none⟩) "B").1.isOk = true := by
    decide +kernel
  rcases linked_orders_agree_iff .standard Samples.catalogue _ "x" _ upgrade ⟨some "x", none⟩
    ⟨none, some "y"⟩ "B" "C" hcalm halone hp₁ hp₂ rfl rfl
    (.inr (by decide +kernel)) with ⟨f, hf, _⟩ | ⟨d₁, d₂, h₁, h₂, hkind, hagree⟩
  · rw [hf] at hmade
    cases hmade
  · exact ⟨d₁, d₂, h₁, h₂, hkind, hagree.mpr fun _ => .inl (by decide +kernel)⟩

/-- A month is bought under both ids and then a year under one of them. When the month is over, an upgrade costs 1788
under that id and the full 1998 under the other. -/
theorem upgrade_under_other_id_costs_more :
    let linked : Reader := ⟨some "x", some "y"⟩
    let l := (opened .standard Samples.catalogue).after
      [.create ⟨linked, "standard_month", .wechat, (Samples.day 0).midnight⟩ "A", Samples.pay "A" 3500 0,
        Samples.orderFor ⟨some "x", none⟩ "B" 1, Samples.pay "B" 25800 1]
    let upgrade := Samples.upgradeOn (Samples.day 100)
    let amount (r : Reader) : Option Int :=
      (l.createOrder (upgrade.signedIn r) "C").1.toOption.map (·.order.amount)
    (∃ m ∈ l.tables.members.get? "x", l.tables.HoldsAlone "x" m ∧ m.ids = linked) ∧
      l.store.faults.total = 0 ∧ l.tables.order? "C" = none ∧
      amount ⟨some "x", none⟩ = some 178800 ∧ amount ⟨none, some "y"⟩ = some 199800 := by
  decide +kernel

end Ledger

end Subscriptions
