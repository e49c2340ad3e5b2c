import Subscriptions.Proofs.Ledger.Origin

/-!
What payments do to premium memberships. Orders for a lower tier are not made while a premium membership is
valid, but one that was made before can still be paid, and then takes the premium membership's place.
-/

namespace Subscriptions

set_option autoImplicit false

def Tables.IsPremiumOn (t : Tables) (reader : Reader) (day : Date) : Prop :=
  ∃ m, t.member? reader = some m ∧ m.tier = .premium ∧ m.isValid day = true

instance (t : Tables) (reader : Reader) (day : Date) : Decidable (t.IsPremiumOn reader day) :=
  decidable_of_iff ((t.member? reader).any (fun m => m.tier == .premium && m.isValid day) = true) (by
    simp [Tables.IsPremiumOn, Option.any_eq_true])

namespace Placed

variable {shop : Shop} {request : OrderRequest} {orderId : String} {plan : Plan} {kind : OrderKind}
  {t t' : Tables} {draft : Draft}

theorem tier_eq_premium (h : Placed shop request orderId plan kind t draft t') (ht : t.Regular)
    (hp : t.IsPremiumOn request.reader request.now.date) : draft.order.tier = .premium := by
  obtain ⟨m, hm, htier, hvalid⟩ := hp
  have hmember : (request.purchase plan t).member = m := by
    simp [OrderRequest.purchase, Tables.memberOf, hm]
  have hplain : m.status = .none := ht.plain m (Tables.mem_values_of_member? hm)
  have hkind := (Policy.check_eq_ok_iff.mp h.accepted).kind
  rw [hmember] at hkind
  rw [h.tier_eq]
  exact Policy.tier_eq_premium htier hvalid hplain hkind

theorem tier_ne_none (h : Placed shop request orderId plan kind t draft t') : draft.order.tier ≠ .none := by
  rw [h.tier_eq]
  exact (Plan.fault?_eq_none_iff.mp (Policy.check_eq_ok_iff.mp h.accepted).plan).1

end Placed

namespace Settled

variable {payment : Payment} {fresh : FreshIds} {order : Order} {t t' : Tables} {c : Confirmation}

theorem kind_ne_upgrade (h : Settled payment fresh order t c t')
    (hp : t.IsPremiumOn order.reader payment.confirmed.date) : order.kind ≠ .upgrade := by
  obtain ⟨m, hm, htier, hvalid⟩ := hp
  intro hk
  have hmember : t.memberOf order.reader = m := by simp [Tables.memberOf, hm]
  have hdup := h.applies.noDuplicate hk
  rw [hmember, hvalid] at hdup
  cases hdup htier

end Settled

namespace Samples

def renewal : List Command :=
  [order "A" "standard_year" 0, pay "A" 25800 0, order "B" "premium_year" 30, pay "B" 176100 30,
    order "C" "premium_year" 31]

def renewalPayment : Payment := ⟨"C", 199800, (day 31).midnight⟩

end Samples

namespace Ledger

variable {settings : Settings} {catalogue : Catalogue} {commands : List Command}

/-- The order was made in the run at a time when no valid premium membership was found for its reader. -/
def MadeWithoutPremium (settings : Settings) (catalogue : Catalogue) (commands : List Command) (o : Order) :
    Prop :=
  ∃ before request rest, commands = before ++ .create request o.id :: rest ∧
    (((opened settings catalogue).after before).createOrder request o.id).1.isOk = true ∧
    request.reader = o.reader ∧ request.now = o.created ∧
    ¬((opened settings catalogue).after before).tables.IsPremiumOn o.reader o.created.date

theorem madeWithoutPremium {id : String} {o : Order}
    (ho : ((opened settings catalogue).after commands).tables.order? id = some o) (ht : o.tier ≠ .premium) :
    o.tier = .standard ∧ MadeWithoutPremium settings catalogue commands o := by
  obtain ⟨before, request, rest, draft, hcommands, hmade, hkept⟩ := exists_createOrder ho
  obtain ⟨plan, kind, h⟩ := createOrder_ok (backend_after _ before) hmade
  have hid : o.id = id := by rw [hkept, ← h.id_eq]; rfl
  have htier : o.tier = draft.order.tier := by rw [hkept]; rfl
  have hreader : request.reader = o.reader := by rw [hkept, ← h.reader_eq]; rfl
  have hnow : request.now = o.created := by rw [hkept, ← h.created_eq]; rfl
  constructor
  · have hnone := h.tier_ne_none
    rw [← htier] at hnone
    cases hc : o.tier with
    | none => exact absurd hc hnone
    | standard => rfl
    | premium => exact absurd hc ht
  · rw [← hid] at hcommands hmade
    refine ⟨before, request, rest, hcommands, by rw [hmade]; rfl, hreader, hnow, ?_⟩
    intro hp
    rw [← hreader, ← hnow] at hp
    exact ht (htier.trans (h.tier_eq_premium (regular_after settings catalogue before) hp))

/-- A payment that comes while a premium membership is valid leaves a premium one exactly if its order is for
premium. An order for standard is paid all the same if the payment applies to it, and it was made when no
premium membership was valid. -/
theorem premium_kept_iff (settings : Settings) (catalogue : Catalogue) (commands : List Command)
    (payment : Payment) (fresh : FreshIds) (o : Order) :
    let l := (opened settings catalogue).after commands
    let l' := (l.confirmPayment payment fresh).2
    l.tables.order? payment.orderId = some o → l.tables.IsPremiumOn o.reader payment.confirmed.date →
      ((l.confirmPayment payment fresh).1.isOk = true ↔
        payment.Applies o (l.tables.memberOf o.reader) ∧
          ∀ op ∈ MemoryStore.calls (Settlement.work payment fresh) l.tables, l.store.faults op = 0) ∧
      ((l.confirmPayment payment fresh).1.isOk = true → o.kind ≠ .upgrade ∧
        ∃ m, l'.tables.member? o.reader = some m ∧ (m.tier = .premium ↔ o.tier = .premium)) ∧
      (o.tier ≠ .premium → o.tier = .standard ∧ MadeWithoutPremium settings catalogue commands o) := by
  intro l l' ho hp
  have hb : l.backend = MemoryStore.backend := backend_after _ commands
  have hr : o.reader.isEmpty = false := (regular_after settings catalogue commands).owned ho
  refine ⟨confirmPayment_isOk_iff hb ho hr, ?_, madeWithoutPremium ho⟩
  intro hok
  obtain ⟨_, order, c, h⟩ := exists_settled hb hok
  obtain rfl : order = o := Option.some.inj (h.found.symm.trans ho)
  refine ⟨h.kind_ne_upgrade hp, c.membership, h.member?_eq hr, ?_⟩
  rw [h.tier_eq]

/-- An upgrade is paid, and then a renewal of what it upgraded to. -/
theorem premium_kept_by_renewal :
    ∃ o m, ((opened .standard Samples.catalogue).after Samples.renewal).tables.order? "C" = some o ∧
      ((opened .standard Samples.catalogue).after Samples.renewal).tables.IsPremiumOn o.reader
        Samples.renewalPayment.confirmed.date ∧
      (((opened .standard Samples.catalogue).after Samples.renewal).confirmPayment
        Samples.renewalPayment ⟨"mmb_2", "snp_2"⟩).2.tables.member? o.reader = some m ∧
      (m.tier = .premium ↔ o.tier = .premium) := by
  have ho : (((opened .standard Samples.catalogue).after Samples.renewal).tables.order? "C").isSome =
      true := by decide +kernel
  have hp : ((opened .standard Samples.catalogue).after Samples.renewal).tables.IsPremiumOn
      (Option.get _ ho).reader Samples.renewalPayment.confirmed.date := by decide +kernel +revert
  have h := premium_kept_iff .standard Samples.catalogue Samples.renewal Samples.renewalPayment
    ⟨"mmb_2", "snp_2"⟩ _ (Option.some_get ho).symm hp
  obtain ⟨_, m, hm, htier⟩ := h.2.1 (by decide +kernel)
  exact ⟨_, m, (Option.some_get ho).symm, hp, hm, htier⟩

/-- A renewal is made, an upgrade is made and paid, and then the renewal is paid. -/
theorem renewal_downgrades :
    let l := (opened .standard Samples.catalogue).after [Samples.order "A" "standard_year" 0,
      Samples.pay "A" 25800 0, Samples.order "B" "standard_year" 30, Samples.order "C" "premium_year" 30,
      Samples.pay "C" 176100 30]
    let payment : Payment := ⟨"B", 25800, (Samples.day 31).midnight⟩
    let l' := l.confirmPayment payment ⟨"mmb_2", "snp_2"⟩
    l.tables.IsPremiumOn (Samples.reader "reader-1") payment.confirmed.date ∧ l'.1.isOk = true ∧
      (l'.2.tables.member? (Samples.reader "reader-1")).map (·.tier) = some .standard := by
  decide +kernel

end Ledger

end Subscriptions
