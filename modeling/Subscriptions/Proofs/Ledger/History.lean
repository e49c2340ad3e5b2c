import Subscriptions.Proofs.Ledger.Confirmed

/-!
What has been stored stays on record. Orders and draws are never taken away or moved, and of each only what
its confirmation or its consumption sets is written later, once.
-/

namespace Subscriptions

set_option autoImplicit false

/-- A later row of the same order: only its confirmation can be new, and only if it had none. -/
structure Order.Continues (o o' : Order) : Prop where
  kept : o' = o.withConfirmation o'
  final : o.isConfirmed = true → o' = o

structure Draw.Continues (d d' : Draw) : Prop where
  kept : d' = { d with consumed := d'.consumed }
  final : d.isConsumed = true → d' = d

/-- Later tables keep every order under its id and every draw in its place; new draws come after the old. -/
structure Tables.Continues (t t' : Tables) : Prop where
  orders : ∀ {id o}, t.order? id = some o → ∃ o', t'.order? id = some o' ∧ o.Continues o'
  draws : ∀ {i : Nat} {d}, t.draws[i]? = some d → ∃ d', t'.draws[i]? = some d' ∧ d.Continues d'

theorem Order.Continues.refl (o : Order) : o.Continues o := ⟨rfl, fun _ => rfl⟩

theorem Order.Continues.trans {a b c : Order} (hab : a.Continues b) (hbc : b.Continues c) :
    a.Continues c where
  kept := by
    rw [hbc.kept, hab.kept]
    rfl
  final := by
    intro ha
    obtain rfl := hab.final ha
    exact hbc.final ha

theorem Draw.Continues.refl (d : Draw) : d.Continues d := ⟨rfl, fun _ => rfl⟩

theorem Draw.Continues.trans {a b c : Draw} (hab : a.Continues b) (hbc : b.Continues c) :
    a.Continues c where
  kept := by
    rw [hbc.kept, hab.kept]
  final := by
    intro ha
    obtain rfl := hab.final ha
    exact hbc.final ha

theorem Draw.continues_afterPayment (order : Order) (moment : Instant) (d : Draw) :
    d.Continues (d.afterPayment order moment) where
  kept := by
    unfold afterPayment
    split <;> rfl
  final := by
    intro hd
    simp [afterPayment, Tables.isPending, hd]

namespace Tables.Continues

variable {t t' t'' : Tables}

theorem refl (t : Tables) : t.Continues t where
  orders ho := ⟨_, ho, .refl _⟩
  draws hd := ⟨_, hd, .refl _⟩

theorem trans (h : t.Continues t') (h' : t'.Continues t'') : t.Continues t'' where
  orders := by
    intro id o ho
    obtain ⟨o', ho', hkept⟩ := h.orders ho
    obtain ⟨o'', ho'', hkept'⟩ := h'.orders ho'
    exact ⟨o'', ho'', hkept.trans hkept'⟩
  draws := by
    intro i d hd
    obtain ⟨d', hd', hkept⟩ := h.draws hd
    obtain ⟨d'', hd'', hkept'⟩ := h'.draws hd'
    exact ⟨d'', hd'', hkept.trans hkept'⟩

end Tables.Continues

theorem Placed.continues {shop : Shop} {request : OrderRequest} {orderId : String} {plan : Plan}
    {kind : OrderKind} {t t' : Tables} {draft : Draft}
    (h : Placed shop request orderId plan kind t draft t') : t.Continues t' where
  orders ho := ⟨_, (h.order?_kept ho).2, .refl _⟩
  draws := by
    intro i d hd
    obtain ⟨hi, _⟩ := List.getElem?_eq_some_iff.mp hd
    refine ⟨d, ?_, .refl d⟩
    rw [h.draws_eq, List.getElem?_append_left hi]
    exact hd

theorem Settled.continues {payment : Payment} {fresh : FreshIds} {order : Order} {t t' : Tables}
    {c : Confirmation} (h : Settled payment fresh order t c t') : t.Continues t' where
  orders := by
    intro id o ho
    obtain ⟨o', ho', hkept⟩ := h.order?_kept ho
    refine ⟨o', ho', hkept, ?_⟩
    intro hc
    exact Option.some.inj (ho'.symm.trans (h.order?_of_confirmed ho hc).2)
  draws := by
    intro i d hd
    refine ⟨_, ?_, d.continues_afterPayment order payment.confirmed⟩
    rw [h.draws, List.getElem?_map, hd]
    rfl

/-- An order's row is written again only by a payment for it that succeeds, and is confirmed from then on. -/
theorem Change.exists_confirmation {shop : Shop} {t t' : Tables} {command : Command} {reply : Reply}
    {id : String} {o : Order} (h : Change shop t command reply t') (ho : t.order? id = some o)
    (hne : t'.order? id ≠ some o) :
    ∃ payment fresh c, command = .pay payment fresh ∧ reply = .paid (.ok c) ∧ payment.orderId = id ∧
      t'.order? id = some c.order ∧ c.order.isConfirmed = true := by
  cases h with
  | kept _ => exact absurd ho hne
  | placed h => exact absurd (h.order?_kept ho).2 hne
  | @settled payment fresh order c _ h =>
    have hid : id = payment.orderId := by
      by_cases hid : id = payment.orderId
      · exact hid
      · rw [h.order?_eq, if_neg hid] at hne
        exact absurd ho hne
    have hrow : t'.order? id = some c.order := by
      rw [h.order?_eq, if_pos hid]
    have hconfirmed : c.order.isConfirmed = true := by
      rw [Order.isConfirmed, h.made.confirmed]
      rfl
    exact ⟨payment, fresh, c, rfl, rfl, hid.symm, hrow, hconfirmed⟩

namespace Samples

def upgradeMade (first later : Fin 1000) : List Command :=
  [order "A" "standard_year" first, pay "A" 25800 first, order "B" "premium_year" later]

def upgradePaid (n : Fin 1000) : List Command :=
  [.failNext .commit 1, pay "B" 176100 n, pay "B" 176100 n, pay "B" 176100 n]

end Samples

namespace Ledger

variable {l : MemoryLedger} {id : String} {o : Order}

theorem continues_after (hb : l.backend = MemoryStore.backend) (commands : List Command) :
    l.tables.Continues (l.after commands).tables := by
  refine tables_after (P := fun t => l.tables.Continues t) hb ?_ ?_ (.refl _) commands
  · intro _ _ _ _ _ _ _ h ht
    exact ht.trans h.continues
  · intro _ _ _ _ _ _ h ht
    exact ht.trans h.continues

/-- An order whose row has changed was confirmed in one step, and the row is the same before it and after it. -/
theorem exists_confirmPayment (hb : l.backend = MemoryStore.backend) {commands : List Command}
    (ho : l.tables.order? id = some o) (hne : (l.after commands).tables.order? id ≠ some o) :
    ∃ before payment fresh rest, commands = before ++ .pay payment fresh :: rest ∧
      payment.orderId = id ∧ ((l.after before).confirmPayment payment fresh).1.isOk = true ∧
      (l.after before).tables.order? id = some o ∧
      ((l.after before).confirmPayment payment fresh).2.tables.order? id =
        (l.after commands).tables.order? id := by
  obtain ⟨before, command, rest, rfl, hbefore, hfirst⟩ :=
    exists_first (P := fun t => t.order? id ≠ some o) (not_not_intro ho) hne
  have hrow : (l.after before).tables.order? id = some o := Decidable.not_not.mp hbefore
  obtain ⟨payment, fresh, c, rfl, hreply, hid, hnext, hconfirmed⟩ :=
    (change_after hb before command).exists_confirmation hrow hfirst
  have hok : ((l.after before).confirmPayment payment fresh).1 = .ok c := Reply.paid.inj hreply
  have hlast := order?_after_confirmed ((backend_after l _).trans hb) hnext hconfirmed rest
  rw [← after_append, ← List.append_cons] at hlast
  rw [after_concat] at hnext
  refine ⟨before, payment, fresh, rest, rfl, hid, ?_, hrow, hnext.trans hlast.symm⟩
  rw [hok]
  rfl

/-- Whatever the store held at first and whatever is made to fail, between any two points of a run nothing is
taken off the record, and a row of an order changes in the one step that confirms the order. -/
theorem history_continues (settings : Settings) (catalogue : Catalogue) (store : MemoryStore)
    (earlier later : List Command) :
    let l := (start settings catalogue MemoryStore.backend store).after earlier
    l.tables.Continues (l.after later).tables ∧
      ∀ id o, l.tables.order? id = some o → (l.after later).tables.order? id ≠ some o →
        ∃ before payment fresh rest, later = before ++ .pay payment fresh :: rest ∧
          payment.orderId = id ∧ ((l.after before).confirmPayment payment fresh).1.isOk = true ∧
          (l.after before).tables.order? id = some o ∧
          ((l.after before).confirmPayment payment fresh).2.tables.order? id =
            (l.after later).tables.order? id := by
  intro l
  have hb : l.backend = MemoryStore.backend := backend_after _ earlier
  exact ⟨continues_after hb later, fun id o ho hne => exists_confirmPayment hb ho hne⟩

/-- The payment of an upgrade fails once, is applied, and comes again. -/
theorem upgrade_confirmed_in_one_step :
    let l := (start .standard Samples.catalogue MemoryStore.backend .empty).after (Samples.upgradeMade 0 30)
    let later := Samples.upgradePaid 30
    ∃ o, l.tables.order? "B" = some o ∧ (l.after later).tables.order? "B" ≠ some o ∧
      ∃ before payment fresh rest, later = before ++ .pay payment fresh :: rest ∧
        payment.orderId = "B" ∧ ((l.after before).confirmPayment payment fresh).1.isOk = true ∧
        (l.after before).tables.order? "B" = some o ∧
        ((l.after before).confirmPayment payment fresh).2.tables.order? "B" =
          (l.after later).tables.order? "B" := by
  intro l later
  have ho : (l.tables.order? "B").isSome = true := by decide +kernel
  have hne : (l.after later).tables.order? "B" ≠ some (Option.get _ ho) := by
    decide +kernel +revert
  exact ⟨_, (Option.some_get ho).symm, hne,
    (history_continues .standard Samples.catalogue .empty (Samples.upgradeMade 0 30) later).2 "B" _
      (Option.some_get ho).symm hne⟩

end Ledger

end Subscriptions
