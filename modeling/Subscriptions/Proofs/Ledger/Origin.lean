import Subscriptions.Proofs.Ledger.Regular

/-!
Where the orders and the memberships of a run come from. Each order was made by one command of the run, and all that
has been changed of it since is its confirmation; each membership is what a payment of the run has reported.
-/

namespace Subscriptions

set_option autoImplicit false

namespace Change

variable {shop : Shop} {t t' : Tables} {command : Command} {reply : Reply} {id : String} {o : Order}

theorem exists_create (h : Change shop t command reply t') (hn : t.order? id = none)
    (ho : t'.order? id = some o) :
    ∃ request draft, command = .create request id ∧ reply = .created (.ok draft) ∧ o = draft.order := by
  cases h with
  | kept _ =>
    rw [hn] at ho
    cases ho
  | @placed request orderId _ _ draft _ h =>
    rw [h.order?_eq] at ho
    split at ho
    · rename_i hid
      exact ⟨request, draft, by rw [hid], rfl, (Option.some.inj ho).symm⟩
    · rw [hn] at ho
      cases ho
  | settled h =>
    rw [h.order?_eq] at ho
    split at ho
    · rename_i hid
      rw [hid, h.found] at hn
      cases hn
    · rw [hn] at ho
      cases ho

end Change

namespace Ledger

/-- The order as it was made is kept by every command but for its confirmation. -/
theorem order?_after {l : MemoryLedger} {id : String} {o : Order} (hb : l.backend = MemoryStore.backend)
    (ho : l.tables.order? id = some o) (commands : List Command) :
    ∃ o', (l.after commands).tables.order? id = some o' ∧ o' = o.withConfirmation o' := by
  refine tables_after (P := fun t => ∃ o', t.order? id = some o' ∧ o' = o.withConfirmation o') hb ?_ ?_ ?_
    commands
  · rintro _ _ _ _ _ _ _ h ⟨o', ho', hkept⟩
    exact ⟨o', (h.order?_kept ho').2, hkept⟩
  · rintro _ _ _ _ _ _ h ⟨o', ho', hkept⟩
    obtain ⟨o'', ho'', hkept'⟩ := h.order?_kept ho'
    refine ⟨o'', ho'', ?_⟩
    rw [hkept', hkept]
    rfl
  · exact ⟨o, ho, rfl⟩

/-- Every order of a run was made in it. -/
theorem exists_createOrder {settings : Settings} {catalogue : Catalogue} {commands : List Command}
    {id : String} {o : Order} (ho : ((opened settings catalogue).after commands).tables.order? id = some o) :
    ∃ before request rest draft, commands = before ++ .create request id :: rest ∧
      (((opened settings catalogue).after before).createOrder request id).1 = .ok draft ∧
      o = draft.order.withConfirmation o := by
  obtain ⟨before, command, rest, rfl, hn, o₁, ho₁⟩ :=
    exists_first (l := opened settings catalogue) (P := fun t => ∃ o, t.order? id = some o)
      (fun ⟨_, h⟩ => (by cases h)) ⟨o, ho⟩
  have hb : (opened settings catalogue).backend = MemoryStore.backend := rfl
  have hnone : ((opened settings catalogue).after before).tables.order? id = none := by
    cases hc : ((opened settings catalogue).after before).tables.order? id with
    | none => rfl
    | some o => exact absurd ⟨o, hc⟩ hn
  obtain ⟨request, draft, rfl, hreply, rfl⟩ := (change_after hb before command).exists_create hnone ho₁
  obtain ⟨o', ho', hkept⟩ := order?_after ((backend_after _ _).trans hb) ho₁ rest
  rw [← after_append, ← List.append_cons] at ho'
  obtain rfl : o = o' := Option.some.inj (ho.symm.trans ho')
  exact ⟨before, request, rest, draft, rfl, Reply.created.inj hreply, hkept⟩

/-- Every membership of a run was brought about by a payment in it. -/
theorem exists_settled_membership {settings : Settings} {catalogue : Catalogue} {commands : List Command}
    {m : Membership} (hm : m ∈ ((opened settings catalogue).after commands).tables.members.values) :
    ∃ before payment fresh order c t, Settled payment fresh order
      ((opened settings catalogue).after before).tables c t ∧ c.membership = m := by
  obtain ⟨before, command, rest, rfl, hn, hfirst⟩ :=
    exists_first (l := opened settings catalogue) (P := fun t => m ∈ t.members.values) (fun h => by cases h) hm
  have hchange := change_after (l := opened settings catalogue) rfl before command
  cases hc : (((opened settings catalogue).after before).execute command).1.confirmation? with
  | none =>
    rw [hchange.members_eq hc] at hfirst
    exact absurd hfirst hn
  | some c =>
    obtain ⟨payment, fresh, order, _, hs⟩ := hchange.exists_settled_of_confirmation hc
    rcases Tables.mem_values_of_saveMember hs.saved hfirst with heq | hold
    · exact ⟨before, payment, fresh, order, c, _, hs, heq.symm⟩
    · exact absurd hold hn

end Ledger

end Subscriptions
