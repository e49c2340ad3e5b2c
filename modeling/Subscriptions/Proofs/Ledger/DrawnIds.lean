import Subscriptions.Proofs.Ledger.Settlement

/-!
The ids drawn for a payment, of a new membership and of a copy, are written down and decide nothing. With
other ids the same payment comes to the same, but for these.
-/

namespace Subscriptions

set_option autoImplicit false

/-- Two results that are the same once mapped have failed alike, or have both succeeded. -/
theorem cases_of_map_eq {ε α β : Type} {f : α → β} {r r' : Except ε α} (h : r.map f = r'.map f) :
    (∃ e, r = .error e ∧ r' = .error e) ∨ ∃ a a', r = .ok a ∧ r' = .ok a' ∧ f a = f a' := by
  cases r with
  | error e =>
    cases r' with
    | error e' =>
      obtain rfl : e = e' := Except.error.inj h
      exact .inl ⟨e, rfl, rfl⟩
    | ok a' => cases h
  | ok a =>
    cases r' with
    | error e' => cases h
    | ok a' => exact .inr ⟨a, a', rfl, rfl, Except.ok.inj h⟩

def Order.blankId (o : Order) : Order := { o with snapshotId := o.snapshotId.map fun _ => "" }

def Membership.blankId (m : Membership) : Membership := { m with id := m.id.map fun _ => "" }

def Confirmation.blankIds (c : Confirmation) : Confirmation where
  order := c.order.blankId
  membership := c.membership.blankId
  snapshot := { c.snapshot with id := "" }

/-- The tables with the ids of memberships and copies left blank: only whether there is one can be seen. -/
def Tables.blankIds (t : Tables) : Tables where
  members := t.members.map Membership.blankId
  orders := t.orders.map Order.blankId
  draws := t.draws

theorem Confirmation.build_blankIds (payment : Payment) (order : Order) (member : Membership)
    (fresh drawn : FreshIds) :
    (build payment order member fresh).map blankIds = (build payment order member drawn).map blankIds := by
  unfold build
  split
  · rfl
  split
  · rfl
  rename_i hopen
  split
  · rfl
  simp only
  split
  · rfl
  split
  · rfl
  · rename_i finish _
    simp only [Order.confirm?, hopen, if_false, Bool.false_eq_true]
    -- Whether a copy is kept and whether the membership has an id already does not depend on the ids drawn.
    by_cases hz : member.isZero = true <;> cases hm : member.id <;>
      simp [Except.map, blankIds, Order.blankId, Membership.blankId, Membership.ofOrder, Snapshot.take,
        Snapshot.withOrder, Snapshot.isEmpty, hm, hz]

namespace Tables

variable {t : Tables} {m m' : Membership}

theorem saveMember_blankIds (h : m.blankId = m'.blankId) (stored : Option Membership) :
    (t.saveMember m stored).map blankIds = (t.saveMember m' stored).map blankIds := by
  have hids : m.ids = m'.ids := (Membership.mk.inj h).1
  cases stored with
  | some old =>
    simp only [saveMember, updateMember, hids]
    cases t.memberEntry? m'.ids with
    | none => rfl
    | some e => simp only [Except.map, blankIds, Table.map_set, h]
  | none =>
    simp only [saveMember, createMember, hids]
    cases m'.ids.compoundId with
    | none => rfl
    | some key =>
      simp only
      split
      · rfl
      · simp only [Except.map, blankIds, Table.map_insert, h]

end Tables

namespace Settlement

/-- What is reported and what is left in the tables, but for the ids of memberships and copies. -/
def blankOutcome (r : Except Rejection (Settlement × Tables)) : Except Rejection (Confirmation × Tables) :=
  r.map fun s => (s.1.confirmation.blankIds, s.2.blankIds)

theorem eval_work_blankOutcome (wrap : Failure → Rejection) (payment : Payment) (fresh drawn : FreshIds)
    (t : Tables) :
    blankOutcome ((work payment fresh).eval wrap t) = blankOutcome ((work payment drawn).eval wrap t) := by
  cases hf : t.order? payment.orderId with
  | none => simp only [work, Work.bind_def, Work.ask, Work.bind, Work.eval, Tables.perform, hf]
  | some order =>
    rcases cases_of_map_eq (Confirmation.build_blankIds payment order (t.memberOf order.reader) fresh drawn)
      with ⟨r, hb, hb'⟩ | ⟨c, c', hb, hb', hc⟩
    · rw [eval_work_of_rejected hf hb, eval_work_of_rejected hf hb']
    · have he := eval_work_of_build wrap hf hb
      have he' := eval_work_of_build wrap hf hb'
      obtain ⟨horder, hmember, _⟩ := Confirmation.mk.inj hc
      rw [he, he']
      rcases cases_of_map_eq (Tables.saveMember_blankIds hmember (t.member? order.reader)) with
        ⟨e, hs, hs'⟩ | ⟨u, u', hs, hs', hu⟩
      · rw [hs, hs']
      · have hmembers : u.members.map Membership.blankId = u'.members.map Membership.blankId :=
          (Tables.mk.inj hu).1
        rw [hs, hs']
        simp only [blankOutcome, Except.map, Tables.blankIds, Table.map_set, hc, horder, hmembers]

end Settlement

end Subscriptions
