import Subscriptions.Proofs.Ledger.Run
import Subscriptions.Proofs.Policy

/-!
What every table of every run has in common: orders stand under their own ids and belong to somebody, and
memberships carry nothing of a gateway's own subscription.
-/

namespace Subscriptions

set_option autoImplicit false

structure Tables.Regular (t : Tables) : Prop where
  keyed : ∀ {id o}, t.order? id = some o → o.id = id
  owned : ∀ {id o}, t.order? id = some o → o.reader.isEmpty = false
  plain : ∀ m ∈ t.members.values, m.status = .none

namespace Tables

variable {t t' : Tables} {reader : Reader} {member : Membership} {stored : Option Membership}

theorem regular_empty : empty.Regular :=
  ⟨fun h => (by cases h), fun h => (by cases h), fun _ h => (by cases h)⟩

theorem mem_values_of_member? (h : t.member? reader = some member) : member ∈ t.members.values := by
  obtain ⟨key, he⟩ := memberEntry?_of_member? h
  exact Table.mem_values_iff.mpr ⟨key, (get?_of_entry he).1⟩

theorem mem_values_of_saveMember (h : t.saveMember member stored = .ok t') {m : Membership}
    (hm : m ∈ t'.members.values) : m = member ∨ m ∈ t.members.values := by
  cases stored with
  | some old =>
    simp only [saveMember, updateMember] at h
    split at h
    · cases h
    · obtain rfl := Except.ok.inj h
      exact Table.mem_values_set hm
  | none =>
    simp only [saveMember, createMember] at h
    split at h
    · cases h
    · split at h
      · cases h
      · obtain rfl := Except.ok.inj h
        exact Table.mem_values_insert hm

end Tables

theorem Placed.regular {shop : Shop} {request : OrderRequest} {orderId : String} {plan : Plan}
    {kind : OrderKind} {t t' : Tables} {draft : Draft}
    (h : Placed shop request orderId plan kind t draft t') (ht : t.Regular) : t'.Regular where
  keyed := by
    intro id o ho
    rw [h.order?_eq] at ho
    split at ho
    · rename_i hid
      rw [← Option.some.inj ho, h.id_eq, hid]
    · exact ht.keyed ho
  owned := by
    intro id o ho
    rw [h.order?_eq] at ho
    split at ho
    · rw [← Option.some.inj ho, h.reader_eq]
      exact (Policy.check_eq_ok_iff.mp h.accepted).reader
    · exact ht.owned ho
  plain := by
    rw [h.members_eq]
    exact ht.plain

theorem Settled.regular {payment : Payment} {fresh : FreshIds} {order : Order} {t t' : Tables}
    {c : Confirmation} (h : Settled payment fresh order t c t') (ht : t.Regular) : t'.Regular where
  keyed := by
    intro id o ho
    rw [h.order?_eq] at ho
    split at ho
    · rename_i hid
      rw [← Option.some.inj ho, h.id_eq, hid, h.applies.named]
    · exact ht.keyed ho
  owned := by
    intro id o ho
    rw [h.order?_eq] at ho
    split at ho
    · rw [← Option.some.inj ho, h.reader_eq]
      exact ht.owned h.found
    · exact ht.owned ho
  plain := by
    intro m hm
    rcases Tables.mem_values_of_saveMember h.saved hm with rfl | hm
    · rw [h.made.membership]
      rfl
    · exact ht.plain m hm

theorem Ledger.regular_after (settings : Settings) (catalogue : Catalogue) (commands : List Command) :
    ((opened settings catalogue).after commands).tables.Regular :=
  tables_after (l := opened settings catalogue) rfl Placed.regular Settled.regular Tables.regular_empty
    commands

end Subscriptions
