import Subscriptions.Proofs.Reader
import Subscriptions.Proofs.Store.Table
import Subscriptions.Store.Tables

/-!
How memberships are found and saved. A membership made for a reader can be saved, and is then the one that
he is found to have.
-/

namespace Subscriptions.Tables

set_option autoImplicit false

/-- The membership that decisions about a reader go by. -/
def memberOf (t : Tables) (reader : Reader) : Membership :=
  (t.member? reader).getD (Membership.zero reader)

def saveMember (t : Tables) (member : Membership) : Option Membership → Except TableError Tables
  | some _ => t.updateMember member
  | none => t.createMember member

variable {t t' : Tables} {member : Membership} {stored : Option Membership} {reader : Reader}

theorem memberOf_congr (h : t'.members = t.members) : t'.memberOf reader = t.memberOf reader := by
  simp only [memberOf, member?, memberEntry?, h]

theorem saveMember_withOrders (orders : Table Order) :
    { t with orders := orders }.saveMember member stored =
      (t.saveMember member stored).map fun t' => { t' with orders := orders } := by
  cases stored with
  | some old =>
    have hentry : memberEntry? { t with orders := orders } member.ids = t.memberEntry? member.ids := rfl
    simp only [saveMember, updateMember, hentry]
    cases t.memberEntry? member.ids <;> rfl
  | none =>
    have hentry : memberEntry? { t with orders := orders } member.ids = t.memberEntry? member.ids := rfl
    simp only [saveMember, createMember, hentry]
    cases member.ids.compoundId with
    | none => rfl
    | some key => cases t.memberEntry? member.ids <;> rfl

theorem eq_of_saveMember (h : t.saveMember member stored = .ok t') :
    t' = { t with members := t'.members } := by
  cases stored with
  | some old =>
    simp only [saveMember, updateMember] at h
    split at h
    · cases h
    · rw [← Except.ok.inj h]
  | none =>
    simp only [saveMember, createMember] at h
    split at h
    · cases h
    · split at h
      · cases h
      · rw [← Except.ok.inj h]

theorem memberEntry?_of_member? (h : t.member? reader = some member) :
    ∃ key, t.memberEntry? reader = some (key, member) := by
  obtain ⟨⟨key, m⟩, he, rfl⟩ := Option.map_eq_some_iff.mp h
  exact ⟨key, he⟩

theorem get?_of_entry {key : String} (h : t.memberEntry? reader = some (key, member)) :
    t.members.get? key = some member ∧ member.ids.overlaps reader = true :=
  ⟨Table.get?_eq_some_iff.mpr (List.mem_of_find?_eq_some h),
    List.find?_some (p := fun e : String × Membership => e.2.ids.overlaps reader) h⟩

theorem overlaps_eq_false_of_not_found {key : String} (h : t.memberEntry? reader = none)
    (hrow : t.members.get? key = some member) : member.ids.overlaps reader = false := by
  have hmiss := List.find?_eq_none.mp h (key, member) (Table.get?_eq_some_iff.mp hrow)
  simpa using hmiss

theorem exists_found_of_overlaps {key : String} (hrow : t.members.get? key = some member)
    (hover : member.ids.overlaps reader = true) : ∃ k m, t.memberEntry? reader = some (k, m) := by
  cases he : t.memberEntry? reader with
  | some e => exact ⟨e.1, e.2, rfl⟩
  | none =>
    rw [overlaps_eq_false_of_not_found he hrow] at hover
    cases hover

theorem overlaps_of_member? (h : t.member? reader = some member) : member.ids.overlaps reader = true := by
  obtain ⟨key, he⟩ := memberEntry?_of_member? h
  exact (get?_of_entry he).2

theorem ids_memberOf_merge (t : Tables) (reader : Reader) :
    (t.memberOf reader).ids.merge reader =
      match t.member? reader with
      | some m => m.ids.merge reader
      | none => reader := by
  unfold memberOf
  cases t.member? reader with
  | some m => rfl
  | none => exact Reader.merge_self reader

/-- A saved membership is the one that its reader is found to have. -/
theorem member?_of_saveMember (hids : member.ids = (t.memberOf reader).ids.merge reader)
    (hr : reader.isEmpty = false) (h : t.saveMember member (t.member? reader) = .ok t') :
    t'.member? reader = some member := by
  rw [ids_memberOf_merge] at hids
  cases hm : t.member? reader with
  | some old =>
    rw [hm] at hids h
    obtain ⟨k, hk⟩ := memberEntry?_of_member? hm
    have hover := overlaps_of_member? hm
    simp only [saveMember, updateMember] at h
    split at h
    · cases h
    · rename_i key _ he
      obtain rfl := Except.ok.inj h
      have hold : old.ids.overlaps member.ids = true := by
        rw [hids]
        exact Reader.overlaps_merge_self (Reader.isEmpty_eq_false_of_overlaps hover) reader
      have hnew : member.ids.overlaps reader = true := by
        rw [hids]
        exact Reader.overlaps_merge hover reader
      have hset := Table.find?_set hk he hold hnew
      simp only [member?, memberEntry?, hset, Option.map_some]
  | none =>
    rw [hm] at hids h
    obtain rfl : member.ids = reader := hids
    simp only [saveMember, createMember] at h
    split at h
    · cases h
    · split at h
      · cases h
      · rename_i key _ _
        obtain rfl := Except.ok.inj h
        have hnone : t.memberEntry? member.ids = none := Option.map_eq_none_iff.mp hm
        have hins := Table.find?_insert_of_none (k := key) hnone (Reader.overlaps_self hr)
        simp only [member?, memberEntry?, hins, Option.map_some]

/-- A membership made for a reader who has an id can always be saved. -/
theorem exists_saveMember (hids : member.ids = (t.memberOf reader).ids.merge reader)
    (hr : reader.isEmpty = false) : ∃ t', t.saveMember member (t.member? reader) = .ok t' := by
  rw [ids_memberOf_merge] at hids
  cases hm : t.member? reader with
  | some old =>
    rw [hm] at hids
    obtain ⟨k, hk⟩ := memberEntry?_of_member? hm
    have hover := Reader.overlaps_merge_self
      (Reader.isEmpty_eq_false_of_overlaps (overlaps_of_member? hm)) reader
    simp only [saveMember, updateMember]
    cases he : t.memberEntry? member.ids with
    | some e => exact ⟨_, rfl⟩
    | none =>
      rw [hids] at he
      have hmem := List.mem_of_find?_eq_some hk
      exact absurd hover (List.find?_eq_none.mp he (k, old) hmem)
  | none =>
    rw [hm] at hids
    obtain rfl : member.ids = reader := hids
    have hnone : t.memberEntry? member.ids = none := Option.map_eq_none_iff.mp hm
    simp only [saveMember, createMember, hnone]
    cases hc : member.ids.compoundId with
    | none => simp [Reader.compoundId_eq_none_iff.mp hc] at hr
    | some key => exact ⟨_, rfl⟩

end Subscriptions.Tables
