import Subscriptions.Proofs.Ledger.Regular

/-!
What a payment does to the memberships of others. It writes one row and leaves all others alone, but the key
of that row is one id only: a membership of somebody else that stands under the key gives way.
-/

namespace Subscriptions

set_option autoImplicit false

namespace Tables

/-- The key under which a payment of this reader saves the membership: that of the first row to share an id
with the reader or with the membership found for him, and without such a row an id of his own. -/
def memberKey? (t : Tables) (reader : Reader) : Option String :=
  match t.member? reader with
  | some old => (t.memberEntry? (old.ids.merge reader)).map Prod.fst
  | none => reader.compoundId

/-- The membership in this row, which is not the reader's, stands where his will be saved. -/
inductive Displaces (t : Tables) (reader : Reader) (key : String) (m : Membership) : Prop
  | newcomer (unknown : t.member? reader = none) (named : reader.compoundId = some key)
  | relative {old : Membership} (known : t.member? reader = some old)
      (shared : m.ids.overlaps old.ids = true)
      (first : t.memberEntry? (old.ids.merge reader) = some (key, m))

variable {t t' : Tables} {reader : Reader} {member m : Membership} {key : String}

/-- Saving a membership writes one row. -/
theorem get?_of_saveMember (hids : member.ids = (t.memberOf reader).ids.merge reader)
    (h : t.saveMember member (t.member? reader) = .ok t') :
    ∃ k, t.memberKey? reader = some k ∧
      ∀ key, t'.members.get? key = if key = k then some member else t.members.get? key := by
  rw [ids_memberOf_merge] at hids
  unfold memberKey?
  cases hm : t.member? reader with
  | some old =>
    rw [hm] at hids h
    simp only [saveMember, updateMember] at h
    split at h
    · cases h
    · rename_i k m he
      obtain rfl := Except.ok.inj h
      rw [hids] at he
      refine ⟨k, by simp [he], ?_⟩
      intro key
      rw [Table.get?_set, (get?_of_entry he).1]
      rfl
  | none =>
    rw [hm] at hids h
    obtain rfl : member.ids = reader := hids
    simp only [saveMember, createMember] at h
    split at h
    · cases h
    · rename_i k hk
      split at h
      · cases h
      · obtain rfl := Except.ok.inj h
        exact ⟨k, hk, fun key => Table.get?_insert⟩

/-- A row of somebody else is written over exactly if it is in the way. -/
theorem displaces_iff (hrow : t.members.get? key = some m) (hother : m.ids.overlaps reader = false) :
    t.Displaces reader key m ↔ t.memberKey? reader = some key := by
  unfold memberKey?
  constructor
  · intro h
    cases h with
    | newcomer unknown named =>
      rw [unknown]
      exact named
    | relative known shared first => simp [known, first]
  · cases hm : t.member? reader with
    | none => exact fun hk => .newcomer hm hk
    | some old =>
      intro hk
      obtain ⟨⟨k, m'⟩, he, rfl⟩ := Option.map_eq_some_iff.mp hk
      obtain ⟨hrow', hover⟩ := get?_of_entry he
      obtain rfl : m' = m := Option.some.inj (hrow'.symm.trans hrow)
      have hshared : m'.ids.overlaps old.ids = true := by
        rcases Reader.overlaps_of_overlaps_merge hover with hold | hown
        · exact hold
        · rw [hother] at hown
          cases hown
      exact .relative hm hshared he

/-- If the first row to share an id with the merged ids is the reader's, it is the one that was found for him. -/
theorem memberEntry?_merge_of_overlaps {k : String} {old : Membership}
    (he : t.memberEntry? reader = some (k, old)) (hf : t.memberEntry? (old.ids.merge reader) = some (key, m))
    (hover : m.ids.overlaps reader = true) : key = k ∧ m = old := by
  have hshared : old.ids.overlaps (old.ids.merge reader) = true :=
    Reader.overlaps_merge_self (Reader.isEmpty_eq_false_of_overlaps (get?_of_entry he).2) reader
  have hsame : t.memberEntry? reader = t.memberEntry? (old.ids.merge reader) :=
    Table.find?_eq_find? he hf hshared hover
  rw [he, hf] at hsame
  obtain ⟨rfl, rfl⟩ := Prod.mk.injEq .. ▸ Option.some.inj hsame
  exact ⟨rfl, rfl⟩

end Tables

def Samples.orderFor (reader : Reader) (id : String) (n : Fin 1000) : Command :=
  .create ⟨reader, "standard_year", .wechat, (day n).midnight⟩ id

namespace Ledger

/-- A payment saves the membership that it reports, in one row, and its reader is found to have it. Somebody
else's membership stays as it was unless it stands in that row; then it is gone. -/
theorem others_kept_iff (settings : Settings) (catalogue : Catalogue) (commands : List Command)
    (payment : Payment) (fresh : FreshIds) (c : Confirmation) :
    let l := (opened settings catalogue).after commands
    let t := l.tables
    let t' := (l.confirmPayment payment fresh).2.tables
    (l.confirmPayment payment fresh).1 = .ok c →
      t'.member? c.order.reader = some c.membership ∧
      (∃ k, t.memberKey? c.order.reader = some k ∧
        ∀ key, t'.members.get? key = if key = k then some c.membership else t.members.get? key) ∧
      ∀ key m, t.members.get? key = some m → m.ids.overlaps c.order.reader = false →
        (t'.members.get? key = some m ↔ ¬t.Displaces c.order.reader key m) := by
  intro l t t' hok
  obtain ⟨_, order, h⟩ := confirmPayment_ok (backend_after _ commands) hok
  have hr : order.reader.isEmpty = false := (regular_after settings catalogue commands).owned h.found
  have hfound : t'.member? order.reader = some c.membership := h.member?_eq hr
  obtain ⟨k, hk, hrows⟩ := Tables.get?_of_saveMember h.ids_eq h.saved
  rw [h.reader_eq]
  refine ⟨hfound, ⟨k, hk, hrows⟩, ?_⟩
  intro key m hrow hother
  have hkey : t'.members.get? key = if key = k then some c.membership else t.members.get? key := hrows key
  rw [Tables.displaces_iff hrow hother, hk, hkey]
  split
  · rename_i heq
    -- The reader's own membership shares an id with him, so it is not this one.
    have hne : c.membership ≠ m := by
      rintro rfl
      rw [Tables.overlaps_of_member? hfound] at hother
      cases hother
    simp [heq, hne]
  · rename_i hne
    simpa [hrow] using Ne.symm hne

theorem bystander_kept :
    let l := (opened .standard Samples.catalogue).after [Samples.orderFor ⟨some "x", none⟩ "A" 0,
      Samples.pay "A" 25800 0, Samples.orderFor ⟨none, some "y"⟩ "B" 1]
    let r := l.confirmPayment ⟨"B", 25800, (Samples.day 1).midnight⟩ ⟨"mmb_2", "snp_2"⟩
    ∃ c m, r.1 = .ok c ∧ l.tables.members.get? "x" = some m ∧ m.ids.overlaps c.order.reader = false ∧
      r.2.tables.members.get? "x" = some m := by
  intro l r
  have hreader : r.1.toOption.map (·.order.reader) = some ⟨none, some "y"⟩ := by decide +kernel
  have hids : (l.tables.members.get? "x").map (·.ids) = some ⟨some "x", none⟩ := by decide +kernel
  obtain ⟨m, hm, hmids⟩ := Option.map_eq_some_iff.mp hids
  cases hc : r.1 with
  | error e =>
    rw [hc] at hreader
    cases hreader
  | ok c =>
    rw [hc] at hreader
    have hcreader : c.order.reader = ⟨none, some "y"⟩ := Option.some.inj hreader
    have hother : m.ids.overlaps c.order.reader = false := by
      rw [hmids, hcreader]
      decide
    have hkey : ¬l.tables.memberKey? c.order.reader = some "x" := by
      rw [hcreader]
      decide +kernel
    obtain ⟨_, _, hkept⟩ := others_kept_iff .standard Samples.catalogue _ _ _ c hc
    exact ⟨c, m, rfl, hm, hother,
      (hkept "x" m hm hother).mpr ((not_congr (Tables.displaces_iff hm hother)).mpr hkey)⟩

/-- A reader whose account id is the union id of somebody else pays for a first order. -/
theorem stranger_displaced :
    let r : Reader := ⟨some "x", none⟩
    let l := (opened .standard Samples.catalogue).after [Samples.orderFor ⟨none, some "x"⟩ "A" 0,
      Samples.pay "A" 25800 0, Samples.orderFor r "B" 1]
    let l' := l.confirmPayment ⟨"B", 25800, (Samples.day 1).midnight⟩ ⟨"mmb_2", "snp_2"⟩
    l'.1.isOk = true ∧ (l.tables.order? "B").map (·.reader) = some r ∧
      (l.tables.members.values.filter fun m => m.ids.overlaps r).length ≤ 1 ∧
      ∃ m ∈ l.tables.members.values, m.ids.overlaps r = false ∧ m ∉ l'.2.tables.members.values := by
  decide +kernel

end Ledger

end Subscriptions
