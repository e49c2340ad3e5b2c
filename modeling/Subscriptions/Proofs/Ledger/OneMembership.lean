import Subscriptions.Proofs.Ledger.Displacement

/-!
One membership for each reader. As long as nobody pays who is found in two memberships at once, no two memberships
share an id, and one that is paid for again keeps its row, its id and the ids of its reader.
-/

namespace Subscriptions

set_option autoImplicit false

/-- No two memberships share an id with the reader. -/
def Tables.Unambiguous (t : Tables) (reader : Reader) : Prop :=
  (t.members.values.filter fun m => m.ids.overlaps reader).length ≤ 1

instance (t : Tables) (reader : Reader) : Decidable (t.Unambiguous reader) :=
  inferInstanceAs (Decidable (_ ≤ 1))

/-- Every membership has an id and belongs to somebody, and no two share an id of their readers. -/
structure Tables.OneEach (t : Tables) : Prop where
  named : ∀ m ∈ t.members.values, m.id.isSome = true
  owned : ∀ m ∈ t.members.values, m.ids.isEmpty = false
  apart : ∀ {k m k' m'}, t.members.get? k = some m → t.members.get? k' = some m' → k ≠ k' →
    m.ids.overlaps m'.ids = false

/-- Whoever pays in the run is found in at most one membership when his payment is applied. -/
def Ledger.Unambiguous (l : MemoryLedger) : List Command → Prop
  | [] => True
  | command :: commands =>
    (∀ c ∈ (l.execute command).1.confirmation?, l.tables.Unambiguous c.order.reader) ∧
      Unambiguous (l.execute command).2 commands

instance Ledger.decidableUnambiguous (l : MemoryLedger) : (commands : List Command) →
    Decidable (l.Unambiguous commands)
  | [] => inferInstanceAs (Decidable True)
  | command :: commands =>
    have := decidableUnambiguous (l.execute command).2 commands
    inferInstanceAs (Decidable (_ ∧ _))

/-- Two readers who each share an id with somebody who has only one share it with each other. -/
theorem Reader.overlaps_of_single {q r s : Reader} (hs : s.ftcId = none ∨ s.unionId = none)
    (hq : q.overlaps s = true) (hr : r.overlaps s = true) : q.overlaps r = true := by
  rw [overlaps_iff] at hq hr ⊢
  rcases hs with hs | hs <;> simp only [hs, reduceCtorEq, and_false, exists_false, false_or, or_false] at hq hr
  · obtain ⟨x, hqx, hsx⟩ := hq
    obtain ⟨y, hry, hsy⟩ := hr
    obtain rfl : x = y := Option.some.inj (hsx.symm.trans hsy)
    exact .inr ⟨x, hqx, hry⟩
  · obtain ⟨x, hqx, hsx⟩ := hq
    obtain ⟨y, hry, hsy⟩ := hr
    obtain rfl : x = y := Option.some.inj (hsx.symm.trans hsy)
    exact .inl ⟨x, hqx, hry⟩

namespace Tables

variable {t t' : Tables} {reader : Reader} {key : String} {m : Membership}

theorem unambiguous_iff :
    t.Unambiguous reader ↔ ∀ {k m k' m'}, t.members.get? k = some m → t.members.get? k' = some m' →
      m.ids.overlaps reader = true → m'.ids.overlaps reader = true → k = k' :=
  Table.length_filter_values_le_one_iff

theorem oneEach_empty : empty.OneEach where
  named _ hm := by cases hm
  owned _ hm := by cases hm
  apart h := by cases h

namespace OneEach

theorem congr (h : t.OneEach) (hm : t'.members = t.members) : t'.OneEach where
  named := by
    rw [hm]
    exact h.named
  owned := by
    rw [hm]
    exact h.owned
  apart := by
    rw [hm]
    exact h.apart

/-- Under one id alone nobody is found in two memberships. -/
theorem unambiguous (h : t.OneEach) (hs : reader.ftcId = none ∨ reader.unionId = none) :
    t.Unambiguous reader := by
  rw [unambiguous_iff]
  intro k m k' m' hm hm' hover hover'
  by_cases hk : k = k'
  · exact hk
  · have happart := h.apart hm hm' hk
    rw [Reader.overlaps_of_single hs hover hover'] at happart
    cases happart

/-- The ids that a reader brings to his membership lead to no other one. -/
theorem memberEntry?_merge (h : t.OneEach) (he : t.memberEntry? reader = some (key, m)) :
    t.memberEntry? (m.ids.merge reader) = some (key, m) := by
  obtain ⟨hrow, hover⟩ := get?_of_entry he
  have hshared : m.ids.overlaps (m.ids.merge reader) = true :=
    Reader.overlaps_merge_self (Reader.isEmpty_eq_false_of_overlaps hover) reader
  obtain ⟨k, m', hf⟩ := exists_found_of_overlaps hrow hshared
  obtain ⟨hrow', hover'⟩ := get?_of_entry hf
  obtain rfl : k = key := by
    rcases Reader.overlaps_of_overlaps_merge hover' with hold | hown
    · by_cases hk : k = key
      · exact hk
      · rw [h.apart hrow' hrow hk] at hold
        cases hold
    · exact (memberEntry?_merge_of_overlaps he hf hown).1
  obtain rfl : m' = m := Option.some.inj (hrow'.symm.trans hrow)
  exact hf

theorem memberKey?_eq (h : t.OneEach) (he : t.memberEntry? reader = some (key, m)) :
    t.memberKey? reader = some key := by
  simp only [memberKey?, member?, he, Option.map_some, h.memberEntry?_merge he]

/-- What a reader's membership becomes shares no id with what stands in other rows. -/
theorem overlaps_merge_eq_false (h : t.OneEach) (hu : t.Unambiguous reader) {k : String}
    (hk : t.memberKey? reader = some k) (hrow : t.members.get? key = some m) (hne : key ≠ k) :
    m.ids.overlaps ((t.memberOf reader).ids.merge reader) = false := by
  rw [ids_memberOf_merge]
  cases he : t.memberEntry? reader with
  | none =>
    simp only [member?, he, Option.map_none]
    exact overlaps_eq_false_of_not_found he hrow
  | some e =>
    obtain ⟨key', old⟩ := e
    obtain ⟨hrow', hover'⟩ := get?_of_entry he
    obtain rfl : key' = k := Option.some.inj ((h.memberKey?_eq he).symm.trans hk)
    simp only [member?, he, Option.map_some]
    cases hover : m.ids.overlaps (old.ids.merge reader) with
    | false => rfl
    | true =>
      rcases Reader.overlaps_of_overlaps_merge hover with hold | hown
      · rw [h.apart hrow hrow' hne] at hold
        cases hold
      · exact absurd (unambiguous_iff.mp hu hrow hrow' hown hover') hne

end OneEach

end Tables

namespace Settled

variable {payment : Payment} {fresh : FreshIds} {order : Order} {t t' : Tables} {c : Confirmation}

theorem oneEach (h : Settled payment fresh order t c t') (hr : order.reader.isEmpty = false)
    (hu : t.Unambiguous order.reader) (ht : t.OneEach) : t'.OneEach where
  named := by
    intro m hm
    rcases Tables.mem_values_of_saveMember h.saved hm with rfl | hm
    · simp [h.made.membership, Membership.ofOrder]
    · exact ht.named m hm
  owned := by
    intro m hm
    rcases Tables.mem_values_of_saveMember h.saved hm with rfl | hm
    · exact Reader.isEmpty_eq_false_of_overlaps (Tables.overlaps_of_member? (h.member?_eq hr))
    · exact ht.owned m hm
  apart := by
    intro k₁ m₁ k₂ m₂ hm₁ hm₂ hne
    obtain ⟨k, hk, hrows⟩ := Tables.get?_of_saveMember h.ids_eq h.saved
    have hother {key : String} {m : Membership} (hrow : t.members.get? key = some m) (hkey : key ≠ k) :
        m.ids.overlaps c.membership.ids = false := by
      rw [h.ids_eq]
      exact ht.overlaps_merge_eq_false hu hk hrow hkey
    -- At most one of the two rows is the one that was written.
    have hrow₁ := (hrows k₁).symm.trans hm₁
    have hrow₂ := (hrows k₂).symm.trans hm₂
    split at hrow₁
    · rename_i h₁
      obtain rfl := Option.some.inj hrow₁
      rw [if_neg (h₁ ▸ hne.symm)] at hrow₂
      rw [Reader.overlaps_comm]
      exact hother hrow₂ (h₁ ▸ hne.symm)
    · rename_i h₁
      split at hrow₂
      · obtain rfl := Option.some.inj hrow₂
        exact hother hrow₁ h₁
      · exact ht.apart hrow₁ hrow₂ hne

/-- A membership that was found stays in its row, where it keeps its id and has the ids of the order added. -/
theorem kept_of_found (h : Settled payment fresh order t c t') (ht : t.OneEach) {key : String} {m : Membership}
    (he : t.memberEntry? order.reader = some (key, m)) :
    (∀ k, t'.members.get? k = if k = key then some c.membership else t.members.get? k) ∧
      c.membership.id = m.id ∧ c.membership.ids = m.ids.merge order.reader := by
  have hm : t.memberOf order.reader = m := by
    simp only [Tables.memberOf, Tables.member?, he, Option.map_some, Option.getD_some]
  obtain ⟨k, hk, hrows⟩ := Tables.get?_of_saveMember h.ids_eq h.saved
  obtain rfl : key = k := Option.some.inj ((ht.memberKey?_eq he).symm.trans hk)
  have hnamed := ht.named m (Table.mem_values_iff.mpr ⟨key, (Tables.get?_of_entry he).1⟩)
  obtain ⟨id, hid⟩ := Option.isSome_iff_exists.mp hnamed
  refine ⟨hrows, ?_, ?_⟩
  · simp [h.made.membership, Membership.ofOrder, hm, hid]
  · rw [h.ids_eq, hm]

end Settled

namespace Ledger

variable {l : MemoryLedger}

theorem unambiguous_append {xs ys : List Command} :
    l.Unambiguous (xs ++ ys) ↔ l.Unambiguous xs ∧ (l.after xs).Unambiguous ys := by
  induction xs generalizing l with
  | nil => simp [Unambiguous, after]
  | cons command xs ih =>
    have hafter : l.after (command :: xs) = (l.execute command).2.after xs := rfl
    rw [hafter]
    simp only [List.cons_append, Unambiguous, ih, and_assoc]

theorem oneEach_after (hb : l.backend = MemoryStore.backend) {commands : List Command}
    (hu : l.Unambiguous commands) (hr : l.tables.Regular) (h : l.tables.OneEach) :
    (l.after commands).tables.OneEach := by
  induction commands generalizing l with
  | nil => exact h
  | cons command commands ih =>
    obtain ⟨hpays, hrest⟩ := hu
    have hchange := change_execute hb command
    have hnext : (l.execute command).2.tables.OneEach := by
      cases hc : (l.execute command).1.confirmation? with
      | none => exact h.congr (hchange.members_eq hc)
      | some c =>
        obtain ⟨payment, fresh, order, _, hs⟩ := hchange.exists_settled_of_confirmation hc
        have hreader := hpays c hc
        rw [hs.reader_eq] at hreader
        exact hs.oneEach (hr.owned hs.found) hreader h
    exact ih ((execute_fixed l command).1.trans hb) hrest
      (hchange.preserves Placed.regular Settled.regular hr) hnext

/-- While nobody pays who is found in two memberships, no two memberships ever share an id, so that nobody is found in
two under any one id. A membership that is paid for again stays in its row, and no other row is touched; it keeps its
id and those of its reader, and only what is missing of these is taken from the order. -/
theorem one_membership_each (settings : Settings) (catalogue : Catalogue) (commands : List Command) :
    let first := opened settings catalogue
    first.Unambiguous commands →
      (∀ before, before <+: commands → (first.after before).tables.OneEach ∧
        ∀ reader : Reader, reader.ftcId = none ∨ reader.unionId = none →
          (first.after before).tables.Unambiguous reader) ∧
      ∀ before payment fresh rest c key m, commands = before ++ .pay payment fresh :: rest →
        let l := first.after before
        let paid := l.confirmPayment payment fresh
        paid.1 = .ok c → l.tables.memberEntry? c.order.reader = some (key, m) →
          (∀ k, paid.2.tables.members.get? k =
            if k = key then some c.membership else l.tables.members.get? k) ∧
          c.membership.id = m.id ∧
          c.membership.ids.ftcId = m.ids.ftcId.or c.order.reader.ftcId ∧
          c.membership.ids.unionId = m.ids.unionId.or c.order.reader.unionId := by
  intro first hu
  have hone {before : List Command} (hbefore : before <+: commands) :
      (first.after before).tables.OneEach := by
    obtain ⟨rest, rfl⟩ := hbefore
    exact oneEach_after rfl (unambiguous_append.mp hu).1 Tables.regular_empty Tables.oneEach_empty
  refine ⟨fun before hbefore => ⟨hone hbefore, fun reader => (hone hbefore).unambiguous⟩, ?_⟩
  rintro before payment fresh rest c key m rfl l paid hok he
  obtain ⟨_, order, hs⟩ := confirmPayment_ok (backend_after _ before) hok
  rw [hs.reader_eq] at he
  obtain ⟨hrows, hid, hids⟩ := hs.kept_of_found (hone (List.prefix_append _ _)) he
  rw [hs.reader_eq, hids]
  exact ⟨hrows, hid, rfl, rfl⟩

/-- A reader known by a union id signs in with an account as well before he renews. -/
theorem linked_reader_keeps_membership :
    let before := [Samples.orderFor ⟨none, some "y"⟩ "A" 0, Samples.pay "A" 25800 0,
      Samples.orderFor ⟨some "x", some "y"⟩ "B" 30]
    let payment : Payment := ⟨"B", 25800, (Samples.day 30).midnight⟩
    let fresh : FreshIds := ⟨"mmb_2", "snp_2"⟩
    let first := opened .standard Samples.catalogue
    let paid := (first.after before).confirmPayment payment fresh
    (first.after (before ++ [.pay payment fresh])).tables.OneEach ∧
      ∃ c, paid.1 = .ok c ∧ paid.2.tables.members.get? "y" = some c.membership ∧
        c.membership.id = some "mmb_1" ∧ c.membership.ids = ⟨some "x", some "y"⟩ := by
  intro before payment fresh first paid
  have hu : first.Unambiguous (before ++ [.pay payment fresh]) := by decide +kernel
  obtain ⟨hone, hkept⟩ := one_membership_each .standard Samples.catalogue (before ++ [.pay payment fresh]) hu
  have hentry : ((first.after before).tables.memberEntry? ⟨some "x", some "y"⟩).map
      (fun e => (e.1, e.2.id, e.2.ids)) = some ("y", some "mmb_1", ⟨none, some "y"⟩) := by decide +kernel
  have hreader : paid.1.toOption.map (·.order.reader) = some ⟨some "x", some "y"⟩ := by decide +kernel
  obtain ⟨⟨key, m⟩, he, hm⟩ := Option.map_eq_some_iff.mp hentry
  obtain ⟨rfl, hid, hids⟩ : key = "y" ∧ m.id = some "mmb_1" ∧ m.ids = ⟨none, some "y"⟩ := by
    simpa using hm
  obtain ⟨c, hc, hcreader⟩ := exists_eq_ok hreader
  rw [← hcreader] at he
  obtain ⟨hrows, hkeptId, hftc, hunion⟩ := hkept before payment fresh [] c "y" m rfl hc he
  refine ⟨(hone _ (List.prefix_refl _)).1, c, hc, ?_, hkeptId.trans hid, ?_⟩
  · rw [hrows, if_pos rfl]
  · rw [hids, hcreader] at hftc hunion
    exact Reader.mk.injEq .. ▸ ⟨hftc, hunion⟩

end Ledger

end Subscriptions
