import Mathlib.Data.List.Chain
import Subscriptions.Proofs.Ledger.Displacement
import Subscriptions.Proofs.Ledger.History
import Subscriptions.Proofs.Ledger.WellFormed

/-!
Periods that follow one another. Each payment of a reader builds on the membership that his last one left, however
late or early the payments come, so until he upgrades no day is sold twice and none is lost while he is a member.
-/

namespace Subscriptions

set_option autoImplicit false

/-- They have no id in common, and what is kept for the one is not kept under the key of the other. -/
def Reader.StrangerTo (q r : Reader) : Prop := q.overlaps r = false ∧ q.compoundId ≠ r.compoundId

instance (q r : Reader) : Decidable (q.StrangerTo r) := inferInstanceAs (Decidable (_ ∧ _))

/-- Every order was made under just these ids or by a stranger to them. -/
def Tables.OnlyAs (t : Tables) (r : Reader) : Prop :=
  ∀ o ∈ t.orders.values, o.reader = r ∨ o.reader.StrangerTo r

instance (t : Tables) (r : Reader) : Decidable (t.OnlyAs r) :=
  inferInstanceAs (Decidable (∀ o ∈ t.orders.values, _))

/-- What stands under the key of these ids belongs to them alone, and nothing else shares an id with them. -/
def Tables.KeepsApart (t : Tables) (r : Reader) : Prop :=
  ∀ key m, t.members.get? key = some m →
    if r.compoundId = some key then m.ids = r else m.ids.overlaps r = false

/-- The successful payments for orders under these ids, in the order in which they were committed. -/
def Ledger.confirmationsFor (l : MemoryLedger) (r : Reader) (commands : List Command) : List Confirmation :=
  (l.transcript commands).filterMap fun e => e.2.confirmation?.filter fun c => c.order.reader = r

namespace Confirmation

/-- An order that sells something has been paid by a reader who had this membership. -/
def BuildsOn (c : Confirmation) (m : Membership) : Prop :=
  ∃ payment fresh order t t', Settled payment fresh order t c t' ∧ t.memberOf order.reader = m ∧
    order.tier ≠ .none ∧ 1 ≤ order.cycleCount

/-- Each payment builds on the membership that the one before it has left. -/
def Renew : Membership → List Confirmation → Prop
  | _, [] => True
  | m, c :: cs => c.BuildsOn m ∧ Renew c.membership cs

/-- The first period is over when the second begins. -/
def Precedes (c c' : Confirmation) : Prop :=
  ∃ start finish start' finish', c.order.IsPaid start finish ∧ c'.order.IsPaid start' finish' ∧ finish ≤ start'

/-- The second period begins where the first one ends if it is paid for by then, and otherwise later. Either way it
ends later. -/
def ContinuedBy (c c' : Confirmation) : Prop :=
  ∃ start finish start' finish' moment, c.order.IsPaid start finish ∧ c'.order.IsPaid start' finish' ∧
    c'.order.confirmed = some moment ∧ finish ≤ start' ∧ (start' = finish ↔ moment.date ≤ finish) ∧
    finish < finish'

variable {c c' c'' : Confirmation} {m : Membership}

theorem Precedes.trans (h : c.Precedes c') (h' : c'.Precedes c'') : c.Precedes c'' := by
  obtain ⟨start, finish, start', finish', hpaid, hpaid', hle⟩ := h
  obtain ⟨_, _, start'', finish'', hsame, hpaid'', hle'⟩ := h'
  obtain rfl := Option.some.inj (hpaid'.endDate.symm.trans hsame.endDate)
  refine ⟨start, finish, start'', finish'', hpaid, hpaid'', ?_⟩
  have hforward := hpaid'.forward
  rw [Date.lt_def] at hforward
  rw [Date.le_def] at hle hle' ⊢
  omega

instance : Trans Precedes Precedes Precedes := ⟨Precedes.trans⟩

theorem ContinuedBy.precedes (h : c.ContinuedBy c') : c.Precedes c' := by
  obtain ⟨start, finish, start', finish', _, hpaid, hpaid', _, hle, _, _⟩ := h
  exact ⟨start, finish, start', finish', hpaid, hpaid', hle⟩

theorem BuildsOn.exists_isPaid (h : c.BuildsOn m) :
    ∃ start finish moment, c.order.IsPaid start finish ∧ c.order.confirmed = some moment ∧
      start = startDate c.order m moment.date := by
  obtain ⟨payment, fresh, order, t, t', hs, rfl, _, hlasting⟩ := h
  obtain ⟨start, finish, hpaid⟩ := hs.exists_isPaid hlasting
  rw [← hs.made.kept] at hpaid
  have hstart : start = startDate order (t.memberOf order.reader) payment.confirmed.date :=
    Option.some.inj (hpaid.startDate.symm.trans hs.made.starts)
  refine ⟨start, finish, payment.confirmed, hpaid, hs.made.confirmed, hstart.trans ?_⟩
  simp only [startDate, hs.kind_eq]

theorem BuildsOn.continuedBy (h : c.BuildsOn m) (h' : c'.BuildsOn c.membership)
    (hk : c'.order.kind ≠ .upgrade) : c.ContinuedBy c' := by
  obtain ⟨start, finish, _, hpaid, _, _⟩ := h.exists_isPaid
  obtain ⟨start', finish', moment, hpaid', hmoment, hstart'⟩ := h'.exists_isPaid
  obtain ⟨payment, fresh, order, t, t', hs, _, htier, _⟩ := h
  have hz : c.membership.isZero = false := by
    rw [Membership.isZero, hs.tier_eq]
    exact beq_eq_false_iff_ne.mpr htier
  have hlast : c.membership.expireDate = some finish := hs.expireDate_eq.trans hpaid.endDate
  have ha : c.membership.autoRenew = false := hs.autoRenew_eq
  have hforward := hpaid'.forward
  refine ⟨start, finish, start', finish', moment, hpaid, hpaid', hmoment, ?_⟩
  rw [Date.lt_def] at hforward
  by_cases hover : finish < moment.date
  · rw [startDate_of_over hlast ha hover] at hstart'
    subst hstart'
    rw [Date.lt_def] at hover
    simp only [Date.le_def, Date.lt_def, Date.ext_iff]
    omega
  · rw [startDate_of_running hz hlast ha hover hk] at hstart'
    subst hstart'
    rw [Date.lt_def] at hover
    simp only [Date.le_def, Date.lt_def, true_iff]
    omega

theorem Renew.isChain {cs : List Confirmation} (h : Renew m cs) :
    cs.IsChain fun c c' => c'.order.kind ≠ .upgrade → c.ContinuedBy c' := by
  induction cs generalizing m with
  | nil => exact .nil
  | cons c cs ih =>
    obtain ⟨hc, hcs⟩ := h
    refine List.isChain_cons.mpr ⟨?_, ih hcs⟩
    intro c' hc' hk
    cases cs with
    | nil => cases hc'
    | cons d ds =>
      obtain rfl : d = c' := Option.some.inj hc'
      exact hc.continuedBy hcs.1 hk

end Confirmation

namespace Tables

variable {t t' : Tables} {q r : Reader} {k key : String} {m : Membership}

theorem OnlyAs.of_continues (h : t.Continues t') (ho : t'.OnlyAs r) : t.OnlyAs r := by
  intro o hmem
  obtain ⟨id, hrow⟩ := Table.mem_values_iff.mp hmem
  obtain ⟨o', hrow', hcontinues⟩ := h.orders hrow
  have hreader : o'.reader = o.reader := by
    rw [hcontinues.kept]
    rfl
  rw [← hreader]
  exact ho o' (Table.mem_values_iff.mpr ⟨id, hrow'⟩)

theorem OnlyAs.of_order {id : String} {o : Order} (h : t.OnlyAs r) (ho : t.order? id = some o) :
    o.reader = r ∨ o.reader.StrangerTo r :=
  h o (Table.mem_values_iff.mpr ⟨id, ho⟩)

theorem keepsApart_empty (r : Reader) : empty.KeepsApart r := by
  intro key m h
  cases h

namespace KeepsApart

theorem of_found (h : t.KeepsApart r) (he : t.memberEntry? r = some (key, m)) :
    r.compoundId = some key ∧ m.ids = r := by
  obtain ⟨hrow, hover⟩ := get?_of_entry he
  have hown := h _ _ hrow
  split at hown
  · exact ⟨by assumption, hown⟩
  · rw [hown] at hover
    cases hover

theorem member?_eq (h : t.KeepsApart r) : t.member? r = r.compoundId.bind t.members.get? := by
  cases he : t.memberEntry? r with
  | some e =>
    obtain ⟨key, m⟩ := e
    obtain ⟨hkey, _⟩ := h.of_found he
    rw [member?, he, hkey]
    exact (get?_of_entry he).1.symm
  | none =>
    rw [member?, he]
    cases hk : r.compoundId with
    | none => rfl
    | some key =>
      cases hrow : t.members.get? key with
      | none => exact hrow.symm
      | some m =>
        have hown := h _ _ hrow
        rw [if_pos hk] at hown
        have hr : r.isEmpty = false := by
          rw [← Bool.not_eq_true, ← Reader.compoundId_eq_none_iff, hk]
          exact Option.some_ne_none key
        have hmiss := overlaps_eq_false_of_not_found he hrow
        rw [hown, Reader.overlaps_self hr] at hmiss
        cases hmiss

theorem memberKey?_self (h : t.KeepsApart r) (hk : t.memberKey? r = some k) :
    r.compoundId = some k ∧ (t.memberOf r).ids.merge r = r := by
  rw [ids_memberOf_merge]
  unfold memberKey? at hk
  cases he : t.memberEntry? r with
  | none =>
    simp only [member?, he, Option.map_none] at hk ⊢
    exact ⟨hk, trivial⟩
  | some e =>
    obtain ⟨key, m⟩ := e
    obtain ⟨hkey, hids⟩ := h.of_found he
    simp only [member?, he, Option.map_some, hids, Reader.merge_self, Option.some.injEq] at hk ⊢
    exact ⟨hk ▸ hkey, trivial⟩

theorem memberKey?_stranger (h : t.KeepsApart r) (hs : q.StrangerTo r) (hk : t.memberKey? q = some k) :
    r.compoundId ≠ some k ∧ ((t.memberOf q).ids.merge q).overlaps r = false := by
  obtain ⟨hapart, hkeys⟩ := hs
  rw [ids_memberOf_merge]
  unfold memberKey? at hk
  cases he : t.memberEntry? q with
  | none =>
    simp only [member?, he, Option.map_none] at hk ⊢
    exact ⟨hk ▸ hkeys.symm, hapart⟩
  | some e =>
    obtain ⟨key, m⟩ := e
    obtain ⟨hrow, hover⟩ := get?_of_entry he
    have hold : m.ids.overlaps r = false := by
      have hother := h _ _ hrow
      split at hother
      · rw [hother, Reader.overlaps_comm, hapart] at hover
        cases hover
      · exact hother
    have hmerged : (m.ids.merge q).overlaps r = false := by
      rw [Reader.overlaps_comm, ← Bool.not_eq_true]
      intro hshared
      rcases Reader.overlaps_of_overlaps_merge hshared with hshared | hshared
      · rw [Reader.overlaps_comm, hold] at hshared
        cases hshared
      · rw [Reader.overlaps_comm, hapart] at hshared
        cases hshared
    simp only [member?, he, Option.map_some] at hk ⊢
    refine ⟨?_, hmerged⟩
    intro hkey
    -- The row under the key of these ids would have to share an id with the stranger's membership.
    obtain ⟨⟨k', m'⟩, he', rfl⟩ := Option.map_eq_some_iff.mp hk
    obtain ⟨hrow', hover'⟩ := get?_of_entry he'
    have hown := h _ _ hrow'
    rw [if_pos hkey] at hown
    rw [hown, Reader.overlaps_comm, hmerged] at hover'
    cases hover'

end KeepsApart

end Tables

namespace Settled

variable {payment : Payment} {fresh : FreshIds} {order : Order} {t t' : Tables} {c : Confirmation} {r : Reader}

theorem keepsApart (h : Settled payment fresh order t c t') (ht : t.KeepsApart r)
    (ho : order.reader = r ∨ order.reader.StrangerTo r) : t'.KeepsApart r := by
  intro key m hrow
  obtain ⟨k, hk, hrows⟩ := Tables.get?_of_saveMember h.ids_eq h.saved
  rw [hrows] at hrow
  split at hrow
  · rename_i hkey
    obtain rfl := Option.some.inj hrow
    rw [h.ids_eq, hkey]
    rcases ho with rfl | hstranger
    · obtain ⟨hown, hids⟩ := ht.memberKey?_self hk
      rw [if_pos hown]
      exact hids
    · obtain ⟨hother, hids⟩ := ht.memberKey?_stranger hstranger hk
      rw [if_neg hother]
      exact hids
  · exact ht key m hrow

theorem memberOf_of_stranger (h : Settled payment fresh order t c t') (ht : t.KeepsApart r)
    (hs : order.reader.StrangerTo r) : t'.memberOf r = t.memberOf r := by
  obtain ⟨k, hk, hrows⟩ := Tables.get?_of_saveMember h.ids_eq h.saved
  have hother : r.compoundId ≠ some k := (ht.memberKey?_stranger hs hk).1
  have hsame : r.compoundId.bind t'.members.get? = r.compoundId.bind t.members.get? := by
    cases hkey : r.compoundId with
    | none => rfl
    | some key =>
      rw [hkey] at hother
      exact (hrows key).trans (if_neg fun he => hother (congrArg some he))
  rw [Tables.memberOf, Tables.memberOf, (h.keepsApart ht (.inr hs)).member?_eq, hsame, ← ht.member?_eq]

theorem buildsOn {p : Policy} (h : Settled payment fresh order t c t') (ho : order.WellFormed p) :
    c.BuildsOn (t.memberOf order.reader) :=
  ⟨payment, fresh, order, t, t', h, rfl, ho.tier, ho.lasting⟩

theorem memberOf_eq (h : Settled payment fresh order t c t') (hr : order.reader.isEmpty = false) :
    t'.memberOf order.reader = c.membership := by
  rw [Tables.memberOf, h.member?_eq hr]
  rfl

end Settled

namespace Change

variable {shop : Shop} {t t' : Tables} {command : Command} {reply : Reply} {r : Reader} {c : Confirmation}

theorem keepsApart (h : Change shop t command reply t') (ht : t.KeepsApart r) (ho : t.OnlyAs r) :
    t'.KeepsApart r := by
  cases h with
  | kept _ => exact ht
  | placed h =>
    intro key m hrow
    rw [h.members_eq] at hrow
    exact ht key m hrow
  | settled h => exact h.keepsApart ht (ho.of_order h.found)

theorem memberOf_of_others (h : Change shop t command reply t') (ht : t.KeepsApart r) (ho : t.OnlyAs r)
    (hother : ∀ c, reply.confirmation? = some c → c.order.reader ≠ r) : t'.memberOf r = t.memberOf r := by
  cases hc : reply.confirmation? with
  | none => exact Tables.memberOf_congr (h.members_eq hc)
  | some c =>
    obtain ⟨payment, fresh, order, _, hs⟩ := h.exists_settled_of_confirmation hc
    have hne := hother c hc
    rw [hs.reader_eq] at hne
    exact hs.memberOf_of_stranger ht ((ho.of_order hs.found).resolve_left hne)

theorem buildsOn {p : Policy} (h : Change shop t command reply t') (hr : t.Regular) (hw : t.WellFormed p)
    (hc : reply.confirmation? = some c) (hreader : c.order.reader = r) :
    c.BuildsOn (t.memberOf r) ∧ t'.memberOf r = c.membership := by
  obtain ⟨payment, fresh, order, _, hs⟩ := h.exists_settled_of_confirmation hc
  rw [hs.reader_eq] at hreader
  rw [← hreader]
  exact ⟨hs.buildsOn (hw.orders hs.found), hs.memberOf_eq (hr.owned hs.found)⟩

end Change

namespace Ledger

variable {l : MemoryLedger} {r : Reader}

theorem confirmationsFor_cons (l : MemoryLedger) (r : Reader) (command : Command) (commands : List Command) :
    l.confirmationsFor r (command :: commands) =
      ((l.execute command).1.confirmation?.filter fun c => c.order.reader = r).toList ++
        (l.execute command).2.confirmationsFor r commands := by
  simp only [confirmationsFor, transcript, List.filterMap_cons]
  cases (l.execute command).1.confirmation?.filter fun c => c.order.reader = r <;> rfl

/-- While the orders of a reader are all made under the same ids and others stay strangers, each of his payments builds
on the membership that the one before it has left. -/
theorem renew_confirmationsFor (hb : l.backend = MemoryStore.backend) (hr : l.tables.Regular)
    (hw : l.tables.WellFormed l.shop.policy) (ht : l.tables.KeepsApart r) {commands : List Command}
    (ho : (l.after commands).tables.OnlyAs r) :
    Confirmation.Renew (l.tables.memberOf r) (l.confirmationsFor r commands) := by
  induction commands generalizing l with
  | nil => trivial
  | cons command commands ih =>
    obtain ⟨hbackend, hshop⟩ := execute_fixed l command
    have hchange := change_execute hb command
    have hnow : l.tables.OnlyAs r := .of_continues (continues_after hb (command :: commands)) ho
    have hkept : (l.execute command).2.tables.Regular ∧
        (l.execute command).2.tables.WellFormed l.shop.policy := by
      refine hchange.preserves (P := fun t => t.Regular ∧ t.WellFormed l.shop.policy) ?_ ?_ ⟨hr, hw⟩
      · intro _ _ _ _ _ h ht
        exact ⟨h.regular ht.1, h.wellFormed ht.1 ht.2⟩
      · intro _ _ _ _ h ht
        exact ⟨h.regular ht.1, h.wellFormed ht.1 ht.2⟩
    have hrest := ih (hbackend.trans hb) hkept.1 (hshop ▸ hkept.2) (hchange.keepsApart ht hnow) ho
    rw [confirmationsFor_cons]
    cases hc : (l.execute command).1.confirmation?.filter fun c => c.order.reader = r with
    | none =>
      have hsame := hchange.memberOf_of_others ht hnow (by simpa using hc)
      rw [hsame] at hrest
      exact hrest
    | some c =>
      obtain ⟨hreply, hreader⟩ := Option.filter_eq_some_iff.mp hc
      obtain ⟨hbuilds, hnext⟩ := hchange.buildsOn hr hw hreply (of_decide_eq_true hreader)
      rw [hnext] at hrest
      exact ⟨hbuilds, hrest⟩

/-- A reader orders under the same ids throughout, and nobody else in the run has one of them or would be kept under
their key. Then of two payments of his in a row, if the later one is not for an upgrade, its period begins where the
earlier one ended, or at the later payment if that comes only after; and until he upgrades again no two of his periods
have a day in common. -/
theorem renewals_tile (settings : Settings) (catalogue : Catalogue) (commands : List Command) (r : Reader) :
    let first := opened settings catalogue
    let paid := first.confirmationsFor r commands
    (first.after commands).tables.OnlyAs r →
      (∀ c c', [c, c'] <:+: paid → c'.order.kind ≠ .upgrade → c.ContinuedBy c') ∧
      ∀ c block, c :: block <:+: paid → (∀ c' ∈ block, c'.order.kind ≠ .upgrade) →
        (c :: block).Pairwise Confirmation.Precedes := by
  intro first paid ho
  have hrenew : Confirmation.Renew (first.tables.memberOf r) paid :=
    renew_confirmationsFor (l := first) rfl Tables.regular_empty (Tables.wellFormed_empty _)
      (Tables.keepsApart_empty r) ho
  have hchain := hrenew.isChain
  constructor
  · intro c c' hpair
    have hconsecutive := List.IsChain.infix hchain hpair
    exact (List.isChain_cons_cons.mp hconsecutive).1
  · intro c block hblock hkinds
    have hcontinue := List.IsChain.infix hchain hblock
    have hperiods : (c :: block).IsChain Confirmation.Precedes := by
      refine hcontinue.imp_of_mem_tail_imp ?_
      intro a b _ hb hcontinued
      exact (hcontinued (hkinds b hb)).precedes
    exact hperiods.pairwise

/-- Of two orders made on one day the second is paid first, and the first one late and with an earlier instant, while a
commit fails and somebody else pays; a third comes when both have run out. -/
theorem late_payments_tile :
    let commands := [Samples.order "A" "standard_year" 0, Samples.order "B" "standard_year" 0,
      Samples.pay "B" 25800 5, Samples.orderFor ⟨none, some "y"⟩ "S" 5, .failNext .commit 1,
      Samples.pay "A" 25800 2, Samples.pay "S" 25800 6, Samples.pay "A" 25800 2,
      Samples.order "C" "standard_year" 900, Samples.pay "C" 25800 900]
    ∃ b a c, (opened .standard Samples.catalogue).confirmationsFor (Samples.reader "reader-1") commands = [b, a, c] ∧
      a.order.confirmed = some (Samples.day 2).midnight ∧ b.ContinuedBy a ∧
      c.order.startDate = some (Samples.day 900) ∧ a.ContinuedBy c ∧
      [b, a, c].Pairwise Confirmation.Precedes := by
  intro commands
  have ho : ((opened .standard Samples.catalogue).after commands).tables.OnlyAs (Samples.reader "reader-1") := by
    decide +kernel
  obtain ⟨hnext, hperiods⟩ := renewals_tile .standard Samples.catalogue commands (Samples.reader "reader-1") ho
  have hfacts : ((opened .standard Samples.catalogue).confirmationsFor (Samples.reader "reader-1") commands).map
      (fun c => (c.order.kind, c.order.confirmed, c.order.startDate)) =
      [(.create, some (Samples.day 5).midnight, some (Samples.day 5)),
        (.create, some (Samples.day 2).midnight, some (Samples.day 371)),
        (.create, some (Samples.day 900).midnight, some (Samples.day 900))] := by decide +kernel
  obtain ⟨b, rest, hpaid, hb, hrest⟩ := List.map_eq_cons_iff.mp hfacts
  obtain ⟨a, rest, rfl, ha, hrest⟩ := List.map_eq_cons_iff.mp hrest
  obtain ⟨c, rest, rfl, hc, hrest⟩ := List.map_eq_cons_iff.mp hrest
  obtain rfl := List.map_eq_nil_iff.mp hrest
  rw [hpaid] at hnext hperiods
  simp only [Prod.mk.injEq] at ha hc
  refine ⟨b, a, c, hpaid, ha.2.1, hnext b a ⟨[], [c], rfl⟩ (by simp [ha.1]), hc.2.2,
    hnext a c ⟨[b], [], rfl⟩ (by simp [hc.1]), hperiods b [a, c] (List.infix_refl _) ?_⟩
  simp [ha.1, hc.1]

end Ledger

end Subscriptions
