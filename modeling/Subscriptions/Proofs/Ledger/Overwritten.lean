import Subscriptions.Proofs.Ledger.Displacement
import Subscriptions.Proofs.Ledger.WellFormed

/-!
Which membership a payment writes over. What it writes is never what it found, so the membership that was found for the
reader is the one that is gone, unless somebody else's stands in the row.
-/

namespace Subscriptions

set_option autoImplicit false

/-- The membership is no longer in a row in which it was. -/
def Tables.Overwritten (t t' : Tables) (m : Membership) : Prop :=
  ∃ key, t.members.get? key = some m ∧ t'.members.get? key ≠ some m

/-- Somebody else's membership stands where the reader's will be saved. -/
def Tables.DisplacesStranger (t : Tables) (reader : Reader) : Prop :=
  ∃ key m, t.members.get? key = some m ∧ m.ids.overlaps reader = false ∧ t.Displaces reader key m

namespace Tables

variable {t : Tables} {reader : Reader} {key k : String} {old : Membership}

/-- A membership is saved in the row in which it was found if nobody else's stands in the way. -/
theorem memberKey?_of_found (hno : ¬t.DisplacesStranger reader) (he : t.memberEntry? reader = some (key, old))
    (hk : t.memberKey? reader = some k) : k = key := by
  have hkey := hk
  simp only [memberKey?, member?, he, Option.map_some] at hk
  obtain ⟨⟨k', m⟩, hf, rfl⟩ := Option.map_eq_some_iff.mp hk
  obtain ⟨hrow, _⟩ := get?_of_entry hf
  cases hover : m.ids.overlaps reader with
  | true => exact (memberEntry?_merge_of_overlaps he hf hover).1
  | false => exact absurd ⟨k', m, hrow, hover, (displaces_iff hrow hover).mpr hkey⟩ hno

end Tables

namespace Settled

variable {payment : Payment} {fresh : FreshIds} {order : Order} {t t' : Tables} {c : Confirmation} {m : Membership}

/-- A payment makes something else of a membership: it ends later, or it is of another tier. -/
theorem membership_ne (h : Settled payment fresh order t c t') (hn : 1 ≤ order.cycleCount)
    (hp : order.kind = .upgrade → order.tier = .premium) (hz : (t.memberOf order.reader).isZero = false) :
    c.membership ≠ t.memberOf order.reader := by
  intro hsame
  obtain ⟨start, finish, hpaid⟩ := h.exists_isPaid hn
  have hlast : (t.memberOf order.reader).expireDate = some finish := by
    rw [← hsame]
    exact h.expireDate_eq.trans hpaid.endDate
  have ha : (t.memberOf order.reader).autoRenew = false := by
    rw [← hsame]
    exact h.autoRenew_eq
  have hforward : start < finish := hpaid.forward
  have hstart : start = Confirmation.startDate order (t.memberOf order.reader) payment.confirmed.date :=
    Option.some.inj (hpaid.startDate.symm.trans h.made.starts)
  rw [Date.lt_def] at hforward
  by_cases hover : finish < payment.confirmed.date
  · rw [Confirmation.startDate_of_over hlast ha hover] at hstart
    rw [hstart] at hforward
    rw [Date.lt_def] at hover
    omega
  · by_cases hk : order.kind = .upgrade
    · -- The membership is valid, and it is premium already as it is what the upgrade makes of it.
      have hvalid : (t.memberOf order.reader).isValid payment.confirmed.date = true := by
        simp only [Membership.isValid, hz, Membership.isExpired_eq hlast ha, hover, decide_false, Bool.not_false,
          Bool.and_true]
      have htier : (t.memberOf order.reader).tier = .premium := by
        rw [← hsame, h.tier_eq]
        exact hp hk
      have hdup := h.applies.noDuplicate hk htier
      rw [hvalid] at hdup
      cases hdup
    · rw [Confirmation.startDate_of_running hz hlast ha hover hk] at hstart
      rw [hstart] at hforward
      omega

theorem overwritten_iff (h : Settled payment fresh order t c t')
    (hnew : ∀ old, t.member? order.reader = some old → c.membership ≠ old)
    (hno : ¬t.DisplacesStranger order.reader) : t.Overwritten t' m ↔ t.member? order.reader = some m := by
  obtain ⟨k, hk, hrows⟩ := Tables.get?_of_saveMember h.ids_eq h.saved
  constructor
  · rintro ⟨key, hrow, hgone⟩
    have hnext : t'.members.get? key = if key = k then some c.membership else t.members.get? key := hrows key
    obtain rfl : key = k := by
      by_cases hkey : key = k
      · exact hkey
      · rw [hnext, if_neg hkey] at hgone
        exact absurd hrow hgone
    cases hover : m.ids.overlaps order.reader with
    | false => exact absurd ⟨key, m, hrow, hover, (Tables.displaces_iff hrow hover).mpr hk⟩ hno
    | true =>
      obtain ⟨k', old, he⟩ := Tables.exists_found_of_overlaps hrow hover
      obtain rfl := Tables.memberKey?_of_found hno he hk
      obtain rfl : old = m := Option.some.inj ((Tables.get?_of_entry he).1.symm.trans hrow)
      rw [Tables.member?, he]
      rfl
  · intro hm
    obtain ⟨key, he⟩ := Tables.memberEntry?_of_member? hm
    obtain rfl := Tables.memberKey?_of_found hno he hk
    refine ⟨k, (Tables.get?_of_entry he).1, ?_⟩
    have hnext : t'.members.get? k = some c.membership := (hrows k).trans (if_pos rfl)
    rw [hnext]
    exact fun hkept => hnew m hm (Option.some.inj hkept)

theorem exists_overwritten (h : Settled payment fresh order t c t') (hr : order.reader.isEmpty = false)
    (hd : t.DisplacesStranger order.reader) :
    ∃ m ∈ t.members.values, t.Overwritten t' m ∧ t.member? order.reader ≠ some m := by
  obtain ⟨key, m, hrow, hother, hdisplaces⟩ := hd
  obtain ⟨k, hk, hrows⟩ := Tables.get?_of_saveMember h.ids_eq h.saved
  obtain rfl : k = key := Option.some.inj (hk.symm.trans ((Tables.displaces_iff hrow hother).mp hdisplaces))
  have hnext : t'.members.get? k = some c.membership := (hrows k).trans (if_pos rfl)
  refine ⟨m, Table.mem_values_iff.mpr ⟨k, hrow⟩, ⟨k, hrow, ?_⟩, ?_⟩
  · -- The reader's own membership shares an id with him, so it is not this one.
    rw [hnext]
    intro hsame
    have hown := Tables.overlaps_of_member? (h.member?_eq hr)
    rw [Option.some.inj hsame, hother] at hown
    cases hown
  · intro hm
    rw [Tables.overlaps_of_member? hm] at hother
    cases hother

end Settled

end Subscriptions
