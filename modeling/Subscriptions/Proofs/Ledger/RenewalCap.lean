import Subscriptions.Proofs.Classification
import Subscriptions.Proofs.Ledger.Confirmed
import Subscriptions.Proofs.Ledger.Origin

/-!
How far ahead renewals can reach. The renewal window is looked at when a renewal is made and not when it is paid,
so several renewals that are made before any of them is paid are stacked on one another without a limit.
-/

namespace Subscriptions

set_option autoImplicit false

/-- The period of a renewal, paid no earlier than it was made, starts later than the given number of years after
the day of the payment. -/
def Order.Overstacked (years : Nat) (o : Order) : Prop :=
  o.kind = .renew ∧ ∃ moment ∈ o.confirmed, o.created ≤ moment ∧
    ∃ start ∈ o.startDate, ∃ limit ∈ moment.date.addMonths (12 * years), limit < start

instance (years : Nat) (o : Order) : Decidable (o.Overstacked years) :=
  inferInstanceAs (Decidable (_ ∧ ∃ moment ∈ o.confirmed, _ ∧ ∃ start ∈ o.startDate, _))

/-- A payment is applied to a renewal when the membership that it renews lies beyond the window already. -/
structure Ledger.Overstacks (l : MemoryLedger) (years : Nat) (payment : Payment) (fresh : FreshIds) : Prop where
  renewal : ∃ o, l.tables.order? payment.orderId = some o ∧ o.kind = .renew ∧
    o.created ≤ payment.confirmed ∧ payment.Applies o (l.tables.memberOf o.reader) ∧
    (l.tables.memberOf o.reader).isValid payment.confirmed.date = true ∧
    (l.tables.memberOf o.reader).withinRenewalWindow payment.confirmed.date years = false
  calm : ∀ op ∈ MemoryStore.calls (Settlement.work payment fresh) l.tables, l.store.faults op = 0

/-- A payment moves the membership of a reader out of the window of a day. -/
structure Ledger.MovesBeyond (l : MemoryLedger) (years : Nat) (reader : Reader) (day : Date)
    (payment : Payment) (fresh : FreshIds) : Prop where
  applied : (l.confirmPayment payment fresh).1.isOk = true
  within : (l.tables.memberOf reader).withinRenewalWindow day years = true
  beyond : ((l.confirmPayment payment fresh).2.tables.memberOf reader).withinRenewalWindow day years = false

/-- The order of the payment was made in the run, and since then the payment of another order has moved the
membership of its reader out of the window. -/
def Ledger.MovedBeyondSince (l : MemoryLedger) (years : Nat) (payment : Payment) (before : List Command) : Prop :=
  ∃ earlier request middle other drawn late,
    before = earlier ++ .create request payment.orderId :: middle ++ .pay other drawn :: late ∧
    ((l.after earlier).createOrder request payment.orderId).1.isOk = true ∧
    other.orderId ≠ payment.orderId ∧
    (l.after (earlier ++ .create request payment.orderId :: middle)).MovesBeyond years request.reader
      payment.confirmed.date other drawn

theorem Policy.withinRenewalWindow_of_renew {p : Policy} {member : Membership} {plan : Plan} {today : Date}
    (h : p.classify member plan today = .ok .renew) :
    member.withinRenewalWindow today p.renewalWindowYears = true := by
  cases classifies_of_eq h with
  | renew _ _ _ _ within => exact within

/-- A renewal starts beyond a limit that many years ahead exactly if it renews a membership that ends beyond it. -/
theorem Confirmation.exists_limit_lt_startDate_iff {order : Order} {member : Membership} {today : Date}
    {years : Nat} (hk : order.kind = .renew) :
    (∃ limit ∈ today.addMonths (12 * years), limit < startDate order member today) ↔
      member.isValid today = true ∧ member.withinRenewalWindow today years = false := by
  rw [Membership.withinRenewalWindow_eq_false_iff]
  have hnot : ¬∃ limit ∈ today.addMonths (12 * years), limit < today := by
    rintro ⟨limit, hlimit, hlt⟩
    exact Int.not_lt.mpr (Date.le_of_addMonths hlimit) hlt
  cases hv : member.isValid today with
  | false =>
    rw [startDate_of_not_isValid hv]
    exact ⟨fun h => absurd h hnot, fun h => absurd h.1 Bool.false_ne_true⟩
  | true =>
    rw [startDate_of_isValid hv (by simp [hk])]
    cases hl : member.expireDate with
    | none => simpa using hnot
    | some last => simp

namespace Settled

variable {payment : Payment} {fresh : FreshIds} {order : Order} {t t' : Tables} {c : Confirmation}
  {years : Nat}

theorem overstacked_iff (h : Settled payment fresh order t c t') :
    c.order.Overstacked years ↔ order.kind = .renew ∧ order.created ≤ payment.confirmed ∧
      (t.memberOf order.reader).isValid payment.confirmed.date = true ∧
      (t.memberOf order.reader).withinRenewalWindow payment.confirmed.date years = false := by
  simp only [Order.Overstacked, h.kind_eq, h.created_eq, h.made.confirmed, h.made.starts,
    Option.mem_some_iff, exists_eq_left']
  constructor
  · rintro ⟨hk, hcreated, hlimit⟩
    exact ⟨hk, hcreated, (Confirmation.exists_limit_lt_startDate_iff hk).mp hlimit⟩
  · rintro ⟨hk, hcreated, hbeyond⟩
    exact ⟨hk, hcreated, (Confirmation.exists_limit_lt_startDate_iff hk).mpr hbeyond⟩

end Settled

theorem Change.exists_overstacking {shop : Shop} {t t' : Tables} {command : Command} {reply : Reply}
    {id : String} {years : Nat} (h : Change shop t command reply t')
    (hn : ¬∃ o ∈ t.order? id, o.Overstacked years) (hs : ∃ o ∈ t'.order? id, o.Overstacked years) :
    ∃ payment fresh c, command = .pay payment fresh ∧ reply = .paid (.ok c) ∧ payment.orderId = id ∧
      c.order.Overstacked years := by
  obtain ⟨o, ho, hover⟩ := hs
  cases h with
  | kept _ => exact absurd ⟨o, ho, hover⟩ hn
  | @placed request orderId _ _ draft _ h =>
    rw [h.order?_eq] at ho
    split at ho
    · obtain rfl := Option.some.inj ho
      obtain ⟨_, moment, hm, _⟩ := hover
      rw [h.confirmed_eq] at hm
      cases hm
    · exact absurd ⟨o, ho, hover⟩ hn
  | @settled payment fresh _ c _ h =>
    rw [h.order?_eq] at ho
    split at ho
    · rename_i hid
      obtain rfl := Option.some.inj ho
      exact ⟨payment, fresh, c, rfl, rfl, hid.symm, hover⟩
    · exact absurd ⟨o, ho, hover⟩ hn

theorem Change.exists_payment_of_memberOf_ne {shop : Shop} {t t' : Tables} {command : Command}
    {reply : Reply} {reader : Reader} (h : Change shop t command reply t')
    (hne : t'.memberOf reader ≠ t.memberOf reader) :
    ∃ payment fresh c, command = .pay payment fresh ∧ reply = .paid (.ok c) := by
  cases h with
  | kept _ => exact absurd rfl hne
  | placed h => exact absurd (Tables.memberOf_congr h.members_eq) hne
  | @settled payment fresh _ c _ h => exact ⟨payment, fresh, c, rfl, rfl⟩

namespace Samples

/-- After a first year is paid, three more are made on one day, and only then they are paid. -/
def renewals (first later : Fin 1000) : List Command :=
  [order "A" "standard_year" first, pay "A" 25800 first, order "B" "standard_year" later,
    order "C" "standard_year" later, order "D" "standard_year" later, pay "B" 25800 later, pay "C" 25800 later,
    pay "D" 25800 later]

end Samples

namespace Ledger

variable {l : MemoryLedger} {years : Nat} {payment : Payment} {fresh : FreshIds} {id : String}

theorem overstacks_of_overstacked (hb : l.backend = MemoryStore.backend) {command : Command}
    (hn : ¬∃ o ∈ l.tables.order? id, o.Overstacked years)
    (hs : ∃ o ∈ (l.execute command).2.tables.order? id, o.Overstacked years) :
    ∃ payment fresh, command = .pay payment fresh ∧ payment.orderId = id ∧
      l.Overstacks years payment fresh := by
  obtain ⟨payment, fresh, c, rfl, hreply, hid, hover⟩ := (change_execute hb command).exists_overstacking hn hs
  obtain ⟨hcalm, order, h⟩ := confirmPayment_ok hb (Reply.paid.inj hreply)
  obtain ⟨hk, hcreated, hvalid, hbeyond⟩ := h.overstacked_iff.mp hover
  exact ⟨payment, fresh, rfl, hid, ⟨order, h.found, hk, hcreated, h.applies, hvalid, hbeyond⟩, hcalm⟩

theorem overstacked_of_overstacks (hb : l.backend = MemoryStore.backend) (hr : l.tables.Regular)
    (h : l.Overstacks years payment fresh) :
    ∃ o, (l.execute (.pay payment fresh)).2.tables.order? payment.orderId = some o ∧
      o.isConfirmed = true ∧ o.Overstacked years := by
  obtain ⟨o, ho, hk, hcreated, happlies, hvalid, hbeyond⟩ := h.renewal
  have hok := (confirmPayment_isOk_iff hb ho (hr.owned ho)).mpr ⟨happlies, h.calm⟩
  obtain ⟨_, order, c, hs⟩ := exists_settled hb hok
  obtain rfl : order = o := Option.some.inj (hs.found.symm.trans ho)
  refine ⟨c.order, ?_, ?_, hs.overstacked_iff.mpr ⟨hk, hcreated, hvalid, hbeyond⟩⟩
  · rw [execute, hs.order?_eq, if_pos rfl]
  · rw [Order.isConfirmed, hs.made.confirmed]
    rfl

/-- Only a payment that is applied moves a membership out of the window. -/
theorem movesBeyond_of_execute (hb : l.backend = MemoryStore.backend) {command : Command} {reader : Reader}
    {day : Date} (hwithin : (l.tables.memberOf reader).withinRenewalWindow day years = true)
    (hbeyond : ((l.execute command).2.tables.memberOf reader).withinRenewalWindow day years = false) :
    ∃ payment fresh, command = .pay payment fresh ∧ l.MovesBeyond years reader day payment fresh := by
  have hne : (l.execute command).2.tables.memberOf reader ≠ l.tables.memberOf reader := by
    intro heq
    rw [heq, hwithin] at hbeyond
    cases hbeyond
  obtain ⟨payment, fresh, c, rfl, hreply⟩ := (change_execute hb command).exists_payment_of_memberOf_ne hne
  refine ⟨payment, fresh, rfl, ?_, hwithin, hbeyond⟩
  rw [Reply.paid.inj hreply]
  rfl

theorem exists_movesBeyond (hb : l.backend = MemoryStore.backend) {commands : List Command} {reader : Reader}
    {day : Date} (hwithin : (l.tables.memberOf reader).withinRenewalWindow day years = true)
    (hbeyond : ((l.after commands).tables.memberOf reader).withinRenewalWindow day years = false) :
    ∃ middle payment fresh late, commands = middle ++ .pay payment fresh :: late ∧
      (l.after middle).MovesBeyond years reader day payment fresh := by
  obtain ⟨middle, command, late, rfl, hstill, hfirst⟩ :=
    exists_first (P := fun t => (t.memberOf reader).withinRenewalWindow day years = false) (by simp [hwithin])
      hbeyond
  rw [after_concat] at hfirst
  obtain ⟨payment, fresh, rfl, hmoves⟩ :=
    movesBeyond_of_execute ((backend_after l middle).trans hb) (Bool.of_not_eq_false hstill) hfirst
  exact ⟨middle, payment, fresh, late, rfl, hmoves⟩

/-- Once a renewal is made, the membership it renews is within the window, on that day and later. -/
theorem within_of_createOrder (hb : l.backend = MemoryStore.backend) {request : OrderRequest} {draft : Draft}
    {day : Date} (hmade : (l.createOrder request id).1 = .ok draft) (hk : draft.order.kind = .renew)
    (hday : request.now.date ≤ day) :
    ((l.execute (.create request id)).2.tables.memberOf request.reader).withinRenewalWindow day
      l.shop.policy.renewalWindowYears = true := by
  obtain ⟨plan, kind, h⟩ := createOrder_ok hb hmade
  have haccepted := (Policy.check_eq_ok_iff.mp h.accepted).kind
  rw [← h.kind_eq, hk] at haccepted
  rw [execute, Tables.memberOf_congr h.members_eq]
  exact Membership.withinRenewalWindow_mono hday (Nat.le_refl _) (Policy.withinRenewalWindow_of_renew haccepted)

/-- A payment that was applied before is not for an order that is still open. -/
theorem orderId_ne_of_open (hb : l.backend = MemoryStore.backend) {commands : List Command} {o : Order}
    (hok : (l.confirmPayment payment fresh).1.isOk = true)
    (ho : ((l.execute (.pay payment fresh)).2.after commands).tables.order? id = some o)
    (hopen : o.confirmed = none) : payment.orderId ≠ id := by
  rintro rfl
  obtain ⟨_, order, c, h⟩ := exists_settled hb hok
  have hrow : (l.execute (.pay payment fresh)).2.tables.order? payment.orderId = some c.order := by
    rw [execute, h.order?_eq, if_pos rfl]
  have hconfirmed : c.order.isConfirmed = true := by
    rw [Order.isConfirmed, h.made.confirmed]
    rfl
  have hlast := order?_after_confirmed ((execute_fixed l _).1.trans hb) hrow hconfirmed commands
  obtain rfl : c.order = o := Option.some.inj (hlast.symm.trans ho)
  rw [h.made.confirmed] at hopen
  cases hopen

/-- Where a renewal is stacked beyond the window, the membership was within it when the renewal was made, and
another order's payment has moved it out since. -/
theorem movedBeyondSince {settings : Settings} {catalogue : Catalogue} {before : List Command}
    (h : ((opened settings catalogue).after before).Overstacks settings.renewalWindowYears payment fresh) :
    (opened settings catalogue).MovedBeyondSince settings.renewalWindowYears payment before := by
  obtain ⟨o, ho, hk, hcreated, happlies, _, hbeyond⟩ := h.renewal
  obtain ⟨earlier, request, since, draft, rfl, hmade, hkept⟩ := exists_createOrder ho
  have hb (commands : List Command) : ((opened settings catalogue).after commands).backend =
    MemoryStore.backend := backend_after _ commands
  obtain ⟨plan, kind, hplaced⟩ := createOrder_ok (hb earlier) hmade
  have hreader : o.reader = request.reader := by rw [hkept, ← hplaced.reader_eq]; rfl
  have hnow : o.created = request.now := by rw [hkept, ← hplaced.created_eq]; rfl
  have hrenew : draft.order.kind = .renew := by rw [← hk, hkept]; rfl
  have hday : request.now.date ≤ payment.confirmed.date := Instant.date_mono (hnow ▸ hcreated)
  have hwithin := within_of_createOrder (hb earlier) hmade hrenew hday
  rw [shop_after] at hwithin
  rw [hreader, after_append_cons] at hbeyond
  have hbnext := (execute_fixed _ (.create request payment.orderId)).1.trans (hb earlier)
  obtain ⟨middle, other, drawn, late, rfl, hmoves⟩ := exists_movesBeyond hbnext hwithin hbeyond
  rw [← after_append_cons] at hmoves
  rw [← List.cons_append, ← List.append_assoc, after_append_cons] at ho
  refine ⟨earlier, request, middle, other, drawn, late, ?_, ?_, ?_, hmoves⟩
  · rw [List.append_assoc, List.cons_append]
  · rw [hmade]
    rfl
  · exact orderId_ne_of_open (hb _) hmoves.applied ho happlies.unconfirmed

/-- A paid renewal starts later than the window allows on the day of its payment exactly if its payment was
applied when the membership was beyond the window already. The membership was within it when the renewal was
made, and the payment of another order has moved it out in between. -/
theorem overstacked_iff_overstacks (settings : Settings) (catalogue : Catalogue) (commands : List Command)
    (id : String) :
    let l := opened settings catalogue
    let years := settings.renewalWindowYears
    ((∃ o ∈ (l.after commands).tables.order? id, o.Overstacked years) ↔
      ∃ before payment fresh rest, commands = before ++ .pay payment fresh :: rest ∧ payment.orderId = id ∧
        (l.after before).Overstacks years payment fresh) ∧
    ∀ before payment fresh, (l.after before).Overstacks years payment fresh →
      l.MovedBeyondSince years payment before := by
  intro l years
  have hb (commands : List Command) : (l.after commands).backend = MemoryStore.backend :=
    backend_after l commands
  refine ⟨⟨?_, ?_⟩, fun before payment fresh h => movedBeyondSince h⟩
  · intro h
    obtain ⟨before, command, rest, rfl, hn, hs⟩ :=
      exists_first (l := l) (P := fun t => ∃ o ∈ t.order? id, o.Overstacked years)
        (fun ⟨_, ho, _⟩ => (by cases ho)) h
    rw [after_concat] at hs
    obtain ⟨payment, fresh, rfl, hid, hr⟩ := overstacks_of_overstacked (hb before) hn hs
    exact ⟨before, payment, fresh, rest, rfl, hid, hr⟩
  · rintro ⟨before, payment, fresh, rest, rfl, rfl, hr⟩
    obtain ⟨o, ho, hconfirmed, hover⟩ :=
      overstacked_of_overstacks (hb before) (regular_after settings catalogue before) hr
    refine ⟨o, ?_, hover⟩
    rw [after_append_cons]
    exact order?_after_confirmed ((execute_fixed _ _).1.trans (hb before)) ho hconfirmed rest

/-- The last of three renewals made on one day starts more than three years after the day it is paid. -/
theorem last_renewal_overstacked :
    let l := opened .standard Samples.catalogue
    let commands := Samples.renewals 0 1
    (∃ o ∈ (l.after commands).tables.order? "D", o.Overstacked 3) ∧
      ∃ before payment fresh rest, commands = before ++ .pay payment fresh :: rest ∧ payment.orderId = "D" ∧
        (l.after before).Overstacks 3 payment fresh ∧ l.MovedBeyondSince 3 payment before := by
  intro l commands
  have hover : ∃ o ∈ (l.after commands).tables.order? "D", o.Overstacked 3 := by
    decide +kernel
  obtain ⟨hiff, hcause⟩ := overstacked_iff_overstacks .standard Samples.catalogue commands "D"
  obtain ⟨before, payment, fresh, rest, hcommands, hid, hr⟩ := hiff.mp hover
  exact ⟨hover, before, payment, fresh, rest, hcommands, hid, hr, hcause before payment fresh hr⟩

/-- With a window of three years, a renewal that is made and paid on the second of June 2024 starts on the fourth
of June 2027. -/
theorem renewal_starts_beyond_cap :
    let paid := ((opened .standard Samples.catalogue).after (Samples.renewals 0 1)).tables.order? "D"
    Settings.standard.renewalWindowYears = 3 ∧
      (¬∀ o ∈ paid, o.kind = .renew → ∀ moment ∈ o.confirmed, o.created ≤ moment →
        ∀ start ∈ o.startDate, ∀ limit ∈ moment.date.addMonths (12 * 3), start ≤ limit) ∧
      paid.bind (·.confirmed) = some (Samples.day 1).midnight ∧
      paid.bind (·.startDate) = Date.ofCivil? 2027 6 4 ∧
      (Samples.day 1).addMonths (12 * 3) = Date.ofCivil? 2027 6 2 := by
  decide +kernel

end Ledger

end Subscriptions
