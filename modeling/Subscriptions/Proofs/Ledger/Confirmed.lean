import Subscriptions.Proofs.Ledger.Regular

/-!
An order is confirmed at most once. Once it is, its row never changes again, and every further payment for
it is refused without a trace in the tables.
-/

namespace Subscriptions

set_option autoImplicit false

/-- A payment for the order, answered with a success. -/
def Ledger.confirms (orderId : String) : Command × Reply → Bool
  | (.pay payment _, .paid (.ok _)) => payment.orderId == orderId
  | _ => false

theorem Ledger.isSuccess_of_confirms {command : Command} {reply : Reply} {id : String}
    (h : Ledger.confirms id (command, reply) = true) : reply.isSuccess = true := by
  unfold Ledger.confirms at h
  split at h
  · rename_i he
    cases he
    rfl
  · cases h

namespace Change

variable {shop : Shop} {t t' : Tables} {command : Command} {reply : Reply} {id : String} {o : Order}

theorem order?_of_confirmed (h : Change shop t command reply t') (ho : t.order? id = some o)
    (hc : o.isConfirmed = true) : t'.order? id = some o := by
  cases h with
  | kept _ => exact ho
  | placed h => exact (h.order?_kept ho).2
  | settled h => exact (h.order?_of_confirmed ho hc).2

theorem not_confirms_of_confirmed (h : Change shop t command reply t') (ho : t.order? id = some o)
    (hc : o.isConfirmed = true) : Ledger.confirms id (command, reply) = false := by
  cases h with
  | kept hf =>
    cases hconfirms : Ledger.confirms id (command, reply) with
    | false => rfl
    | true =>
      rw [Ledger.isSuccess_of_confirms hconfirms] at hf
      cases hf
  | placed _ => rfl
  | @settled payment _ order _ _ h =>
    have hne : payment.orderId ≠ id := (h.order?_of_confirmed ho hc).1.symm
    simpa [Ledger.confirms] using hne

theorem confirmed_of_confirms (h : Change shop t command reply t')
    (hc : Ledger.confirms id (command, reply) = true) :
    ∃ o, t'.order? id = some o ∧ o.isConfirmed = true := by
  cases h with
  | kept hf =>
    rw [Ledger.isSuccess_of_confirms hc] at hf
    cases hf
  | placed _ => cases hc
  | @settled payment _ order c _ h =>
    obtain rfl : payment.orderId = id := by simpa [Ledger.confirms] using hc
    refine ⟨c.order, ?_, by simp [Order.isConfirmed, h.made.confirmed]⟩
    rw [h.order?_eq, if_pos rfl]

end Change

namespace Ledger

variable {l : MemoryLedger} {orderId : String} {o : Order}

theorem order?_after_confirmed (hb : l.backend = MemoryStore.backend) (ho : l.tables.order? orderId = some o)
    (hc : o.isConfirmed = true) (commands : List Command) :
    (l.after commands).tables.order? orderId = some o := by
  refine tables_after (P := fun t => t.order? orderId = some o) hb ?_ ?_ ho commands
  · intro _ _ _ _ _ _ _ h ht
    exact (h.order?_kept ht).2
  · intro _ _ _ _ _ _ h ht
    exact (h.order?_of_confirmed ht hc).2

theorem countP_confirms_of_confirmed (hb : l.backend = MemoryStore.backend)
    (ho : l.tables.order? orderId = some o) (hc : o.isConfirmed = true) (commands : List Command) :
    (l.transcript commands).countP (confirms orderId) = 0 := by
  induction commands generalizing l with
  | nil => rfl
  | cons command commands ih =>
    have h := change_execute hb command
    rw [transcript, List.countP_cons_of_neg (by simp [h.not_confirms_of_confirmed ho hc])]
    exact ih ((execute_fixed l command).1.trans hb) (h.order?_of_confirmed ho hc)

theorem countP_confirms (hb : l.backend = MemoryStore.backend) (commands : List Command) :
    (l.transcript commands).countP (confirms orderId) ≤ 1 ∧
      ((l.transcript commands).countP (confirms orderId) ≠ 0 →
        ∃ o, (l.after commands).tables.order? orderId = some o ∧ o.isConfirmed = true) := by
  induction commands generalizing l with
  | nil => exact ⟨Nat.zero_le _, fun h => absurd rfl h⟩
  | cons command commands ih =>
    have h := change_execute hb command
    have hb' := (execute_fixed l command).1.trans hb
    rw [transcript, List.countP_cons]
    cases hn : confirms orderId (command, (l.execute command).1) with
    | true =>
      -- From here on the order is confirmed, so no other payment for it succeeds.
      obtain ⟨o, ho, hc⟩ := h.confirmed_of_confirms hn
      rw [countP_confirms_of_confirmed hb' ho hc commands]
      exact ⟨Nat.le_refl _, fun _ => ⟨o, order?_after_confirmed hb' ho hc commands, hc⟩⟩
    | false => exact ih hb'

theorem confirmPayment_of_confirmed (hb : l.backend = MemoryStore.backend)
    (hr : l.tables.Regular) (ho : l.tables.order? orderId = some o) (hc : o.isConfirmed = true)
    (amount : Int) (moment : Instant) (fresh : FreshIds) :
    ∃ r, (l.confirmPayment ⟨orderId, amount, moment⟩ fresh).1 = .error r ∧
      (r = .alreadyConfirmed orderId ∨
        ∃ op, 0 < l.store.faults op ∧ r = .ofFailure (MemoryStore.injected op)) := by
  have hid : o.id = orderId := hr.keyed ho
  have hbuild : Confirmation.build ⟨orderId, amount, moment⟩ o (l.tables.memberOf o.reader) fresh =
      .error (.alreadyConfirmed orderId) := by
    rw [Confirmation.build_of_confirmed hid.symm hc, hid]
  have he : (Settlement.work ⟨orderId, amount, moment⟩ fresh).eval Rejection.ofFailure l.tables =
      .error (.alreadyConfirmed orderId) := Settlement.eval_work_of_rejected ho hbuild
  rcases confirmPayment_cases hb ⟨orderId, amount, moment⟩ fresh with
    ⟨op, hf, h, _⟩ | ⟨r, hr, h, _⟩ | ⟨_, s, t', hok, _⟩
  · exact ⟨_, h, .inr ⟨op, hf, rfl⟩⟩
  · obtain rfl : r = .alreadyConfirmed orderId := Except.error.inj (hr.symm.trans he)
    exact ⟨_, h, .inl rfl⟩
  · rw [hok] at he
    cases he

/-- Over a whole run an order is confirmed at most once. From then on every payment for it, of whatever
amount and instant, is refused for good or fails where it was made to, and leaves the tables alone. -/
theorem confirmed_at_most_once (settings : Settings) (catalogue : Catalogue) (commands : List Command)
    (orderId : String) :
    let l := (opened settings catalogue).after commands
    let confirmations := ((opened settings catalogue).transcript commands).countP (confirms orderId)
    confirmations ≤ 1 ∧
      (confirmations = 1 → ∀ amount moment fresh,
        ∃ r, (l.confirmPayment ⟨orderId, amount, moment⟩ fresh).1 = .error r ∧
          (r = .alreadyConfirmed orderId ∧ r.retry = false ∨
            ∃ op, 0 < l.store.faults op ∧ r = .storage (MemoryStore.injected op).message) ∧
          (l.confirmPayment ⟨orderId, amount, moment⟩ fresh).2.tables = l.tables) := by
  intro l confirmations
  have hcount : confirmations ≤ 1 ∧
      (confirmations ≠ 0 → ∃ o, l.tables.order? orderId = some o ∧ o.isConfirmed = true) :=
    countP_confirms rfl commands
  refine ⟨hcount.1, ?_⟩
  intro hone amount moment fresh
  obtain ⟨o, ho, hc⟩ := hcount.2 (by omega)
  have hb : l.backend = MemoryStore.backend := backend_after _ commands
  have hreg : l.tables.Regular := regular_after settings catalogue commands
  obtain ⟨r, hr, hcases⟩ := confirmPayment_of_confirmed hb hreg ho hc amount moment fresh
  refine ⟨r, hr, ?_, confirmPayment_error hb hr⟩
  rcases hcases with rfl | ⟨op, hf, rfl⟩
  · exact .inl ⟨rfl, rfl⟩
  · exact .inr ⟨op, hf, rfl⟩

/-- A commit fails, the payment comes again and is applied, another order is paid, and then the first payment
comes once more, late and with another amount. -/
theorem late_payment_refused :
    let commands := [Samples.order "A" "standard_year" 0, .failNext .commit 1,
      Samples.pay "A" 25800 0, Samples.pay "A" 25800 1,
      Samples.order "B" "standard_year" 30, Samples.pay "B" 25800 30]
    let l := (opened .standard Samples.catalogue).after commands
    let late := l.confirmPayment ⟨"A", 9900, (Samples.day 60).midnight⟩ ⟨"mmb_2", "snp_2"⟩
    ((opened .standard Samples.catalogue).transcript commands).countP (confirms "A") = 1 ∧
      ∃ r, late.1 = .error r ∧
        (r = .alreadyConfirmed "A" ∧ r.retry = false ∨
          ∃ op, 0 < l.store.faults op ∧ r = .storage (MemoryStore.injected op).message) ∧
        late.2.tables = l.tables :=
  ⟨by decide +kernel,
    (confirmed_at_most_once .standard Samples.catalogue _ "A").2 (by decide +kernel) 9900 _ _⟩

end Ledger

end Subscriptions
