import Subscriptions.Proofs.Ledger.DrawnIds
import Subscriptions.Proofs.Ledger.Run

/-!
A payment that is delivered again and again. A delivery that is made to fail leaves the tables alone and uses up
one of the failures that were asked for. So in the end one goes through, and it finds what the first one found.
-/

namespace Subscriptions

set_option autoImplicit false

namespace Ledger

/-- The same ledger when nothing is made to fail. -/
def calm (l : MemoryLedger) : MemoryLedger := { l with store := { l.store with faults := .none } }

/-- The payment is not applied because its transaction was made to fail. -/
structure Interrupted (l : MemoryLedger) (payment : Payment) (fresh : FreshIds) : Prop where
  reported : ∃ op r, 0 < l.store.faults op ∧ (l.confirmPayment payment fresh).1 = .error r ∧
    r = .storage (MemoryStore.injected op).message ∧ r.retry = true
  tables : (l.confirmPayment payment fresh).2.tables = l.tables
  total : (l.confirmPayment payment fresh).2.store.faults.total + 1 = l.store.faults.total

/-- The payment is answered, and leaves the tables, as if nothing were made to fail. -/
structure Undisturbed (l : MemoryLedger) (payment : Payment) (fresh : FreshIds) : Prop where
  reply : (l.confirmPayment payment fresh).1 = (l.calm.confirmPayment payment fresh).1
  tables : (l.confirmPayment payment fresh).2.tables = (l.calm.confirmPayment payment fresh).2.tables
  faults : (l.confirmPayment payment fresh).2.store.faults = l.store.faults

/-- The ledger after so many deliveries of one payment, each with new ids at hand. -/
def delivered (l : MemoryLedger) (payment : Payment) (fresh : Nat → FreshIds) : Nat → MemoryLedger
  | 0 => l
  | n + 1 => ((l.delivered payment fresh n).confirmPayment payment (fresh n)).2

variable {l : MemoryLedger} {payment : Payment}

theorem confirmPayment_calm (hb : l.backend = MemoryStore.backend) (payment : Payment) (fresh : FreshIds) :
    match (Settlement.work payment fresh).eval Rejection.ofFailure l.tables with
    | .ok (s, t) => (l.calm.confirmPayment payment fresh).1 = .ok s.confirmation ∧
        (l.calm.confirmPayment payment fresh).2.tables = t
    | .error r => (l.calm.confirmPayment payment fresh).1 = .error r ∧
        (l.calm.confirmPayment payment fresh).2.tables = l.tables := by
  rcases confirmPayment_cases (l := l.calm) hb payment fresh with
    ⟨op, hf, _⟩ | ⟨r, he, hr, ht⟩ | ⟨_, s, t, he, hs, ht⟩
  · exact absurd hf (Nat.lt_irrefl 0)
  · rw [show l.tables = l.calm.tables from rfl, he]
    exact ⟨hr, ht⟩
  · rw [show l.tables = l.calm.tables from rfl, he]
    exact ⟨hs, ht⟩

/-- Each delivery is made to fail, or comes to the same as if none were. -/
theorem interrupted_or_undisturbed (hb : l.backend = MemoryStore.backend) (payment : Payment)
    (fresh : FreshIds) : l.Interrupted payment fresh ∨ l.Undisturbed payment fresh := by
  have hcalm := confirmPayment_calm hb payment fresh
  rcases MemoryStore.transact_cases Rejection.ofFailure (Settlement.work payment fresh) l.store with
    ⟨op, _, hf, ht⟩ | ⟨r, he, ht⟩ | ⟨_, s, t, he, ht⟩
  · have hpos : 0 < l.store.faults op := Nat.pos_of_ne_zero hf
    refine .inl ⟨⟨op, _, hpos, ?_, rfl, rfl⟩, ?_, ?_⟩
    all_goals simp only [confirmPayment, hb, ht]
    · rfl
    · rfl
    · exact Faults.total_set hpos
  · rw [show l.tables = l.store.tables from rfl, he] at hcalm
    obtain ⟨hr, htables⟩ := hcalm
    refine .inr ⟨?_, ?_, ?_⟩
    · rw [hr, confirmPayment, hb, ht]
    · rw [htables, confirmPayment, hb, ht]
      rfl
    · rw [confirmPayment, hb, ht]
  · rw [show l.tables = l.store.tables from rfl, he] at hcalm
    obtain ⟨hs, htables⟩ := hcalm
    refine .inr ⟨?_, ?_, ?_⟩
    · rw [hs, confirmPayment, hb, ht]
    · rw [htables, confirmPayment, hb, ht]
      rfl
    · rw [confirmPayment, hb, ht]

/-- When nothing is made to fail, the tables and the ids at hand decide what a payment comes to. -/
theorem confirmPayment_calm_congr {l' : MemoryLedger} (hb : l.backend = MemoryStore.backend)
    (hb' : l'.backend = MemoryStore.backend) (ht : l.tables = l'.tables) (payment : Payment)
    (fresh : FreshIds) :
    (l.calm.confirmPayment payment fresh).1 = (l'.calm.confirmPayment payment fresh).1 ∧
      (l.calm.confirmPayment payment fresh).2.tables = (l'.calm.confirmPayment payment fresh).2.tables := by
  have h := confirmPayment_calm hb payment fresh
  have h' := confirmPayment_calm hb' payment fresh
  rw [ht] at h
  cases he : (Settlement.work payment fresh).eval Rejection.ofFailure l'.tables with
  | error r =>
    rw [he] at h h'
    exact ⟨h.1.trans h'.1.symm, h.2.trans h'.2.symm⟩
  | ok s =>
    rw [he] at h h'
    exact ⟨h.1.trans h'.1.symm, h.2.trans h'.2.symm⟩

/-- The ids at hand decide nothing but which they are. -/
theorem confirmPayment_calm_blankIds (hb : l.backend = MemoryStore.backend) (payment : Payment)
    (fresh drawn : FreshIds) :
    (l.calm.confirmPayment payment fresh).1.map Confirmation.blankIds =
        (l.calm.confirmPayment payment drawn).1.map Confirmation.blankIds ∧
      (l.calm.confirmPayment payment fresh).2.tables.blankIds =
        (l.calm.confirmPayment payment drawn).2.tables.blankIds := by
  have h := confirmPayment_calm hb payment fresh
  have h' := confirmPayment_calm hb payment drawn
  rcases cases_of_map_eq (Settlement.eval_work_blankOutcome Rejection.ofFailure payment fresh drawn l.tables)
    with ⟨r, he, he'⟩ | ⟨s, s', he, he', hsame⟩
  · rw [he] at h
    rw [he'] at h'
    rw [h.1, h.2, h'.1, h'.2]
    exact ⟨rfl, rfl⟩
  · rw [he] at h
    rw [he'] at h'
    obtain ⟨hc, htables⟩ := Prod.mk.inj hsame
    rw [h.1, h.2, h'.1, h'.2]
    exact ⟨congrArg Except.ok hc, htables⟩

theorem backend_delivered (l : MemoryLedger) (payment : Payment) (fresh : Nat → FreshIds) (n : Nat) :
    (l.delivered payment fresh n).backend = l.backend := by
  induction n with
  | zero => rfl
  | succ n ih => exact (execute_fixed _ (.pay payment (fresh n))).1.trans ih

/-- So long as all deliveries are made to fail, the tables stay and each takes one failure away. -/
theorem delivered_of_interrupted {fresh : Nat → FreshIds} {n : Nat}
    (h : ∀ i < n, (l.delivered payment fresh i).Interrupted payment (fresh i)) :
    (l.delivered payment fresh n).tables = l.tables ∧
      (l.delivered payment fresh n).store.faults.total + n = l.store.faults.total := by
  induction n with
  | zero => exact ⟨rfl, rfl⟩
  | succ n ih =>
    obtain ⟨htables, htotal⟩ := ih fun i hi => h i (Nat.lt_succ_of_lt hi)
    have hlast := h n (Nat.lt_succ_self n)
    have hspent := hlast.total
    refine ⟨hlast.tables.trans htables, ?_⟩
    simp only [delivered]
    omega

theorem interrupted_or_exists_undisturbed (hb : l.backend = MemoryStore.backend) (payment : Payment)
    (fresh : Nat → FreshIds) (n : Nat) :
    (∀ i < n, (l.delivered payment fresh i).Interrupted payment (fresh i)) ∨
      ∃ m < n, (∀ i < m, (l.delivered payment fresh i).Interrupted payment (fresh i)) ∧
        (l.delivered payment fresh m).Undisturbed payment (fresh m) := by
  induction n with
  | zero => exact .inl fun i hi => absurd hi (Nat.not_lt_zero i)
  | succ n ih =>
    rcases ih with hall | ⟨m, hm, hbefore, hundisturbed⟩
    · have hbackend := (backend_delivered l payment fresh n).trans hb
      rcases interrupted_or_undisturbed hbackend payment (fresh n) with hlast | hlast
      · refine .inl fun i hi => ?_
        rcases Nat.lt_succ_iff_lt_or_eq.mp hi with hlt | rfl
        · exact hall i hlt
        · exact hlast
      · exact .inr ⟨n, Nat.lt_succ_self n, hall, hlast⟩
    · exact .inr ⟨m, Nat.lt_succ_of_lt hm, hbefore, hundisturbed⟩

/-- There are too few failures for more deliveries than that to be made to fail. -/
theorem exists_undisturbed (hb : l.backend = MemoryStore.backend) (payment : Payment)
    (fresh : Nat → FreshIds) :
    ∃ n ≤ l.store.faults.total, (∀ i < n, (l.delivered payment fresh i).Interrupted payment (fresh i)) ∧
      (l.delivered payment fresh n).Undisturbed payment (fresh n) := by
  rcases interrupted_or_exists_undisturbed hb payment fresh (l.store.faults.total + 1) with
    hall | ⟨m, hm, hbefore, hundisturbed⟩
  · have htotal := (delivered_of_interrupted hall).2
    omega
  · exact ⟨m, Nat.le_of_lt_succ hm, hbefore, hundisturbed⟩

/-- However the store is made to fail, each delivery of a payment either fails for that reason, which takes one
failure away and leaves the tables alone, or comes to what it would without failures. The first that is not made
to fail comes after no more deliveries than there were failures. It comes to what the very first would have come
to without them and with the same ids at hand; with other ids, to the same but for these. -/
theorem redelivery_converges (settings : Settings) (catalogue : Catalogue) (store : MemoryStore)
    (payment : Payment) (fresh : Nat → FreshIds) :
    let l := start settings catalogue MemoryStore.backend store
    (∀ n, (l.delivered payment fresh n).Interrupted payment (fresh n) ∨
      (l.delivered payment fresh n).Undisturbed payment (fresh n)) ∧
    ∃ n ≤ store.faults.total,
      (∀ i < n, (l.delivered payment fresh i).Interrupted payment (fresh i)) ∧
      ((l.delivered payment fresh n).confirmPayment payment (fresh n)).1 =
        (l.calm.confirmPayment payment (fresh n)).1 ∧
      (l.delivered payment fresh (n + 1)).tables = (l.calm.confirmPayment payment (fresh n)).2.tables ∧
      ∀ drawn : FreshIds,
        ((l.delivered payment fresh n).confirmPayment payment (fresh n)).1.map Confirmation.blankIds =
          (l.calm.confirmPayment payment drawn).1.map Confirmation.blankIds ∧
        (l.delivered payment fresh (n + 1)).tables.blankIds =
          (l.calm.confirmPayment payment drawn).2.tables.blankIds := by
  intro l
  have hb (n : Nat) : (l.delivered payment fresh n).backend = MemoryStore.backend :=
    backend_delivered l payment fresh n
  refine ⟨fun n => interrupted_or_undisturbed (hb n) payment (fresh n), ?_⟩
  obtain ⟨n, hn, hinterrupted, hundisturbed⟩ := exists_undisturbed (l := l) rfl payment fresh
  have hsame := (delivered_of_interrupted hinterrupted).1
  obtain ⟨hreply, htables⟩ := confirmPayment_calm_congr (hb n) rfl hsame payment (fresh n)
  have hfirst := hundisturbed.reply.trans hreply
  have hleft : (l.delivered payment fresh (n + 1)).tables =
      (l.calm.confirmPayment payment (fresh n)).2.tables := hundisturbed.tables.trans htables
  refine ⟨n, hn, hinterrupted, hfirst, hleft, fun drawn => ?_⟩
  rw [hfirst, hleft]
  exact confirmPayment_calm_blankIds (l := l) rfl payment (fresh n) drawn

end Ledger

end Subscriptions
