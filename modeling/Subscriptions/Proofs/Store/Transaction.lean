import Subscriptions.Store.Memory

/-!
Transactions of the store in memory. Work has a meaning on tables alone; a transaction either commits
exactly that meaning or leaves the tables as they were, whichever operations are made to fail.
-/

namespace Subscriptions

set_option autoImplicit false

variable {ε α β : Type}

namespace Work

/-- What the work comes to when no operation is made to fail, with the tables it leaves. -/
def eval (wrap : Failure → ε) : Work ε α → Tables → Except ε (α × Tables)
  | .done a, t => .ok (a, t)
  | .refuse e, _ => .error e
  | .step s next, t =>
    match t.perform s with
    | (.ok x, t') => eval wrap (next x) t'
    | (.error f, _) => .error (wrap f)

/-- The operations that the work asks for when none is made to fail. -/
def asked : Work ε α → Tables → List Operation
  | .done _, _ => []
  | .refuse _, _ => []
  | .step s next, t =>
    s.operation ::
      match t.perform s with
      | (.ok x, t') => asked (next x) t'
      | (.error _, _) => []

variable {wrap : Failure → ε} {t : Tables}

theorem bind_def (w : Work ε α) (f : α → Work ε β) : w >>= f = w.bind f := rfl

theorem eval_bind (w : Work ε α) (f : α → Work ε β) :
    (w.bind f).eval wrap t =
      match w.eval wrap t with
      | .ok (a, t') => (f a).eval wrap t'
      | .error e => .error e := by
  induction w generalizing t with
  | done a => rfl
  | refuse e => rfl
  | step s next ih =>
    simp only [bind, eval]
    cases hr : t.perform s with
    | mk answer t' =>
      cases answer with
      | error f => rfl
      | ok x => exact ih x

theorem eval_ofExcept (r : Except ε α) :
    (ofExcept r).eval wrap t =
      match r with
      | .ok a => .ok (a, t)
      | .error e => .error e := by
  cases r <;> rfl

end Work

namespace Faults

variable {faults : Faults} {op : Operation}

theorem eq_zero_of_total (h : faults.total = 0) (op : Operation) : faults op = 0 := by
  cases op <;> simp [total, Operation.all] at h <;> omega

/-- A failure that is used up is one fewer in all. -/
theorem total_set (h : 0 < faults op) : (faults.set op (faults op - 1)).total + 1 = faults.total := by
  cases op <;> simp [total, set, Operation.all] at h ⊢ <;> omega

end Faults

namespace MemoryStore

variable {wrap : Failure → ε} {m : MemoryStore} {op : Operation}

theorem attempt_of_calm (h : m.faults op = 0) : m.attempt op = (.ok (), m) := by
  simp [attempt, h]

theorem attempt_of_fault (h : m.faults op ≠ 0) :
    m.attempt op = (.error (injected op), m.failNext op (m.faults op - 1)) := by
  simp [attempt, Nat.pos_of_ne_zero h]

theorem begin_of_calm (h : m.faults .begin = 0) : backend.begin m = (.ok m.tables, m) := by
  simp only [backend, attempt_of_calm h]

theorem begin_of_fault (h : m.faults .begin ≠ 0) :
    backend.begin m = (.error (injected .begin), m.failNext .begin (m.faults .begin - 1)) := by
  simp only [backend, attempt_of_fault h]

theorem commit_of_calm {t : Tables} (h : m.faults .commit = 0) :
    backend.commit t m = (.ok (), { m with tables := t }) := by
  simp only [backend, attempt_of_calm h]

theorem commit_of_fault {t : Tables} (h : m.faults .commit ≠ 0) :
    backend.commit t m = (.error (injected .commit), m.failNext .commit (m.faults .commit - 1)) := by
  simp only [backend, attempt_of_fault h]

theorem rollback_eq {t : Tables} : backend.rollback t m = (.ok (), m) := rfl

theorem run_of_calm (wrap : Failure → ε) (work : Work ε α) (t : Tables)
    (h : ∀ op ∈ work.asked t, m.faults op = 0) :
    match work.eval wrap t with
    | .ok (a, t') => backend.run wrap work t m = (.ok a, t', m)
    | .error e => ∃ t', backend.run wrap work t m = (.error e, t', m) := by
  induction work generalizing t with
  | done a => rfl
  | refuse e => exact ⟨t, rfl⟩
  | step s next ih =>
    have hs : m.faults s.operation = 0 := h _ (by simp [Work.asked])
    have hp : backend.perform s t m = ((t.perform s).1, (t.perform s).2, m) := by
      simp only [backend, attempt_of_calm hs]
    simp only [Work.eval, Backend.run, hp]
    cases hr : t.perform s with
    | mk answer t' =>
      cases answer with
      | error f => exact ⟨t', rfl⟩
      | ok x => exact ih x t' fun op ho => h op (by simp [Work.asked, hr, ho])

theorem run_of_fault (wrap : Failure → ε) (work : Work ε α) (t : Tables)
    (h : ∃ op ∈ work.asked t, m.faults op ≠ 0) :
    ∃ op ∈ work.asked t, m.faults op ≠ 0 ∧
      ∃ t', backend.run wrap work t m =
        (.error (wrap (injected op)), t', m.failNext op (m.faults op - 1)) := by
  induction work generalizing t with
  | done a => obtain ⟨op, ho, _⟩ := h; cases ho
  | refuse e => obtain ⟨op, ho, _⟩ := h; cases ho
  | step s next ih =>
    by_cases hs : m.faults s.operation = 0
    · have hp : backend.perform s t m = ((t.perform s).1, (t.perform s).2, m) := by
        simp only [backend, attempt_of_calm hs]
      obtain ⟨op, ho, hf⟩ := h
      have hne : op ≠ s.operation := by rintro rfl; exact hf hs
      simp only [Work.asked, Backend.run, hp] at ho ⊢
      cases hr : t.perform s with
      | mk answer t' =>
        rw [hr] at ho
        cases answer with
        | error f => simp [hne] at ho
        | ok x =>
          obtain ⟨o, hm, hfo, hrun⟩ := ih x t' ⟨op, by simpa [hne] using ho, hf⟩
          exact ⟨o, List.mem_cons_of_mem _ hm, hfo, hrun⟩
    · refine ⟨s.operation, by simp [Work.asked], hs, t, ?_⟩
      simp only [Backend.run, backend, attempt_of_fault hs]

/-- All that a transaction which is committed asks of its store. -/
def calls (work : Work ε α) (t : Tables) : List Operation := .begin :: work.asked t ++ [.commit]

/-- A transaction fails where it was made to, or is given up, or is committed as a whole. -/
theorem transact_cases (wrap : Failure → ε) (work : Work ε α) (m : MemoryStore) :
    (∃ op ∈ calls work m.tables, m.faults op ≠ 0 ∧
      backend.transact wrap work m =
        (.error (wrap (injected op)), m.failNext op (m.faults op - 1))) ∨
    (∃ e, work.eval wrap m.tables = .error e ∧ backend.transact wrap work m = (.error e, m)) ∨
    ((∀ op ∈ calls work m.tables, m.faults op = 0) ∧
      ∃ a t, work.eval wrap m.tables = .ok (a, t) ∧
        backend.transact wrap work m = (.ok a, { m with tables := t })) := by
  by_cases hb : m.faults .begin = 0
  case neg =>
    exact .inl ⟨.begin, by simp [calls], hb, by simp only [Backend.transact, begin_of_fault hb]⟩
  simp only [Backend.transact, begin_of_calm hb]
  by_cases hw : ∃ op ∈ work.asked m.tables, m.faults op ≠ 0
  · obtain ⟨op, ho, hf, t, hrun⟩ := run_of_fault wrap work m.tables hw
    exact .inl ⟨op, by simp [calls, ho], hf, by simp only [hrun, rollback_eq]⟩
  · have hcalm : ∀ op ∈ work.asked m.tables, m.faults op = 0 := by simpa using hw
    have hrun := run_of_calm wrap work m.tables hcalm
    cases he : work.eval wrap m.tables with
    | error e =>
      rw [he] at hrun
      obtain ⟨t, hrun⟩ := hrun
      exact .inr (.inl ⟨e, rfl, by simp only [hrun, rollback_eq]⟩)
    | ok r =>
      obtain ⟨a, t⟩ := r
      simp only [he] at hrun
      by_cases hc : m.faults .commit = 0
      · refine .inr (.inr ⟨?_, a, t, rfl, by simp only [hrun, commit_of_calm hc]⟩)
        simp only [calls, List.cons_append, List.mem_cons, List.mem_append, List.not_mem_nil, or_false]
        rintro op (rfl | ho | rfl)
        · exact hb
        · exact hcalm op ho
        · exact hc
      · exact .inl ⟨.commit, by simp [calls], hc, by simp only [hrun, commit_of_fault hc]⟩

/-- When nothing is made to fail, a transaction comes to what its work means. -/
theorem transact_of_calm (hcalm : ∀ op, m.faults op = 0) (work : Work ε α) :
    (backend.transact wrap work m).1 = (work.eval wrap m.tables).map Prod.fst := by
  rcases transact_cases wrap work m with ⟨op, _, hf, _⟩ | ⟨e, he, ht⟩ | ⟨_, a, t, he, ht⟩
  · exact absurd (hcalm op) hf
  · rw [ht, he]
    rfl
  · rw [ht, he]
    rfl

/-- A transaction is committed exactly if its work can be done and nothing is made to fail. -/
theorem transact_eq_ok_iff {work : Work ε α} {a : α} {m' : MemoryStore} :
    backend.transact wrap work m = (.ok a, m') ↔
      (∀ op ∈ calls work m.tables, m.faults op = 0) ∧
        ∃ t, work.eval wrap m.tables = .ok (a, t) ∧ m' = { m with tables := t } := by
  rcases transact_cases wrap work m with ⟨op, ho, hf, ht⟩ | ⟨e, he, ht⟩ | ⟨hc, b, t, he, ht⟩
  · rw [ht]
    constructor
    · intro h
      cases h
    · rintro ⟨hc, _⟩
      exact absurd (hc op ho) hf
  · simp [ht, he]
  · simp only [ht, he, Prod.mk.injEq, Except.ok.injEq]
    constructor
    · rintro ⟨rfl, rfl⟩
      exact ⟨hc, t, ⟨rfl, rfl⟩, rfl⟩
    · rintro ⟨_, t', ⟨rfl, rfl⟩, rfl⟩
      exact ⟨rfl, rfl⟩

end MemoryStore

end Subscriptions
