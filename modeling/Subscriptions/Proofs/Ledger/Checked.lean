import Subscriptions.Proofs.Ledger.Run

/-!
The checked ledger against the other one. Work that takes the same steps on the tables and does not halt on the way has
the same transaction.
-/

namespace Subscriptions

set_option autoImplicit false

namespace Ledger

theorem checkedAfter_concat (l : MemoryLedger) (commands : List Command) (command : Command) :
    l.checkedAfter (commands ++ [command]) =
      (l.checkedAfter commands).bind fun l => (l.checkedExecute command).map Prod.snd := by
  rw [checkedAfter, List.foldlM_append, Option.bind_eq_bind]
  simp only [List.foldlM_cons, List.foldlM_nil, Option.bind_eq_bind, Option.pure_def, Option.bind_fun_some]
  rfl

end Ledger

variable {α β : Type} {t : Tables}

/-- Two pieces of work take the same steps on these tables, and the second one never halts on the way. -/
inductive Work.Mirrors {α : Type} : Tables → Work Failure α → Work (Option Failure) α → Prop
  | done {t : Tables} (a : α) : Mirrors t (.done a) (.done a)
  | refuse {t : Tables} (f : Failure) : Mirrors t (.refuse f) (.refuse (some f))
  | step {t : Tables} {s : Step} {next : s.Answer → Work Failure α} {next' : s.Answer → Work (Option Failure) α}
      (h : ∀ x t', t.perform s = (.ok x, t') → Mirrors t' (next x) (next' x)) :
      Mirrors t (.step s next) (.step s next')

namespace Work.Mirrors

theorem ask (t : Tables) (s : Step) : Mirrors t (Work.ask s) (Work.ask s) := .step fun x _ _ => .done x

theorem bind {w : Work Failure α} {w' : Work (Option Failure) α} {f : α → Work Failure β}
    {f' : α → Work (Option Failure) β} (h : Mirrors t w w')
    (hf : ∀ a t', w.eval id t = .ok (a, t') → Mirrors t' (f a) (f' a)) : Mirrors t (w >>= f) (w' >>= f') := by
  induction h with
  | done a => exact hf a _ rfl
  | refuse e => exact .refuse e
  | @step t s next next' hnext ih =>
    refine .step fun x t' hp => ih x t' hp fun a t'' he => hf a t'' ?_
    simp only [eval, hp]
    exact he

theorem ofExcept {ε : Type} (r : Except ε α) (f : ε → Failure) :
    Mirrors t (Work.ofExcept (r.mapError f)) (Work.ofExcept (r.mapError fun e => some (f e))) := by
  cases r with
  | error e => exact .refuse (f e)
  | ok a => exact .done a

end Work.Mirrors

theorem Work.of_eval_ofExcept {ε : Type} {r : Except ε α} {f : ε → Failure} {a : α} {t' : Tables}
    (h : (Work.ofExcept (r.mapError f)).eval id t = .ok (a, t')) : r = .ok a ∧ t = t' := by
  cases r with
  | error e => cases h
  | ok b =>
    obtain ⟨rfl, rfl⟩ := Prod.mk.inj (Except.ok.inj h)
    exact ⟨rfl, rfl⟩

namespace MemoryStore

open Work (Mirrors)

variable {w : Work Failure α} {w' : Work (Option Failure) α}

theorem run_of_mirrors (h : Mirrors t w w') (m : MemoryStore) :
    backend.run some w' t m =
      ((backend.run id w t m).1.mapError some, (backend.run id w t m).2) := by
  induction h with
  | done a => rfl
  | refuse f => rfl
  | @step t s next next' hnext ih =>
    by_cases hs : m.faults s.operation = 0
    · have hp : backend.perform s t m = ((t.perform s).1, (t.perform s).2, m) := by
        simp only [backend, attempt_of_calm hs]
      simp only [Backend.run, hp]
      cases hr : t.perform s with
      | mk answer t' =>
        cases answer with
        | error f => rfl
        | ok x => exact ih x t' hr
    · simp only [Backend.run, backend, attempt_of_fault hs]
      rfl

/-- Work that mirrors other work has the same transaction. -/
theorem transact_of_mirrors {m : MemoryStore} (h : Mirrors m.tables w w') :
    backend.transact some w' m =
      ((backend.transact id w m).1.mapError some, (backend.transact id w m).2) := by
  by_cases hb : m.faults .begin = 0
  case neg =>
    simp only [Backend.transact, begin_of_fault hb]
    rfl
  simp only [Backend.transact, begin_of_calm hb, run_of_mirrors h]
  cases hr : backend.run id w m.tables m with
  | mk result rest =>
    obtain ⟨t, m'⟩ := rest
    cases result with
    | error f => rfl
    | ok a =>
      have hok : Except.mapError some (.ok a : Except Failure α) = .ok a := rfl
      by_cases hc : m'.faults .commit = 0
      · simp only [hok, commit_of_calm hc]
      · simp only [hok, commit_of_fault hc]
        rfl

end MemoryStore

end Subscriptions
