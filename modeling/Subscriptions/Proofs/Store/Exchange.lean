import Subscriptions.Store.Backend

/-!
What a store is asked for, and what it answers. Work in a transaction makes its calls one after another, and
the first that fails is the last; whatever the store answers, the transaction is ended once, by a commit after
work that was done and by a rollback after work that was not.
-/

namespace Subscriptions

set_option autoImplicit false

/-- A request to a store with what came of it. -/
inductive Exchange
  | begin (result : Except Failure Unit)
  | perform (call : Call)
  | commit (result : Except Failure Unit)
  | rollback (result : Except Failure Unit)

def Exchange.isBegin : Exchange → Bool
  | .begin _ => true
  | _ => false

def Exchange.isRollback : Exchange → Bool
  | .rollback _ => true
  | _ => false

/-- The log of an open transaction, from its begin to the request that ends it. -/
def session (calls : List Call) (last : Exchange) : List Exchange :=
  .begin (.ok ()) :: (calls.map .perform ++ [last])

/-- How work comes to an end. -/
inductive Ending (ε α : Type)
  | done (a : α)
  | refused (e : ε)
  | failed (f : Failure)

variable {σ τ ε α β : Type}

def Ending.reply (wrap : Failure → ε) : Ending ε α → Except ε α
  | .done a => .ok a
  | .refused e => .error e
  | .failed f => .error (wrap f)

namespace Work

/-- The work makes these calls, answered so, and comes to this end. -/
inductive Converses : Work ε α → List Call → Ending ε α → Prop
  | done (a : α) : Converses (.done a) [] (.done a)
  | refused (e : ε) : Converses (.refuse e) [] (.refused e)
  | failed (s : Step) (next : s.Answer → Work ε α) (f : Failure) :
      Converses (.step s next) [⟨s, .error f⟩] (.failed f)
  | answered {s : Step} {next : s.Answer → Work ε α} {x : s.Answer} {calls : List Call}
      {ending : Ending ε α} (rest : Converses (next x) calls ending) :
      Converses (.step s next) (⟨s, .ok x⟩ :: calls) ending

/-- Whatever it is answered, the work is not given up for a reason of its own. -/
def NeverRefuses : Work ε α → Prop
  | .done _ => True
  | .refuse _ => False
  | .step _ next => ∀ x, NeverRefuses (next x)

theorem neverRefuses_ask (s : Step) : (ask s : Work ε s.Answer).NeverRefuses := fun _ => trivial

theorem NeverRefuses.bind {w : Work ε α} {f : α → Work ε β} (hw : w.NeverRefuses)
    (hf : ∀ a, (f a).NeverRefuses) : (w.bind f).NeverRefuses := by
  induction w with
  | done a => exact hf a
  | refuse e => exact hw.elim
  | step s next ih => exact fun x => ih x (hw x)

namespace Converses

variable {w : Work ε α} {calls : List Call} {ending : Ending ε α} {a : α} {e : ε} {f : Failure}

theorem not_refused (h : w.Converses calls (.refused e)) (hw : w.NeverRefuses) : False := by
  generalize hr : Ending.refused e = ending at h
  induction h with
  | done a => cases hr
  | refused e => exact hw
  | failed s next f => cases hr
  | answered rest ih => exact ih (hw _) hr

theorem all_ok_of_done (h : w.Converses calls (.done a)) : ∀ c ∈ calls, c.isOk = true := by
  generalize hr : Ending.done a = ending at h
  induction h with
  | done a => simp
  | refused e => cases hr
  | failed s next f => cases hr
  | answered rest ih => exact List.forall_mem_cons.mpr ⟨rfl, ih hr⟩

theorem all_ok_of_refused (h : w.Converses calls (.refused e)) : ∀ c ∈ calls, c.isOk = true := by
  generalize hr : Ending.refused e = ending at h
  induction h with
  | done a => cases hr
  | refused e => simp
  | failed s next f => cases hr
  | answered rest ih => exact List.forall_mem_cons.mpr ⟨rfl, ih hr⟩

theorem exists_failed (h : w.Converses calls (.failed f)) :
    ∃ before call, calls = before ++ [call] ∧ (∀ c ∈ before, c.isOk = true) ∧ call.answer = .error f := by
  generalize hr : Ending.failed f = ending at h
  induction h with
  | done a => cases hr
  | refused e => cases hr
  | failed s next g =>
    cases hr
    exact ⟨[], _, rfl, by simp, rfl⟩
  | answered rest ih =>
    obtain ⟨before, call, rfl, hbefore, hcall⟩ := ih hr
    exact ⟨_ :: before, call, rfl, List.forall_mem_cons.mpr ⟨rfl, hbefore⟩, hcall⟩

/-- Work that goes on only from a good result. -/
theorem of_ofExcept_bind {r : Except ε β} {next : β → Work ε α} (hn : ∀ b, (next b).NeverRefuses)
    (h : ((ofExcept r).bind next).Converses calls ending) :
    (∃ e, r = .error e ∧ calls = [] ∧ ending = .refused e) ∨
      ∃ b, r = .ok b ∧ ∀ e, ending ≠ .refused e := by
  cases r with
  | error e =>
    cases h with
    | refused _ => exact .inl ⟨e, rfl, rfl, rfl⟩
  | ok b =>
    refine .inr ⟨b, rfl, ?_⟩
    rintro e rfl
    exact h.not_refused (hn b)

end Converses

end Work

namespace Backend

/-- The same store, with a log of what it is asked for. -/
def logged (b : Backend σ τ) : Backend (σ × List Exchange) τ where
  begin s :=
    match b.begin s.1 with
    | (.error f, s') => (.error f, s', s.2 ++ [.begin (.error f)])
    | (.ok t, s') => (.ok t, s', s.2 ++ [.begin (.ok ())])
  perform step t s :=
    match b.perform step t s.1 with
    | (answer, t, s') => (answer, t, s', s.2 ++ [.perform ⟨step, answer⟩])
  commit t s :=
    match b.commit t s.1 with
    | (result, s') => (result, s', s.2 ++ [.commit result])
  rollback t s :=
    match b.rollback t s.1 with
    | (result, s') => (result, s', s.2 ++ [.rollback result])

/-- A transaction for some work leaves this log and gives this reply. -/
inductive Conducted (wrap : Failure → ε) (work : Work ε α) : List Exchange → Except ε α → Prop
  | notBegun (f : Failure) : Conducted wrap work [.begin (.error f)] (.error (wrap f))
  | committed {calls : List Call} {a : α} (h : work.Converses calls (.done a)) :
      Conducted wrap work (session calls (.commit (.ok ()))) (.ok a)
  | notCommitted {calls : List Call} {a : α} (h : work.Converses calls (.done a)) (f : Failure) :
      Conducted wrap work (session calls (.commit (.error f))) (.error (wrap f))
  | refused {calls : List Call} {e : ε} (h : work.Converses calls (.refused e))
      (result : Except Failure Unit) :
      Conducted wrap work (session calls (.rollback result)) (.error e)
  | failed {calls : List Call} {f : Failure} (h : work.Converses calls (.failed f))
      (result : Except Failure Unit) :
      Conducted wrap work (session calls (.rollback result)) (.error (wrap f))

variable (b : Backend σ τ) (wrap : Failure → ε)

theorem run_logged (work : Work ε α) (t : τ) (s : σ) (log : List Exchange) :
    ∃ calls ending t' s', work.Converses calls ending ∧
      b.run wrap work t s = (ending.reply wrap, t', s') ∧
      b.logged.run wrap work t (s, log) = (ending.reply wrap, t', s', log ++ calls.map .perform) := by
  induction work generalizing t s log with
  | done a => exact ⟨[], .done a, t, s, .done a, rfl, by simp [run, Ending.reply]⟩
  | refuse e => exact ⟨[], .refused e, t, s, .refused e, rfl, by simp [run, Ending.reply]⟩
  | step step next ih =>
    rcases hp : b.perform step t s with ⟨answer, t₁, s₁⟩
    have hl : b.logged.perform step t (s, log) = (answer, t₁, s₁, log ++ [.perform ⟨step, answer⟩]) := by
      simp only [logged, hp]
    simp only [run, hp, hl]
    cases answer with
    | error f => exact ⟨[⟨step, .error f⟩], .failed f, t₁, s₁, .failed step next f, rfl, rfl⟩
    | ok x =>
      obtain ⟨calls, ending, t', s', hw, hrun, hlog⟩ := ih x t₁ s₁ (log ++ [.perform ⟨step, .ok x⟩])
      rw [List.append_assoc] at hlog
      exact ⟨⟨step, .ok x⟩ :: calls, ending, t', s', .answered hw, hrun, hlog⟩

/-- Keeping a log changes nothing, and the log is that of one transaction. -/
theorem transact_logged (work : Work ε α) (s : σ) (past : List Exchange) :
    ∃ log, Conducted wrap work log (b.transact wrap work s).1 ∧
      b.logged.transact wrap work (s, past) =
        ((b.transact wrap work s).1, (b.transact wrap work s).2, past ++ log) := by
  rcases hb : b.begin s with ⟨f | t, s₀⟩
  · have hl : b.logged.begin (s, past) = (.error f, s₀, past ++ [.begin (.error f)]) := by
      simp only [logged, hb]
    simp only [transact, hb, hl]
    exact ⟨_, .notBegun f, rfl⟩
  have hl : b.logged.begin (s, past) = (.ok t, s₀, past ++ [.begin (.ok ())]) := by
    simp only [logged, hb]
  obtain ⟨calls, ending, t', s', hw, hrun, hlog⟩ :=
    b.run_logged wrap work t s₀ (past ++ [.begin (.ok ())])
  have hsession (last : Exchange) :
      past ++ [.begin (.ok ())] ++ calls.map .perform ++ [last] = past ++ session calls last := by
    simp [session]
  have hrollback : b.logged.rollback t' (s', past ++ [.begin (.ok ())] ++ calls.map .perform) =
      ((b.rollback t' s').1, (b.rollback t' s').2,
        past ++ session calls (.rollback (b.rollback t' s').1)) := by
    rw [← hsession]
    rfl
  simp only [transact, hb, hl, hrun, hlog]
  cases ending with
  | done a =>
    rcases hc : b.commit t' s' with ⟨result, s''⟩
    have hcommit : b.logged.commit t' (s', past ++ [.begin (.ok ())] ++ calls.map .perform) =
        (result, s'', past ++ session calls (.commit result)) := by
      rw [← hsession]
      simp only [logged, hc]
    simp only [Ending.reply, hc, hcommit]
    cases result with
    | error f => exact ⟨_, .notCommitted hw f, rfl⟩
    | ok _ => exact ⟨_, .committed hw, rfl⟩
  | refused e =>
    simp only [Ending.reply, hrollback]
    exact ⟨_, .refused hw _, rfl⟩
  | failed f =>
    simp only [Ending.reply, hrollback]
    exact ⟨_, .failed hw _, rfl⟩

end Backend

end Subscriptions
