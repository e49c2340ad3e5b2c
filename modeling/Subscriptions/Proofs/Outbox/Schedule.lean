import Subscriptions.Proofs.Outbox.NothingLost

/-!
The worker that does what is next, by the clock, is one of the workers that move in any order. Told to stop, it comes to
its end.
-/

namespace Subscriptions

set_option autoImplicit false

namespace Outbox

variable {handler : Nat → Bool} {before : Option Nat} {o o' o'' : Outbox} {tasks tasks' : List Task} {task : Task}
  {attempt due : Nat}

/-- What the worker can do next. -/
inductive Next (handler : Nat → Bool) (o : Outbox) : Outbox → Prop
  | call {task : Task} {attempt due : Nat} (trying : o.phase = .trying task attempt due) :
    Next handler o (callHandler handler o task attempt due)
  | heed (idle : o.phase = .idle) (signal : (o.stopSignal && !o.closed) = true) :
    Next handler o { o with closed := true }
  | receive {task : Task} {rest : List Task} (idle : o.phase = .idle) (front : o.queue = task :: rest) :
    Next handler o { o with queue := rest, phase := .trying task 0 o.now }
  | stop (idle : o.phase = .idle) (empty : o.queue = []) (closed : o.closed = true) :
    Next handler o { o with phase := .stopped }

theorem next_of_step? (h : step? handler o = some o') : Next handler o o' := by
  unfold step? at h
  split at h
  · cases h
  · rename_i htrying
    obtain rfl := Option.some.inj h
    exact .call htrying
  rename_i hidle
  split at h
  · rename_i hsignal
    obtain rfl := Option.some.inj h
    exact .heed hidle hsignal
  split at h
  · rename_i hfront
    obtain rfl := Option.some.inj h
    exact .receive hidle hfront
  split at h
  · rename_i hempty hclosed
    obtain rfl := Option.some.inj h
    exact .stop hidle hempty hclosed
  · cases h

/-- The worker has nothing to do only when it has stopped, or waits without having been told to stop. -/
theorem phase_of_step?_eq_none (h : step? handler o = none) :
    o.phase = .stopped ∨ o.phase = .idle ∧ o.stopSignal = false := by
  unfold step? at h
  split at h
  · rename_i hstopped
    exact .inl hstopped
  · cases h
  rename_i hidle
  split at h
  · cases h
  rename_i hsignal
  split at h
  · cases h
  split at h
  · cases h
  rename_i hclosed
  refine .inr ⟨hidle, ?_⟩
  simpa [hclosed] using hsignal

/-- What is to be done next is not overdue. -/
def Timely (o : Outbox) : Prop := o.now ≤ o.due

theorem timely_of_idle (idle : o.phase = .idle) : o.Timely := by
  simp only [Timely, Outbox.due, idle, Nat.le_refl]

theorem timely_callHandler : (callHandler handler o task attempt due).Timely := by
  unfold callHandler
  simp only
  split
  · exact Nat.le_add_right _ _
  · exact timely_of_idle rfl
  · exact timely_of_idle rfl

theorem now_callHandler : (callHandler handler o task attempt due).now = due := by
  unfold callHandler
  simp only
  split <;> rfl

theorem stopSignal_callHandler : (callHandler handler o task attempt due).stopSignal = o.stopSignal := by
  unfold callHandler
  simp only
  split <;> rfl

theorem Next.timely (h : Next handler o o') : o'.Timely := by
  cases h with
  | call trying => exact timely_callHandler
  | heed idle signal => exact timely_of_idle idle
  | receive idle front => exact Nat.le_refl _
  | stop idle empty closed => exact Nat.le_refl _

theorem Next.now_eq (h : Next handler o o') : o'.now = o.due := by
  cases h with
  | call trying => rw [now_callHandler, Outbox.due, trying]
  | heed idle signal => rw [Outbox.due, idle]
  | receive idle front => rw [Outbox.due, idle]
  | stop idle empty closed => rw [Outbox.due, idle]

theorem Next.stopSignal_eq (h : Next handler o o') : o'.stopSignal = o.stopSignal := by
  cases h with
  | call trying => exact stopSignal_callHandler
  | heed | receive | stop => rfl

/-- Something that the senders and the worker do leads from the one outbox to the other, and brings these tasks into the
queue. No sender comes or goes. -/
def LeadsTo (o : Outbox) (tasks : List Task) (o' : Outbox) : Prop :=
  ∃ events, ∀ senders, senders ≠ 0 →
    SharedOutbox.after ⟨o, senders⟩ events = ⟨o', senders⟩ ∧
      SharedOutbox.accepted (SharedOutbox.history ⟨o, senders⟩ events) = tasks

theorem LeadsTo.refl (o : Outbox) : o.LeadsTo [] o := ⟨[], fun _ _ => ⟨rfl, rfl⟩⟩

theorem LeadsTo.trans (h : o.LeadsTo tasks o') (h' : o'.LeadsTo tasks' o'') : o.LeadsTo (tasks ++ tasks') o'' := by
  obtain ⟨events, hevents⟩ := h
  obtain ⟨events', hevents'⟩ := h'
  refine ⟨events ++ events', ?_⟩
  intro senders hs
  obtain ⟨hafter, haccepted⟩ := hevents senders hs
  obtain ⟨hafter', haccepted'⟩ := hevents' senders hs
  rw [SharedOutbox.after_append, SharedOutbox.history_append, hafter, SharedOutbox.accepted_append, haccepted,
    haccepted']
  exact ⟨hafter', rfl⟩

/-- What the worker does brings nothing into the queue, and neither does time. -/
theorem LeadsTo.aside {e : SharedOutbox.Event} (he : ∀ r, SharedOutbox.taskAccepted (e, r) = none)
    (h : ∀ senders, (SharedOutbox.act ⟨o, senders⟩ e).2 = ⟨o', senders⟩) : o.LeadsTo [] o' := by
  refine ⟨[e], ?_⟩
  intro senders _
  refine ⟨h senders, ?_⟩
  simp only [SharedOutbox.history, SharedOutbox.accepted, List.filterMap_cons, he, List.filterMap_nil]

theorem leadsTo_dispatch (o : Outbox) (task : Task) :
    o.LeadsTo (if o.accepts then [task] else []) (o.dispatch task) := by
  refine ⟨[.dispatch task], ?_⟩
  intro senders hs
  simp only [SharedOutbox.after, List.foldl, SharedOutbox.history, SharedOutbox.act, SharedOutbox.dispatch, hs, if_false,
    SharedOutbox.withOutbox, true_and]
  cases o.accepts <;> rfl

theorem leadsTo_signalStop (o : Outbox) : o.LeadsTo [] o.signalStop :=
  LeadsTo.aside (e := .stop) (fun _ => rfl) fun _ => rfl

theorem leadsTo_pass {time : Nat} (h : o.now ≤ time) : o.LeadsTo [] { o with now := time } := by
  apply LeadsTo.aside (e := .pass (time - o.now)) fun _ => rfl
  intro senders
  simp only [SharedOutbox.act, SharedOutbox.withOutbox, Nat.add_sub_cancel' h]

theorem leadsTo_callHandler (trying : o.phase = .trying task attempt due) (hdue : o.now ≤ due) :
    o.LeadsTo [] (callHandler handler o task attempt due) := by
  apply (leadsTo_pass hdue).trans
  apply LeadsTo.aside (e := .answer (handler o.attempts.length)) fun _ => rfl
  intro senders
  simp only [SharedOutbox.act, SharedOutbox.answer, trying, Nat.le_refl, if_true, SharedOutbox.withOutbox]
  rfl

theorem Next.leadsTo (h : Next handler o o') (htimely : o.Timely) : o.LeadsTo [] o' := by
  cases h with
  | call trying =>
    simp only [Timely, Outbox.due, trying] at htimely
    exact leadsTo_callHandler trying htimely
  | heed idle signal =>
    apply LeadsTo.aside (e := .heed) fun _ => rfl
    intro senders
    simp only [SharedOutbox.act, SharedOutbox.heed, idle, signal, if_true, SharedOutbox.withOutbox]
  | receive idle front =>
    apply LeadsTo.aside (e := .receive) fun _ => rfl
    intro senders
    simp only [SharedOutbox.act, SharedOutbox.receive, idle, front, SharedOutbox.withOutbox]
  | stop idle empty closed =>
    apply LeadsTo.aside (e := .receive) fun _ => rfl
    intro senders
    simp only [SharedOutbox.act, SharedOutbox.receive, idle, empty, closed, Bool.true_or, if_true,
      SharedOutbox.withOutbox]

/-- What is left to do is due later, and all the work that was done was due. -/
structure Worked (handler : Nat → Bool) (before : Option Nat) (o o' : Outbox) : Prop where
  leadsTo : o.LeadsTo [] o'
  timely : o'.Timely
  stopSignal : o'.stopSignal = o.stopSignal
  rests : step? handler o' = none ∨ ∃ t ∈ before, t ≤ o'.due
  inTime : ∀ t ∈ before, o.now ≤ t → o'.now ≤ t

theorem worked_work (handler : Nat → Bool) (before : Option Nat) (htimely : o.Timely) :
    Worked handler before o (work handler before o) := by
  fun_induction work handler before o with
  | case1 o hdue o' hstep ih =>
    have hnext := next_of_step? hstep
    have hworked := ih hnext.timely
    constructor
    · exact (hnext.leadsTo htimely).trans hworked.leadsTo
    · exact hworked.timely
    · rw [hworked.stopSignal, hnext.stopSignal_eq]
    · exact hworked.rests
    · intro t ht _
      apply hworked.inTime t ht
      rw [hnext.now_eq]
      have hbefore : o.due < t := by simpa [Option.mem_def.mp ht] using hdue
      exact Nat.le_of_lt hbefore
  | case2 o hdue hstep => exact ⟨.refl o, htimely, rfl, .inl hstep, fun _ _ h => h⟩
  | case3 o hdue =>
    cases before with
    | none => simp at hdue
    | some t =>
      refine ⟨.refl o, htimely, rfl, .inr ⟨t, rfl, ?_⟩, fun _ _ h => h⟩
      simpa using hdue

theorem Worked.timely_at {time : Nat} (h : Worked handler (some time) o o') : Timely { o' with now := time } := by
  cases hphase : o'.phase with
  | idle => exact timely_of_idle rfl
  | stopped => simp only [Timely, Outbox.due, Nat.le_refl]
  | trying task attempt due =>
    rcases h.rests with hnone | ⟨t, ht, hdue⟩
    · rcases phase_of_step?_eq_none hnone with hstopped | ⟨hidle, _⟩
      · rw [hphase] at hstopped
        cases hstopped
      · rw [hphase] at hidle
        cases hidle
    · obtain rfl := Option.some.inj ht
      simp only [Outbox.due, hphase] at hdue
      simp only [Timely, Outbox.due]
      exact hdue

theorem leadsTo_wait (handler : Nat → Bool) (nanos : Nat) (htimely : o.Timely) :
    o.LeadsTo [] (o.wait handler nanos) ∧ (o.wait handler nanos).Timely := by
  have hworked := worked_work handler (some (wakeTime o.now nanos)) htimely
  have hnow := hworked.inTime _ rfl (Nat.le_add_right _ _)
  exact ⟨hworked.leadsTo.trans (leadsTo_pass hnow), hworked.timely_at⟩

theorem leadsTo_shutdown (handler : Nat → Bool) (htimely : o.Timely) :
    o.LeadsTo [] (o.shutdown handler) ∧ (o.shutdown handler).Timely := by
  unfold shutdown
  split
  · exact ⟨.refl o, htimely⟩
  · have htold : o.signalStop.Timely := htimely
    have hworked := worked_work handler none htold
    exact ⟨(leadsTo_signalStop o).trans hworked.leadsTo, hworked.timely⟩

theorem timely_dispatch (htimely : o.Timely) (task : Task) : (o.dispatch task).Timely := by
  unfold Outbox.dispatch
  split <;> exact htimely

/-- An outbox as its owner leaves it, who hands over tasks, waits, drops the worker or shuts it down, with the tasks that
were taken from him. -/
inductive Reached (capacity : Nat) (policy : RetryPolicy) : List Task → Outbox → Prop
  | start : Reached capacity policy [] (start capacity policy)
  | dispatch {tasks : List Task} {o : Outbox} (task : Task) (reached : Reached capacity policy tasks o) :
    Reached capacity policy (tasks ++ if o.accepts then [task] else []) (o.dispatch task)
  | wait {tasks : List Task} {o : Outbox} (handler : Nat → Bool) (nanos : Nat)
    (reached : Reached capacity policy tasks o) : Reached capacity policy tasks (o.wait handler nanos)
  | signalStop {tasks : List Task} {o : Outbox} (reached : Reached capacity policy tasks o) :
    Reached capacity policy tasks o.signalStop
  | shutdown {tasks : List Task} {o : Outbox} (handler : Nat → Bool) (reached : Reached capacity policy tasks o) :
    Reached capacity policy tasks (o.shutdown handler)

namespace Reached

variable {capacity : Nat} {policy : RetryPolicy}

theorem timely (h : Reached capacity policy tasks o) : o.Timely := by
  induction h with
  | start => exact Nat.le_refl _
  | dispatch task _ ih => exact timely_dispatch ih task
  | wait handler nanos _ ih => exact (leadsTo_wait handler nanos ih).2
  | signalStop _ ih => exact ih
  | shutdown handler _ ih => exact (leadsTo_shutdown handler ih).2

theorem leadsTo (h : Reached capacity policy tasks o) : (Outbox.start capacity policy).LeadsTo tasks o := by
  induction h with
  | start => exact .refl _
  | dispatch task _ ih => exact ih.trans (leadsTo_dispatch _ task)
  | wait handler nanos hreached ih => simpa using ih.trans (leadsTo_wait handler nanos hreached.timely).1
  | signalStop _ ih => simpa using ih.trans (leadsTo_signalStop _)
  | shutdown handler hreached ih => simpa using ih.trans (leadsTo_shutdown handler hreached.timely).1

/-- What one owner comes to is one of the things that any senders and the worker come to. -/
theorem accounts (h : Reached capacity policy tasks o) :
    ∃ history, SharedOutbox.Accounts capacity policy history o ∧ SharedOutbox.accepted history = tasks := by
  obtain ⟨events, hevents⟩ := h.leadsTo
  obtain ⟨hafter, haccepted⟩ := hevents 1 Nat.one_ne_zero
  have haccounts := SharedOutbox.Accounts.opened capacity policy events
  rw [SharedOutbox.opened, hafter] at haccounts
  exact ⟨_, haccounts, haccepted⟩

theorem stopped_of_shutdown (h : Reached capacity policy tasks o) (running : o.stopSignal = false)
    (handler : Nat → Bool) : (o.shutdown handler).phase = .stopped := by
  have htold : o.signalStop.Timely := h.timely
  have hworked := worked_work handler none htold
  simp only [Outbox.shutdown, running, Bool.false_eq_true, if_false]
  rcases hworked.rests with hnone | ⟨t, ht, _⟩
  · rcases phase_of_step?_eq_none hnone with hstopped | ⟨_, hsignal⟩
    · exact hstopped
    · rw [hworked.stopSignal] at hsignal
      cases hsignal
  · cases ht

/-- Whoever shuts the worker down waits until it has stopped. Then the handler has been called for every task that was
taken, in their order, and for nothing else. -/
theorem executed_of_shutdown (h : Reached capacity policy tasks o) (running : o.stopSignal = false)
    (handler : Nat → Bool) :
    ∃ done, List.Forall₂ policy.Executes tasks done ∧ (o.shutdown handler).attempts = done.flatten := by
  obtain ⟨history, haccounts, haccepted⟩ := (h.shutdown handler).accounts
  have hstopped := h.stopped_of_shutdown running handler
  obtain ⟨done, pending, hdone, hattempts, hpending⟩ := haccounts.calls
  rw [haccounts.executed_eq hstopped, haccepted, haccounts.settings.2] at hdone
  have hnone : pending = [] := by simpa only [Pending, hstopped] using hpending
  rw [hnone, List.append_nil] at hattempts
  exact ⟨done, hdone, hattempts⟩

end Reached

end Outbox

end Subscriptions
