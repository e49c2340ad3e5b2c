import Mathlib.Data.List.Forall2
import Subscriptions.Outbox.Shared

/-!
Whatever the senders and the worker do, and in whatever order, every task that was accepted has been executed, is being
executed or is in the queue, in the order in which the tasks were accepted. So a worker that has stopped has executed
all of them.
-/

namespace Subscriptions

set_option autoImplicit false

/-- The calls of the handler for a task that was executed: one failure after the other, and then a success or the
failure after which it is not tried again. -/
def RetryPolicy.Executes (p : RetryPolicy) (task : Task) (calls : List Attempt) : Prop :=
  ∃ failures last, calls = failures ++ [last] ∧ (∀ a ∈ failures, a.task = task ∧ a.ok = false) ∧
    failures.length ≤ p.maxRetries ∧ last.task = task ∧ (last.ok = true ∨ failures.length = p.maxRetries)

namespace Outbox

/-- The task that the worker deals with. -/
def current (o : Outbox) : Option Task :=
  match o.phase with
  | .trying task _ _ => some task
  | .idle | .stopped => none

/-- The calls for the task that the worker deals with have failed so far. -/
def Pending (o : Outbox) (calls : List Attempt) : Prop :=
  match o.phase with
  | .trying task attempt _ =>
    (∀ a ∈ calls, a.task = task ∧ a.ok = false) ∧ calls.length = attempt ∧ attempt ≤ o.policy.maxRetries
  | .idle | .stopped => calls = []

/-- The handler was called for these tasks, one after the other, and then for the one that the worker deals with. -/
def HasCalled (o : Outbox) (tasks : List Task) : Prop :=
  ∃ done pending, List.Forall₂ o.policy.Executes tasks done ∧ o.attempts = done.flatten ++ pending ∧ o.Pending pending

variable {o : Outbox} {tasks : List Task} {task : Task} {attempt due : Nat} {calls : List Attempt}

theorem current_of_stopped (h : o.phase = .stopped) : o.current = none := by
  simp only [current, h]

theorem accepts_iff : o.accepts = true ↔ o.closed = false ∧ o.queue.length < o.room := by
  simp only [accepts, Bool.and_eq_true, Bool.not_eq_true', decide_eq_true_eq]

theorem pending_of_idle (idle : o.phase = .idle) : o.Pending calls ↔ calls = [] := by
  simp only [Pending, idle]

theorem pending_of_trying (trying : o.phase = .trying task attempt due) :
    o.Pending calls ↔
      (∀ a ∈ calls, a.task = task ∧ a.ok = false) ∧ calls.length = attempt ∧ attempt ≤ o.policy.maxRetries := by
  simp only [Pending, trying]

theorem HasCalled.began {rest : List Task} (h : o.HasCalled tasks) (idle : o.phase = .idle) (now : Nat) :
    HasCalled { o with queue := rest, phase := .trying task 0 now } tasks := by
  obtain ⟨done, pending, hdone, hattempts, hpending⟩ := h
  obtain rfl := (pending_of_idle idle).mp hpending
  refine ⟨done, [], hdone, hattempts, ?_⟩
  exact ⟨fun a ha => (by cases ha), rfl, Nat.zero_le _⟩

theorem HasCalled.stopped (h : o.HasCalled tasks) (idle : o.phase = .idle) :
    HasCalled { o with closed := true, phase := .stopped } tasks := by
  obtain ⟨done, pending, hdone, hattempts, hpending⟩ := h
  exact ⟨done, pending, hdone, hattempts, (pending_of_idle idle).mp hpending⟩

theorem HasCalled.failed {next : Nat} (h : o.HasCalled tasks) (trying : o.phase = .trying task attempt due)
    (left : attempt < o.policy.maxRetries) :
    HasCalled
      { o with attempts := o.attempts ++ [⟨task, false, o.now⟩], phase := .trying task (attempt + 1) next } tasks := by
  obtain ⟨done, pending, hdone, hattempts, hpending⟩ := h
  obtain ⟨hfailed, hlength, _⟩ := (pending_of_trying trying).mp hpending
  refine ⟨done, pending ++ [⟨task, false, o.now⟩], hdone, ?_, ?_, ?_, left⟩
  · simp only [hattempts, List.append_assoc]
  · intro a ha
    rcases List.mem_append.mp ha with ha | ha
    · exact hfailed a ha
    · obtain rfl := List.mem_singleton.mp ha
      exact ⟨rfl, rfl⟩
  · rw [List.length_append, hlength]
    rfl

theorem HasCalled.executed {ok : Bool} (h : o.HasCalled tasks) (trying : o.phase = .trying task attempt due)
    (ends : ok = true ∨ o.policy.maxRetries ≤ attempt) :
    HasCalled { o with attempts := o.attempts ++ [⟨task, ok, o.now⟩], phase := .idle } (tasks ++ [task]) := by
  obtain ⟨done, pending, hdone, hattempts, hpending⟩ := h
  obtain ⟨hfailed, hlength, hleft⟩ := (pending_of_trying trying).mp hpending
  have hexecutes : o.policy.Executes task (pending ++ [⟨task, ok, o.now⟩]) := by
    refine ⟨pending, _, rfl, hfailed, by omega, rfl, ?_⟩
    rcases ends with hok | hlast
    · exact .inl hok
    · right
      omega
  refine ⟨done ++ [pending ++ [⟨task, ok, o.now⟩]], [], ?_, ?_, rfl⟩
  · exact List.rel_append hdone (.cons hexecutes .nil)
  · simp [hattempts]

end Outbox

namespace SharedOutbox

/-- The task that a dispatch brought into the queue. -/
def taskAccepted : Event × Outcome → Option Task
  | (.dispatch task, .accepted) => some task
  | _ => none

def taskExecuted : Event × Outcome → Option Task
  | (_, .executed task) => some task
  | _ => none

def isRefusal : Event × Outcome → Bool
  | (.dispatch _, .refused) => true
  | _ => false

def isEnd : Event × Outcome → Bool
  | (_, .closed) | (_, .stopped) => true
  | _ => false

def accepted (h : List (Event × Outcome)) : List Task := h.filterMap taskAccepted

def executed (h : List (Event × Outcome)) : List Task := h.filterMap taskExecuted

def refusals (h : List (Event × Outcome)) : Nat := h.countP isRefusal

section Histories

variable {h : List (Event × Outcome)} {x : Event × Outcome}

theorem accepted_append (h h' : List (Event × Outcome)) : accepted (h ++ h') = accepted h ++ accepted h' :=
  List.filterMap_append

theorem accepted_concat : accepted (h ++ [x]) = accepted h ++ (taskAccepted x).toList := by
  rw [accepted_append]
  cases hx : taskAccepted x <;> simp [accepted, hx]

theorem executed_concat : executed (h ++ [x]) = executed h ++ (taskExecuted x).toList := by
  rw [executed, List.filterMap_append]
  cases hx : taskExecuted x <;> simp [executed, hx]

theorem executed_concat_of_none (hx : taskExecuted x = none) : executed (h ++ [x]) = executed h := by
  rw [executed_concat, hx, Option.toList_none, List.append_nil]

theorem refusals_concat : refusals (h ++ [x]) = refusals h + (isRefusal x).toNat := by
  rw [refusals, List.countP_append]
  cases hx : isRefusal x <;> simp [refusals, hx]

end Histories

/-- What an event can do to the outbox, and what is then said of it. -/
inductive Change (o : Outbox) : Event → Outcome → Outbox → Prop
  | aside {e : Event} (now : Nat) (stopSignal : Bool) :
    Change o e .nothing { o with now := now, stopSignal := stopSignal }
  | accepted {task : Task} (accepts : o.accepts = true) :
    Change o (.dispatch task) .accepted { o with queue := o.queue ++ [task] }
  | refused {task : Task} (accepts : o.accepts = false) :
    Change o (.dispatch task) .refused { o with dropped := o.dropped + 1 }
  | closed (idle : o.phase = .idle) : Change o .heed .closed { o with closed := true }
  | began {task : Task} {rest : List Task} (idle : o.phase = .idle) (front : o.queue = task :: rest) :
    Change o .receive (.began task) { o with queue := rest, phase := .trying task 0 o.now }
  | stopped (idle : o.phase = .idle) (empty : o.queue = []) :
    Change o .receive .stopped { o with closed := true, phase := .stopped }
  | failed {task : Task} {attempt due next : Nat} (trying : o.phase = .trying task attempt due)
    (left : attempt < o.policy.maxRetries) :
    Change o (.answer false) (.failed task)
      { o with attempts := o.attempts ++ [⟨task, false, o.now⟩], phase := .trying task (attempt + 1) next }
  | executed {task : Task} {attempt due : Nat} {ok : Bool} (trying : o.phase = .trying task attempt due)
    (ends : ok = true ∨ o.policy.maxRetries ≤ attempt) :
    Change o (.answer ok) (.executed task)
      { o with attempts := o.attempts ++ [⟨task, ok, o.now⟩], phase := .idle }

theorem change_dispatch (s : SharedOutbox) (task : Task) :
    Change s.outbox (.dispatch task) (s.dispatch task).1 (s.dispatch task).2.outbox := by
  unfold dispatch Outbox.dispatch
  by_cases hs : s.senders = 0
  · rw [if_pos hs]
    exact .aside _ _
  rw [if_neg hs]
  cases ha : s.outbox.accepts with
  | true => exact .accepted ha
  | false => exact .refused ha

theorem change_heed (s : SharedOutbox) : Change s.outbox .heed s.heed.1 s.heed.2.outbox := by
  unfold heed
  split
  · rename_i hidle
    split
    · exact .closed hidle
    · exact .aside _ _
  all_goals exact .aside _ _

theorem change_receive (s : SharedOutbox) : Change s.outbox .receive s.receive.1 s.receive.2.outbox := by
  unfold receive
  split
  · rename_i hidle hfront
    exact .began hidle hfront
  · rename_i hidle hempty
    split
    · exact .stopped hidle hempty
    · exact .aside _ _
  · exact .aside _ _

theorem change_answer (s : SharedOutbox) (ok : Bool) :
    Change s.outbox (.answer ok) (s.answer ok).1 (s.answer ok).2.outbox := by
  unfold answer
  split
  · rename_i task attempt due htrying
    split
    · unfold Outbox.callHandler RetryPolicy.verdict
      cases ok with
      | true => exact .executed htrying (.inl rfl)
      | false =>
        by_cases hleft : attempt < s.outbox.policy.maxRetries
        · simp only [Bool.false_eq_true, if_false, hleft, if_true]
          exact .failed htrying hleft
        · simp only [Bool.false_eq_true, if_false, hleft]
          exact .executed htrying (.inr (Nat.not_lt.mp hleft))
    · exact .aside _ _
  all_goals exact .aside _ _

theorem change_act (s : SharedOutbox) (e : Event) : Change s.outbox e (s.act e).1 (s.act e).2.outbox := by
  cases e with
  | dispatch task => exact change_dispatch s task
  | clone =>
    simp only [act]
    split <;> exact .aside _ _
  | drop => exact .aside _ _
  | stop => exact .aside _ _
  | heed => exact change_heed s
  | receive => exact change_receive s
  | answer ok => exact change_answer s ok
  | pass nanos => exact .aside _ _

/-- What a history has to do with the outbox that it has led to. -/
structure Accounts (capacity : Nat) (policy : RetryPolicy) (h : List (Event × Outcome)) (o : Outbox) : Prop where
  settings : o.capacity = capacity ∧ o.policy = policy
  order : executed h ++ o.current.toList ++ o.queue = accepted h
  bounded : o.queue.length ≤ o.room
  counted : o.dropped = refusals h
  closed : o.closed = h.any isEnd
  stopped : o.phase = .stopped → o.closed = true ∧ o.queue = []
  calls : o.HasCalled (executed h)

namespace Accounts

variable {capacity : Nat} {policy : RetryPolicy} {h : List (Event × Outcome)} {o o' : Outbox} {e : Event} {r : Outcome}

theorem start (capacity : Nat) (policy : RetryPolicy) :
    Accounts capacity policy [] (Outbox.start capacity policy) where
  settings := ⟨rfl, rfl⟩
  order := rfl
  bounded := Nat.zero_le _
  counted := rfl
  closed := rfl
  stopped hstopped := by cases hstopped
  calls := ⟨[], [], .nil, rfl, rfl⟩

theorem settings_step (ha : Accounts capacity policy h o) (hc : Change o e r o') :
    o'.capacity = capacity ∧ o'.policy = policy := by
  cases hc <;> exact ha.settings

theorem order_step (ha : Accounts capacity policy h o) (hc : Change o e r o') :
    executed (h ++ [(e, r)]) ++ o'.current.toList ++ o'.queue = accepted (h ++ [(e, r)]) := by
  rw [accepted_concat, executed_concat, ← ha.order]
  cases hc with
  | aside => cases e <;> simp [taskAccepted, taskExecuted, Outbox.current]
  | accepted | refused | closed => simp [taskAccepted, taskExecuted, Outbox.current]
  | began idle front => simp [taskAccepted, taskExecuted, Outbox.current, idle, front]
  | stopped idle empty => simp [taskAccepted, taskExecuted, Outbox.current, idle, empty]
  | failed trying left => simp [taskAccepted, taskExecuted, Outbox.current, trying]
  | executed trying ends => simp [taskAccepted, taskExecuted, Outbox.current, trying]

theorem bounded_step (ha : Accounts capacity policy h o) (hc : Change o e r o') : o'.queue.length ≤ o'.room := by
  have hbounded := ha.bounded
  cases hc with
  | aside | refused | closed | stopped | failed | executed => exact hbounded
  | accepted accepts =>
    have hroom : o.queue.length < o.room := (Outbox.accepts_iff.mp accepts).2
    rw [List.length_append]
    exact hroom
  | began idle front =>
    rw [front] at hbounded
    exact Nat.le_of_succ_le hbounded

theorem counted_step (ha : Accounts capacity policy h o) (hc : Change o e r o') :
    o'.dropped = refusals (h ++ [(e, r)]) := by
  rw [refusals_concat, ← ha.counted]
  cases hc with
  | aside => cases e <;> rfl
  | accepted | refused | closed | began | stopped | failed | executed => rfl

theorem closed_step (ha : Accounts capacity policy h o) (hc : Change o e r o') :
    o'.closed = (h ++ [(e, r)]).any isEnd := by
  rw [List.any_append, ← ha.closed]
  cases hc <;> simp [isEnd]

theorem stopped_step (ha : Accounts capacity policy h o) (hc : Change o e r o') (hstopped : o'.phase = .stopped) :
    o'.closed = true ∧ o'.queue = [] := by
  cases hc with
  | aside | refused => exact ha.stopped hstopped
  | accepted accepts =>
    -- Nothing is accepted any more.
    have hclosed := (ha.stopped hstopped).1
    rw [(Outbox.accepts_iff.mp accepts).1] at hclosed
    cases hclosed
  | closed idle =>
    rw [idle] at hstopped
    cases hstopped
  | stopped idle empty => exact ⟨rfl, empty⟩
  | began | failed | executed => cases hstopped

theorem calls_step (ha : Accounts capacity policy h o) (hc : Change o e r o') :
    o'.HasCalled (executed (h ++ [(e, r)])) := by
  have hcalls := ha.calls
  cases hc with
  | aside | accepted | refused | closed =>
    rw [executed_concat_of_none rfl]
    exact hcalls
  | began idle front =>
    rw [executed_concat_of_none rfl]
    exact hcalls.began idle o.now
  | stopped idle empty =>
    rw [executed_concat_of_none rfl]
    exact hcalls.stopped idle
  | failed trying left =>
    rw [executed_concat_of_none rfl]
    exact hcalls.failed trying left
  | executed trying ends =>
    rw [executed_concat]
    exact hcalls.executed trying ends

theorem step (ha : Accounts capacity policy h o) (hc : Change o e r o') :
    Accounts capacity policy (h ++ [(e, r)]) o' where
  settings := ha.settings_step hc
  order := ha.order_step hc
  bounded := ha.bounded_step hc
  counted := ha.counted_step hc
  closed := ha.closed_step hc
  stopped := ha.stopped_step hc
  calls := ha.calls_step hc

theorem executed_eq (ha : Accounts capacity policy h o) (hstopped : o.phase = .stopped) :
    executed h = accepted h := by
  have hempty : o.queue = [] := (ha.stopped hstopped).2
  have hnone : o.current = none := Outbox.current_of_stopped hstopped
  rw [← ha.order, hnone, hempty, Option.toList_none, List.append_nil, List.append_nil]

theorem run {s : SharedOutbox} (ha : Accounts capacity policy h s.outbox) (events : List Event) :
    Accounts capacity policy (h ++ s.history events) (s.after events).outbox := by
  induction events generalizing h s with
  | nil =>
    rw [history, List.append_nil]
    exact ha
  | cons e events ih =>
    rw [history, List.append_cons]
    exact ih (ha.step (change_act s e))

theorem opened (capacity : Nat) (policy : RetryPolicy) (events : List Event) :
    Accounts capacity policy ((SharedOutbox.opened capacity policy).history events)
      ((SharedOutbox.opened capacity policy).after events).outbox := by
  have hrun := run (s := SharedOutbox.opened capacity policy) (start capacity policy) events
  rw [List.nil_append] at hrun
  exact hrun

end Accounts

theorem act_dispatch_outcome (s : SharedOutbox) (task : Task) :
    ((s.act (.dispatch task)).1 = .refused ↔ s.senders ≠ 0 ∧ s.outbox.accepts = false) ∧
      ((s.act (.dispatch task)).1 = .accepted ↔ s.senders ≠ 0 ∧ s.outbox.accepts = true) := by
  unfold act dispatch
  by_cases hs : s.senders = 0
  · simp [hs]
  · cases ha : s.outbox.accepts <;> simp [hs]

/-- The executed tasks, the one that the worker deals with and the ones in the queue are the accepted tasks in their
order. The queue is within its bounds. A task is refused where the queue is full or closed, and this is counted; it is
closed once the worker has heeded the signal to stop, or has stopped. Then all that was accepted has been executed, and
to be executed is to be tried until it succeeds or may not be tried again. -/
theorem nothing_lost (capacity : Nat) (policy : RetryPolicy) (events : List Event) :
    let s := (opened capacity policy).after events
    let h := (opened capacity policy).history events
    executed h ++ s.outbox.current.toList ++ s.outbox.queue = accepted h ∧
      s.outbox.queue.length ≤ max capacity 1 ∧
      (∀ task, ((s.act (.dispatch task)).1 = .refused ↔
          s.senders ≠ 0 ∧ (s.outbox.queue.length = max capacity 1 ∨ s.outbox.closed = true)) ∧
        ((s.act (.dispatch task)).1 = .accepted ↔
          s.senders ≠ 0 ∧ ¬(s.outbox.queue.length = max capacity 1 ∨ s.outbox.closed = true))) ∧
      s.outbox.dropped = refusals h ∧
      s.outbox.closed = h.any isEnd ∧
      (s.outbox.phase = .stopped → executed h = accepted h) ∧
      s.outbox.policy = policy ∧ s.outbox.HasCalled (executed h) := by
  intro s h
  have ha : Accounts capacity policy h s.outbox := .opened capacity policy events
  have hroom : s.outbox.room = max capacity 1 := by rw [Outbox.room, ha.settings.1]
  have hbounded : s.outbox.queue.length ≤ max capacity 1 := hroom ▸ ha.bounded
  have haccepts : s.outbox.accepts = true ↔
      ¬(s.outbox.queue.length = max capacity 1 ∨ s.outbox.closed = true) := by
    rw [Outbox.accepts_iff, hroom, not_or, Bool.not_eq_true]
    constructor
    · rintro ⟨hopen, hlt⟩
      exact ⟨Nat.ne_of_lt hlt, hopen⟩
    · rintro ⟨hne, hopen⟩
      exact ⟨hopen, Nat.lt_of_le_of_ne hbounded hne⟩
  have hrefuses : s.outbox.accepts = false ↔
      s.outbox.queue.length = max capacity 1 ∨ s.outbox.closed = true := by
    rw [← Bool.not_eq_true, haccepts, Decidable.not_not]
  refine ⟨ha.order, hbounded, ?_, ha.counted, ha.closed, ha.executed_eq, ha.settings.2, ha.calls⟩
  intro task
  rw [← haccepts, ← hrefuses]
  exact act_dispatch_outcome s task

/-- What comes between the signal to stop and the moment at which the worker heeds it is still accepted. -/
example (t u : Task) :
    ((opened 1 ⟨0, 500⟩).history
      [.dispatch t, .dispatch u, .stop, .receive, .dispatch u, .answer false, .heed, .dispatch t, .receive,
        .answer true, .receive]).map (·.2) =
      [.accepted, .refused, .nothing, .began t, .accepted, .executed t, .closed, .refused, .began u, .executed u,
        .stopped] := by
  cbv

end SharedOutbox

end Subscriptions
