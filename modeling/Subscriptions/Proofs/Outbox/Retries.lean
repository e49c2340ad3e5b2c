import Subscriptions.Outbox.Queue

/-!
How often a task is tried. The worker calls the handler until a call succeeds or the retries are used up, sleeps once
between two calls, and is then done with the task. The sleeps grow with the powers of two, up to the longest factor and
the longest delay.
-/

namespace Subscriptions

set_option autoImplicit false

/-- What the worker does for a task: it calls the handler, or asks the timer for a delay. -/
inductive Deed
  | call (ok : Bool)
  | sleep (nanos : Nat)
deriving DecidableEq

/-- So many calls fail before the first one that succeeds, or all of them do. -/
def FailsFirst (outcome : Nat → Bool) : Option Nat → Prop
  | some failures => (∀ i < failures, outcome i = false) ∧ outcome failures = true
  | none => ∀ i, outcome i = false

namespace RetryPolicy

/-- How often a task is tried again if so many calls would fail. -/
def retries (p : RetryPolicy) : Option Nat → Nat
  | some failures => min failures p.maxRetries
  | none => p.maxRetries

/-- A call, and the delay after it if the task is to be tried again. -/
def deeds (p : RetryPolicy) (attempt : Nat) (ok : Bool) : List Deed :=
  .call ok ::
    match p.verdict attempt ok with
    | .retryAfter nanos => [.sleep nanos]
    | .finished | .givenUp => []

/-- So many calls that fail, each with its delay. -/
def failedDeeds (p : RetryPolicy) (calls : Nat) : List Deed :=
  (List.range calls).flatMap fun attempt => [.call false, .sleep (p.delay attempt)]

/-- When a call comes about if the first one does at the given time and a call itself takes no time. -/
def callTime (p : RetryPolicy) (first : Nat) : Nat → Nat
  | 0 => first
  | attempt + 1 => Outbox.wakeTime (p.callTime first attempt) (p.delay attempt)

variable {p : RetryPolicy} {outcome : Nat → Bool} {failures : Option Nat} {attempt : Nat}

theorem retries_le (p : RetryPolicy) (failures : Option Nat) : p.retries failures ≤ p.maxRetries := by
  cases failures with
  | none => exact Nat.le_refl _
  | some f => exact Nat.min_le_right _ _

theorem failed_of_lt_retries (h : FailsFirst outcome failures) {i : Nat} (hi : i < p.retries failures) :
    outcome i = false := by
  cases failures with
  | none => exact h i
  | some f => exact h.1 i (Nat.lt_of_lt_of_le hi (Nat.min_le_left _ _))

theorem outcome_retries_iff (h : FailsFirst outcome failures) :
    outcome (p.retries failures) = true ↔ ∃ f ∈ failures, f ≤ p.maxRetries := by
  cases failures with
  | none =>
    have hfailed : outcome (p.retries none) = false := h _
    simp [hfailed]
  | some f =>
    simp only [retries, Option.mem_def, Option.some.injEq, exists_eq_left']
    constructor
    · intro hok
      apply Nat.not_lt.mp
      intro hmore
      rw [Nat.min_eq_right (Nat.le_of_lt hmore), h.1 _ hmore] at hok
      cases hok
    · intro hle
      rw [Nat.min_eq_left hle]
      exact h.2

/-- The last call succeeds, or no retry is left. -/
theorem ends_at_retries (h : FailsFirst outcome failures) :
    outcome (p.retries failures) = true ∨ p.retries failures = p.maxRetries := by
  rw [outcome_retries_iff h]
  cases failures with
  | none => exact .inr rfl
  | some f =>
    rcases Nat.le_total f p.maxRetries with hle | hge
    · exact .inl ⟨f, rfl, hle⟩
    · exact .inr (Nat.min_eq_right hge)

theorem delay_eq (p : RetryPolicy) (attempt : Nat) :
    p.delay attempt = min (p.backoffMillis * min (Nat.pow 2 attempt) 4294967295 * 1000000) longestDelay := by
  rw [Nat.mul_right_comm]
  rfl

theorem delay_le_succ (p : RetryPolicy) (attempt : Nat) : p.delay attempt ≤ p.delay (attempt + 1) := by
  have hdouble : Nat.pow 2 (attempt + 1) = Nat.pow 2 attempt * 2 := rfl
  have hpower : min (Nat.pow 2 attempt) 4294967295 ≤ min (Nat.pow 2 (attempt + 1)) 4294967295 := by omega
  have hproduct := Nat.mul_le_mul_right 1000000 (Nat.mul_le_mul_left p.backoffMillis hpower)
  rw [delay_eq, delay_eq]
  omega

theorem failedDeeds_succ (p : RetryPolicy) (calls : Nat) :
    p.failedDeeds (calls + 1) = p.failedDeeds calls ++ [.call false, .sleep (p.delay calls)] := by
  simp only [failedDeeds, List.range_succ, List.flatMap_append, List.flatMap_singleton]

theorem verdict_of_failed (left : attempt < p.maxRetries) :
    p.verdict attempt false = .retryAfter (p.delay attempt) := by
  simp only [verdict, Bool.false_eq_true, if_false, left, if_true]

theorem verdict_of_ends {ok : Bool} (ends : ok = true ∨ attempt = p.maxRetries) :
    p.verdict attempt ok = .finished ∨ p.verdict attempt ok = .givenUp := by
  unfold verdict
  rcases ends with rfl | rfl
  · exact .inl rfl
  · cases ok with
    | true => exact .inl rfl
    | false => simp

end RetryPolicy

namespace Outbox

variable {handler : Nat → Bool} {o o' : Outbox} {task : Task} {attempt due : Nat}

theorem step?_of_trying (trying : o.phase = .trying task attempt due) :
    step? handler o = some (callHandler handler o task attempt due) := by
  simp only [step?, trying]

/-- Has the worker deal with its task until it is done with it, and says what it did. -/
def execute (handler : Nat → Bool) (o : Outbox) : List Deed × Outbox :=
  match _trying : o.phase with
  | .trying task attempt due =>
    let rest := execute handler (callHandler handler o task attempt due)
    (o.policy.deeds attempt (handler o.attempts.length) ++ rest.1, rest.2)
  | .idle | .stopped => ([], o)
termination_by o.remaining
decreasing_by exact remaining_step?_lt (step?_of_trying _trying)

theorem execute_of_trying (trying : o.phase = .trying task attempt due) :
    o.execute handler =
      (o.policy.deeds attempt (handler o.attempts.length) ++
          ((callHandler handler o task attempt due).execute handler).1,
        ((callHandler handler o task attempt due).execute handler).2) := by
  rw [execute]
  split
  · rename_i htrying
    obtain ⟨rfl, rfl, rfl⟩ := Phase.trying.inj (trying.symm.trans htrying)
    rfl
  · rename_i hidle
    rw [trying] at hidle
    cases hidle
  · rename_i hstopped
    rw [trying] at hstopped
    cases hstopped

theorem execute_of_idle (idle : o.phase = .idle) : o.execute handler = ([], o) := by
  rw [execute]
  split
  · rename_i htrying
    rw [idle] at htrying
    cases htrying
  · rfl
  · rfl

/-- A worker that is not interrupted comes to the point at which it is done with its task. -/
theorem work_execute (handler : Nat → Bool) (o : Outbox) :
    work handler none o = work handler none (o.execute handler).2 := by
  fun_induction execute handler o with
  | case1 o task attempt due trying rest ih =>
    rw [← ih, work]
    simp only [Option.all_none, if_true]
    split
    · rename_i o' hstep
      rw [step?_of_trying trying] at hstep
      rw [Option.some.inj hstep]
    · rename_i hstep
      rw [step?_of_trying trying] at hstep
      cases hstep
  | case2 | case3 => rfl

/-- The state after so many steps of the worker, if it has so many before it. -/
def stepped (handler : Nat → Bool) (o : Outbox) : Nat → Option Outbox
  | 0 => some o
  | steps + 1 => (stepped handler o steps).bind (step? handler)

/-- A task that is tried for the first time has been tried so many times, and was to be tried again every time. -/
structure Tried (handler : Nat → Bool) (o : Outbox) (task : Task) (due calls : Nat) (o' : Outbox) : Prop where
  reached : o.stepped handler calls = some o'
  policy : o'.policy = o.policy
  phase : o'.phase = .trying task calls (o.policy.callTime due calls)
  attempts : o'.attempts = o.attempts ++
    (List.range calls).map fun i => ⟨task, handler (o.attempts.length + i), o.policy.callTime due i⟩
  deeds : (o.execute handler).1 = o.policy.failedDeeds calls ++ (o'.execute handler).1
  done : (o.execute handler).2 = (o'.execute handler).2

variable {calls : Nat}

theorem tried_zero (trying : o.phase = .trying task 0 due) : Tried handler o task due 0 o where
  reached := rfl
  policy := rfl
  phase := trying
  attempts := (List.append_nil _).symm
  deeds := rfl
  done := rfl

/-- The handler's next answer is the one to the call that comes next. -/
theorem Tried.next_call (h : Tried handler o task due calls o') : o'.attempts.length = o.attempts.length + calls := by
  rw [h.attempts, List.length_append, List.length_map, List.length_range]

/-- What a further call adds to the attempts. -/
theorem Tried.attempts_succ (h : Tried handler o task due calls o') :
    o'.attempts ++ [⟨task, handler o'.attempts.length, o.policy.callTime due calls⟩] = o.attempts ++
      (List.range (calls + 1)).map fun i => ⟨task, handler (o.attempts.length + i), o.policy.callTime due i⟩ := by
  rw [h.next_call, h.attempts, List.range_succ, List.map_append, List.append_assoc]
  rfl

variable {o'' : Outbox}

/-- The next step of the worker is the call that is due. -/
theorem Tried.next_eq (h : Tried handler o task due calls o') (next : step? handler o' = some o'') :
    o'' = callHandler handler o' task calls (o.policy.callTime due calls) :=
  Option.some.inj (next.symm.trans (step?_of_trying h.phase))

theorem Tried.execute_eq (h : Tried handler o task due calls o') (next : step? handler o' = some o'') :
    o'.execute handler =
      (o.policy.deeds calls (handler (o.attempts.length + calls)) ++ (o''.execute handler).1,
        (o''.execute handler).2) := by
  rw [execute_of_trying h.phase, h.policy, h.next_call, h.next_eq next]

theorem Tried.reached_succ (h : Tried handler o task due calls o') (next : step? handler o' = some o'') :
    o.stepped handler (calls + 1) = some o'' := by
  rw [stepped, h.reached, Option.bind_some, next]

/-- A call that fails while retries are left is followed by its delay and by the next call. -/
theorem Tried.again (h : Tried handler o task due calls o') (next : step? handler o' = some o'')
    (failed : handler (o.attempts.length + calls) = false) (left : calls < o.policy.maxRetries) :
    Tried handler o task due (calls + 1) o'' := by
  have hverdict : o'.policy.verdict calls (handler o'.attempts.length) = .retryAfter (o.policy.delay calls) := by
    rw [h.policy, h.next_call, failed]
    exact RetryPolicy.verdict_of_failed left
  have hdeeds : o.policy.deeds calls (handler (o.attempts.length + calls)) =
      [.call false, .sleep (o.policy.delay calls)] := by
    rw [failed, RetryPolicy.deeds, RetryPolicy.verdict_of_failed left]
  have hcalled := h.next_eq next
  simp only [callHandler, hverdict] at hcalled
  constructor
  case reached => exact h.reached_succ next
  case policy =>
    rw [hcalled]
    exact h.policy
  case phase =>
    rw [hcalled]
    rfl
  case attempts =>
    rw [hcalled]
    exact h.attempts_succ
  case deeds => rw [h.deeds, h.execute_eq next, hdeeds, RetryPolicy.failedDeeds_succ, List.append_assoc]
  case done => rw [h.done, h.execute_eq next]

/-- The last call: it is followed by nothing, and the worker is done with the task. -/
theorem Tried.ends (h : Tried handler o task due calls o') (next : step? handler o' = some o'')
    (ends : handler (o.attempts.length + calls) = true ∨ calls = o.policy.maxRetries) :
    o.execute handler = (o.policy.failedDeeds calls ++ [.call (handler (o.attempts.length + calls))], o'') ∧
      o''.phase = .idle ∧
      o''.attempts = o.attempts ++
        (List.range (calls + 1)).map fun i => ⟨task, handler (o.attempts.length + i), o.policy.callTime due i⟩ := by
  have hverdict := RetryPolicy.verdict_of_ends ends
  have hdeeds : o.policy.deeds calls (handler (o.attempts.length + calls)) =
      [.call (handler (o.attempts.length + calls))] := by
    rcases hverdict with hverdict | hverdict <;> rw [RetryPolicy.deeds, hverdict]
  have hcalled : o'' = { o' with
      now := o.policy.callTime due calls
      attempts := o'.attempts ++ [⟨task, handler o'.attempts.length, o.policy.callTime due calls⟩]
      phase := .idle } := by
    rw [← h.next_call, ← h.policy] at hverdict
    rw [h.next_eq next]
    rcases hverdict with hverdict | hverdict <;> simp only [callHandler, hverdict]
  have hidle : o''.phase = .idle := by rw [hcalled]
  refine ⟨?_, hidle, ?_⟩
  · rw [← Prod.eta (o.execute handler), h.deeds, h.done, h.execute_eq next, execute_of_idle hidle, hdeeds,
      List.append_nil]
  · rw [hcalled]
    exact h.attempts_succ

variable {failures : Option Nat}

/-- While retries are left, the task is tried once more after every call that fails. -/
theorem tried_of_le (trying : o.phase = .trying task 0 due)
    (fails : FailsFirst (fun i => handler (o.attempts.length + i)) failures)
    (hcalls : calls ≤ o.policy.retries failures) : ∃ o', Tried handler o task due calls o' := by
  induction calls with
  | zero => exact ⟨o, tried_zero trying⟩
  | succ calls ih =>
    obtain ⟨o', htried⟩ := ih (Nat.le_of_lt hcalls)
    have hfailed := RetryPolicy.failed_of_lt_retries fails hcalls
    have hleft : calls < o.policy.maxRetries := Nat.lt_of_lt_of_le hcalls (RetryPolicy.retries_le _ _)
    exact ⟨_, htried.again (step?_of_trying htried.phase) hfailed hleft⟩

/-- The worker calls the handler once, and once more for each retry: as many times as calls fail, up to the limit. Each
failed call but the last is followed by one delay, the last call by nothing. The delays are those that the timer is
asked for; after one beyond `longestSleep` the next call comes earlier than that, and nothing else changes. The counter
of the attempts stays a word of 32 bits, and so does the factor of the delay. -/
theorem retries_bounded (trying : o.phase = .trying task 0 due) (bounded : o.policy.maxRetries < 4294967295)
    (fails : FailsFirst (fun i => handler (o.attempts.length + i)) failures) :
    (o.execute handler).1 = o.policy.failedDeeds (o.policy.retries failures) ++
        [.call (handler (o.attempts.length + o.policy.retries failures))] ∧
      (handler (o.attempts.length + o.policy.retries failures) = true ↔ ∃ f ∈ failures, f ≤ o.policy.maxRetries) ∧
      o.stepped handler (o.policy.retries failures + 1) = some (o.execute handler).2 ∧
      (o.execute handler).2.phase = .idle ∧
      (o.execute handler).2.attempts = o.attempts ++ (List.range (o.policy.retries failures + 1)).map (fun i =>
        ⟨task, handler (o.attempts.length + i), o.policy.callTime due i⟩) ∧
      work handler none o = work handler none (o.execute handler).2 ∧
      (∀ i, o.policy.delay i = min (o.policy.backoffMillis * min (Nat.pow 2 i) 4294967295 * 1000000)
          RetryPolicy.longestDelay ∧
        o.policy.delay i ≤ o.policy.delay (i + 1)) ∧
      ∀ i ≤ o.policy.retries failures, ∃ o', o.stepped handler i = some o' ∧
        o'.phase = .trying task i (o.policy.callTime due i) ∧ i + 1 < 4294967296 := by
  obtain ⟨last, htried⟩ := tried_of_le trying fails (Nat.le_refl _)
  have hnext : step? handler last = some _ := step?_of_trying htried.phase
  obtain ⟨hexecute, hphase, hattempts⟩ := htried.ends hnext (RetryPolicy.ends_at_retries fails)
  rw [work_execute handler o, hexecute]
  refine ⟨rfl, RetryPolicy.outcome_retries_iff fails, htried.reached_succ hnext, hphase, hattempts, rfl, ?_, ?_⟩
  · exact fun i => ⟨RetryPolicy.delay_eq _ i, RetryPolicy.delay_le_succ _ i⟩
  · intro i hi
    obtain ⟨o', htried⟩ := tried_of_le trying fails hi
    have hretries := RetryPolicy.retries_le o.policy failures
    exact ⟨o', htried.reached, htried.phase, by omega⟩

/-- The third call succeeds: there are two delays, although three retries were allowed. -/
theorem succeeds_at_third_call :
    let task := Task.backupSnapshot (.take (.zero ⟨some "cust_1", none⟩) "snp_1" .renew ⟨0, 0, by decide, by decide⟩)
    let handler := fun n : Nat => n == 2
    let o : Outbox := { start 1 ⟨3, 500⟩ with phase := .trying task 0 0 }
    o.phase = .trying task 0 0 ∧ o.policy.maxRetries < 4294967295 ∧
      FailsFirst (fun i => handler (o.attempts.length + i)) (some 2) ∧
      (o.execute handler).1 =
        [.call false, .sleep 500000000, .call false, .sleep 1000000000, .call true] := by
  intro task handler o
  have hfails : FailsFirst (fun i => handler (o.attempts.length + i)) (some 2) := by
    constructor
    · intro i hi
      match i, hi with
      | 0, _ | 1, _ => rfl
    · rfl
  have hbounded : o.policy.maxRetries < 4294967295 := by decide
  have hdeeds := (retries_bounded (show o.phase = .trying task 0 0 from rfl) hbounded hfails).1
  exact ⟨rfl, hbounded, hfails, hdeeds.trans (by cbv)⟩

end Outbox

end Subscriptions
