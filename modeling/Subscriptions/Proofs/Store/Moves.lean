import Subscriptions.Proofs.Store.Sequential
import Subscriptions.Store.Shared

/-!
What a move on a shared store comes to. Most moves leave the open transaction and the tables as they are; the
others let a party in, carry out one of its steps, or end its transaction. A party that nobody disturbs does
what a transaction of the store by itself does.
-/

namespace Subscriptions

set_option autoImplicit false

/-- The party has not been let in yet. -/
def Stage.IsEarly (stage : Stage) : Prop := stage = .absent ∨ stage = .waiting

theorem Stage.not_isEarly_active (w : Tables) : ¬(active w).IsEarly := by simp [IsEarly]

theorem Stage.not_isEarly_ended : ¬ended.IsEarly := by simp [IsEarly]

/-- Nothing has been read or written, and nothing committed. -/
def Outcome.isQuiet : Outcome → Bool
  | .answered _ | .committed => false
  | .nothing | .waits | .failed _ | .entered | .closed => true

namespace SharedStore

/-- The transaction of this party is open. -/
def IsOpen (s : SharedStore) (party : Nat) : Prop := ∃ w, s.stage party = .active w

instance (s : SharedStore) (party : Nat) : Decidable (s.IsOpen party) :=
  match h : s.stage party with
  | .active w => isTrue ⟨w, h⟩
  | .absent | .waiting | .ended => isFalse (by simp [IsOpen, h])

variable {s s' : SharedStore} {p q : Nat} {e : Event} {o : Outcome} {m : Move} {w : Tables}
  {store : MemoryStore} {stage : Stage}

@[simp] theorem stage_put_self : (s.put p stage).stage p = stage := if_pos rfl

theorem stage_put_of_ne (h : q ≠ p) : (s.put p stage).stage q = s.stage q := if_neg h

@[simp] theorem stage_enter_self : (s.enter p).stage p = .active s.store.tables := stage_put_self

theorem stage_enter_of_ne (h : q ≠ p) : (s.enter p).stage q = s.stage q := stage_put_of_ne h

@[simp] theorem stage_leave_self : (s.leave p).stage p = .ended := stage_put_self

theorem stage_leave_of_ne (h : q ≠ p) : (s.leave p).stage q = s.stage q := stage_put_of_ne h

theorem tables_attempt (m : MemoryStore) (op : Operation) : (m.attempt op).2.tables = m.tables := by
  unfold MemoryStore.attempt
  split <;> rfl

/-- Neither the tables nor the lock nor any open transaction have to do with what happens. -/
structure Aside (s : SharedStore) (o : Outcome) (s' : SharedStore) : Prop where
  quiet : o.isQuiet = true
  tables : s'.store.tables = s.store.tables
  locked : s'.locked = s.locked
  active : ∀ p w, s'.stage p = .active w ↔ s.stage p = .active w
  early : ∀ p, (s'.stage p).IsEarly → (s.stage p).IsEarly
  ended : ∀ p, s.stage p = .ended → s'.stage p = .ended

theorem Aside.withStore (quiet : o.isQuiet = true) (tables : store.tables = s.store.tables) :
    s.Aside o (s.withStore store) where
  quiet := quiet
  tables := tables
  locked := rfl
  active _ _ := Iff.rfl
  early _ h := h
  ended _ h := h

theorem Aside.put (quiet : o.isQuiet = true) (tables : store.tables = s.store.tables)
    (before : (s.stage p).IsEarly) (inactive : ∀ w, stage ≠ .active w) :
    s.Aside o ((s.withStore store).put p stage) where
  quiet := quiet
  tables := tables
  locked := rfl
  active := by
    intro q w
    by_cases hq : q = p
    · subst hq
      rw [stage_put_self]
      constructor
      · intro h
        exact absurd h (inactive w)
      · intro h
        rw [h] at before
        exact absurd before (Stage.not_isEarly_active w)
    · rw [stage_put_of_ne hq]
      rfl
  early := by
    intro q h
    by_cases hq : q = p
    · rw [hq]
      exact before
    · rwa [stage_put_of_ne hq] at h
  ended := by
    intro q h
    by_cases hq : q = p
    · rw [← hq, h] at before
      exact absurd before Stage.not_isEarly_ended
    · rwa [stage_put_of_ne hq]

/-- What has come of an event. Only the last three of these concern an open transaction. -/
inductive Took (s : SharedStore) : Event → Outcome → SharedStore → Prop
  | aside {e : Event} {o : Outcome} {s' : SharedStore} (h : s.Aside o s') : Took s e o s'
  | entered {p : Nat} {m : Move} (waiting : s.stage p = .waiting) (free : s.locked = false) :
      Took s (.move p m) .entered (s.enter p)
  | performed {p : Nat} {m : Move} {w : Tables} {store : MemoryStore} (step : Step)
      (active : s.stage p = .active w) (tables : store.tables = s.store.tables) :
      Took s (.move p m) (.answered ⟨step, (w.perform step).1⟩)
        ((s.withStore store).put p (.active (w.perform step).2))
  | committed {p : Nat} {m : Move} {w : Tables} {store : MemoryStore} (active : s.stage p = .active w)
      (tables : store.tables = w) : Took s (.move p m) .committed ((s.withStore store).leave p)
  | abandoned {p : Nat} {m : Move} {w : Tables} {o : Outcome} {store : MemoryStore}
      (active : s.stage p = .active w) (tables : store.tables = s.store.tables) (quiet : o.isQuiet = true) :
      Took s (.move p m) o ((s.withStore store).leave p)

theorem took_begin (h : s.stage p = .absent) : s.Took (.move p m) (s.begin p).1 (s.begin p).2 := by
  have ht := tables_attempt s.store .begin
  unfold begin
  split <;> rename_i ha <;> rw [ha] at ht <;>
    exact .aside (.put rfl ht (.inl h) (by simp))

theorem took_perform (h : s.stage p = .active w) (step : Step) :
    s.Took (.move p m) (s.perform p w step).1 (s.perform p w step).2 := by
  have ht := tables_attempt s.store step.operation
  unfold perform
  split <;> rename_i ha <;> rw [ha] at ht
  · exact .aside (.withStore rfl ht)
  · exact .performed step h ht

theorem took_commit (h : s.stage p = .active w) :
    s.Took (.move p m) (s.commit p w).1 (s.commit p w).2 := by
  unfold commit
  by_cases hc : s.store.faults .commit = 0
  · rw [MemoryStore.commit_of_calm hc]
    exact .committed h rfl
  · rw [MemoryStore.commit_of_fault hc]
    exact .abandoned h rfl rfl

theorem took_act (s : SharedStore) (e : Event) : s.Took e (s.act e).1 (s.act e).2 := by
  have same : s.store.tables = s.store.tables := rfl
  have idle {e : Event} : s.Took e .nothing s := .aside (.withStore rfl same)
  cases e with
  | failNext op times => exact .aside (.withStore rfl rfl)
  | move p m =>
    simp only [act]
    cases hs : s.stage p with
    | absent =>
      cases m <;> simp only [move, hs]
      case begin => exact took_begin hs
      all_goals exact idle
    | waiting =>
      cases m <;> simp only [move, hs]
      case enter =>
        split
        · exact .aside (.withStore rfl same)
        · rename_i hl
          exact .entered hs (by simpa using hl)
      case drop => exact .aside (.put rfl same (.inr hs) (by simp))
      all_goals exact idle
    | active w =>
      cases m <;> simp only [move, hs]
      case perform step => exact took_perform hs step
      case commit => exact took_commit hs
      case rollback => exact .abandoned hs rfl rfl
      case drop => exact .abandoned hs same rfl
      all_goals exact idle
    | ended =>
      cases m <;> simp only [move, hs] <;> exact idle

/-- The moves of a party that carries out a whole transaction. -/
def throughout (steps : List Step) : List Move := .begin :: .enter :: (steps.map .perform ++ [.commit])

theorem after_cons (s : SharedStore) (e : Event) (events : List Event) :
    s.after (e :: events) = (s.act e).2.after events :=
  rfl

theorem after_append (s : SharedStore) (xs ys : List Event) : s.after (xs ++ ys) = (s.after xs).after ys :=
  List.foldl_append

theorem after_of_ended (h : s.stage p = .ended) (moves : List Move) :
    s.after (moves.map (.move p)) = s := by
  induction moves with
  | nil => rfl
  | cons m moves ih =>
    have hm : (s.act (.move p m)).2 = s := by
      cases m <;> simp only [act, move, h]
    rw [List.map_cons, after_cons, hm]
    exact ih

theorem after_performs (h : s.stage p = .active w) (steps : List Step) :
    let r := MemoryStore.backend.performAll steps w s.store
    let s' := s.after ((steps.map .perform).map (.move p))
    s'.store = r.2.2 ∧ s'.stage p = .active r.2.1 := by
  induction steps generalizing s w with
  | nil => exact ⟨rfl, h⟩
  | cons step steps ih =>
    have hstep : (s.act (.move p (.perform step))).2.store =
          (MemoryStore.backend.perform step w s.store).2.2 ∧
        (s.act (.move p (.perform step))).2.stage p =
          .active (MemoryStore.backend.perform step w s.store).2.1 := by
      simp only [act, move, h, perform, MemoryStore.backend]
      rcases s.store.attempt step.operation with ⟨_ | _, m⟩
      · exact ⟨rfl, h⟩
      · exact ⟨rfl, stage_put_self⟩
    have hrest := ih hstep.2
    rw [hstep.1] at hrest
    exact hrest

/-- A party that nobody disturbs does to the shared store what a transaction of the store by itself does. -/
theorem store_after_throughout (absent : s.stage p = .absent) (free : s.locked = false)
    (steps : List Step) :
    (s.after ((throughout steps).map (.move p))).store = (MemoryStore.backend.alone steps s.store).2 := by
  rw [throughout, List.map_cons, after_cons, Backend.alone]
  rcases ha : s.store.attempt .begin with ⟨f | _, m⟩
  · have hb : MemoryStore.backend.begin s.store = (.error f, m) := by simp only [MemoryStore.backend, ha]
    have hs : (s.act (.move p .begin)).2 = (s.withStore m).put p .ended := by
      simp only [act, move, absent, begin, ha]
    rw [hb, hs, after_of_ended stage_put_self]
    rfl
  · have hb : MemoryStore.backend.begin s.store = (.ok m.tables, m) := by
      simp only [MemoryStore.backend, ha]
    have hs : (s.act (.move p .begin)).2 = (s.withStore m).put p .waiting := by
      simp only [act, move, absent, begin, ha]
    have he : (((s.withStore m).put p .waiting).act (.move p .enter)).2 =
        ((s.withStore m).put p .waiting).enter p := by
      have hf : ((s.withStore m).put p .waiting).locked = false := free
      simp only [act, move, stage_put_self, hf, Bool.false_eq_true, if_false]
    have hin : (((s.withStore m).put p .waiting).enter p).stage p = .active m.tables := stage_enter_self
    have hm : (((s.withStore m).put p .waiting).enter p).store = m := rfl
    rw [hb, hs, List.map_cons, after_cons, he, List.map_append, after_append]
    obtain ⟨hstore, hstage⟩ := after_performs hin steps
    rw [hm] at hstore hstage
    generalize (((s.withStore m).put p .waiting).enter p).after _ = s' at hstore hstage ⊢
    simp only [List.map_cons, List.map_nil, after_cons, act, move, hstage, commit, hstore]
    rcases MemoryStore.backend.commit _ _ with ⟨_ | _, m'⟩ <;> rfl

end SharedStore

end Subscriptions
