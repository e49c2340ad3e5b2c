import Subscriptions.Proofs.Store.Moves
import Subscriptions.Samples

/-!
Transactions side by side come to the same as transactions one after another. The lock admits one at a time, so
the copy that a party works on is always what its own steps make of the tables as they were last committed.
-/

namespace Subscriptions

set_option autoImplicit false

/-- The steps of a party that were carried out, with their answers. -/
def callsOf (party : Nat) (h : List (Event × Outcome)) : List Call :=
  h.filterMap fun
    | (.move p _, .answered call) => if p = party then some call else none
    | _ => none

/-- The parties whose transactions were committed, the first to commit first. -/
def commitOrder (h : List (Event × Outcome)) : List Nat :=
  h.filterMap fun
    | (.move p _, .committed) => some p
    | _ => none

/-- What the committed transactions were answered, in the order of their commits. -/
def sessions (h : List (Event × Outcome)) : List (List Call) := (commitOrder h).map fun p => callsOf p h

section Histories

variable {h : List (Event × Outcome)} {p q : Nat} {e : Event} {o : Outcome} {call : Call} {m : Move}

theorem callsOf_append (h h' : List (Event × Outcome)) : callsOf p (h ++ h') = callsOf p h ++ callsOf p h' :=
  List.filterMap_append

theorem commitOrder_append (h h' : List (Event × Outcome)) :
    commitOrder (h ++ h') = commitOrder h ++ commitOrder h' :=
  List.filterMap_append

theorem callsOf_concat_of_quiet (quiet : o.isQuiet = true) : callsOf p (h ++ [(e, o)]) = callsOf p h := by
  have hnil : callsOf p [(e, o)] = [] := by
    cases e <;> cases o <;> first | rfl | cases quiet
  rw [callsOf_append, hnil, List.append_nil]

theorem commitOrder_concat_of_quiet (quiet : o.isQuiet = true) :
    commitOrder (h ++ [(e, o)]) = commitOrder h := by
  have hnil : commitOrder [(e, o)] = [] := by
    cases e <;> cases o <;> first | rfl | cases quiet
  rw [commitOrder_append, hnil, List.append_nil]

theorem sessions_concat_of_quiet (quiet : o.isQuiet = true) : sessions (h ++ [(e, o)]) = sessions h := by
  simp only [sessions, commitOrder_concat_of_quiet quiet, callsOf_concat_of_quiet quiet]

theorem callsOf_concat_self :
    callsOf p (h ++ [(.move p m, .answered call)]) = callsOf p h ++ [call] := by
  simp [callsOf]

theorem callsOf_concat_of_ne (hq : q ≠ p) :
    callsOf q (h ++ [(.move p m, .answered call)]) = callsOf q h := by
  simp [callsOf, hq.symm]

theorem callsOf_concat_committed : callsOf q (h ++ [(.move p m, .committed)]) = callsOf q h := by
  simp [callsOf]

theorem commitOrder_concat_answered :
    commitOrder (h ++ [(.move p m, .answered call)]) = commitOrder h := by
  simp [commitOrder]

theorem commitOrder_concat_committed :
    commitOrder (h ++ [(.move p m, .committed)]) = commitOrder h ++ [p] := by
  simp [commitOrder]

end Histories

namespace SharedStore

variable {s s' : SharedStore} {start : Tables} {h : List (Event × Outcome)} {e : Event} {o : Outcome}

/-- What a history has to do with the store that it has led to. -/
structure Coherent (start : Tables) (h : List (Event × Outcome)) (s : SharedStore) : Prop where
  exclusive : ∀ {p q}, s.IsOpen p → s.IsOpen q → p = q
  locked : s.locked = true ↔ ∃ p, s.IsOpen p
  working : ∀ {p w}, s.stage p = .active w → MemoryStore.Replays s.store.tables (callsOf p h) w
  early : ∀ {p}, (s.stage p).IsEarly → callsOf p h = []
  finished : ∀ {p}, p ∈ commitOrder h → s.stage p = .ended
  once : (commitOrder h).Nodup
  serial : MemoryStore.Serially start (sessions h) s.store.tables

theorem coherent_opened (store : MemoryStore) : Coherent store.tables [] (opened store) where
  exclusive := by rintro p q ⟨w, hw⟩; cases hw
  locked := ⟨fun h => (by cases h), by rintro ⟨p, w, hw⟩; cases hw⟩
  working hw := by cases hw
  early _ := rfl
  finished hp := by cases hp
  once := List.nodup_nil
  serial := MemoryStore.serially_nil _

namespace Coherent

variable {p q : Nat} {m : Move} {w : Tables} {store : MemoryStore}

theorem ne_of_mem_commitOrder (hc : Coherent start h s) (hp : s.stage p ≠ .ended) (hq : q ∈ commitOrder h) :
    q ≠ p := by
  rintro rfl
  exact hp (hc.finished hq)

theorem aside (hc : Coherent start h s) (ha : s.Aside o s') : Coherent start (h ++ [(e, o)]) s' := by
  have hopen (p : Nat) : s'.IsOpen p ↔ s.IsOpen p := exists_congr fun w => ha.active p w
  constructor
  · intro p q hp hq
    exact hc.exclusive ((hopen p).mp hp) ((hopen q).mp hq)
  · rw [ha.locked, hc.locked]
    exact (exists_congr hopen).symm
  · intro p w hw
    rw [callsOf_concat_of_quiet ha.quiet, ha.tables]
    exact hc.working ((ha.active p w).mp hw)
  · intro p hp
    rw [callsOf_concat_of_quiet ha.quiet]
    exact hc.early (ha.early p hp)
  · intro p hp
    rw [commitOrder_concat_of_quiet ha.quiet] at hp
    exact ha.ended p (hc.finished hp)
  · rw [commitOrder_concat_of_quiet ha.quiet]
    exact hc.once
  · rw [sessions_concat_of_quiet ha.quiet, ha.tables]
    exact hc.serial

theorem entered (hc : Coherent start h s) (waiting : s.stage p = .waiting) (free : s.locked = false) :
    Coherent start (h ++ [(.move p m, .entered)]) (s.enter p) := by
  have quiet : Outcome.entered.isQuiet = true := rfl
  -- The lock was free, so nobody was in.
  have hnone (q : Nat) : ¬s.IsOpen q := by
    intro hq
    have hl := hc.locked.mpr ⟨q, hq⟩
    rw [free] at hl
    cases hl
  have honly {q : Nat} (hq : (s.enter p).IsOpen q) : q = p := by
    by_cases hqp : q = p
    · exact hqp
    · obtain ⟨w, hw⟩ := hq
      rw [stage_enter_of_ne hqp] at hw
      exact absurd ⟨w, hw⟩ (hnone q)
  constructor
  · intro q r hq hr
    rw [honly hq, honly hr]
  · exact ⟨fun _ => ⟨p, _, stage_enter_self⟩, fun _ => rfl⟩
  · intro q w hw
    obtain rfl := honly ⟨w, hw⟩
    obtain rfl := Stage.active.inj (stage_enter_self.symm.trans hw)
    rw [callsOf_concat_of_quiet quiet, hc.early (.inr waiting)]
    exact MemoryStore.replays_nil _
  · intro q hq
    have hqp : q ≠ p := by
      rintro rfl
      rw [stage_enter_self] at hq
      exact Stage.not_isEarly_active _ hq
    rw [stage_enter_of_ne hqp] at hq
    rw [callsOf_concat_of_quiet quiet]
    exact hc.early hq
  · intro q hq
    rw [commitOrder_concat_of_quiet quiet] at hq
    rw [stage_enter_of_ne (hc.ne_of_mem_commitOrder (by simp [waiting]) hq)]
    exact hc.finished hq
  · rw [commitOrder_concat_of_quiet quiet]
    exact hc.once
  · rw [sessions_concat_of_quiet quiet]
    exact hc.serial

theorem performed (hc : Coherent start h s) (step : Step) (active : s.stage p = .active w)
    (tables : store.tables = s.store.tables) :
    Coherent start (h ++ [(.move p m, .answered ⟨step, (w.perform step).1⟩)])
      ((s.withStore store).put p (.active (w.perform step).2)) := by
  generalize hs' : (s.withStore store).put p (.active (w.perform step).2) = s'
  have hself : s'.stage p = .active (w.perform step).2 := by
    rw [← hs']
    exact stage_put_self
  have hother {q : Nat} (hq : q ≠ p) : s'.stage q = s.stage q := by
    rw [← hs']
    exact stage_put_of_ne hq
  have htables : s'.store.tables = s.store.tables := by
    rw [← hs']
    exact tables
  have hlocked : s'.locked = s.locked := by
    rw [← hs']
    rfl
  have hopen (q : Nat) : s'.IsOpen q ↔ s.IsOpen q := by
    by_cases hq : q = p
    · subst hq
      exact ⟨fun _ => ⟨_, active⟩, fun _ => ⟨_, hself⟩⟩
    · simp only [IsOpen, hother hq]
  have hne {q : Nat} (hq : q ∈ commitOrder h) : q ≠ p := hc.ne_of_mem_commitOrder (by simp [active]) hq
  constructor
  · intro q r hq hr
    exact hc.exclusive ((hopen q).mp hq) ((hopen r).mp hr)
  · rw [hlocked, hc.locked]
    exact (exists_congr hopen).symm
  · intro q v hv
    obtain rfl : q = p := hc.exclusive ((hopen q).mp ⟨v, hv⟩) ⟨w, active⟩
    obtain rfl := Stage.active.inj (hself.symm.trans hv)
    rw [htables, callsOf_concat_self]
    exact (hc.working active).concat step
  · intro q hq
    have hqp : q ≠ p := by
      rintro rfl
      rw [hself] at hq
      exact Stage.not_isEarly_active _ hq
    rw [hother hqp] at hq
    rw [callsOf_concat_of_ne hqp]
    exact hc.early hq
  · intro q hq
    rw [commitOrder_concat_answered] at hq
    rw [hother (hne hq)]
    exact hc.finished hq
  · rw [commitOrder_concat_answered]
    exact hc.once
  · rw [sessions, commitOrder_concat_answered,
      List.map_congr_left fun q hq => callsOf_concat_of_ne (hne hq), htables]
    exact hc.serial

/-- Once the open transaction is over, none is open. -/
theorem not_isOpen_leave (hc : Coherent start h s) (active : s.stage p = .active w) (store : MemoryStore)
    (q : Nat) : ¬((s.withStore store).leave p).IsOpen q := by
  rintro ⟨v, hv⟩
  by_cases hq : q = p
  · subst hq
    rw [stage_leave_self] at hv
    cases hv
  · rw [stage_leave_of_ne hq] at hv
    exact hq (hc.exclusive ⟨v, hv⟩ ⟨w, active⟩)

/-- The end of the open transaction, whether or not it was committed. -/
theorem left (hc : Coherent start h s) (active : s.stage p = .active w)
    (calls : ∀ q, callsOf q (h ++ [(.move p m, o)]) = callsOf q h)
    (order : ∀ q ∈ commitOrder (h ++ [(.move p m, o)]), q ∈ commitOrder h ∨ q = p)
    (once : (commitOrder (h ++ [(.move p m, o)])).Nodup)
    (serial : MemoryStore.Serially start (sessions (h ++ [(.move p m, o)])) store.tables) :
    Coherent start (h ++ [(.move p m, o)]) ((s.withStore store).leave p) := by
  have hnone := hc.not_isOpen_leave active store
  constructor
  · intro q r hq _
    exact absurd hq (hnone q)
  · exact ⟨fun h => (by cases h), fun ⟨q, hq⟩ => absurd hq (hnone q)⟩
  · intro q v hv
    exact absurd ⟨v, hv⟩ (hnone q)
  · intro q hq
    have hqp : q ≠ p := by
      rintro rfl
      rw [stage_leave_self] at hq
      exact Stage.not_isEarly_ended hq
    rw [stage_leave_of_ne hqp] at hq
    rw [calls]
    exact hc.early hq
  · intro q hq
    by_cases hqp : q = p
    · rw [hqp, stage_leave_self]
    · rw [stage_leave_of_ne hqp]
      exact hc.finished ((order q hq).resolve_right hqp)
  · exact once
  · exact serial

theorem committed (hc : Coherent start h s) (active : s.stage p = .active w) (tables : store.tables = w) :
    Coherent start (h ++ [(.move p m, .committed)]) ((s.withStore store).leave p) := by
  refine hc.left active (fun _ => callsOf_concat_committed) ?_ ?_ ?_
  · intro q hq
    rw [commitOrder_concat_committed] at hq
    simpa using hq
  · rw [commitOrder_concat_committed, List.nodup_append]
    refine ⟨hc.once, by simp, ?_⟩
    intro q hq r hr
    rw [List.mem_singleton.mp hr]
    exact hc.ne_of_mem_commitOrder (by simp [active]) hq
  · rw [sessions, commitOrder_concat_committed, tables]
    simp only [callsOf_concat_committed, List.map_append, List.map_cons, List.map_nil]
    exact hc.serial.concat (hc.working active)

theorem abandoned (hc : Coherent start h s) (active : s.stage p = .active w)
    (tables : store.tables = s.store.tables) (quiet : o.isQuiet = true) :
    Coherent start (h ++ [(.move p m, o)]) ((s.withStore store).leave p) := by
  refine hc.left active (fun _ => callsOf_concat_of_quiet quiet) ?_ ?_ ?_
  · intro q hq
    rw [commitOrder_concat_of_quiet quiet] at hq
    exact .inl hq
  · rw [commitOrder_concat_of_quiet quiet]
    exact hc.once
  · rw [sessions_concat_of_quiet quiet, tables]
    exact hc.serial

theorem act (hc : Coherent start h s) (e : Event) :
    Coherent start (h ++ [(e, (s.act e).1)]) (s.act e).2 := by
  generalize ho : (s.act e).1 = o
  generalize hs' : (s.act e).2 = s'
  have ht : s.Took e o s' := by
    rw [← ho, ← hs']
    exact took_act s e
  cases ht with
  | aside h => exact hc.aside h
  | entered waiting free => exact hc.entered waiting free
  | performed step active tables => exact hc.performed step active tables
  | committed active tables => exact hc.committed active tables
  | abandoned active tables quiet => exact hc.abandoned active tables quiet

theorem after (hc : Coherent start h s) (events : List Event) :
    Coherent start (h ++ s.history events) (s.after events) := by
  induction events generalizing h s with
  | nil =>
    rw [history, List.append_nil]
    exact hc
  | cons e events ih =>
    rw [history, List.append_cons]
    exact ih (hc.act e)

end Coherent

/-- Three parties that each save an order: the first is committed, the commit of the second fails, and the
third, which had asked for its transaction before either was over, is at work. -/
def threeParties : List Event :=
  let save (party : Nat) (id : String) : Event :=
    .move party (.perform (.saveOrder
      (Samples.paidOrder (Samples.reader "reader-1") id 25800 ⟨19875, by decide⟩ ⟨20241, by decide⟩)))
  [.move 0 .begin, .move 0 .enter, .move 1 .begin, .move 1 .enter, save 0 "A", .move 2 .begin,
    .move 2 .enter, .move 0 .commit, .move 1 .enter, save 1 "B", .failNext .commit 1, .move 1 .commit,
    .move 2 .enter, .move 2 (.perform (.retrieveOrder "A")), save 2 "C"]

end SharedStore

end Subscriptions
