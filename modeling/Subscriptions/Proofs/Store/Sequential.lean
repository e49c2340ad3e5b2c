import Subscriptions.Proofs.Store.Transaction

/-!
Transactions one at a time: all the steps of one with its begin and its commit, and whole transactions one
after another. On a store in which nothing is made to fail they say what a log of calls amounts to.
-/

namespace Subscriptions

set_option autoImplicit false

namespace Backend

variable {σ τ : Type}

/-- Carries out all the steps in turn, whatever they are answered. -/
def performAll (b : Backend σ τ) : List Step → τ → σ → List Call × τ × σ
  | [], t, s => ([], t, s)
  | step :: steps, t, s =>
    match b.perform step t s with
    | (answer, t, s) =>
      match b.performAll steps t s with
      | (calls, t, s) => (⟨step, answer⟩ :: calls, t, s)

/-- One transaction from its begin to its commit, with nobody else about. -/
def alone (b : Backend σ τ) (steps : List Step) (s : σ) : Except Failure (List Call) × σ :=
  match b.begin s with
  | (.error f, s) => (.error f, s)
  | (.ok t, s) =>
    match b.performAll steps t s with
    | (calls, t, s) =>
      match b.commit t s with
      | (.error f, s) => (.error f, s)
      | (.ok (), s) => (.ok calls, s)

/-- Whole transactions, each after the one before it. -/
def inTurn (b : Backend σ τ) : List (List Step) → σ → List (Except Failure (List Call)) × σ
  | [], s => ([], s)
  | steps :: rest, s =>
    match b.alone steps s with
    | (result, s) =>
      match b.inTurn rest s with
      | (results, s) => (result :: results, s)

theorem performAll_append (b : Backend σ τ) (xs ys : List Step) (t : τ) (s : σ) :
    b.performAll (xs ++ ys) t s =
      ((b.performAll xs t s).1 ++ (b.performAll ys (b.performAll xs t s).2.1 (b.performAll xs t s).2.2).1,
        (b.performAll ys (b.performAll xs t s).2.1 (b.performAll xs t s).2.2).2) := by
  induction xs generalizing t s with
  | nil => rfl
  | cons step xs ih => simp only [List.cons_append, performAll, ih]

theorem inTurn_append (b : Backend σ τ) (xs ys : List (List Step)) (s : σ) :
    b.inTurn (xs ++ ys) s =
      ((b.inTurn xs s).1 ++ (b.inTurn ys (b.inTurn xs s).2).1, (b.inTurn ys (b.inTurn xs s).2).2) := by
  induction xs generalizing s with
  | nil => rfl
  | cons steps xs ih => simp only [List.cons_append, inTurn, ih]

end Backend

namespace MemoryStore

/-- A store of these tables in which nothing is made to fail. -/
def calm (t : Tables) : MemoryStore := ⟨t, .none⟩

theorem perform_calm (step : Step) (w t : Tables) :
    backend.perform step w (calm t) = ((w.perform step).1, (w.perform step).2, calm t) := by
  have h : (calm t).faults step.operation = 0 := rfl
  simp only [backend, attempt_of_calm h]

/-- On a copy of these tables the calls are answered just so, and this is what they make of it. -/
def Replays (t : Tables) (calls : List Call) (w : Tables) : Prop :=
  backend.performAll (calls.map (·.step)) t (calm t) = (calls, w, calm t)

/-- Transactions run one after another, each on the tables that the one before has left, get these answers
and leave these tables in the end. -/
def Serially (start : Tables) (sessions : List (List Call)) (final : Tables) : Prop :=
  backend.inTurn (sessions.map fun calls => calls.map (·.step)) (calm start) = (sessions.map .ok, calm final)

theorem replays_nil (t : Tables) : Replays t [] t := rfl

theorem Replays.concat {t w : Tables} {calls : List Call} (h : Replays t calls w) (step : Step) :
    Replays t (calls ++ [⟨step, (w.perform step).1⟩]) (w.perform step).2 := by
  rw [Replays, List.map_append, Backend.performAll_append, h]
  simp only [List.map_cons, List.map_nil, Backend.performAll, perform_calm]

theorem serially_nil (t : Tables) : Serially t [] t := rfl

theorem Serially.concat {start t w : Tables} {sessions : List (List Call)} {calls : List Call}
    (h : Serially start sessions t) (hr : Replays t calls w) : Serially start (sessions ++ [calls]) w := by
  have hb : backend.begin (calm t) = (.ok t, calm t) := begin_of_calm rfl
  have hp : backend.performAll (calls.map (·.step)) t (calm t) = (calls, w, calm t) := hr
  have hc : backend.commit w (calm t) = (.ok (), calm w) := commit_of_calm rfl
  have halone : backend.alone (calls.map (·.step)) (calm t) = (.ok calls, calm w) := by
    simp only [Backend.alone, hb, hp, hc]
  rw [Serially, List.map_append, Backend.inTurn_append, h]
  simp only [List.map_cons, List.map_nil, Backend.inTurn, halone, List.map_append]

end MemoryStore

end Subscriptions
