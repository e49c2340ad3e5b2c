import Subscriptions.Store.Step

/-!
Stores, as far as transactions need to know them: a state `σ` of the store itself and a state `τ` of one
transaction. Work is run inside a transaction that ends in exactly one of a commit and a rollback.
-/

namespace Subscriptions

set_option autoImplicit false

/-- A store. Both ways of ending a transaction use it up. -/
structure Backend (σ τ : Type) where
  begin : σ → Except Failure τ × σ
  perform : (s : Step) → τ → σ → Except Failure s.Answer × τ × σ
  commit : τ → σ → Except Failure Unit × σ
  rollback : τ → σ → Except Failure Unit × σ

namespace Backend

variable {σ τ ε α : Type}

/-- Runs work in an open transaction. A step that fails ends it. -/
def run (b : Backend σ τ) (wrap : Failure → ε) : Work ε α → τ → σ → Except ε α × τ × σ
  | .done a, t, s => (.ok a, t, s)
  | .refuse e, t, s => (.error e, t, s)
  | .step c next, t, s =>
    match b.perform c t s with
    | (.ok x, t, s) => b.run wrap (next x) t s
    | (.error f, t, s) => (.error (wrap f), t, s)

/-- Runs work in a transaction of its own: committed if the work is done, rolled back if it is given up.
What a rollback reports does not matter, because the work has failed for another reason. -/
def transact (b : Backend σ τ) (wrap : Failure → ε) (work : Work ε α) (s : σ) : Except ε α × σ :=
  match b.begin s with
  | (.error f, s) => (.error (wrap f), s)
  | (.ok t, s) =>
    match b.run wrap work t s with
    | (.error e, t, s) => (.error e, (b.rollback t s).2)
    | (.ok a, t, s) =>
      match b.commit t s with
      | (.error f, s) => (.error (wrap f), s)
      | (.ok (), s) => (.ok a, s)

end Backend

end Subscriptions
