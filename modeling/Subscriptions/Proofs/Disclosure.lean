import Subscriptions.Http

/-!
What an answer tells about a failure of the service itself. To the request that failed the same is answered whatever is
said of the failure, but for the id under which that is logged. On the way to a confirmation the failure becomes a
rejection, which is answered with its whole message, and so two failures are told apart as soon as their messages
differ.
-/

namespace Subscriptions

set_option autoImplicit false

/-- The answer without one field of its body. -/
def HttpAnswer.without (a : HttpAnswer) (name : String) : HttpAnswer where
  status := a.status
  body :=
    match a.body with
    | .object fields => .object (fields.filter fun field => field.1 != name)
    | other => other

namespace Failure

/-- Two failures of the service itself of one sort, whatever is said of them. -/
inductive Alike : Failure → Failure → Prop
  | database (reason other : String) : Alike (.database reason) (.database other)
  | settings (reason other : String) : Alike (.settings reason) (.settings other)
  | internal (reason other : String) : Alike (.internal reason) (.internal other)
  | unclassified (reason other : String) : Alike (.unclassified reason) (.unclassified other)
  | invalidPlan (planId reason otherId other : String) :
    Alike (.refused (.invalidPlan planId reason)) (.refused (.invalidPlan otherId other))

variable {f g : Failure}

theorem Alike.httpAnswer_eq (h : Alike f g) (errorId : String) : f.httpAnswer errorId = g.httpAnswer errorId := by
  cases h <;> rfl

/-- The id stands in its own field and nowhere else. -/
theorem httpAnswer_without_errorId (f : Failure) (errorId other : String) :
    (f.httpAnswer errorId).without "error_id" = (f.httpAnswer other).without "error_id" := by
  have hid : ("error_id" != "error_id") = false := by decide
  simp only [httpAnswer, HttpAnswer.without, List.filter_append, List.filter_cons, hid, Bool.false_eq_true, if_false]

/-- But for plans, of which two texts are told, all that is told stands at the end of the message. -/
theorem Alike.message_eq_iff (h : Alike f g) (text : ∀ refusal, f ≠ .refused refusal) :
    f.message = g.message ↔ f = g := by
  cases h with
  | database reason other =>
    rw [Failure.database.injEq]
    exact String.append_right_inj "Database error: "
  | settings reason other =>
    rw [Failure.settings.injEq]
    exact String.append_right_inj "Configuration error: "
  | internal reason other =>
    rw [Failure.internal.injEq]
    exact String.append_right_inj "Internal error: "
  | unclassified reason other =>
    rw [Failure.unclassified.injEq]
    exact Iff.rfl
  | invalidPlan planId reason otherId other => exact (text _ rfl).elim

end Failure

namespace Rejection

variable {f g : Failure}

/-- A rejection is answered with all of its message. -/
theorem body_ofFailure (f : Failure) : (ofFailure f).httpAnswer.body =
    .object [("code", .text "storage"), ("message", .text f.message), ("retry", .bool true)] := rfl

theorem httpAnswer_ofFailure_eq_iff : (ofFailure f).httpAnswer = (ofFailure g).httpAnswer ↔ f.message = g.message := by
  constructor
  · intro h
    have hbody : (ofFailure f).httpAnswer.body = (ofFailure g).httpAnswer.body := congrArg HttpAnswer.body h
    rw [body_ofFailure, body_ofFailure] at hbody
    simpa using hbody
  · intro h
    rw [ofFailure, ofFailure, h]

end Rejection

namespace Failure

/-- The answer to the request itself never tells two failures of one sort apart. The answer to a payment does exactly if
their messages differ, and then by the body alone; unless a plan is misconfigured, that is if the failures differ. -/
theorem told_apart_iff {f g : Failure} (h : Alike f g) :
    (∀ errorId, f.httpAnswer errorId = g.httpAnswer errorId) ∧
      (∀ errorId other, (f.httpAnswer errorId).without "error_id" = (g.httpAnswer other).without "error_id") ∧
      (Rejection.ofFailure f).httpAnswer.status = (Rejection.ofFailure g).httpAnswer.status ∧
      ((Rejection.ofFailure f).httpAnswer = (Rejection.ofFailure g).httpAnswer ↔ f.message = g.message) ∧
      ((∀ refusal, f ≠ .refused refusal) → (f.message = g.message ↔ f = g)) := by
  refine ⟨h.httpAnswer_eq, ?_, rfl, Rejection.httpAnswer_ofFailure_eq_iff, h.message_eq_iff⟩
  intro errorId other
  rw [h.httpAnswer_eq errorId]
  exact httpAnswer_without_errorId g errorId other

/-- What is wrong with a plan is kept from the reader who orders it, and one reason is as good as another. -/
theorem plan_fault_kept_back :
    let f : Failure := .refused (.invalidPlan "premium_year" PlanFault.priceNotPositive.message)
    let g : Failure := .refused (.invalidPlan "standard_year" PlanFault.noCycle.message)
    Alike f g ∧ (f.httpAnswer "1").without "error_id" = (g.httpAnswer "2").without "error_id" ∧
      ¬(Rejection.ofFailure f).httpAnswer = (Rejection.ofFailure g).httpAnswer := by
  intro f g
  have halike : Alike f g := .invalidPlan _ _ _ _
  obtain ⟨_, hkept, _, htold, _⟩ := told_apart_iff halike
  exact ⟨halike, hkept "1" "2", fun hsame => absurd (htold.mp hsame) (by decide)⟩

/-- Whoever delivers a payment while the database refuses the service is told why. -/
theorem database_reason_told :
    let f : Failure := .database "password authentication failed for user ledger"
    let g : Failure := .database "connection reset"
    Alike f g ∧ ¬(Rejection.ofFailure f).httpAnswer = (Rejection.ofFailure g).httpAnswer := by
  intro f g
  refine ⟨.database _ _, ?_⟩
  rw [Rejection.httpAnswer_ofFailure_eq_iff]
  decide

end Failure

end Subscriptions
