import Subscriptions.Policy

/-!
Failures of the service as a whole: something is missing, the input is wrong, the store or the settings
are at fault, or an order was refused. Each has one message, and only some are worth another try.
-/

namespace Subscriptions

set_option autoImplicit false

inductive Failure
  | notFound (what : String)
  | invalidInput (reason : String)
  | database (reason : String)
  | settings (reason : String)
  | internal (reason : String)
  | refused (refusal : Refusal)
  | unclassified (reason : String)
deriving DecidableEq

namespace Failure

def message : Failure → String
  | .notFound what => "Not found: " ++ what
  | .invalidInput reason => "Invalid input: " ++ reason
  | .database reason => "Database error: " ++ reason
  | .settings reason => "Configuration error: " ++ reason
  | .internal reason => "Internal error: " ++ reason
  | .refused refusal => refusal.message
  | .unclassified reason => reason

def isRetryable : Failure → Bool
  | .database _ | .internal _ | .unclassified _ => true
  | .notFound _ | .invalidInput _ | .settings _ | .refused _ => false

/-- A name outside its vocabulary is wrong input. -/
def ofUnknownName (e : UnknownName) : Failure := .invalidInput e.message

end Failure

/-- Why a text did not become a value: it does not say one, or it could not be got hold of. -/
inductive ReadError
  | malformed
  | unreadable (reason : String)
deriving DecidableEq

def ReadError.failure : ReadError → Failure
  | .malformed => .invalidInput "JSON error"
  | .unreadable reason => .internal ("JSON serialization error: " ++ reason)

end Subscriptions
