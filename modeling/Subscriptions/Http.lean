import Subscriptions.Confirmation
import Subscriptions.Json.Basic
import Subscriptions.Vocabulary

/-!
What a client is told over HTTP. A failure of the service itself is answered without its reason; a
rejected payment is acknowledged unless its delivery should be repeated.
-/

namespace Subscriptions

set_option autoImplicit false

structure HttpAnswer where
  status : Nat
  body : Json

namespace Failure

def httpStatus : Failure → Nat
  | .notFound _ => 404
  | .invalidInput _ => 400
  | .refused refusal => if refusal.isClientError then 422 else 500
  | .database _ | .settings _ | .internal _ | .unclassified _ => 500

def publicMessage (f : Failure) : String :=
  match f with
  | .notFound _ | .invalidInput _ => f.message
  | .refused refusal => if refusal.isClientError then f.message else "Internal server error"
  | .database _ => "Database error"
  | .settings _ | .internal _ | .unclassified _ => "Internal server error"

/-- The answer to a request that failed, under an id by which it can be found in the logs. -/
def httpAnswer (f : Failure) (errorId : String) : HttpAnswer where
  status := f.httpStatus
  body := .object ([("error", .text f.publicMessage), ("error_id", .text errorId)] ++
    match f with
    | .refused refusal => [("code", .text refusal.code)]
    | _ => [])

end Failure

/-- Gateways deliver again whatever is not answered with 200. -/
def Rejection.httpAnswer (r : Rejection) : HttpAnswer where
  status := if r.retry then 500 else 200
  body := .object [("code", .text r.kind.name), ("message", .text r.message), ("retry", .bool r.retry)]

end Subscriptions
