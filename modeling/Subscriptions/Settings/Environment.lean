import Subscriptions.Settings.Basic
import Subscriptions.Text.Decimal

/-!
Settings from environment variables. A variable counts under its name with `SUBS_` in front and, failing
that, under the name itself.
-/

namespace Subscriptions

set_option autoImplicit false

abbrev Environment := List (String × String)

namespace Environment

/-- The name with `SUBS_` wins, whatever its value. -/
def get? (env : Environment) (key : String) : Option String :=
  (env.lookup ("SUBS_" ++ key)).or (env.lookup key)

/-- A flag is set by `true`, in any case, or by `1`. -/
def flag (env : Environment) (key : String) : Bool :=
  match env.get? key with
  | some value => ["true", "1"].contains (Text.lowercase value)
  | none => false

def number? (env : Environment) (key : String) (bound : Nat) : Option Nat :=
  (env.get? key).bind (Decimal.ofText? bound)

end Environment

/-- Settings with those changed that the environment has values for. A number that cannot be read changes
nothing; the flag for JSON is taken as unset by anything but `true`. -/
def Settings.withEnvironment (s : Settings) (env : Environment) : Settings where
  renewalWindowYears := (env.number? "RENEWAL_WINDOW_YEARS" 4294967296).getD s.renewalWindowYears
  extraDays := (env.number? "EXTRA_DAYS" 4294967296).getD s.extraDays
  currency := ((env.get? "CURRENCY").map Text.lowercase).getD s.currency
  logging :=
    { level := (env.get? "LOG_LEVEL").getD s.logging.level
      json := ((env.get? "LOG_JSON").map (· == "true")).getD s.logging.json }
  tasks :=
    { capacity := (env.number? "TASKS_CAPACITY" 18446744073709551616).getD s.tasks.capacity
      maxRetries := (env.number? "TASKS_MAX_RETRIES" 4294967296).getD s.tasks.maxRetries
      retryBackoffMillis :=
        (env.number? "TASKS_RETRY_BACKOFF_MILLIS" 18446744073709551616).getD s.tasks.retryBackoffMillis }

end Subscriptions
