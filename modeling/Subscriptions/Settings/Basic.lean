import Subscriptions.Failure
import Subscriptions.Outbox.Task
import Subscriptions.Text.Lowercase

/-!
The settings of the service, what they are unless something else is said, and what makes them unusable.
-/

namespace Subscriptions

set_option autoImplicit false

structure LogSettings where
  level : String
  json : Bool
deriving DecidableEq

structure QueueSettings where
  capacity : Nat
  maxRetries : Nat
  retryBackoffMillis : Nat
deriving DecidableEq

structure Settings where
  renewalWindowYears : Nat
  extraDays : Nat
  currency : String
  logging : LogSettings
  tasks : QueueSettings
deriving DecidableEq

def LogSettings.standard : LogSettings := ⟨"info", false⟩

def QueueSettings.standard : QueueSettings := ⟨1024, 3, 500⟩

def QueueSettings.retryPolicy (q : QueueSettings) : RetryPolicy := ⟨q.maxRetries, q.retryBackoffMillis⟩

inductive SettingsError
  | logLevel (level : String)
  | noRenewalWindow
  | noCurrency
  | noCapacity
deriving DecidableEq

namespace Settings

def standard : Settings := ⟨3, 1, "cny", .standard, .standard⟩

def withCurrency (s : Settings) (currency : String) : Settings :=
  { s with currency := Text.lowercase currency }

def withLogLevel (s : Settings) (level : String) : Settings :=
  { s with logging := { s.logging with level := level } }

def withJsonLogging (s : Settings) (json : Bool) : Settings :=
  { s with logging := { s.logging with json := json } }

def policy (s : Settings) : Policy := ⟨s.renewalWindowYears, s.extraDays, s.currency⟩

def logLevels : List String := ["trace", "debug", "info", "warn", "error"]

/-- The first thing wrong with the settings. The case of a log level does not matter. -/
def error? (s : Settings) : Option SettingsError :=
  if !logLevels.contains (Text.lowercase s.logging.level) then some (.logLevel s.logging.level)
  else if s.renewalWindowYears = 0 then some .noRenewalWindow
  else if s.currency = "" then some .noCurrency
  else if s.tasks.capacity = 0 then some .noCapacity
  else none

end Settings

def SettingsError.message : SettingsError → String
  | .logLevel level =>
    let levels := ", ".intercalate Settings.logLevels
    s!"Invalid log level: {level}. Must be one of: {levels}"
  | .noRenewalWindow => "Renewal window must be at least one year"
  | .noCurrency => "Currency must not be empty"
  | .noCapacity => "Task queue capacity must be greater than 0"

def Settings.validate (s : Settings) : Except Failure Settings :=
  match s.error? with
  | some e => .error (.settings e.message)
  | none => .ok s

end Subscriptions
