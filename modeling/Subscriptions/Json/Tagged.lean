import Subscriptions.Json.Records
import Subscriptions.Outbox.Task
import Subscriptions.Settings.Basic

/-!
The JSON of tasks, whose kind is told by the field `type` beside their own fields, and of settings, any of
which may be missing.
-/

namespace Subscriptions

set_option autoImplicit false

open Json

/-- The kind of a tagged value and the rest of it. The tag is the field `type`, wherever it stands, or the
first item of a list. -/
def Json.untag? : Json → Option (String × Json)
  | .object fields =>
    if fields.countP (fun f => f.1 == "type") = 1 then do
      let tag ← (← fields.lookup "type").text?
      return (tag, .object (fields.filter fun f => f.1 != "type"))
    else none
  | .list (.text tag :: rest) => some (tag, .list rest)
  | _ => none

instance : Coded Task where
  encode
    | .backupSnapshot snapshot => .object (("type", .text "backup_snapshot") :: snapshot.fields)
    | .notifyConfirmation result =>
      .object [("type", .text "notify_confirmation"), ("result", encode result)]
  /- The whole of a task is taken up before its kind is known, so all of it has to be sound, and no more
  than 127 levels deep. -/
  decodeIn _ j := do
    if !j.isSound || 127 < j.depth then none
    let (tag, body) ← j.untag?
    match tag with
    | "backup_snapshot" => return .backupSnapshot (← decodeIn .withinTask body)
    | "notify_confirmation" => do
      let f ← body.record? ["result"]
      return .notifyConfirmation (← f.required "result" (decodeIn .withinTask))
    | _ => none

instance : Coded LogSettings where
  encode s := .object [("level", .text s.level), ("json", .bool s.json)]
  decodeIn _ j := do
    let f ← j.partialRecord? ["level", "json"]
    return {
      level := ← f.withDefault "level" LogSettings.standard.level text?
      json := ← f.withDefault "json" LogSettings.standard.json bool? }

instance : Coded QueueSettings where
  encode s := .object
    [("capacity", ofNat s.capacity), ("max_retries", ofNat s.maxRetries),
      ("retry_backoff_millis", ofNat s.retryBackoffMillis)]
  decodeIn _ j := do
    let f ← j.partialRecord? ["capacity", "max_retries", "retry_backoff_millis"]
    return {
      capacity := ← f.withDefault "capacity" QueueSettings.standard.capacity (natBelow? 18446744073709551616)
      maxRetries := ← f.withDefault "max_retries" QueueSettings.standard.maxRetries count32?
      retryBackoffMillis :=
        ← f.withDefault "retry_backoff_millis" QueueSettings.standard.retryBackoffMillis
          (natBelow? 18446744073709551616) }

instance : Coded Settings where
  encode s := .object
    [("renewal_window_years", ofNat s.renewalWindowYears), ("extra_days", ofNat s.extraDays),
      ("currency", .text s.currency), ("logging", encode s.logging), ("tasks", encode s.tasks)]
  decodeIn place j := do
    let f ← j.partialRecord? ["renewal_window_years", "extra_days", "currency", "logging", "tasks"]
    return {
      renewalWindowYears :=
        ← f.withDefault "renewal_window_years" Settings.standard.renewalWindowYears count32?
      extraDays := ← f.withDefault "extra_days" Settings.standard.extraDays count32?
      currency := ← f.withDefault "currency" Settings.standard.currency text?
      logging := ← f.withDefault "logging" LogSettings.standard (decodeIn place)
      tasks := ← f.withDefault "tasks" QueueSettings.standard (decodeIn place) }

end Subscriptions
