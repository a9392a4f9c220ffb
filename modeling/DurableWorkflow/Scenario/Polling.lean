import DurableWorkflow.Polling.Script
import DurableWorkflow.Polling.Settings
import DurableWorkflow.Scenario.Basic

/-!
# Polls and settings as data

The settings of pollers, and scripted sources poll by poll.

## Main Definitions

* `Scenario.pollerSettings`, `Scenario.workerSettings`: settings over given ones.
* `PollerSettings.toJson`, `WorkerSettings.toJson`: how settings are shown.
* `Scenario.pollCue`: one poll of a scripted source.
-/

namespace DurableWorkflow

open Json (ofText? ofOption)

/-- How settings of a poller are shown. -/
def PollerSettings.toJson (s : PollerSettings) : Json :=
  .object [("identity", ofText? s.identity), ("domain", .string s.domain),
    ("task_list", .string s.taskList), ("poll_timeout", ofOption Duration.toJson s.pollTimeout),
    ("concurrency", .int s.concurrency), ("poll_error_backoff", s.errorPause.toJson),
    ("consume_mode", .string (match s.mode with
      | .repeatedly => "repeat"
      | .failFast => "fail_fast")),
    ("shutdown_timeout", s.shutdownTimeout.toJson)]

/-- How settings of a worker are shown. -/
def WorkerSettings.toJson (s : WorkerSettings) : Json :=
  .object [("identity", ofText? s.identity), ("decision_pollers", .int s.decisionPollers),
    ("task_pollers", .int s.taskPollers), ("poller", s.poller.toJson)]

namespace Scenario

open Json.Reader (string nat64)

/-- A duration in milliseconds. -/
def millis : Json.Reader Duration := fun s v => do
  let ms ← nat64 s v
  pure (.ofMillis (UInt64.ofNat ms))

/-- What is done about a poll that gives nothing. -/
def consumeMode : Json.Reader ConsumeMode
  | _, .string "repeat" => some .repeatedly
  | _, .string "fail_fast" => some .failFast
  | _, _ => none

/-- The names of the fields of settings. -/
def settingsFields : List String :=
  ["identity", "domain", "task_list", "poll_timeout_ms", "concurrency", "poll_error_backoff_ms",
    "consume_mode", "shutdown_timeout_ms"]

/-- The settings of a poller.  What is missing is as in `base`; identity and poll timeout may be
switched off. -/
def pollerSettings (base : PollerSettings) : Json.Reader PollerSettings
  | _, .null => some base
  | s, v => do
    let r ← Json.Record.of? settingsFields s v
    let identity ← r.defaulted "identity" (Json.Reader.option string) base.identity
    let domain ← valueOr r "domain" string base.domain
    let taskList ← valueOr r "task_list" string base.taskList
    let pollTimeout ← r.defaulted "poll_timeout_ms" (Json.Reader.option millis) base.pollTimeout
    let concurrency ← valueOr r "concurrency" nat64 base.concurrency
    let errorPause ← valueOr r "poll_error_backoff_ms" millis base.errorPause
    let mode ← valueOr r "consume_mode" consumeMode base.mode
    let shutdownTimeout ← valueOr r "shutdown_timeout_ms" millis base.shutdownTimeout
    pure ⟨identity, domain, taskList, pollTimeout, concurrency, errorPause, mode, shutdownTimeout⟩

/-- The settings of a worker, whose pollers are set over `base`. -/
def workerSettings (base : PollerSettings) : Json.Reader WorkerSettings
  | _, .null => some .standard
  | s, v => do
    let r ← Json.Record.of? ["identity", "decision_pollers", "task_pollers", "poller"] s v
    let identity ← textField r "identity"
    let decisionPollers ← valueOr r "decision_pollers" nat64 1
    let taskPollers ← valueOr r "task_pollers" nat64 1
    let poller ← r.defaulted "poller" (pollerSettings base) base
    pure ⟨identity, decisionPollers, taskPollers, poller⟩

/-- An error of a poll or of a unit: named, refused by the service, or an invalid timeout. -/
def pollError : Json.Reader Error
  | _, .string "empty_history" => some .emptyHistory
  | _, .string "incomplete" => some (.incompleteHistory 3)
  | _, .string value => some (.invalidTimeout value)
  | s, v => (remoteError s v).map .remote

/-- How something goes, from the fields beside it. -/
def effect {α : Type} (r : Json.Record) (value : Option α) : Option (Rehearsal.Effect α) := do
  match ← r.omissible "panic" string, ← r.omissible "error" pollError with
  | some message, _ => pure (.broken message)
  | none, some e => pure (.failed e)
  | none, none => value.map .given

/-- The label of a unit, a text or a number. -/
def label : Json.Reader String
  | _, .string value => some value
  | _, .int n => some (toString n)
  | _, _ => none

/-- A unit of a scripted source. -/
def workItem : Json.Reader WorkItem := fun s v => do
  let r ← Json.Record.of? ["id", "work_ms", "panic", "error"] s v
  pure ⟨← r.required "id" label, ← valueOr r "work_ms" nat64 0, ← effect r (some ⟨⟩)⟩

/-- A poll of a scripted source. -/
def pollCue : Json.Reader PollCue := fun s v => do
  let r ← Json.Record.of? ["after_ms", "unit", "panic", "error"] s v
  pure ⟨← valueOr r "after_ms" nat64 0, ← effect r (r.omissible "unit" workItem)⟩

end Scenario

end DurableWorkflow
