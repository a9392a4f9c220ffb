import DurableWorkflow.Event.Codec
import DurableWorkflow.Event.Facet
import DurableWorkflow.Service.Interface

/-!
# Scenarios

Scenarios describe histories, services, handlers and executors as data, for trying workers out.
What a scenario leaves open is as in one standard run.

## Main Definitions

* `Scenario.text`: a text that may be absent or given as a repetition.
* `Scenario.event`, `Scenario.page`, `Scenario.assignment`: what a service hands out.
-/

namespace DurableWorkflow.Scenario

open Json.Reader (string int64 nat64)

/-- The run of a scenario that names none. -/
def standardRun : Execution := ⟨"wf-1", "run-1"⟩

/-- The workflow type of a scenario that names none. -/
def standardType : WorkflowType := ⟨"order", "1"⟩

/-- A flag, not set unless it is written. -/
def flag : Json.Reader Bool
  | _, .bool b => some b
  | _, .null => some false
  | _, _ => none

/-- A text, which may be absent, or given as a part and how often it is repeated. -/
def text : Json.Reader (Option String)
  | _, .null => some none
  | _, .string value => some (some value)
  | s, v => do
    let r ← Json.Record.of? ["repeat", "times"] s v
    let part ← r.required "repeat" string
    let times ← r.required "times" nat64
    pure (some (String.join (List.replicate times part)))

/-- A list that may be missing. -/
def listField {α : Type} (r : Json.Record) (name : String) (reader : Json.Reader α) :
    Option (List α) :=
  (r.omissible name (Json.Reader.list reader)).map (·.getD [])

/-- A value with a default where it is absent. -/
def valueOr {α : Type} (r : Json.Record) (name : String) (reader : Json.Reader α) (default : α) :
    Option α :=
  (r.omissible name reader).map (·.getD default)

/-- A text that may be missing. -/
def textField (r : Json.Record) (name : String) : Option (Option String) :=
  r.defaulted name text none

/-- Why the service refuses a call. -/
def remoteError : Json.Reader RemoteError := fun s v => do
  let r ← Json.Record.of? ["kind", "message"] s v
  let kind ← r.required "kind" string
  let message ← r.required "message" string
  RemoteError.ofName? kind message

/-- The name of an event. -/
def eventName : Json.Reader EventName := fun s v => do
  let r ← Json.Record.of? ["kind", "name", "version"] s v
  let kind ← r.required "kind" string
  let name := r.required "name" string
  let version := r.required "version" string
  match kind with
  | "task" => do pure (.task ⟨← name, ← version⟩)
  | "workflow" => do pure (.workflow ⟨← name, ← version⟩)
  | "signal" => name.map .signal
  | "timer" => name.map .timer
  | "marker" => name.map .marker
  | "decision_task" => some .decisionTask
  | _ => none

/-- An event; it happens at the start of 1970 if no time is given. -/
def event : Json.Reader Event := fun s v =>
  match v with
  | .object fields =>
    if Json.hasField "timestamp" fields then Event.reader s v
    else Event.reader s (.object (("timestamp", Timestamp.epoch.toJson) :: fields))
  | v => Event.reader s v

/-- The names of the fields that describe a run. -/
def runFields : List String := ["workflow_id", "run_id", "workflow_type"]

/-- A run. -/
def run (r : Json.Record) : Option Execution := do
  pure ⟨← valueOr r "workflow_id" string standardRun.workflowId,
    ← valueOr r "run_id" string standardRun.runId⟩

/-- The type of a run. -/
def runType (r : Json.Record) : Option WorkflowType :=
  valueOr r "workflow_type" WorkflowType.reader standardType

/-- The run that is decided on. -/
def workflowInfo : Json.Reader WorkflowInfo
  | _, .null => some ⟨"test", standardRun, standardType, 0⟩
  | s, v => do
    let r ← Json.Record.of? ("domain" :: "decision_started_event_id" :: runFields) s v
    let domain ← valueOr r "domain" string "test"
    let started ← valueOr r "decision_started_event_id" int64 0
    pure ⟨domain, ← run r, ← runType r, started⟩

/-- A page of a decision task. -/
def page : Json.Reader HistoryPage := fun s v => do
  let r ← Json.Record.of?
    (runFields ++ ["task_token", "previous", "started_event_id", "events", "next_page_token"]) s v
  let execution ← run r
  let workflowType ← runType r
  let taskToken ← valueOr r "task_token" string "token"
  let previous ← valueOr r "previous" int64 0
  let started ← valueOr r "started_event_id" int64 0
  let events ← listField r "events" event
  let next ← textField r "next_page_token"
  pure ⟨taskToken, execution, workflowType, previous, started, events, next⟩

/-- An assignment. -/
def assignment : Json.Reader TaskAssignment := fun s v => do
  let r ← Json.Record.of?
    (runFields ++ ["task_token", "task_id", "task_type", "input", "started_event_id"]) s v
  let execution ← run r
  let taskToken ← valueOr r "task_token" string "token"
  let taskId ← valueOr r "task_id" string "task-1"
  let taskType ← r.required "task_type" TaskType.reader
  let input ← textField r "input"
  let started ← valueOr r "started_event_id" int64 1
  pure ⟨taskToken, taskId, taskType, input, execution, started⟩

end DurableWorkflow.Scenario
