import DurableWorkflow.Json.Decode

/-!
# Identities

Names under which tasks, workflows and runs are known.

## Main Definitions

* `TaskType`, `WorkflowType`: a registered name and its version.
* `Execution`: one run of a workflow.
* `WorkflowInfo`: the run that is being decided on.
-/

namespace DurableWorkflow

/-- A name and a version, as they are written. -/
def versionedJson (name version : String) : Json :=
  .object [("name", .string name), ("version", .string version)]

/-- The names of the written fields. -/
def versionedFields : List String := ["name", "version"]

/-- A registered type of tasks. -/
structure TaskType where
  name : String
  version : String
  deriving DecidableEq, Repr, Inhabited

namespace TaskType

/-- Name and version, with a colon between them. -/
def text (t : TaskType) : String := t.name ++ ":" ++ t.version

/-- The two parts as fields. -/
def toJson (t : TaskType) : Json := versionedJson t.name t.version

/-- A task type as it is written. -/
def reader : Json.Reader TaskType := fun s v => do
  let r ← Json.Record.of? versionedFields s v
  let name ← r.required "name" Json.Reader.string
  let version ← r.required "version" Json.Reader.string
  pure ⟨name, version⟩

end TaskType

/-- A registered type of workflows. -/
structure WorkflowType where
  name : String
  version : String
  deriving DecidableEq, Repr, Inhabited

namespace WorkflowType

/-- Name and version, with a colon between them. -/
def text (t : WorkflowType) : String := t.name ++ ":" ++ t.version

/-- The two parts as fields. -/
def toJson (t : WorkflowType) : Json := versionedJson t.name t.version

/-- A workflow type as it is written. -/
def reader : Json.Reader WorkflowType := fun s v => do
  let r ← Json.Record.of? versionedFields s v
  let name ← r.required "name" Json.Reader.string
  let version ← r.required "version" Json.Reader.string
  pure ⟨name, version⟩

end WorkflowType

/-- One run of a workflow. -/
structure Execution where
  workflowId : String
  runId : String
  deriving DecidableEq, Repr, Inhabited

namespace Execution

/-- Workflow and run, with a slash between them. -/
def text (e : Execution) : String := e.workflowId ++ "/" ++ e.runId

/-- The two parts as fields. -/
def toJson (e : Execution) : Json :=
  .object [("workflow_id", .string e.workflowId), ("run_id", .string e.runId)]

/-- The names of the written fields. -/
def fieldNames : List String := ["workflow_id", "run_id"]

/-- A run as it is written. -/
def reader : Json.Reader Execution := fun s v => do
  let r ← Json.Record.of? fieldNames s v
  let workflowId ← r.required "workflow_id" Json.Reader.string
  let runId ← r.required "run_id" Json.Reader.string
  pure ⟨workflowId, runId⟩

end Execution

/-- The run that is being decided on. -/
structure WorkflowInfo where
  domain : String
  execution : Execution
  workflowType : WorkflowType
  /-- The event that started the decision task. -/
  decisionStartedEventId : Int
  deriving DecidableEq, Repr, Inhabited

end DurableWorkflow
