import DurableWorkflow.Decision.Codec
import DurableWorkflow.Service.Interface

/-!
# The written form of calls

Calls are noted down with all that the service is told.

## Main Definitions

* `Call.toJson`: a call.
* `TaskOutcome.fields`: an outcome, the kind of which is named beside it.
-/

namespace DurableWorkflow

open Json (ofText?)

/-- The fields of a poll request. -/
def PollRequest.fields (r : PollRequest) : List (String × Json) :=
  [("domain", .string r.domain), ("task_list", .string r.taskList),
    ("identity", .string r.identity)]

namespace TaskOutcome

/-- The kind of an outcome. -/
def kind : TaskOutcome → String
  | .completed _ => "completed"
  | .failed .. => "failed"
  | .canceled _ => "canceled"

/-- The texts of an outcome. -/
def fields : TaskOutcome → List (String × Option String)
  | .completed result => [("result", result)]
  | .failed reason details => [("reason", reason), ("details", details)]
  | .canceled details => [("details", details)]

/-- The texts of an outcome as fields. -/
def jsonFields (o : TaskOutcome) : List (String × Json) :=
  o.fields.map fun (name, value) => (name, ofText? value)

end TaskOutcome

namespace Call

/-- The name of a call. -/
def name : Call → String
  | .pollDecision .. => "poll_decision"
  | .pollTask _ => "poll_task"
  | .submit .. => "submit"
  | .report _ outcome => "task_" ++ outcome.kind
  | .heartbeat .. => "heartbeat"

/-- What the service is told. -/
def fields : Call → List (String × Json)
  | .pollDecision r page => r.fields ++ [("page", ofText? page)]
  | .pollTask r => r.fields
  | .submit token batch => [("token", .string token), ("batch", DecisionBatch.toJson batch)]
  | .report token outcome => ("token", .string token) :: outcome.jsonFields
  | .heartbeat token details => [("token", .string token), ("details", ofText? details)]

/-- The written form. -/
def toJson (c : Call) : Json := .object (("call", .string c.name) :: c.fields)

end Call

end DurableWorkflow
