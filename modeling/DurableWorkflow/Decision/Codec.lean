import DurableWorkflow.Decision.Basic

/-!
# The written form of decisions

A decision is an object that names its case in the field `decisionType`.  A batch is an array.

## Main Definitions

* `Decision.toJson`, `Decision.reader`
* `DecisionBatch.toJson`, `DecisionBatch.reader`
-/

namespace DurableWorkflow

open Json (ofText?)
open Json.Reader (string)

namespace Decision

/-- The name of the case. -/
def caseName : Decision → String
  | .scheduleTask .. => "ScheduleTask"
  | .startTimer .. => "StartTimer"
  | .cancelTimer .. => "CancelTimer"
  | .recordMarker .. => "RecordMarker"
  | .completeWorkflow .. => "CompleteWorkflow"
  | .failWorkflow .. => "FailWorkflow"
  | .cancelWorkflow .. => "CancelWorkflow"

/-- The fields beside the name of the case. -/
def fields : Decision → List (String × Json)
  | .scheduleTask taskId taskType input control options =>
    [("task_id", .string taskId), ("task_type", taskType.toJson), ("input", ofText? input),
      ("control", ofText? control), ("options", options.toJson)]
  | .startTimer timerId startToFire control =>
    [("timer_id", .string timerId), ("start_to_fire", startToFire.toJson),
      ("control", ofText? control)]
  | .cancelTimer timerId => [("timer_id", .string timerId)]
  | .recordMarker markerName details =>
    [("marker_name", .string markerName), ("details", ofText? details)]
  | .completeWorkflow result => [("result", ofText? result)]
  | .failWorkflow reason details => [("reason", ofText? reason), ("details", ofText? details)]
  | .cancelWorkflow details => [("details", ofText? details)]

/-- The written form. -/
def toJson (d : Decision) : Json := .object (("decisionType", .string d.caseName) :: d.fields)

/-- The fields of a case. -/
def readFields (t : Json.Tagged) : String → Option Decision
  | "ScheduleTask" => do
    let r ← t.record? ["task_id", "task_type", "input", "control", "options"]
    let taskId ← r.required "task_id" string
    let taskType ← r.required "task_type" TaskType.reader
    let input ← r.optional "input" string
    let control ← r.optional "control" string
    let options ← r.defaulted "options" TaskOptions.reader .empty
    pure (.scheduleTask taskId taskType input control options)
  | "StartTimer" => do
    let r ← t.record? ["timer_id", "start_to_fire", "control"]
    let timerId ← r.required "timer_id" string
    let startToFire ← r.required "start_to_fire" Duration.reader
    let control ← r.optional "control" string
    pure (.startTimer timerId startToFire control)
  | "CancelTimer" => do
    let r ← t.record? ["timer_id"]
    let timerId ← r.required "timer_id" string
    pure (.cancelTimer timerId)
  | "RecordMarker" => do
    let r ← t.record? ["marker_name", "details"]
    let markerName ← r.required "marker_name" string
    let details ← r.optional "details" string
    pure (.recordMarker markerName details)
  | "CompleteWorkflow" => do
    let r ← t.record? ["result"]
    let result ← r.optional "result" string
    pure (.completeWorkflow result)
  | "FailWorkflow" => do
    let r ← t.record? ["reason", "details"]
    let reason ← r.optional "reason" string
    let details ← r.optional "details" string
    pure (.failWorkflow reason details)
  | "CancelWorkflow" => do
    let r ← t.record? ["details"]
    let details ← r.optional "details" string
    pure (.cancelWorkflow details)
  | _ => none

/-- A decision as it is written. -/
def reader : Json.Reader Decision := fun s v => do
  let t ← Json.Tagged.of? "decisionType" s v
  readFields t t.case

end Decision

namespace DecisionBatch

/-- The decisions in order. -/
def toJson (b : DecisionBatch) : Json := .array (b.map Decision.toJson)

/-- A batch as it is written. -/
def reader : Json.Reader DecisionBatch := Json.Reader.list Decision.reader

/-- The written form as text. -/
def text (b : DecisionBatch) : String := (toJson b).render

end DecisionBatch

end DurableWorkflow
