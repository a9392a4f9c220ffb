import DurableWorkflow.Event.Basic

/-!
# The written form of events

An event is an object with its number, its time and its attributes.  Attributes name their type in
the field `type`; those that are not interpreted are named `Other` and hold their type themselves.

## Main Definitions

* `Attributes.toJson`, `Attributes.reader`
* `Event.toJson`, `Event.reader`
-/

namespace DurableWorkflow

open Json (ofText?)

namespace Attributes

/-- The name that stands for all types that are not interpreted. -/
def otherName : String := "Other"

/-- The name of the case. -/
def caseName : Attributes → String
  | .other .. => otherName
  | a => a.type.name

/-- The fields beside the name of the case. -/
def fields : Attributes → List (String × Json)
  | .workflowExecutionStarted workflowType input options tags =>
    [("workflow_type", workflowType.toJson), ("input", ofText? input),
      ("options", options.toJson), ("tags", .array (tags.map .string))]
  | .workflowExecutionCompleted result => [("result", ofText? result)]
  | .completeWorkflowExecutionFailed cause => [("cause", .string cause)]
  | .workflowExecutionFailed reason details =>
    [("reason", ofText? reason), ("details", ofText? details)]
  | .failWorkflowExecutionFailed cause => [("cause", .string cause)]
  | .workflowExecutionTimedOut timeoutType => [("timeout_type", .string timeoutType)]
  | .workflowExecutionCanceled details => [("details", ofText? details)]
  | .cancelWorkflowExecutionFailed cause => [("cause", .string cause)]
  | .workflowExecutionCancelRequested cause => [("cause", ofText? cause)]
  | .workflowExecutionTerminated reason details =>
    [("reason", ofText? reason), ("details", ofText? details)]
  | .decisionTaskScheduled taskList => [("task_list", .string taskList)]
  | .decisionTaskStarted scheduledEventId identity =>
    [("scheduled_event_id", .int scheduledEventId), ("identity", ofText? identity)]
  | .decisionTaskCompleted scheduledEventId startedEventId =>
    [("scheduled_event_id", .int scheduledEventId), ("started_event_id", .int startedEventId)]
  | .decisionTaskTimedOut scheduledEventId startedEventId timeoutType =>
    [("scheduled_event_id", .int scheduledEventId), ("started_event_id", .int startedEventId),
      ("timeout_type", .string timeoutType)]
  | .taskScheduled taskId taskType input control options =>
    [("task_id", .string taskId), ("task_type", taskType.toJson), ("input", ofText? input),
      ("control", ofText? control), ("options", options.toJson)]
  | .scheduleTaskFailed taskId taskType cause =>
    [("task_id", .string taskId), ("task_type", taskType.toJson), ("cause", .string cause)]
  | .taskStarted scheduledEventId identity =>
    [("scheduled_event_id", .int scheduledEventId), ("identity", ofText? identity)]
  | .taskCompleted scheduledEventId result =>
    [("scheduled_event_id", .int scheduledEventId), ("result", ofText? result)]
  | .taskFailed scheduledEventId reason details =>
    [("scheduled_event_id", .int scheduledEventId), ("reason", ofText? reason),
      ("details", ofText? details)]
  | .taskTimedOut scheduledEventId timeoutType details =>
    [("scheduled_event_id", .int scheduledEventId), ("timeout_type", .string timeoutType),
      ("details", ofText? details)]
  | .taskCanceled scheduledEventId details =>
    [("scheduled_event_id", .int scheduledEventId), ("details", ofText? details)]
  | .taskCancelRequested taskId => [("task_id", .string taskId)]
  | .requestCancelTaskFailed taskId cause =>
    [("task_id", .string taskId), ("cause", .string cause)]
  | .timerStarted timerId startToFire control =>
    [("timer_id", .string timerId), ("start_to_fire", startToFire.toJson),
      ("control", ofText? control)]
  | .startTimerFailed timerId cause => [("timer_id", .string timerId), ("cause", .string cause)]
  | .timerFired timerId startedEventId =>
    [("timer_id", .string timerId), ("started_event_id", .int startedEventId)]
  | .timerCanceled timerId startedEventId =>
    [("timer_id", .string timerId), ("started_event_id", .int startedEventId)]
  | .cancelTimerFailed timerId cause => [("timer_id", .string timerId), ("cause", .string cause)]
  | .markerRecorded markerName details =>
    [("marker_name", .string markerName), ("details", ofText? details)]
  | .recordMarkerFailed markerName cause =>
    [("marker_name", .string markerName), ("cause", .string cause)]
  | .workflowExecutionSignaled signalName input =>
    [("signal_name", .string signalName), ("input", ofText? input)]
  | .other type payload => [("event_type", .string type.name), ("payload", payload)]

/-- The written form. -/
def toJson (a : Attributes) : Json := .object (("type", .string a.caseName) :: a.fields)

open Json.Reader (string int64)

/-- The fields of attributes that are not interpreted. -/
def readOther (t : Json.Tagged) : Option Attributes := do
  let r ← t.record? ["event_type", "payload"]
  let type ← r.required "event_type" EventType.reader
  let payload ← r.defaulted "payload" (fun _ v => some v.normal) .null
  pure (.other type payload)

/-- The fields of attributes of a type that is interpreted. -/
def readFields (t : Json.Tagged) : EventType → Option Attributes
  | .workflowExecutionStarted => do
    let r ← t.record? ["workflow_type", "input", "options", "tags"]
    let workflowType ← r.required "workflow_type" WorkflowType.reader
    let input ← r.optional "input" string
    let options ← r.defaulted "options" WorkflowOptions.reader .empty
    let tags ← r.defaulted "tags" (Json.Reader.list string) []
    pure (.workflowExecutionStarted workflowType input options tags)
  | .workflowExecutionCompleted => do
    let r ← t.record? ["result"]
    let result ← r.optional "result" string
    pure (.workflowExecutionCompleted result)
  | .completeWorkflowExecutionFailed => do
    let r ← t.record? ["cause"]
    let cause ← r.required "cause" string
    pure (.completeWorkflowExecutionFailed cause)
  | .workflowExecutionFailed => do
    let r ← t.record? ["reason", "details"]
    let reason ← r.optional "reason" string
    let details ← r.optional "details" string
    pure (.workflowExecutionFailed reason details)
  | .failWorkflowExecutionFailed => do
    let r ← t.record? ["cause"]
    let cause ← r.required "cause" string
    pure (.failWorkflowExecutionFailed cause)
  | .workflowExecutionTimedOut => do
    let r ← t.record? ["timeout_type"]
    let timeoutType ← r.required "timeout_type" string
    pure (.workflowExecutionTimedOut timeoutType)
  | .workflowExecutionCanceled => do
    let r ← t.record? ["details"]
    let details ← r.optional "details" string
    pure (.workflowExecutionCanceled details)
  | .cancelWorkflowExecutionFailed => do
    let r ← t.record? ["cause"]
    let cause ← r.required "cause" string
    pure (.cancelWorkflowExecutionFailed cause)
  | .workflowExecutionCancelRequested => do
    let r ← t.record? ["cause"]
    let cause ← r.optional "cause" string
    pure (.workflowExecutionCancelRequested cause)
  | .workflowExecutionTerminated => do
    let r ← t.record? ["reason", "details"]
    let reason ← r.optional "reason" string
    let details ← r.optional "details" string
    pure (.workflowExecutionTerminated reason details)
  | .decisionTaskScheduled => do
    let r ← t.record? ["task_list"]
    let taskList ← r.required "task_list" string
    pure (.decisionTaskScheduled taskList)
  | .decisionTaskStarted => do
    let r ← t.record? ["scheduled_event_id", "identity"]
    let scheduledEventId ← r.required "scheduled_event_id" int64
    let identity ← r.optional "identity" string
    pure (.decisionTaskStarted scheduledEventId identity)
  | .decisionTaskCompleted => do
    let r ← t.record? ["scheduled_event_id", "started_event_id"]
    let scheduledEventId ← r.required "scheduled_event_id" int64
    let startedEventId ← r.required "started_event_id" int64
    pure (.decisionTaskCompleted scheduledEventId startedEventId)
  | .decisionTaskTimedOut => do
    let r ← t.record? ["scheduled_event_id", "started_event_id", "timeout_type"]
    let scheduledEventId ← r.required "scheduled_event_id" int64
    let startedEventId ← r.required "started_event_id" int64
    let timeoutType ← r.required "timeout_type" string
    pure (.decisionTaskTimedOut scheduledEventId startedEventId timeoutType)
  | .taskScheduled => do
    let r ← t.record? ["task_id", "task_type", "input", "control", "options"]
    let taskId ← r.required "task_id" string
    let taskType ← r.required "task_type" TaskType.reader
    let input ← r.optional "input" string
    let control ← r.optional "control" string
    let options ← r.defaulted "options" TaskOptions.reader .empty
    pure (.taskScheduled taskId taskType input control options)
  | .scheduleTaskFailed => do
    let r ← t.record? ["task_id", "task_type", "cause"]
    let taskId ← r.required "task_id" string
    let taskType ← r.required "task_type" TaskType.reader
    let cause ← r.required "cause" string
    pure (.scheduleTaskFailed taskId taskType cause)
  | .taskStarted => do
    let r ← t.record? ["scheduled_event_id", "identity"]
    let scheduledEventId ← r.required "scheduled_event_id" int64
    let identity ← r.optional "identity" string
    pure (.taskStarted scheduledEventId identity)
  | .taskCompleted => do
    let r ← t.record? ["scheduled_event_id", "result"]
    let scheduledEventId ← r.required "scheduled_event_id" int64
    let result ← r.optional "result" string
    pure (.taskCompleted scheduledEventId result)
  | .taskFailed => do
    let r ← t.record? ["scheduled_event_id", "reason", "details"]
    let scheduledEventId ← r.required "scheduled_event_id" int64
    let reason ← r.optional "reason" string
    let details ← r.optional "details" string
    pure (.taskFailed scheduledEventId reason details)
  | .taskTimedOut => do
    let r ← t.record? ["scheduled_event_id", "timeout_type", "details"]
    let scheduledEventId ← r.required "scheduled_event_id" int64
    let timeoutType ← r.required "timeout_type" string
    let details ← r.optional "details" string
    pure (.taskTimedOut scheduledEventId timeoutType details)
  | .taskCanceled => do
    let r ← t.record? ["scheduled_event_id", "details"]
    let scheduledEventId ← r.required "scheduled_event_id" int64
    let details ← r.optional "details" string
    pure (.taskCanceled scheduledEventId details)
  | .taskCancelRequested => do
    let r ← t.record? ["task_id"]
    let taskId ← r.required "task_id" string
    pure (.taskCancelRequested taskId)
  | .requestCancelTaskFailed => do
    let r ← t.record? ["task_id", "cause"]
    let taskId ← r.required "task_id" string
    let cause ← r.required "cause" string
    pure (.requestCancelTaskFailed taskId cause)
  | .timerStarted => do
    let r ← t.record? ["timer_id", "start_to_fire", "control"]
    let timerId ← r.required "timer_id" string
    let startToFire ← r.required "start_to_fire" Duration.reader
    let control ← r.optional "control" string
    pure (.timerStarted timerId startToFire control)
  | .startTimerFailed => do
    let r ← t.record? ["timer_id", "cause"]
    let timerId ← r.required "timer_id" string
    let cause ← r.required "cause" string
    pure (.startTimerFailed timerId cause)
  | .timerFired => do
    let r ← t.record? ["timer_id", "started_event_id"]
    let timerId ← r.required "timer_id" string
    let startedEventId ← r.required "started_event_id" int64
    pure (.timerFired timerId startedEventId)
  | .timerCanceled => do
    let r ← t.record? ["timer_id", "started_event_id"]
    let timerId ← r.required "timer_id" string
    let startedEventId ← r.required "started_event_id" int64
    pure (.timerCanceled timerId startedEventId)
  | .cancelTimerFailed => do
    let r ← t.record? ["timer_id", "cause"]
    let timerId ← r.required "timer_id" string
    let cause ← r.required "cause" string
    pure (.cancelTimerFailed timerId cause)
  | .markerRecorded => do
    let r ← t.record? ["marker_name", "details"]
    let markerName ← r.required "marker_name" string
    let details ← r.optional "details" string
    pure (.markerRecorded markerName details)
  | .recordMarkerFailed => do
    let r ← t.record? ["marker_name", "cause"]
    let markerName ← r.required "marker_name" string
    let cause ← r.required "cause" string
    pure (.recordMarkerFailed markerName cause)
  | .workflowExecutionSignaled => do
    let r ← t.record? ["signal_name", "input"]
    let signalName ← r.required "signal_name" string
    let input ← r.optional "input" string
    pure (.workflowExecutionSignaled signalName input)
  | _ => none

/-- Attributes as they are written. -/
def reader : Json.Reader Attributes := fun s v => do
  let t ← Json.Tagged.of? "type" s v
  if t.case = otherName then readOther t
  else (EventType.ofName? t.case).bind (readFields t)

end Attributes

namespace Event

/-- The written form. -/
def toJson (e : Event) : Json :=
  .object [("id", .int e.id), ("timestamp", e.timestamp.toJson),
    ("attributes", e.attributes.toJson)]

/-- The names of the written fields. -/
def fieldNames : List String := ["id", "timestamp", "attributes"]

/-- An event as it is written. -/
def reader : Json.Reader Event := fun s v => do
  let r ← Json.Record.of? fieldNames s v
  let id ← r.required "id" Json.Reader.int64
  let timestamp ← r.required "timestamp" Timestamp.reader
  let attributes ← r.required "attributes" Attributes.reader
  pure ⟨id, timestamp, attributes⟩

end Event

end DurableWorkflow
