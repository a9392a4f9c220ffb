import DurableWorkflow.History.Log

/-!
# Event contexts

A context is one event as a handler sees it: its name, its data with references to earlier events
resolved, and access to its facets.

## Main Definitions

* `EventDetails`: the data of an event by category.
* `EventContext`: an event with its log, its run and its data.
* `EventContext.extract`: the context of an event, or why there is none.
* `EventContext.facet`: the value of a facet, or that events of the type do not carry it.

## Design Notes

The end of a task refers to its schedule by number, a request to cancel it by task, the end of a
timer to its start by number.
-/

namespace DurableWorkflow

/-- The data of an event about a run as a whole. -/
structure WorkflowDetails where
  workflowType : WorkflowType
  input : Option String
  result : Option String
  reason : Option String
  details : Option String
  cause : Option String
  deriving DecidableEq, Repr

namespace WorkflowDetails

/-- The type alone. -/
def ofType (workflowType : WorkflowType) : WorkflowDetails :=
  ⟨workflowType, none, none, none, none, none⟩

end WorkflowDetails

/-- The data of an event about a task. -/
structure TaskDetails where
  taskId : String
  taskType : TaskType
  /-- The schedule that the event refers to. -/
  scheduledEventId : Option Int
  input : Option String
  control : Option String
  result : Option String
  reason : Option String
  details : Option String
  cause : Option String
  deriving DecidableEq, Repr

/-- The data of an event about a timer. -/
structure TimerDetails where
  timerId : String
  control : Option String
  startToFire : Option Duration
  cause : Option String
  deriving DecidableEq

/-- The data of an event about a marker. -/
structure MarkerDetails where
  markerName : String
  details : Option String
  cause : Option String
  deriving DecidableEq, Repr

/-- The data of a signal. -/
structure SignalDetails where
  signalName : String
  input : Option String
  deriving DecidableEq, Repr

/-- The data of an event by category. -/
inductive EventDetails where
  | workflow (details : WorkflowDetails)
  | decisionTask
  | task (details : TaskDetails)
  | timer (details : TimerDetails)
  | marker (details : MarkerDetails)
  | signal (details : SignalDetails)
  deriving DecidableEq

namespace EventDetails

/-- The name that the data give the event. -/
def name : EventDetails → EventName
  | .workflow d => .workflow d.workflowType
  | .decisionTask => .decisionTask
  | .task d => .task d.taskType
  | .timer d => .timer d.timerId
  | .marker d => .marker d.markerName
  | .signal d => .signal d.signalName

end EventDetails

/-- The value of a facet. -/
inductive FacetValue where
  | text (value : Option String)
  | taskType (value : TaskType)
  deriving DecidableEq, Repr

/-- An event as a handler sees it. -/
structure EventContext where
  event : Event
  log : EventLog
  workflow : WorkflowInfo
  details : EventDetails

/-- The event does not have the shape that its type asks for. -/
def Event.mismatched (e : Event) : Error := .mismatchedAttributes e.id e.type

/-- The event refers to nothing of the expected type. -/
def Event.unresolved (e : Event) (referenced : String) (expected : EventType) : Error :=
  .missingReference e.id referenced expected

namespace TaskDetails

/-- The data of a schedule, if the event is one. -/
def ofScheduled? (e : Event) : Option TaskDetails :=
  match e.attributes with
  | .taskScheduled taskId taskType input control _ =>
    some ⟨taskId, taskType, some e.id, input, control, none, none, none, none⟩
  | _ => none

/-- The data of the schedule with a number. -/
def ofScheduleId (e : Event) (log : EventLog) (id : Int) : Except Error TaskDetails :=
  match (log.get? id).bind ofScheduled? with
  | some d => .ok d
  | none => .error (e.unresolved (toString id) .taskScheduled)

/-- The data of the latest schedule of a task. -/
def ofTaskId (e : Event) (log : EventLog) (taskId : String) : Except Error TaskDetails :=
  match (log.scheduledEventFor taskId).bind ofScheduled? with
  | some d => .ok d
  | none => .error (e.unresolved taskId .taskScheduled)

/-- The data of an event about a task. -/
def extract (e : Event) (log : EventLog) : Except Error TaskDetails :=
  match e.attributes with
  | .taskScheduled .. =>
    match ofScheduled? e with
    | some d => .ok d
    | none => .error e.mismatched
  | .scheduleTaskFailed taskId taskType cause =>
    .ok ⟨taskId, taskType, none, none, none, none, none, none, some cause⟩
  | .taskStarted id _ => ofScheduleId e log id
  | .taskCompleted id result => do
    let d ← ofScheduleId e log id
    pure { d with result := result }
  | .taskFailed id reason details => do
    let d ← ofScheduleId e log id
    pure { d with reason := reason, details := details }
  | .taskTimedOut id timeoutType details => do
    let d ← ofScheduleId e log id
    pure { d with cause := some timeoutType, details := details }
  | .taskCanceled id details => do
    let d ← ofScheduleId e log id
    pure { d with details := details }
  | .taskCancelRequested taskId => ofTaskId e log taskId
  | .requestCancelTaskFailed taskId cause => do
    let d ← ofTaskId e log taskId
    pure { d with input := none, control := none, cause := some cause }
  | _ => .error e.mismatched

end TaskDetails

namespace TimerDetails

/-- Control and duration of a start, if the event is one. -/
def ofStarted? (e : Event) : Option (Option String × Duration) :=
  match e.attributes with
  | .timerStarted _ startToFire control => some (control, startToFire)
  | _ => none

/-- The data of the end of a timer, with those of its start. -/
def ofStartId (e : Event) (log : EventLog) (timerId : String) (id : Int) :
    Except Error TimerDetails :=
  match (log.get? id).bind ofStarted? with
  | some (control, startToFire) => .ok ⟨timerId, control, some startToFire, none⟩
  | none => .error (e.unresolved (toString id) .timerStarted)

/-- The data of an event about a timer. -/
def extract (e : Event) (log : EventLog) : Except Error TimerDetails :=
  match e.attributes with
  | .timerStarted timerId startToFire control => .ok ⟨timerId, control, some startToFire, none⟩
  | .timerFired timerId id => ofStartId e log timerId id
  | .timerCanceled timerId id => ofStartId e log timerId id
  | .startTimerFailed timerId cause => .ok ⟨timerId, none, none, some cause⟩
  | .cancelTimerFailed timerId cause => .ok ⟨timerId, none, none, some cause⟩
  | _ => .error e.mismatched

end TimerDetails

namespace WorkflowDetails

/-- The data of an event about the run as a whole. -/
def extract (e : Event) (workflow : WorkflowInfo) : Except Error WorkflowDetails :=
  let base := ofType workflow.workflowType
  match e.attributes with
  | .workflowExecutionStarted workflowType input _ _ =>
    .ok { base with workflowType := workflowType, input := input }
  | .workflowExecutionCompleted result => .ok { base with result := result }
  | .workflowExecutionFailed reason details =>
    .ok { base with reason := reason, details := details }
  | .workflowExecutionTerminated reason details =>
    .ok { base with reason := reason, details := details }
  | .workflowExecutionCanceled details => .ok { base with details := details }
  | .completeWorkflowExecutionFailed cause => .ok { base with cause := some cause }
  | .failWorkflowExecutionFailed cause => .ok { base with cause := some cause }
  | .cancelWorkflowExecutionFailed cause => .ok { base with cause := some cause }
  | .workflowExecutionTimedOut timeoutType => .ok { base with cause := some timeoutType }
  | .workflowExecutionCancelRequested cause => .ok { base with cause := cause }
  | _ => .error e.mismatched

end WorkflowDetails

namespace EventDetails

/-- The data of an event. -/
def extract (e : Event) (log : EventLog) (workflow : WorkflowInfo) :
    Except Error EventDetails :=
  match e.category with
  | .workflowExecution => (WorkflowDetails.extract e workflow).map .workflow
  | .decisionTask => if e.attributes.isOther then .error e.mismatched else .ok .decisionTask
  | .task => (TaskDetails.extract e log).map .task
  | .timer => (TimerDetails.extract e log).map .timer
  | .marker =>
    match e.attributes with
    | .markerRecorded markerName details => .ok (.marker ⟨markerName, details, none⟩)
    | .recordMarkerFailed markerName cause => .ok (.marker ⟨markerName, none, some cause⟩)
    | _ => .error e.mismatched
  | .signal =>
    match e.attributes with
    | .workflowExecutionSignaled signalName input => .ok (.signal ⟨signalName, input⟩)
    | _ => .error e.mismatched
  | category => .error (.unsupportedCategory e.id category)

/-- The value of a facet in the data, absent where the data have no place for it. -/
def text (d : EventDetails) (f : Facet) : Option String :=
  match f, d with
  | .input, .workflow d => d.input
  | .input, .task d => d.input
  | .input, .signal d => d.input
  | .output, .workflow d => d.result
  | .output, .task d => d.result
  | .reason, .workflow d => d.reason
  | .reason, .task d => d.reason
  | .details, .workflow d => d.details
  | .details, .task d => d.details
  | .details, .marker d => d.details
  | .cause, .workflow d => d.cause
  | .cause, .task d => d.cause
  | .cause, .timer d => d.cause
  | .cause, .marker d => d.cause
  | .control, .task d => d.control
  | .control, .timer d => d.control
  | _, _ => none

end EventDetails

namespace EventContext

/-- The context of an event. -/
def extract (e : Event) (log : EventLog) (workflow : WorkflowInfo) : Except Error EventContext :=
  (EventDetails.extract e log workflow).map fun details => ⟨e, log, workflow, details⟩

variable (ctx : EventContext)

/-- The name of the event. -/
def name : EventName := ctx.details.name

/-- The task that the event is about. -/
def task? : Option TaskDetails :=
  match ctx.details with
  | .task d => some d
  | _ => none

/-- That events of the type do not carry a facet. -/
def missing (f : Facet) : Error := .missingFacet f ctx.event.type

/-- The value of a facet. -/
def facet (f : Facet) : Except Error FacetValue :=
  if ctx.event.type.hasFacet f then
    match f, ctx.details with
    | .taskType, .task d => .ok (.taskType d.taskType)
    | .taskType, _ => .error (ctx.missing f)
    | .timerId, .timer d => .ok (.text (some d.timerId))
    | .timerId, _ => .error (ctx.missing f)
    | f, details => .ok (.text (details.text f))
  else .error (ctx.missing f)

/-- The value of a facet as a text. -/
def facetText (f : Facet) : Except Error (Option String) :=
  (ctx.facet f).map fun
    | .text value => value
    | .taskType value => some value.text

end EventContext

end DurableWorkflow
