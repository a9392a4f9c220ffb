import DurableWorkflow.Decision.Basic
import DurableWorkflow.History.Log
import DurableWorkflow.Service.Basic

/-!
# Recording histories

The part of the service: it numbers events as they happen, starts decision tasks, and turns the
decisions of a cycle into events.

## Main Definitions

* `Recorder`: a history in the making.
* `Recorder.decisionStarted`: schedules and starts a decision task.
* `Recorder.apply`: records a batch of decisions.
* `Recorder.log`, `Recorder.pages`: the history as it is handed out.

## Design Notes

References are resolved when an event is recorded: an event about a task or a timer refers to the
latest schedule or start of that name.
-/

namespace DurableWorkflow

/-- A history in the making. -/
structure Recorder where
  workflow : WorkflowInfo
  /-- The events so far, the newest first. -/
  events : List Event
  /-- The start of the last decision task that has been completed, 0 if there is none. -/
  previousStartedEventId : Int
  /-- The schedule of the decision task in progress. -/
  decisionScheduledEventId : Int

/-- Why an event cannot be recorded: what it refers to has never happened. -/
inductive Recorder.Fault where
  | neverScheduled (taskId : String)
  | neverStarted (timerId : String)
  deriving DecidableEq, Repr

namespace Recorder

/-- The message of a fault. -/
def Fault.message : Fault → String
  | .neverScheduled taskId => "task " ++ taskId ++ " was never scheduled"
  | .neverStarted timerId => "timer " ++ timerId ++ " was never started"

/-- The domain of recorded runs. -/
def domain : String := "test-domain"

/-- The identity that is recorded for all workers. -/
def worker : String := "test-worker"

/-- A history without events. -/
def empty (workflowType : WorkflowType) : Recorder :=
  ⟨⟨domain, ⟨"wf-1", "run-1"⟩, workflowType, 0⟩, [], 0, 0⟩

variable (r : Recorder)

/-- The number of the newest event, 0 if there is none. -/
def lastId : Int := r.events.length

/-- The number that the next event will get. -/
def nextId : Int := r.lastId + 1

/-- Records an event. -/
def push (a : Attributes) : Recorder := { r with events := ⟨r.nextId, .epoch, a⟩ :: r.events }

/-- Schedules and starts a decision task. -/
def decisionStarted : Recorder :=
  let r := r.push (.decisionTaskScheduled "default")
  let r := { r with decisionScheduledEventId := r.lastId }
  let r := r.push (.decisionTaskStarted r.decisionScheduledEventId (some worker))
  { r with workflow := { r.workflow with decisionStartedEventId := r.lastId } }

/-- A run that has been started, with its first decision task in progress. -/
def start (workflowType : WorkflowType) (input : Option String) : Recorder :=
  let started : Attributes := .workflowExecutionStarted workflowType input .empty []
  ((empty workflowType).push started).decisionStarted

/-- The number of the latest schedule of a task. -/
def scheduledId (taskId : String) : Except Fault Int :=
  match r.events.findSome? fun e =>
    match e.attributes with
    | .taskScheduled id .. => if id = taskId then some e.id else none
    | _ => none with
  | some id => .ok id
  | none => .error (.neverScheduled taskId)

/-- The number of the latest start of a timer. -/
def startedId (timerId : String) : Except Fault Int :=
  match r.events.findSome? fun e =>
    match e.attributes with
    | .timerStarted id .. => if id = timerId then some e.id else none
    | _ => none with
  | some id => .ok id
  | none => .error (.neverStarted timerId)

/-- The event that a decision leads to; with a cause, closing the run is rejected for it. -/
def consequence (rejection : Option String) : Decision → Except Fault Attributes
  | .scheduleTask taskId taskType input control options =>
    .ok (.taskScheduled taskId taskType input control options)
  | .startTimer timerId startToFire control => .ok (.timerStarted timerId startToFire control)
  | .cancelTimer timerId => (r.startedId timerId).map (.timerCanceled timerId)
  | .recordMarker markerName details => .ok (.markerRecorded markerName details)
  | .completeWorkflow result =>
    .ok <| match rejection with
      | some cause => .completeWorkflowExecutionFailed cause
      | none => .workflowExecutionCompleted result
  | .failWorkflow reason details =>
    .ok <| match rejection with
      | some cause => .failWorkflowExecutionFailed cause
      | none => .workflowExecutionFailed reason details
  | .cancelWorkflow details =>
    .ok <| match rejection with
      | some cause => .cancelWorkflowExecutionFailed cause
      | none => .workflowExecutionCanceled details

/-- Records what decisions lead to, up to the first that cannot be recorded. -/
def recordAll (rejection : Option String) : Recorder → DecisionBatch → Recorder × Option Fault
  | r, [] => (r, none)
  | r, d :: rest =>
    match r.consequence rejection d with
    | .ok a => recordAll rejection (r.push a) rest
    | .error fault => (r, some fault)

/-- Completes the decision task in progress with a batch; with a cause, closing the run is rejected
for it. -/
def apply (rejection : Option String) (batch : DecisionBatch) : Recorder × Option Fault :=
  let started := r.workflow.decisionStartedEventId
  let r := r.push (.decisionTaskCompleted r.decisionScheduledEventId started)
  recordAll rejection { r with previousStartedEventId := started } batch

/-- A task is handed to a worker. -/
def taskStarted (taskId : String) : Except Fault Recorder :=
  (r.scheduledId taskId).map fun id => r.push (.taskStarted id (some worker))

/-- A task is completed. -/
def taskCompleted (taskId : String) (result : Option String) : Except Fault Recorder :=
  (r.scheduledId taskId).map fun id => r.push (.taskCompleted id result)

/-- A task fails. -/
def taskFailed (taskId reason : String) (details : Option String) : Except Fault Recorder :=
  (r.scheduledId taskId).map fun id => r.push (.taskFailed id (some reason) details)

/-- A task takes too long. -/
def taskTimedOut (taskId timeoutType : String) : Except Fault Recorder :=
  (r.scheduledId taskId).map fun id => r.push (.taskTimedOut id timeoutType none)

/-- A timer fires. -/
def timerFired (timerId : String) : Except Fault Recorder :=
  (r.startedId timerId).map fun id => r.push (.timerFired timerId id)

/-- A timer is started that no decision asked for. -/
def timerStarted (timerId : String) (startToFire : Duration) : Recorder :=
  r.push (.timerStarted timerId startToFire none)

/-- A signal arrives. -/
def signal (name : String) (input : Option String) : Recorder :=
  r.push (.workflowExecutionSignaled name input)

/-- A marker is recorded that no decision asked for. -/
def marker (name : String) (details : Option String) : Recorder :=
  r.push (.markerRecorded name details)

/-- The tasks that have been scheduled, the oldest first. -/
def scheduledTasks : List (String × TaskType) :=
  r.events.reverse.filterMap fun e =>
    match e.attributes with
    | .taskScheduled taskId taskType .. => some (taskId, taskType)
    | _ => none

/-- The history as a log. -/
def log : Except Error EventLog := EventLog.assemble r.events r.previousStartedEventId

/-- Splits a list into parts of a length; with a bound on the number of parts. -/
def chunks {α : Type} (size : Nat) : Nat → List α → List (List α)
  | 0, _ => []
  | bound + 1, xs => if xs.isEmpty then [] else xs.take size :: chunks size bound (xs.drop size)

/-- The token of the page with a number. -/
def pageToken (taskToken : String) (page : Nat) : String := taskToken ++ "-page-" ++ toString page

/-- Makes pages of parts, the next of which has a number. -/
def pagesOf (taskToken : String) : Nat → List (List Event) → List HistoryPage
  | _, [] => []
  | i, part :: rest =>
    { taskToken := taskToken
      execution := r.workflow.execution
      workflowType := r.workflow.workflowType
      previousStartedEventId := r.previousStartedEventId
      startedEventId := r.workflow.decisionStartedEventId
      events := part
      nextPageToken := if rest.isEmpty then none else some (pageToken taskToken (i + 1)) }
      :: pagesOf taskToken (i + 1) rest

/-- The history in pages of a size, the newest events first. -/
def pages (taskToken : String) (size : Nat) : List HistoryPage :=
  r.pagesOf taskToken 0 (chunks (max 1 size) r.events.length r.events)

end Recorder

end DurableWorkflow
