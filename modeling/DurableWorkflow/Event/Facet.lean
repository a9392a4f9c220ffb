import DurableWorkflow.Event.Kind

/-!
# Facets

A facet is a named piece of data that events of some types carry.

## Main Definitions

* `Facet`: the facets.
* `EventType.facets`: the facets of each type.
-/

namespace DurableWorkflow

/-- A named piece of data of an event. -/
inductive Facet where
  | input
  | output
  | reason
  | details
  | cause
  | control
  | taskType
  | timerId
  deriving DecidableEq, Repr

namespace Facet

/-- The name of a facet in messages. -/
def name : Facet → String
  | .input => "input"
  | .output => "output"
  | .reason => "reason"
  | .details => "details"
  | .cause => "cause"
  | .control => "control"
  | .taskType => "task type"
  | .timerId => "timer id"

/-- The name of a facet as a key. -/
def key : Facet → String
  | .input => "input"
  | .output => "output"
  | .reason => "reason"
  | .details => "details"
  | .cause => "cause"
  | .control => "control"
  | .taskType => "task_type"
  | .timerId => "timer_id"

/-- All facets. -/
def all : List Facet :=
  [.input, .output, .reason, .details, .cause, .control, .taskType, .timerId]

/-- The facet with a key. -/
def ofKey? (key : String) : Option Facet := all.find? (·.key = key)

end Facet

namespace EventType

/-- The facets that events of a type carry. -/
def facets : EventType → List Facet
  | .workflowExecutionStarted | .workflowExecutionSignaled => [.input]
  | .workflowExecutionCompleted => [.output]
  | .workflowExecutionFailed | .workflowExecutionTerminated => [.reason, .details]
  | .workflowExecutionCanceled | .markerRecorded => [.details]
  | .workflowExecutionTimedOut | .workflowExecutionCancelRequested
  | .completeWorkflowExecutionFailed | .failWorkflowExecutionFailed
  | .cancelWorkflowExecutionFailed | .recordMarkerFailed => [.cause]
  | .taskScheduled | .taskStarted | .taskCancelRequested => [.taskType, .input, .control]
  | .scheduleTaskFailed | .requestCancelTaskFailed => [.taskType, .cause]
  | .taskCompleted => [.taskType, .input, .control, .output]
  | .taskFailed => [.taskType, .input, .control, .reason, .details]
  | .taskTimedOut => [.taskType, .input, .control, .cause, .details]
  | .taskCanceled => [.taskType, .input, .control, .details]
  | .timerStarted | .timerFired | .timerCanceled => [.timerId, .control]
  | .startTimerFailed | .cancelTimerFailed => [.timerId, .cause]
  | _ => []

/-- Whether events of a type carry a facet. -/
def hasFacet (t : EventType) (f : Facet) : Bool := t.facets.contains f

end EventType

end DurableWorkflow
