import DurableWorkflow.Event.Identity
import DurableWorkflow.Event.Kind
import DurableWorkflow.Event.Timestamp
import DurableWorkflow.Options

/-!
# Events

An event of a history: its number, its time and what it says.

## Main Definitions

* `Attributes`: what an event says.
* `Event`: an event.
* `Event.type`, `Event.category`: both follow from what the event says.

## Design Notes

Events of types that are not interpreted carry their type and an opaque payload.
-/

namespace DurableWorkflow

/-- What an event says. -/
inductive Attributes where
  | workflowExecutionStarted (workflowType : WorkflowType) (input : Option String)
      (options : WorkflowOptions) (tags : List String)
  | workflowExecutionCompleted (result : Option String)
  | completeWorkflowExecutionFailed (cause : String)
  | workflowExecutionFailed (reason details : Option String)
  | failWorkflowExecutionFailed (cause : String)
  | workflowExecutionTimedOut (timeoutType : String)
  | workflowExecutionCanceled (details : Option String)
  | cancelWorkflowExecutionFailed (cause : String)
  | workflowExecutionCancelRequested (cause : Option String)
  | workflowExecutionTerminated (reason details : Option String)
  | decisionTaskScheduled (taskList : String)
  | decisionTaskStarted (scheduledEventId : Int) (identity : Option String)
  | decisionTaskCompleted (scheduledEventId startedEventId : Int)
  | decisionTaskTimedOut (scheduledEventId startedEventId : Int) (timeoutType : String)
  | taskScheduled (taskId : String) (taskType : TaskType) (input control : Option String)
      (options : TaskOptions)
  | scheduleTaskFailed (taskId : String) (taskType : TaskType) (cause : String)
  | taskStarted (scheduledEventId : Int) (identity : Option String)
  | taskCompleted (scheduledEventId : Int) (result : Option String)
  | taskFailed (scheduledEventId : Int) (reason details : Option String)
  | taskTimedOut (scheduledEventId : Int) (timeoutType : String) (details : Option String)
  | taskCanceled (scheduledEventId : Int) (details : Option String)
  | taskCancelRequested (taskId : String)
  | requestCancelTaskFailed (taskId cause : String)
  | timerStarted (timerId : String) (startToFire : Duration) (control : Option String)
  | startTimerFailed (timerId cause : String)
  | timerFired (timerId : String) (startedEventId : Int)
  | timerCanceled (timerId : String) (startedEventId : Int)
  | cancelTimerFailed (timerId cause : String)
  | markerRecorded (markerName : String) (details : Option String)
  | recordMarkerFailed (markerName cause : String)
  | workflowExecutionSignaled (signalName : String) (input : Option String)
  /-- An event that is carried but not interpreted. -/
  | other (type : EventType) (payload : Json)
  deriving DecidableEq

namespace Attributes

/-- The type of the events that say this. -/
def type : Attributes → EventType
  | .workflowExecutionStarted .. => .workflowExecutionStarted
  | .workflowExecutionCompleted .. => .workflowExecutionCompleted
  | .completeWorkflowExecutionFailed .. => .completeWorkflowExecutionFailed
  | .workflowExecutionFailed .. => .workflowExecutionFailed
  | .failWorkflowExecutionFailed .. => .failWorkflowExecutionFailed
  | .workflowExecutionTimedOut .. => .workflowExecutionTimedOut
  | .workflowExecutionCanceled .. => .workflowExecutionCanceled
  | .cancelWorkflowExecutionFailed .. => .cancelWorkflowExecutionFailed
  | .workflowExecutionCancelRequested .. => .workflowExecutionCancelRequested
  | .workflowExecutionTerminated .. => .workflowExecutionTerminated
  | .decisionTaskScheduled .. => .decisionTaskScheduled
  | .decisionTaskStarted .. => .decisionTaskStarted
  | .decisionTaskCompleted .. => .decisionTaskCompleted
  | .decisionTaskTimedOut .. => .decisionTaskTimedOut
  | .taskScheduled .. => .taskScheduled
  | .scheduleTaskFailed .. => .scheduleTaskFailed
  | .taskStarted .. => .taskStarted
  | .taskCompleted .. => .taskCompleted
  | .taskFailed .. => .taskFailed
  | .taskTimedOut .. => .taskTimedOut
  | .taskCanceled .. => .taskCanceled
  | .taskCancelRequested .. => .taskCancelRequested
  | .requestCancelTaskFailed .. => .requestCancelTaskFailed
  | .timerStarted .. => .timerStarted
  | .startTimerFailed .. => .startTimerFailed
  | .timerFired .. => .timerFired
  | .timerCanceled .. => .timerCanceled
  | .cancelTimerFailed .. => .cancelTimerFailed
  | .markerRecorded .. => .markerRecorded
  | .recordMarkerFailed .. => .recordMarkerFailed
  | .workflowExecutionSignaled .. => .workflowExecutionSignaled
  | .other type _ => type

/-- Whether the event is carried without being interpreted. -/
def isOther : Attributes → Bool
  | .other .. => true
  | _ => false

end Attributes

/-- An event of a history. -/
structure Event where
  /-- Events of a history are numbered from 1. -/
  id : Int
  timestamp : Timestamp
  attributes : Attributes
  deriving DecidableEq

namespace Event

/-- The type of an event. -/
def type (e : Event) : EventType := e.attributes.type

/-- The category of an event. -/
def category (e : Event) : EventCategory := e.type.category

end Event

end DurableWorkflow
