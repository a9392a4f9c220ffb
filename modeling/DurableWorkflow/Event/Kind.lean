import DurableWorkflow.Json.Decode

/-!
# Event types and categories

Every event of a history has a type, and every type belongs to one category.

## Main Definitions

* `EventCategory`, `EventType`: the vocabulary of histories.
* `EventType.category`: the category of a type.
* `EventType.isCloseFailure`: the types that report a refused close decision.
-/

namespace DurableWorkflow

/-- What part of a run an event is about. -/
inductive EventCategory where
  | workflowExecution
  | decisionTask
  | task
  | timer
  | marker
  | signal
  | childWorkflow
  | externalWorkflow
  | lambda
  deriving DecidableEq, Repr

/-- What happened. -/
inductive EventType where
  | workflowExecutionStarted
  | workflowExecutionCompleted
  | completeWorkflowExecutionFailed
  | workflowExecutionFailed
  | failWorkflowExecutionFailed
  | workflowExecutionTimedOut
  | workflowExecutionCanceled
  | cancelWorkflowExecutionFailed
  | workflowExecutionCancelRequested
  | workflowExecutionTerminated
  | decisionTaskScheduled
  | decisionTaskStarted
  | decisionTaskCompleted
  | decisionTaskTimedOut
  | taskScheduled
  | scheduleTaskFailed
  | taskStarted
  | taskCompleted
  | taskFailed
  | taskTimedOut
  | taskCanceled
  | taskCancelRequested
  | requestCancelTaskFailed
  | timerStarted
  | startTimerFailed
  | timerFired
  | timerCanceled
  | cancelTimerFailed
  | markerRecorded
  | recordMarkerFailed
  | workflowExecutionSignaled
  | startChildWorkflowExecutionInitiated
  | startChildWorkflowExecutionFailed
  | childWorkflowExecutionStarted
  | childWorkflowExecutionCompleted
  | childWorkflowExecutionFailed
  | childWorkflowExecutionTimedOut
  | childWorkflowExecutionCanceled
  | childWorkflowExecutionTerminated
  | signalExternalWorkflowExecutionInitiated
  | signalExternalWorkflowExecutionFailed
  | externalWorkflowExecutionSignaled
  | requestCancelExternalWorkflowExecutionInitiated
  | requestCancelExternalWorkflowExecutionFailed
  | externalWorkflowExecutionCancelRequested
  | lambdaFunctionScheduled
  | scheduleLambdaFunctionFailed
  | lambdaFunctionStarted
  | startLambdaFunctionFailed
  | lambdaFunctionCompleted
  | lambdaFunctionFailed
  | lambdaFunctionTimedOut
  deriving DecidableEq, Repr

namespace EventCategory

/-- The written name. -/
def name : EventCategory → String
  | .workflowExecution => "WorkflowExecution"
  | .decisionTask => "DecisionTask"
  | .task => "Task"
  | .timer => "Timer"
  | .marker => "Marker"
  | .signal => "Signal"
  | .childWorkflow => "ChildWorkflow"
  | .externalWorkflow => "ExternalWorkflow"
  | .lambda => "Lambda"

/-- All categories. -/
def all : List EventCategory :=
  [.workflowExecution, .decisionTask, .task, .timer, .marker, .signal,
    .childWorkflow, .externalWorkflow, .lambda]

/-- The category with a written name. -/
def ofName? (name : String) : Option EventCategory := all.find? (·.name = name)

/-- Whether events of the category can be handed to handlers. -/
def isSupported : EventCategory → Bool
  | .childWorkflow | .externalWorkflow | .lambda => false
  | _ => true

/-- A category as it is written. -/
def reader : Json.Reader EventCategory := Json.Reader.word ofName?

end EventCategory

namespace EventType

/-- The written name. -/
def name : EventType → String
  | .workflowExecutionStarted => "WorkflowExecutionStarted"
  | .workflowExecutionCompleted => "WorkflowExecutionCompleted"
  | .completeWorkflowExecutionFailed => "CompleteWorkflowExecutionFailed"
  | .workflowExecutionFailed => "WorkflowExecutionFailed"
  | .failWorkflowExecutionFailed => "FailWorkflowExecutionFailed"
  | .workflowExecutionTimedOut => "WorkflowExecutionTimedOut"
  | .workflowExecutionCanceled => "WorkflowExecutionCanceled"
  | .cancelWorkflowExecutionFailed => "CancelWorkflowExecutionFailed"
  | .workflowExecutionCancelRequested => "WorkflowExecutionCancelRequested"
  | .workflowExecutionTerminated => "WorkflowExecutionTerminated"
  | .decisionTaskScheduled => "DecisionTaskScheduled"
  | .decisionTaskStarted => "DecisionTaskStarted"
  | .decisionTaskCompleted => "DecisionTaskCompleted"
  | .decisionTaskTimedOut => "DecisionTaskTimedOut"
  | .taskScheduled => "TaskScheduled"
  | .scheduleTaskFailed => "ScheduleTaskFailed"
  | .taskStarted => "TaskStarted"
  | .taskCompleted => "TaskCompleted"
  | .taskFailed => "TaskFailed"
  | .taskTimedOut => "TaskTimedOut"
  | .taskCanceled => "TaskCanceled"
  | .taskCancelRequested => "TaskCancelRequested"
  | .requestCancelTaskFailed => "RequestCancelTaskFailed"
  | .timerStarted => "TimerStarted"
  | .startTimerFailed => "StartTimerFailed"
  | .timerFired => "TimerFired"
  | .timerCanceled => "TimerCanceled"
  | .cancelTimerFailed => "CancelTimerFailed"
  | .markerRecorded => "MarkerRecorded"
  | .recordMarkerFailed => "RecordMarkerFailed"
  | .workflowExecutionSignaled => "WorkflowExecutionSignaled"
  | .startChildWorkflowExecutionInitiated => "StartChildWorkflowExecutionInitiated"
  | .startChildWorkflowExecutionFailed => "StartChildWorkflowExecutionFailed"
  | .childWorkflowExecutionStarted => "ChildWorkflowExecutionStarted"
  | .childWorkflowExecutionCompleted => "ChildWorkflowExecutionCompleted"
  | .childWorkflowExecutionFailed => "ChildWorkflowExecutionFailed"
  | .childWorkflowExecutionTimedOut => "ChildWorkflowExecutionTimedOut"
  | .childWorkflowExecutionCanceled => "ChildWorkflowExecutionCanceled"
  | .childWorkflowExecutionTerminated => "ChildWorkflowExecutionTerminated"
  | .signalExternalWorkflowExecutionInitiated => "SignalExternalWorkflowExecutionInitiated"
  | .signalExternalWorkflowExecutionFailed => "SignalExternalWorkflowExecutionFailed"
  | .externalWorkflowExecutionSignaled => "ExternalWorkflowExecutionSignaled"
  | .requestCancelExternalWorkflowExecutionInitiated =>
    "RequestCancelExternalWorkflowExecutionInitiated"
  | .requestCancelExternalWorkflowExecutionFailed => "RequestCancelExternalWorkflowExecutionFailed"
  | .externalWorkflowExecutionCancelRequested => "ExternalWorkflowExecutionCancelRequested"
  | .lambdaFunctionScheduled => "LambdaFunctionScheduled"
  | .scheduleLambdaFunctionFailed => "ScheduleLambdaFunctionFailed"
  | .lambdaFunctionStarted => "LambdaFunctionStarted"
  | .startLambdaFunctionFailed => "StartLambdaFunctionFailed"
  | .lambdaFunctionCompleted => "LambdaFunctionCompleted"
  | .lambdaFunctionFailed => "LambdaFunctionFailed"
  | .lambdaFunctionTimedOut => "LambdaFunctionTimedOut"

/-- The category of a type. -/
def category : EventType → EventCategory
  | .workflowExecutionStarted | .workflowExecutionCompleted | .completeWorkflowExecutionFailed
  | .workflowExecutionFailed | .failWorkflowExecutionFailed | .workflowExecutionTimedOut
  | .workflowExecutionCanceled | .cancelWorkflowExecutionFailed
  | .workflowExecutionCancelRequested | .workflowExecutionTerminated => .workflowExecution
  | .decisionTaskScheduled | .decisionTaskStarted | .decisionTaskCompleted
  | .decisionTaskTimedOut => .decisionTask
  | .taskScheduled | .scheduleTaskFailed | .taskStarted | .taskCompleted | .taskFailed
  | .taskTimedOut | .taskCanceled | .taskCancelRequested | .requestCancelTaskFailed => .task
  | .timerStarted | .startTimerFailed | .timerFired | .timerCanceled | .cancelTimerFailed =>
    .timer
  | .markerRecorded | .recordMarkerFailed => .marker
  | .workflowExecutionSignaled => .signal
  | .startChildWorkflowExecutionInitiated | .startChildWorkflowExecutionFailed
  | .childWorkflowExecutionStarted | .childWorkflowExecutionCompleted
  | .childWorkflowExecutionFailed | .childWorkflowExecutionTimedOut
  | .childWorkflowExecutionCanceled | .childWorkflowExecutionTerminated => .childWorkflow
  | .signalExternalWorkflowExecutionInitiated | .signalExternalWorkflowExecutionFailed
  | .externalWorkflowExecutionSignaled | .requestCancelExternalWorkflowExecutionInitiated
  | .requestCancelExternalWorkflowExecutionFailed | .externalWorkflowExecutionCancelRequested =>
    .externalWorkflow
  | .lambdaFunctionScheduled | .scheduleLambdaFunctionFailed | .lambdaFunctionStarted
  | .startLambdaFunctionFailed | .lambdaFunctionCompleted | .lambdaFunctionFailed
  | .lambdaFunctionTimedOut => .lambda

/-- All types. -/
def all : List EventType :=
  [.workflowExecutionStarted, .workflowExecutionCompleted, .completeWorkflowExecutionFailed,
    .workflowExecutionFailed, .failWorkflowExecutionFailed, .workflowExecutionTimedOut,
    .workflowExecutionCanceled, .cancelWorkflowExecutionFailed, .workflowExecutionCancelRequested,
    .workflowExecutionTerminated,
    .decisionTaskScheduled, .decisionTaskStarted, .decisionTaskCompleted, .decisionTaskTimedOut,
    .taskScheduled, .scheduleTaskFailed, .taskStarted, .taskCompleted, .taskFailed, .taskTimedOut,
    .taskCanceled, .taskCancelRequested, .requestCancelTaskFailed,
    .timerStarted, .startTimerFailed, .timerFired, .timerCanceled, .cancelTimerFailed,
    .markerRecorded, .recordMarkerFailed,
    .workflowExecutionSignaled,
    .startChildWorkflowExecutionInitiated, .startChildWorkflowExecutionFailed,
    .childWorkflowExecutionStarted, .childWorkflowExecutionCompleted,
    .childWorkflowExecutionFailed, .childWorkflowExecutionTimedOut,
    .childWorkflowExecutionCanceled, .childWorkflowExecutionTerminated,
    .signalExternalWorkflowExecutionInitiated, .signalExternalWorkflowExecutionFailed,
    .externalWorkflowExecutionSignaled, .requestCancelExternalWorkflowExecutionInitiated,
    .requestCancelExternalWorkflowExecutionFailed, .externalWorkflowExecutionCancelRequested,
    .lambdaFunctionScheduled, .scheduleLambdaFunctionFailed, .lambdaFunctionStarted,
    .startLambdaFunctionFailed, .lambdaFunctionCompleted, .lambdaFunctionFailed,
    .lambdaFunctionTimedOut]

/-- The type with a written name. -/
def ofName? (name : String) : Option EventType := all.find? (·.name = name)

/-- The types that report that a close decision was refused. -/
def isCloseFailure : EventType → Bool
  | .completeWorkflowExecutionFailed | .failWorkflowExecutionFailed
  | .cancelWorkflowExecutionFailed => true
  | _ => false

/-- A type as it is written. -/
def reader : Json.Reader EventType := Json.Reader.word ofName?

end EventType

end DurableWorkflow
