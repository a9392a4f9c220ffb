import DurableWorkflow.Error
import DurableWorkflow.Event.Basic

/-!
# History logs

A log is a complete history, the newest event first, together with the point up to which it has
already been decided on.

## Main Definitions

* `EventLog`: a history.
* `EventLog.assemble`: the log of delivered events, in any order and with repetitions.
* `EventLog.after`, `EventLog.newEvents`: the events beyond a point, the oldest first.
* `EventLog.get?`, `EventLog.latestMarker`, `EventLog.scheduledEventFor`: looking events up.
* `EventLog.taskState`: how far a task has come.

## Design Notes

Events are stored by descending number.  What holds of every log follows from how `assemble` builds
it: the numbers are `n, n - 1, ..., 1`.
-/

namespace DurableWorkflow

/-- How far a task has come. -/
inductive TaskState where
  /-- Never scheduled. -/
  | initial
  | scheduled
  | scheduleFailed
  | started
  | cancelRequested
  | completed
  | failed
  | timedOut
  | canceled
  deriving DecidableEq, Repr

namespace TaskState

/-- The name of a state. -/
def name : TaskState → String
  | .initial => "Initial"
  | .scheduled => "Scheduled"
  | .scheduleFailed => "ScheduleFailed"
  | .started => "Started"
  | .cancelRequested => "CancelRequested"
  | .completed => "Completed"
  | .failed => "Failed"
  | .timedOut => "TimedOut"
  | .canceled => "Canceled"

/-- Whether the task brings about no further events. -/
def isClosed : TaskState → Bool
  | .scheduleFailed | .completed | .failed | .timedOut | .canceled => true
  | _ => false

end TaskState

/-- A history, the newest event first. -/
structure EventLog where
  events : List Event
  /-- The start of the last decision that has been taken, 0 if there is none. -/
  previousStartedEventId : Int
  deriving DecidableEq

namespace EventLog

/-- Puts an event into a list of descending numbers, behind those with its own number. -/
def insertDescending (e : Event) : List Event → List Event
  | [] => [e]
  | x :: rest => if x.id < e.id then e :: x :: rest else x :: insertDescending e rest

/-- Sorts events by descending number; events of one number keep their order. -/
def sortDescending (delivered : List Event) : List Event :=
  delivered.foldl (fun sorted e => insertDescending e sorted) []

/-- Keeps the first of neighbours with the same number. -/
def dropRepeated : List Event → List Event
  | [] => []
  | x :: rest =>
    match dropRepeated rest with
    | [] => [x]
    | y :: more => if x.id = y.id then x :: more else x :: y :: more

/-- The first number from `expected` on that is not the number of the next event. -/
def firstGap? : Int → List Event → Option Int
  | _, [] => none
  | expected, e :: rest => if e.id = expected then firstGap? (expected + 1) rest else some expected

/-- The log of delivered events.  Of several events with one number the first one delivered counts,
and the numbers have to run from 1 without a gap. -/
def assemble (delivered : List Event) (previousStartedEventId : Int) : Except Error EventLog :=
  let events := dropRepeated (sortDescending delivered)
  if events.isEmpty then .error .emptyHistory
  else
    match firstGap? 1 events.reverse with
    | some missing => .error (.incompleteHistory missing)
    | none => .ok ⟨events, previousStartedEventId⟩

variable (log : EventLog)

/-- How many events there are. -/
def size : Nat := log.events.length

/-- The event with a number. -/
def get? (id : Int) : Option Event := log.events.find? (·.id = id)

/-- The newest event. -/
def newest? : Option Event := log.events.head?

/-- The oldest event. -/
def oldest? : Option Event := log.events.getLast?

/-- The events beyond a number, the oldest first. -/
def after (boundary : Int) : List Event :=
  (log.events.takeWhile fun e => decide (boundary < e.id)).reverse

/-- The events that have not been decided on, the oldest first. -/
def newEvents : List Event := log.after log.previousStartedEventId

/-- The event that started the run, if the history begins with it. -/
def workflowStarted? : Option Event :=
  log.oldest?.filter fun e => e.type = .workflowExecutionStarted

/-- All recorded markers, the newest first. -/
def markers : List Event := log.events.filter fun e => e.type = .markerRecorded

/-- All received signals, the newest first. -/
def signals : List Event := log.events.filter fun e => e.type = .workflowExecutionSignaled

/-- The marker recorded last under a name. -/
def latestMarker (name : String) : Option Event :=
  log.markers.find? fun e =>
    match e.attributes with
    | .markerRecorded markerName _ => markerName = name
    | _ => false

/-- The details of the marker recorded last under a name. -/
def latestMarkerDetails (name : String) : Option String :=
  (log.latestMarker name).bind fun e =>
    match e.attributes with
    | .markerRecorded _ details => details
    | _ => none

/-- The latest schedule of a task. -/
def scheduledEventFor (taskId : String) : Option Event :=
  log.events.find? fun e =>
    match e.attributes with
    | .taskScheduled id .. => id = taskId
    | _ => false

/-- The state into which an event puts the task whose current schedule is `scheduled`. -/
def impliedState (taskId : String) (scheduled : Option Int) (e : Event) : Option TaskState :=
  let concerning (id : Int) (state : TaskState) : Option TaskState :=
    if some id = scheduled then some state else none
  match e.attributes with
  | .scheduleTaskFailed id .. => if id = taskId then some .scheduleFailed else none
  | .taskCancelRequested id => if id = taskId then some .cancelRequested else none
  | .taskScheduled id .. => if id = taskId then some .scheduled else none
  | .taskStarted id _ => concerning id .started
  | .taskCompleted id _ => concerning id .completed
  | .taskFailed id .. => concerning id .failed
  | .taskTimedOut id .. => concerning id .timedOut
  | .taskCanceled id _ => concerning id .canceled
  | _ => none

/-- How far a task has come: what the newest event that concerns it says. -/
def taskState (taskId : String) : TaskState :=
  let scheduled := (log.scheduledEventFor taskId).map (·.id)
  (log.events.findSome? (impliedState taskId scheduled)).getD .initial

end EventLog

end DurableWorkflow
