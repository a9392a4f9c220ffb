import DurableWorkflow.Decision.Basic
import DurableWorkflow.Event.Basic

/-!
# What the service hands out

The service keeps histories and queues.  It hands out decision tasks, page by page, and assignments.

## Main Definitions

* `PollRequest`: who asks for work, and where.
* `HistoryPage`: one page of a decision task.
* `DecisionTask`: a decision task with the events of all its pages.
* `TaskAssignment`: one task for a worker.
-/

namespace DurableWorkflow

/-- Who asks for work, and where. -/
structure PollRequest where
  domain : String
  taskList : String
  identity : String
  deriving DecidableEq, Repr, Inhabited

/-- One page of a decision task. -/
structure HistoryPage where
  taskToken : String
  execution : Execution
  workflowType : WorkflowType
  /-- The start of the last decision that has been taken, 0 if there is none. -/
  previousStartedEventId : Int
  startedEventId : Int
  events : List Event
  /-- The token of the page that follows, if there is one. -/
  nextPageToken : Option String
  deriving DecidableEq

/-- A decision task with the events of all pages. -/
structure DecisionTask where
  taskToken : String
  workflow : WorkflowInfo
  previousStartedEventId : Int
  events : List Event
  deriving DecidableEq

namespace DecisionTask

/-- A task as its first page describes it. -/
def ofFirstPage (domain : String) (page : HistoryPage) : DecisionTask where
  taskToken := page.taskToken
  workflow := ⟨domain, page.execution, page.workflowType, page.startedEventId⟩
  previousStartedEventId := page.previousStartedEventId
  events := page.events

/-- Adds the events of a further page.  All else stays as the first page has it. -/
def extend (task : DecisionTask) (page : HistoryPage) : DecisionTask :=
  { task with events := task.events ++ page.events }

end DecisionTask

/-- One task for a worker. -/
structure TaskAssignment where
  taskToken : String
  taskId : String
  taskType : TaskType
  input : Option String
  execution : Execution
  startedEventId : Int
  deriving DecidableEq, Repr

end DurableWorkflow
