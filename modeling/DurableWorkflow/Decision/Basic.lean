import DurableWorkflow.Event.Identity
import DurableWorkflow.Options

/-!
# Decisions

A decision is one instruction to the service.  The decisions of one cycle go out together, as a
batch in which order counts.

## Main Definitions

* `Decision`: an instruction.
* `Decision.isTerminal`: whether it closes the run.
* `DecisionBatch`: the decisions of one cycle.
* `TaskRequest`: what a caller says of a task to schedule.
-/

namespace DurableWorkflow

/-- One instruction to the service. -/
inductive Decision where
  | scheduleTask (taskId : String) (taskType : TaskType) (input control : Option String)
      (options : TaskOptions)
  | startTimer (timerId : String) (startToFire : Duration) (control : Option String)
  | cancelTimer (timerId : String)
  | recordMarker (markerName : String) (details : Option String)
  | completeWorkflow (result : Option String)
  | failWorkflow (reason details : Option String)
  | cancelWorkflow (details : Option String)
  deriving DecidableEq

/-- The decisions of one cycle, in order. -/
abbrev DecisionBatch := List Decision

/-- Whether a decision closes the run. -/
def Decision.isTerminal : Decision → Bool
  | .completeWorkflow _ | .failWorkflow _ _ | .cancelWorkflow _ => true
  | _ => false

/-- A task to schedule. -/
structure TaskRequest where
  taskType : TaskType
  input : Option String
  control : Option String
  options : TaskOptions
  deriving DecidableEq

/-- A task with an input and all options open. -/
def TaskRequest.plain (taskType : TaskType) (input : Option String) : TaskRequest :=
  ⟨taskType, input, none, .empty⟩

end DurableWorkflow
