import DurableWorkflow.Worker.Decision
import DurableWorkflow.Worker.Task

/-!
# The two kinds of pollers

Pollers for decision tasks and pollers for tasks, with states of one type so that they can share a
worker.

## Main Definitions

* `Fetching`, `Working`: the states of polls and of units of either kind.
* `DecisionDuty.source`, `TaskDuty.source`: the sources of work.
-/

namespace DurableWorkflow

/-- A poll of either kind. -/
inductive Fetching where
  | decision (state : Collection)
  | task (state : TaskPoll)

/-- A unit of either kind. -/
inductive Working where
  | decision (state : Deciding)
  | task (state : Executing)

namespace Progress

/-- Changes the states of a computation. -/
def map {S T R : Type} (f : S → T) : Progress S R → Progress T R
  | .done r => .done r
  | .crash m => .crash m
  | .wait ms next => .wait ms (f next)
  | .yield next => .yield (f next)
  | .never => .never

/-- Changes the states and the unit of a poll. -/
def mapPoll {S T A B : Type} (f : S → T) (g : A → B) :
    Progress S (Except Error (Option A)) → Progress T (Except Error (Option B))
  | .done r => .done (r.map (Option.map g))
  | .crash m => .crash m
  | .wait ms next => .wait ms (f next)
  | .yield next => .yield (f next)
  | .never => .never

end Progress

/-- Changes the states of a unit. -/
def UnitStep.map {Env S T : Type} (f : S → T) (step : UnitStep Env S) : UnitStep Env T :=
  ⟨step.env, step.entered, step.notices, step.progress.map f⟩

/-- The source of decision tasks. -/
def DecisionDuty.source {State : Type} (d : DecisionDuty State) :
    PollSource (Host State) Fetching Working where
  kind := "decision"
  start := .decision .start
  poll now h
    | .decision state =>
      let (h, progress) := d.poll now h state
      (h, progress.mapPoll .decision fun task => .decision (.collected task))
    | .task _ => (h, .never)
  process now h
    | .decision state => (d.process now h state).map .decision
    | .task _ => ⟨h, [], [], .never⟩
  detached _ := none
  isFatal e := e.isFatal

/-- The source of tasks.  No error of a task stops its poller. -/
def TaskDuty.source {State : Type} (d : TaskDuty State) :
    PollSource (Host State) Fetching Working where
  kind := "task"
  start := .task .start
  poll now h
    | .task state =>
      let (h, progress) := d.poll now h state
      (h, progress.mapPoll .task fun assignment => .task (.assigned assignment))
    | .decision _ => (h, .never)
  process now h
    | .task state => (d.process now h state).map .task
    | .decision _ => ⟨h, [], [], .never⟩
  detached
    | .task state => state.detached.map .task
    | .decision _ => none
  isFatal _ := false

end DurableWorkflow
