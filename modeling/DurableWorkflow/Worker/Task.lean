import DurableWorkflow.Task.Run
import DurableWorkflow.Worker.Host

/-!
# Executing

Assigned tasks are executed, and each one that ends is reported once.

## Main Definitions

* `Executing`: an assignment that is being executed.
* `TaskDuty`: what a poller for tasks works with.
* `Executing.detached`: what goes on of an aborted assignment.

## Design Notes

An executor runs on its own: when its assignment is aborted, the executor goes on, but its outcome
is not reported.
-/

namespace DurableWorkflow

/-- A poll for a task. -/
inductive TaskPoll where
  | start
  | answered (answer : Answer (Remote (Option TaskAssignment)))

/-- An assignment in the hands of a poller. -/
inductive Executing where
  | assigned (assignment : TaskAssignment)
  /-- Its executor is running. -/
  | running (assignment : TaskAssignment) (run : TaskRun)
  /-- Its executor has ended. -/
  | ended (assignment : TaskAssignment) (outcome : TaskOutcome)
  /-- The answer to the report of an outcome. -/
  | reported (outcome : TaskOutcome) (answer : Answer (Remote PUnit))

/-- What goes on of an aborted assignment: a running executor. -/
def Executing.detached : Executing → Option Executing
  | .running assignment run => some (.running assignment run)
  | _ => none

/-- What a poller for tasks works with. -/
structure TaskDuty (State : Type) where
  service : Service State
  registry : TaskRegistry
  request : PollRequest

namespace TaskDuty

variable {State : Type} (d : TaskDuty State)

/-- A step of a poll. -/
def poll (now : Time) (h : Host State) :
    TaskPoll → Host State × Progress TaskPoll (Except Error (Option TaskAssignment))
  | .start =>
    let (h, reply) := h.call now (.pollTask d.request) (d.service.pollTask d.request)
    (h, reply.progress .answered)
  | .answered (.broken message) => (h, .crash message)
  | .answered (.given (.error e)) => (h, .done (.error (.remote e)))
  | .answered (.given (.ok assignment)) => (h, .done (.ok assignment))

/-- A run goes on with the answer to a sign of life. -/
def resume (next : Remote Bool → TaskRun) : Answer (Remote Bool) → TaskRun
  | .given answer => next answer
  | .broken message => .crash (some message)

/-- A step of a running executor. -/
def stepRun (now : Time) (h : Host State) (a : TaskAssignment) :
    TaskRun → Host State × Progress Executing UnitResult
  | .finish outcome => (h, .yield (.ended a outcome))
  | .fail e => (h, .yield (.ended a e.outcome))
  | .crash message => (h, .yield (.ended a (.ofCrash message)))
  | .sleep ms next => (h, .wait ms (.running a next))
  | .heartbeat details next =>
    let (h, reply) :=
      h.call now (.heartbeat a.taskToken details) (d.service.heartbeat a.taskToken details)
    (h, reply.progress fun answer => .running a (resume next answer))

/-- Reports the outcome of an assignment. -/
def report (now : Time) (h : Host State) (a : TaskAssignment) (outcome : TaskOutcome) :
    Host State × Progress Executing UnitResult :=
  let outcome := outcome.clipped
  let (h, reply) := h.call now (.report a.taskToken outcome) (d.service.report a.taskToken outcome)
  (h, reply.progress (.reported outcome))

/-- What an operator should know of an outcome that has been reported. -/
def outcomeNotices : TaskOutcome → List Notice
  | .failed .. => [.taskFailed]
  | _ => []

/-- A step of an assignment. -/
def process (now : Time) (h : Host State) : Executing → UnitStep (Host State) Executing
  | .assigned a =>
    match d.registry.executor? a.taskType with
    | some executor =>
      ⟨h, [.executing], [], .yield (.running a (executor a d.request.identity))⟩
    | none =>
      let (h, progress) := d.report now h a (.unknownType a.taskType)
      ⟨h, [.executing, .reporting], [.noExecutor], progress⟩
  | .running a run =>
    let (h, progress) := d.stepRun now h a run
    ⟨h, [], [], progress⟩
  | .ended a outcome =>
    let (h, progress) := d.report now h a outcome
    ⟨h, [.reporting], [], progress⟩
  | .reported outcome (.given (.ok _)) => ⟨h, [], outcomeNotices outcome, .done (.ok ⟨⟩)⟩
  | .reported _ (.given (.error e)) => ⟨h, [], [], .done (.error (.remote e))⟩
  | .reported _ (.broken message) => ⟨h, [], [], .crash message⟩

end TaskDuty

end DurableWorkflow
