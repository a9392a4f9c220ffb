import DurableWorkflow.Dispatch.Recovery
import DurableWorkflow.Dispatch.Registry
import DurableWorkflow.Retry.Verdict

/-!
# Routes

Where an event goes: each event takes one of six ways, of which only one calls a handler.

## Main Definitions

* `Route`: the ways.
* `Registry.route`: the way of an event.
* `TaskDetails.givenUpReason`: the reason for which a run fails with a task.
-/

namespace DurableWorkflow

/-- The way of an event. -/
inductive Route where
  /-- A rejected close is issued again. -/
  | reissue (control : CloseControl)
  /-- A failed task waits to be tried again. -/
  | wait (timerId : String) (delay : Duration) (control : RetryControl)
  /-- A task is tried again. -/
  | again (schedule : Decision) (markerName : String) (count : RetryCount)
  /-- A handler is called. -/
  | handle (handler : Handler)
  /-- The run fails because a task has failed for good. -/
  | giveUp (reason : String) (details : Option String)
  /-- Nobody asks for the event. -/
  | skip

/-- Where an event goes and what an operator should know of it. -/
structure Routing where
  route : Route
  notices : List Notice

namespace TaskDetails

/-- The reason for which a run fails when a task has failed for good: the type of the task and its
reason, or else its cause, or else the type of the event. -/
def givenUpReason (d : TaskDetails) (type : EventType) : String :=
  d.taskType.text ++ ": " ++ ((d.reason <|> d.cause).getD type.name)

end TaskDetails

namespace Registry

/-- The way of an event that retries leave to others. -/
def routeForward (r : Registry) (ctx : EventContext) (exhausted : Bool) : Route :=
  match r.handler? ⟨ctx.event.type, ctx.name⟩ with
  | some handler => .handle handler
  | none =>
    match exhausted, ctx.details with
    | true, .task d => .giveUp (d.givenUpReason ctx.event.type) d.details
    | _, _ => .skip

/-- The way of an event on which retries have a verdict. -/
def routeAfter (r : Registry) (ctx : EventContext) : RetryVerdict → Route
  | .wait timerId delay control => .wait timerId delay control
  | .again schedule markerName count => .again schedule markerName count
  | .exhausted => r.routeForward ctx true
  | .pass | .passOrphan => r.routeForward ctx false

/-- The way of an event. -/
def route (r : Registry) (ctx : EventContext) : Except Error Routing :=
  match ctx.recovery? with
  | some recovery => .ok ⟨.reissue recovery.control, recovery.notices⟩
  | none =>
    (r.policies.judge ctx).map fun verdict => ⟨r.routeAfter ctx verdict, verdict.notices⟩

end Registry

end DurableWorkflow
