import DurableWorkflow.Decision.Basic
import DurableWorkflow.History.Context
import DurableWorkflow.Notice
import DurableWorkflow.Retry.Control
import DurableWorkflow.Retry.Policy

/-!
# Retrying tasks

What the retry policies make of an event.  All that is known of earlier retries stands in the
history: a failed task starts a timer, and when the timer fires its schedule is repeated and the
count of retries recorded anew.

## Main Definitions

* `RetryVerdict`: what is done about an event.
* `RetryPolicies.judge`: the verdict on an event.
-/

namespace DurableWorkflow

/-- What is done about an event for the sake of retries. -/
inductive RetryVerdict where
  /-- Nothing; the event goes its usual way. -/
  | pass
  /-- Nothing, although the event is that of a retry timer: the timer has no control. -/
  | passOrphan
  /-- A timer is started after which the task is tried again. -/
  | wait (timerId : String) (delay : Duration) (control : RetryControl)
  /-- The task is scheduled again, as before, and the retry is counted. -/
  | again (schedule : Decision) (markerName : String) (count : RetryCount)
  /-- No retry is left. -/
  | exhausted
  deriving DecidableEq

/-- The retries recorded so far under the name of a counting marker. -/
def EventLog.retryCount (log : EventLog) (markerName : String) : Except Error RetryCount :=
  match log.latestMarkerDetails markerName with
  | some details => RetryCount.decode details
  | none => .ok 0

/-- The decision that repeats a schedule, if the event is one. -/
def Event.repeatedSchedule? (e : Event) : Option Decision :=
  match e.attributes with
  | .taskScheduled taskId taskType input control options =>
    some (.scheduleTask taskId taskType input control options)
  | _ => none

namespace RetryPolicies

/-- The verdict on the failure of a task. -/
def judgeFailure (p : RetryPolicies) (ctx : EventContext) : Except Error RetryVerdict :=
  match ctx.details with
  | .task task =>
    let policy := p.policyFor task.taskType
    match policy.retries, task.scheduledEventId with
    | true, some scheduledEventId => do
      let markerName := retryMarkerName task.taskType task.taskId
      let retries ← ctx.log.retryCount markerName
      match policy.delayBefore? retries.succ with
      | some delay =>
        pure (.wait (retryTimerId task.taskType task.taskId) delay ⟨scheduledEventId, markerName⟩)
      | none => pure .exhausted
    | _, _ => pure .pass
  | _ => pure .pass

/-- The verdict on the firing of a timer. -/
def judgeTimer (ctx : EventContext) : Except Error RetryVerdict :=
  match ctx.details with
  | .timer timer =>
    if isRetryTimer timer.timerId then
      match timer.control with
      | none => pure .passOrphan
      | some payload => do
        let control ← RetryControl.decode payload
        match (ctx.log.get? control.scheduledEventId).bind Event.repeatedSchedule? with
        | none => .error (ctx.event.unresolved (toString control.scheduledEventId) .taskScheduled)
        | some schedule => do
          let retries ← ctx.log.retryCount control.markerName
          pure (.again schedule control.markerName retries.succ)
    else pure .pass
  | _ => pure .pass

/-- The verdict on an event. -/
def judge (p : RetryPolicies) (ctx : EventContext) : Except Error RetryVerdict :=
  match ctx.event.type with
  | .taskFailed | .taskTimedOut => p.judgeFailure ctx
  | .timerFired => judgeTimer ctx
  | _ => pure .pass

end RetryPolicies

namespace RetryVerdict

/-- What an operator should know of a verdict. -/
def notices : RetryVerdict → List Notice
  | .passOrphan => [.retryTimerWithoutControl]
  | .exhausted => [.retriesExhausted]
  | _ => []

end RetryVerdict

end DurableWorkflow
