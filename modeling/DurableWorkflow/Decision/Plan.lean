import DurableWorkflow.Decision.Draft

/-!
# Plans

What a handler does to the draft of a cycle: a sequence of steps, each of which may depend on what
the earlier ones gave.

## Main Definitions

* `Plan`: a sequence of steps on a draft.
* `Plan.run`: the draft after the steps, and how they ended.

## Design Notes

A plan can only append through the operations of `Draft` and look at the decisions so far.  What
holds after each of those operations thus holds after every handler.
-/

namespace DurableWorkflow

/-- Steps on a draft. -/
inductive Plan where
  | done
  /-- Gives up with a message. -/
  | fail (message : String)
  /-- Breaks off in a way that the handler does not report itself. -/
  | crash (message : String)
  | schedule (request : TaskRequest) (next : String → Plan)
  | startTimer (timerId : String) (startToFire : Duration) (control : Option String) (next : Plan)
  | cancelTimer (timerId : String) (force : Bool) (next : Plan)
  | recordMarker (markerName : String) (details : Option String) (next : Plan)
  | close (control : CloseControl) (next : Plan)
  /-- Looks at the decisions so far. -/
  | inspect (next : DecisionBatch → Plan)

namespace Plan

/-- How the steps of a plan ended. -/
inductive Ending where
  | done
  | failed (message : String)
  | crashed (message : String)
  deriving DecidableEq, Repr

/-- Carries out the steps. -/
def run : Plan → Draft → Ending × Draft
  | .done, d => (.done, d)
  | .fail message, d => (.failed message, d)
  | .crash message, d => (.crashed message, d)
  | .schedule request next, d => run (next (d.nextTaskId request.taskType)) (d.schedule request)
  | .startTimer timerId startToFire control next, d =>
    run next (d.startTimer timerId startToFire control)
  | .cancelTimer timerId force next, d => run next (d.cancelTimer timerId force)
  | .recordMarker markerName details next, d => run next (d.recordMarker markerName details)
  | .close control next, d => run next (d.close control)
  | .inspect next, d => run (next d.decisions) d

end Plan

end DurableWorkflow
