import DurableWorkflow.Polling.World

/-!
# Runs up to a stop

A single poller runs until it is asked to stop at a given moment, and then to its end.

## Main Definitions

* `World.runUntilStop`: the run.
* `StopReport`: what is seen of it.
-/

namespace DurableWorkflow

/-- What is seen of a run up to a stop. -/
structure StopReport where
  finishedBefore : Bool
  activityBefore : Activity
  /-- How the loop ended, if it did. -/
  ending : Option (Except String UnitResult)
  activity : Activity
  /-- When it was seen that the loop had ended, not before the stop. -/
  endedAt : Time

namespace World

variable {Env Fetch Job : Type}

/-- The poller of a lane. -/
def poller? (w : World Env Fetch Job) (i : Nat) : Option (Poller Fetch Job) :=
  (w.lanes[i]?).map (·.poller)

/-- How the loop of a lane ended. -/
def ending? (w : World Env Fetch Job) (i : Nat) : Option (Except String UnitResult) :=
  (w.poller? i).bind Poller.ending?

/-- What the poller of a lane is seen to do. -/
def activity (w : World Env Fetch Job) (i : Nat) : Activity :=
  ((w.poller? i).map Poller.activity).getD .idle

/-- Runs up to a moment at which the first lane is asked to stop, before anything else happens at
that moment, and then to its end. -/
def runUntilStop (t : Time) (fuel : Nat) (w : World Env Fetch Job) :
    Option (World Env Fetch Job × StopReport) := do
  let w ← if t = 0 then pure w else (runTo t fuel w).map (advance · t)
  let finishedBefore := (w.ending? 0).isSome
  let activityBefore := w.activity 0
  let w ← if finishedBefore then pure w else runOut none fuel (w.requestStop 0)
  pure (w, ⟨finishedBefore, activityBefore, w.ending? 0, w.activity 0, w.now⟩)

end World

end DurableWorkflow
