import DurableWorkflow.Duration
import DurableWorkflow.Error
import DurableWorkflow.Notice

/-!
# Sources of work

A source is polled for units of work and processes them.  Polls and units are computations that
may wait; time enters them only as the present moment and as a number of milliseconds to wait.

## Main Definitions

* `Activity`: what a poller is seen to be doing.
* `Progress`: how far a computation has come.
* `PollSource`: how to poll and to process.

## Design Notes

A step of a computation acts on an environment that all computations share.  It is one uninterrupted
piece of work, from one point at which the computation waits to the next.
-/

namespace DurableWorkflow

/-- Milliseconds since the start. -/
abbrev Time := Nat

/-- Whole milliseconds, rounded up, that a duration takes. -/
def Duration.ceilMillis (d : Duration) : Nat := (d.total + (nanosPerMilli - 1)) / nanosPerMilli

/-- What a poller is seen to be doing. -/
inductive Activity where
  | idle
  | polling
  | dispatching
  | executing
  | reporting
  | stopped
  deriving DecidableEq, Repr, Inhabited

/-- The name of an activity. -/
def Activity.name : Activity → String
  | .idle => "Idle"
  | .polling => "Polling"
  | .dispatching => "Dispatching"
  | .executing => "Executing"
  | .reporting => "Reporting"
  | .stopped => "Stopped"

/-- How far a computation with states `State` has come. -/
inductive Progress (State Result : Type) where
  | done (result : Result)
  /-- It has broken off. -/
  | crash (message : String)
  /-- It goes on after a number of milliseconds, at once if there are none. -/
  | wait (ms : Nat) (next : State)
  /-- It goes on after all that is ready now. -/
  | yield (next : State)
  /-- It never goes on. -/
  | never

/-- The result of a unit of work. -/
abbrev UnitResult := Except Error PUnit

/-- A step of a unit of work. -/
structure UnitStep (Env Job : Type) where
  env : Env
  /-- What the poller is seen to do in turn. -/
  entered : List Activity
  notices : List Notice
  progress : Progress Job UnitResult

/-- Something to poll and to process units of work from. -/
structure PollSource (Env Fetch Job : Type) where
  /-- The kind of the units, in messages. -/
  kind : String
  /-- A poll before its first step. -/
  start : Fetch
  /-- A step of a poll, which gives a unit of work or nothing. -/
  poll : Time → Env → Fetch → Env × Progress Fetch (Except Error (Option Job))
  /-- A step of a unit. -/
  process : Time → Env → Job → UnitStep Env Job
  /-- What goes on by itself when a unit is aborted. -/
  detached : Job → Option Job
  /-- Whether an error of a unit stops the poller. -/
  isFatal : Error → Bool

end DurableWorkflow
