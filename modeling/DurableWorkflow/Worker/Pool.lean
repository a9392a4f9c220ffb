import DurableWorkflow.Polling.World
import DurableWorkflow.Worker.Source

/-!
# Pools

A worker runs several pollers of both kinds.  It ends when it is asked to, or with the first failure
of one of its pollers, and then stops the others.

## Main Definitions

* `Pool`: a worker.
* `Pool.lanes`: its pollers.
* `Pool.run`: a run up to a request to stop.

## Design Notes

The worker looks at its pollers whenever nothing else is ready, and in the order in which they have
ended.  A request to stop comes before all else that happens at the same moment.
-/

namespace DurableWorkflow

/-- A worker. -/
structure Pool (State : Type) where
  service : Service State
  /-- The handlers; without any, no decision task is polled for. -/
  registry : Option Registry
  tasks : TaskRegistry
  settings : WorkerSettings
  /-- The start of the identities of the pollers. -/
  identity : String

/-- The end of a run. -/
structure PoolReport where
  result : UnitResult
  endedAt : Time

namespace Pool

variable {State : Type} (pool : Pool State)

/-- A shared world of a worker's pollers. -/
abbrev Shared (State : Type) := World (Host State) Fetching Working

/-- The number of pollers for decision tasks. -/
def decisionPollers : Nat := if pool.registry.isSome then pool.settings.decisionPollers else 0

/-- The number of pollers for tasks: none without executors. -/
def taskPollers : Nat := if pool.tasks.size = 0 then 0 else pool.settings.taskPollers

/-- The identity of a poller: the number is left out if there is only one of its kind. -/
def pollerIdentity (kind : String) (i count : Nat) : String :=
  if count = 1 then pool.identity ++ "-" ++ kind
  else pool.identity ++ "-" ++ kind ++ "-" ++ toString i

/-- The settings of a poller. -/
def pollerSettings (kind : String) (i count : Nat) : PollerSettings :=
  { pool.settings.poller with identity := some (pool.pollerIdentity kind i count) }

/-- The pollers for decision tasks. -/
def decisionLanes (registry : Registry) :
    List (PollSource (Host State) Fetching Working × PollerSettings) :=
  (List.range pool.decisionPollers).map fun i =>
    let settings := pool.pollerSettings "decision" i pool.decisionPollers
    (DecisionDuty.source ⟨pool.service, registry, settings.request pool.identity⟩, settings)

/-- The pollers for tasks. -/
def taskLanes : List (PollSource (Host State) Fetching Working × PollerSettings) :=
  (List.range pool.taskPollers).map fun i =>
    let settings := pool.pollerSettings "task" i pool.taskPollers
    (TaskDuty.source ⟨pool.service, pool.tasks, settings.request pool.identity⟩, settings)

/-- All pollers. -/
def lanes : List (PollSource (Host State) Fetching Working × PollerSettings) :=
  (match pool.registry with
    | some registry => pool.decisionLanes registry
    | none => []) ++ pool.taskLanes

/-- The first failure among the lanes that have ended, in the order in which they did, and what an
operator is told of it. -/
def firstFailure? (w : Shared State) : List Nat → Option (Error × Notice)
  | [] => none
  | i :: rest =>
    match (w.lanes[i]?).bind fun lane => lane.poller.ending? with
    | some (.ok (.error e)) => some (e, .workerPollerFailed)
    | some (.error message) => some (.unitPanicked "poller" message, .workerPollerPanicked)
    | _ => firstFailure? w rest

/-- Stops all pollers and waits for them for a bounded time. -/
def shutdown (fuel : Nat) (w : Shared State) (result : UnitResult) :
    Option (Shared State × PoolReport) :=
  let w := (List.range w.lanes.length).foldl (fun w i => w.requestStop i) w
  if w.ended.length = w.lanes.length then some (w, ⟨result, w.now⟩)
  else
    let deadline := w.now + pool.settings.poller.shutdownTimeout.ceilMillis
    (if deadline = w.now then some w else w.runOut (some deadline) fuel).map fun w =>
      if w.ended.length = w.lanes.length then (w, ⟨result, w.now⟩)
      else
        let w := w.advance deadline
        ({ w with notices := w.notices ++ [.workerForced] }, ⟨result, w.now⟩)

/-- Watches over the pollers until a moment at which the worker is asked to stop. -/
def watch (stopAt : Time) : Nat → Shared State → Option (Shared State × PoolReport)
  | 0, _ => none
  | fuel + 1, w =>
    (w.settle fuel).bind fun w =>
      match firstFailure? w w.ended with
      | some (e, notice) =>
        pool.shutdown fuel { w with notices := w.notices ++ [notice] } (.error e)
      | none =>
        if w.ended.length = w.lanes.length then pool.shutdown fuel w (.ok ⟨⟩)
        else
          match w.nextAlarm? with
          | some next =>
            if next < stopAt then watch stopAt fuel (w.advance next)
            else pool.shutdown fuel (w.advance stopAt) (.ok ⟨⟩)
          | none => pool.shutdown fuel (w.advance stopAt) (.ok ⟨⟩)

/-- A run up to a moment at which the worker is asked to stop, within a number of steps. -/
def run (stopAt : Time) (fuel : Nat) (host : Host State) : Option (Shared State × PoolReport) :=
  let w := World.start host pool.lanes
  if stopAt = 0 then pool.shutdown fuel w (.ok ⟨⟩) else pool.watch stopAt fuel w

end Pool

end DurableWorkflow
