import DurableWorkflow.Duration
import DurableWorkflow.Service.Basic

/-!
# Settings

How a poller polls, and how many pollers a worker runs.

## Main Definitions

* `PollerSettings`: the settings of one poller.
* `WorkerSettings`: the settings of a worker.
-/

namespace DurableWorkflow

/-- What a poller does when a poll yields nothing or fails. -/
inductive ConsumeMode where
  /-- It polls again. -/
  | repeatedly
  /-- It stops with an error. -/
  | failFast
  deriving DecidableEq, Repr

/-- The settings of a poller. -/
structure PollerSettings where
  /-- The identity told to the service; a new one is made up if there is none. -/
  identity : Option String
  domain : String
  taskList : String
  /-- How long a poll may take, if that is bounded. -/
  pollTimeout : Option Duration
  /-- How many units may be processed at once. -/
  concurrency : Nat
  /-- How long to pause after a failed poll. -/
  errorPause : Duration
  mode : ConsumeMode
  /-- How long to wait for units in flight when stopping. -/
  shutdownTimeout : Duration
  deriving DecidableEq

namespace PollerSettings

/-- The settings that hold where nothing is said. -/
def standard : PollerSettings where
  identity := none
  domain := "default"
  taskList := "default"
  pollTimeout := none
  concurrency := 1
  errorPause := .ofSeconds 1
  mode := .repeatedly
  shutdownTimeout := .ofSeconds 30

instance : Inhabited PollerSettings := ⟨standard⟩

/-- The poll request of a poller; `madeUp` is its identity if the settings give none. -/
def request (s : PollerSettings) (madeUp : String) : PollRequest :=
  ⟨s.domain, s.taskList, s.identity.getD madeUp⟩

end PollerSettings

/-- The settings of a worker. -/
structure WorkerSettings where
  /-- The identity that those of the pollers start with; a new one is made up if there is none. -/
  identity : Option String
  decisionPollers : Nat
  taskPollers : Nat
  poller : PollerSettings
  deriving DecidableEq

namespace WorkerSettings

/-- The settings that hold where nothing is said. -/
def standard : WorkerSettings := ⟨none, 1, 1, .standard⟩

instance : Inhabited WorkerSettings := ⟨standard⟩

end WorkerSettings

end DurableWorkflow
