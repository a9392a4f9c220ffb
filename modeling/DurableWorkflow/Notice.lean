/-!
# Notices

What is brought to an operator's attention while the program runs.

## Main Definitions

* `Notice`: something worth a look.
* `Notice.line`: its level and its message.
-/

namespace DurableWorkflow

/-- Something worth an operator's look. -/
inductive Notice where
  | closeMarkerUnreadable
  | closeMarkerMissing
  | retriesExhausted
  | retryTimerWithoutControl
  | noExecutor
  | taskFailed
  | unitFailed
  | unitFailedWhileStopping
  | pollFailed
  /-- Units were aborted when a poller stopped. -/
  | unitsAborted
  | pollerStopped
  | workerPollerFailed
  | workerPollerPanicked
  /-- Pollers were aborted when a worker stopped. -/
  | workerForced
  deriving DecidableEq, Repr

namespace Notice

/-- Whether the notice is about an error rather than a warning. -/
def isError : Notice → Bool
  | .unitFailedWhileStopping | .pollerStopped | .workerPollerFailed | .workerPollerPanicked => true
  | _ => false

/-- The message. -/
def message : Notice → String
  | .closeMarkerUnreadable =>
    "Close control marker is unreadable, re-issuing close decision without parameters"
  | .closeMarkerMissing =>
    "Close control marker is missing, re-issuing close decision without parameters"
  | .retriesExhausted => "Retry policy exhausted"
  | .retryTimerWithoutControl => "Retry timer fired without control payload"
  | .noExecutor => "No executor registered for task type"
  | .taskFailed => "Task failed"
  | .unitFailed => "Unit failed"
  | .unitFailedWhileStopping => "Unit failed while stopping"
  | .pollFailed => "Poll failed"
  | .unitsAborted => "Shutdown timeout exceeded, aborting in-flight units"
  | .pollerStopped => "Poller stopped on error"
  | .workerPollerFailed => "Poller failed, stopping runtime"
  | .workerPollerPanicked => "Poller panicked, stopping runtime"
  | .workerForced => "Shutdown timeout exceeded, forcing stop"

/-- Level and message. -/
def line (n : Notice) : String := (if n.isError then "ERROR " else "WARN ") ++ n.message

end Notice

end DurableWorkflow
