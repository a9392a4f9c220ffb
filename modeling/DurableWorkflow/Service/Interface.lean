import DurableWorkflow.Error
import DurableWorkflow.Service.Basic
import DurableWorkflow.Task.Outcome

/-!
# Calls to the service

What a worker asks of the service, and how a service answers.

## Main Definitions

* `Reply`: when and how a call is answered.
* `Service`: a service with states of some type.
* `Call`: a call as it is noted down.
-/

namespace DurableWorkflow

/-- How a call ends. -/
inductive Answer (α : Type) where
  | given (value : α)
  /-- The call itself breaks off. -/
  | broken (message : String)

/-- When and how a call is answered. -/
inductive Reply (α : Type) where
  /-- After a number of milliseconds. -/
  | after (ms : Nat) (answer : Answer α)
  | never

/-- A call to the service may be refused. -/
abbrev Remote (α : Type) := Except RemoteError α

/-- A service whose state a call changes when it is made. -/
structure Service (State : Type) where
  /-- A poll for a decision task, or for the page that a token announced. -/
  pollDecision : PollRequest → Option String → State → State × Reply (Remote (Option HistoryPage))
  /-- All decisions of a task. -/
  submit : String → DecisionBatch → State → State × Reply (Remote PUnit)
  pollTask : PollRequest → State → State × Reply (Remote (Option TaskAssignment))
  /-- The outcome of a task. -/
  report : String → TaskOutcome → State → State × Reply (Remote PUnit)
  /-- A sign of life; the answer says whether the task should stop. -/
  heartbeat : String → Option String → State → State × Reply (Remote Bool)

/-- A call as it is noted down. -/
inductive Call where
  | pollDecision (request : PollRequest) (page : Option String)
  | submit (token : String) (batch : DecisionBatch)
  | pollTask (request : PollRequest)
  | report (token : String) (outcome : TaskOutcome)
  | heartbeat (token : String) (details : Option String)
  deriving DecidableEq

end DurableWorkflow
