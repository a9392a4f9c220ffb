import DurableWorkflow.Dispatch.Cycle
import DurableWorkflow.Polling.Source
import DurableWorkflow.Service.Interface

/-!
# Hosts

What the pollers of a worker share: the service, the supply of fresh texts, and a record of the
calls that have been made.

## Main Definitions

* `Host`: the shared environment.
* `Host.call`: a call to the service.
-/

namespace DurableWorkflow

/-- What the pollers of a worker share. -/
structure Host (State : Type) where
  service : State
  fresh : FreshTexts
  /-- The calls to the service with their times. -/
  calls : List (Time × Call)
  /-- The contexts that handlers were called with. -/
  handled : List EventContext

namespace Host

variable {State : Type}

/-- A host before its first call. -/
def start (service : State) (fresh : FreshTexts) : Host State := ⟨service, fresh, [], []⟩

/-- Makes a call and notes it down. -/
def call {α : Type} (now : Time) (what : Call) (make : State → State × Reply α) (h : Host State) :
    Host State × Reply α :=
  let (service, reply) := make h.service
  ({ h with service := service, calls := h.calls ++ [(now, what)] }, reply)

end Host

/-- Goes on with the answer to a call when it comes. -/
def Reply.progress {α S R : Type} (reply : Reply α) (next : Answer α → S) : Progress S R :=
  match reply with
  | .never => .never
  | .after ms answer => .wait ms (next answer)

end DurableWorkflow
