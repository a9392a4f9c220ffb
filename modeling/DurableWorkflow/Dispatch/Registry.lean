import DurableWorkflow.Decision.Plan
import DurableWorkflow.History.Context
import DurableWorkflow.Retry.Policy

/-!
# Registries

Which handler is called for which events, how failed tasks are retried, and which options tasks have
by default.

## Main Definitions

* `Handler`: a plan for each context.
* `HandlerKey`: the events that a handler is called for.
* `Registration`: one entry.
* `Registry.handler?`: the handler for a key.
* `Registry.Builder`: a registry in the making.
* `Registry.build`: the registry with the given entries, or why there is none.

## Design Notes

A key takes one handler, and its name has the shape that events of its type are named by.  A problem
does not stop the registration: the first one is remembered and told in the end.  Of several
policies or defaults for one task type the last one counts.
-/

namespace DurableWorkflow

/-- Reacts to an event with steps on the draft. -/
abbrev Handler := EventContext → Plan

/-- The events that a handler is called for. -/
structure HandlerKey where
  type : EventType
  name : EventName
  deriving DecidableEq, Repr

/-- Whether events of the type are named in the way of the key. -/
def HandlerKey.fits (k : HandlerKey) : Bool := k.name.category = k.type.category

/-- One entry of a registry. -/
inductive Registration where
  | handler (key : HandlerKey) (handler : Handler)
  | retryPolicy (taskType : TaskType) (policy : RetryPolicy)
  | standardRetryPolicy (policy : RetryPolicy)
  | taskDefaults (taskType : TaskType) (options : TaskOptions)

/-- The handlers, policies and defaults in effect. -/
structure Registry where
  /-- The handlers in the order of their registration. -/
  handlers : List (HandlerKey × Handler)
  policies : RetryPolicies
  defaults : TaskType → Option TaskOptions

namespace Registry

/-- A registry without entries. -/
def empty : Registry := ⟨[], .uniform .noRetry, fun _ => none⟩

instance : Inhabited Registry := ⟨empty⟩

variable (r : Registry)

/-- The handler for a key. -/
def handler? (k : HandlerKey) : Option Handler := (r.handlers.find? (·.1 = k)).map (·.2)

/-- How many handlers there are. -/
def size : Nat := r.handlers.length

/-- A registry in the making.  The first problem is kept, and told only when the registry is asked
for. -/
structure Builder where
  /-- The entries so far, without the handlers that were refused or passed over. -/
  registry : Registry
  rejected : Option Error

namespace Builder

/-- Nothing is registered yet. -/
def start : Builder := ⟨empty, none⟩

variable (b : Builder)

/-- Registers a handler.  Behind the first problem handlers are passed over. -/
def register (key : HandlerKey) (handler : Handler) : Builder :=
  match b.rejected with
  | some _ => b
  | none =>
    if key.fits then
      if b.registry.handlers.any (·.1 = key) then
        { b with rejected := some (.duplicateHandler key.type key.name) }
      else
        { b with registry :=
          { b.registry with handlers := b.registry.handlers ++ [(key, handler)] } }
    else { b with rejected := some (.invalidHandlerKey key.type key.name) }

/-- Sets the policy of a task type. -/
def setPolicy (taskType : TaskType) (policy : RetryPolicy) : Builder :=
  { b with registry := { b.registry with policies := b.registry.policies.set taskType policy } }

/-- Sets the policy of all task types without their own. -/
def setStandardPolicy (policy : RetryPolicy) : Builder :=
  { b with registry := { b.registry with policies := b.registry.policies.setStandard policy } }

/-- Sets the defaults of a task type. -/
def setDefaults (taskType : TaskType) (options : TaskOptions) : Builder :=
  { b with registry :=
    { b.registry with defaults := fun t =>
        if t = taskType then some options else b.registry.defaults t } }

/-- Adds an entry. -/
def add : Registration → Builder
  | .handler key handler => b.register key handler
  | .retryPolicy taskType policy => b.setPolicy taskType policy
  | .standardRetryPolicy policy => b.setStandardPolicy policy
  | .taskDefaults taskType options => b.setDefaults taskType options

/-- The registry, or the first problem. -/
def build : Except Error Registry :=
  match b.rejected with
  | some e => .error e
  | none => .ok b.registry

end Builder

/-- The registry with the given entries. -/
def build (entries : List Registration) : Except Error Registry :=
  (entries.foldl Builder.add .start).build

/-- A draft of decisions with the defaults of the registry. -/
def draft (fresh : FreshTexts) : Draft := .start r.defaults fresh

end Registry

end DurableWorkflow
