import DurableWorkflow.Dispatch.Registry
import DurableWorkflow.Scenario.Basic

/-!
# Handlers as data

A handler as a list of actions, and a registry as a list of handlers, policies and defaults.

## Main Definitions

* `Scenario.Wording`: a text that is given, or taken from the event.
* `Scenario.Action`: one action of a handler.
* `Scenario.Action.plan`: the steps of an action.
* `Scenario.registrations`: the entries of a registry.
-/

namespace DurableWorkflow.Scenario

open Json.Reader (string)

/-- A text of an action. -/
inductive Wording where
  | given (value : Option String)
  /-- The value of a facet of the event. -/
  | facet (facet : Facet)

/-- One action of a handler. -/
inductive Action where
  | schedule (taskType : TaskType) (input control : Wording) (options : TaskOptions)
  | startTimer (timerId : Wording) (duration : Duration) (control : Wording)
  | cancelTimer (timerId : Wording) (force : Bool)
  | recordMarker (name details : Wording)
  | complete (result : Wording)
  | fail (reason details : Wording)
  | cancel (details : Wording)
  | close (control : CloseControl)
  /-- Asks for a text and does nothing with it. -/
  | read (what : Wording)
  | error (message : String)
  | crash (message : String)
  | nothing

/-- Goes on with a text, or gives up if the event does not carry it. -/
def Wording.use (w : Wording) (ctx : Option EventContext) (next : Option String → Plan) : Plan :=
  match w, ctx with
  | .given value, _ => next value
  | .facet f, some ctx =>
    match ctx.facetText f with
    | .ok value => next value
    | .error e => .fail e.message
  | .facet _, none => .fail ""

/-- Goes on with a text that is empty if it is absent. -/
def Wording.name (w : Wording) (ctx : Option EventContext) (next : String → Plan) : Plan :=
  w.use ctx fun value => next (value.getD "")

/-- The steps of an action on an event, if there is one, before further steps. -/
def Action.plan (ctx : Option EventContext) : Action → Plan → Plan
  | .schedule taskType input control options, next =>
    input.use ctx fun input => control.use ctx fun control =>
      .schedule ⟨taskType, input, control, options⟩ fun _ => next
  | .startTimer timerId duration control, next =>
    timerId.name ctx fun timerId => control.use ctx fun control =>
      .startTimer timerId duration control next
  | .cancelTimer timerId force, next =>
    timerId.name ctx fun timerId => .cancelTimer timerId force next
  | .recordMarker name details, next =>
    name.name ctx fun name => details.use ctx fun details => .recordMarker name details next
  | .complete result, next => result.use ctx fun result => .close (.complete result) next
  | .fail reason details, next =>
    reason.use ctx fun reason => details.use ctx fun details => .close (.fail reason details) next
  | .cancel details, next => details.use ctx fun details => .close (.cancel details) next
  | .close control, next => .close control next
  | .read what, next => what.use ctx fun _ => next
  | .error message, _ => .fail message
  | .crash message, _ => .crash message
  | .nothing, next => next

/-- The handler that does actions in order. -/
def handlerOf (actions : List Action) : Handler := fun ctx =>
  actions.foldr (Action.plan (some ctx)) .done

/-- A text, or the facet it is taken from. -/
def wording : Json.Reader Wording
  | s, .object fields =>
    match Json.field? "facet" fields with
    | some (some (.string key)) => (Facet.ofKey? key).map .facet
    | _ => (text s (.object fields)).map .given
  | s, v => (text s v).map .given

/-- The names of the fields of actions. -/
def actionFields : List String :=
  ["do", "task_type", "input", "control", "options", "timer_id", "duration", "force", "name",
    "details", "result", "reason", "what", "message"]

/-- An action. -/
def action : Json.Reader Action := fun s v => do
  let r ← Json.Record.of? actionFields s v
  let worded (name : String) := r.defaulted name wording (.given none)
  let message := valueOr r "message" string ""
  match ← r.omissible "do" string with
  | none | some "snapshot" => pure .nothing
  | some "schedule_task" => do
    let taskType ← r.required "task_type" TaskType.reader
    pure (.schedule taskType (← worded "input") (.given none) .empty)
  | some "schedule" => do
    pure (.schedule (← r.required "task_type" TaskType.reader) (← worded "input")
      (← worded "control") (← valueOr r "options" TaskOptions.reader .empty))
  | some "start_timer" => do
    pure (.startTimer (← worded "timer_id") (← r.required "duration" Duration.reader)
      (← worded "control"))
  | some "cancel_timer" => do
    pure (.cancelTimer (← worded "timer_id") (← r.defaulted "force" flag false))
  | some "record_marker" => do pure (.recordMarker (← worded "name") (← worded "details"))
  | some "complete" => do pure (.complete (← worded "result"))
  | some "fail" => do pure (.fail (← worded "reason") (← worded "details"))
  | some "cancel" => do pure (.cancel (← worded "details"))
  | some "close" => do pure (.close (← r.required "control" CloseControl.reader))
  | some "read" => do pure (.read (← worded "what"))
  | some "error" => message.map .error
  | some "panic" => message.map .crash
  | some _ => none

/-- The key of a handler. -/
def handlerKey (r : Json.Record) : Option HandlerKey := do
  pure ⟨← r.required "event_type" EventType.reader, ← r.required "name" eventName⟩

/-- A handler and its key. -/
def handlerEntry : Json.Reader Registration := fun s v => do
  let r ← Json.Record.of? ["event_type", "name", "actions"] s v
  pure (.handler (← handlerKey r) (handlerOf (← listField r "actions" action)))

/-- The policy of a task type. -/
def policyEntry : Json.Reader Registration := fun s v => do
  let r ← Json.Record.of? ["task_type", "policy"] s v
  pure (.retryPolicy (← r.required "task_type" TaskType.reader)
    (← r.required "policy" RetryPolicy.reader))

/-- The defaults of a task type. -/
def defaultsEntry : Json.Reader Registration := fun s v => do
  let r ← Json.Record.of? ["task_type", "options"] s v
  pure (.taskDefaults (← r.required "task_type" TaskType.reader)
    (← r.required "options" TaskOptions.reader))

/-- The entries of a registry. -/
def registrations : Json.Reader (List Registration)
  | _, .null => some []
  | s, v => do
    let r ← Json.Record.of?
      ["handlers", "retry_policies", "default_retry_policy", "task_defaults"] s v
    let handlers ← listField r "handlers" handlerEntry
    let policies ← listField r "retry_policies" policyEntry
    let standard ← r.omissible "default_retry_policy" RetryPolicy.reader
    let defaults ← listField r "task_defaults" defaultsEntry
    pure (handlers ++ policies ++ standard.toList.map .standardRetryPolicy ++ defaults)

end DurableWorkflow.Scenario
