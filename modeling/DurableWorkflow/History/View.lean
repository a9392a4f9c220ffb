import DurableWorkflow.History.Context

/-!
# The written form of contexts

A context is written with all that a handler can ask it.

## Main Definitions

* `EventDetails.toJson`: the data of an event.
* `EventContext.toJson`: a context.
* `EventContext.facetFields`: the facets that an event carries.
* `Event.summary`: an event without what it says.
-/

namespace DurableWorkflow

open Json (ofText? ofOption)

/-- Number, type and category of an event. -/
def Event.summary (e : Event) : Json :=
  .object [("id", .int e.id), ("type", .string e.type.name), ("category", .string e.category.name)]

/-- The data of an event. -/
def EventDetails.toJson : EventDetails → Json
  | .workflow d =>
    .object [("kind", .string "workflow"), ("workflow_type", d.workflowType.toJson),
      ("input", ofText? d.input), ("result", ofText? d.result), ("reason", ofText? d.reason),
      ("details", ofText? d.details), ("cause", ofText? d.cause)]
  | .decisionTask => .object [("kind", .string "decision_task")]
  | .task d =>
    .object [("kind", .string "task"), ("task_id", .string d.taskId),
      ("task_type", d.taskType.toJson),
      ("scheduled_event_id", ofOption (fun n => .int n) d.scheduledEventId),
      ("input", ofText? d.input), ("control", ofText? d.control), ("result", ofText? d.result),
      ("reason", ofText? d.reason), ("details", ofText? d.details), ("cause", ofText? d.cause)]
  | .timer d =>
    .object [("kind", .string "timer"), ("timer_id", .string d.timerId),
      ("control", ofText? d.control), ("start_to_fire", ofOption Duration.toJson d.startToFire),
      ("cause", ofText? d.cause)]
  | .marker d =>
    .object [("kind", .string "marker"), ("marker_name", .string d.markerName),
      ("details", ofText? d.details), ("cause", ofText? d.cause)]
  | .signal d =>
    .object [("kind", .string "signal"), ("signal_name", .string d.signalName),
      ("input", ofText? d.input)]

namespace EventContext

variable (ctx : EventContext)

/-- The value of a facet, or why there is none. -/
def facetJson (f : Facet) : Json :=
  match ctx.facetText f with
  | .ok value => .object [("value", ofText? value)]
  | .error e => .object [("error", .string e.message)]

/-- The values of the facets that the event carries, by key. -/
def facetFields : List (String × Json) :=
  (Facet.all.filter ctx.event.type.hasFacet).map fun f =>
    (f.key, match ctx.facetText f with
      | .ok value => ofText? value
      | .error _ => .null)

/-- The written form. -/
def toJson : Json :=
  .object [("event_id", .int ctx.event.id), ("event_type", .string ctx.event.type.name),
    ("workflow", .string ctx.workflow.execution.text), ("name", .string ctx.name.text),
    ("name_category", .string ctx.name.category.name),
    ("task_id", ofText? (ctx.task?.map (·.taskId))), ("details", ctx.details.toJson),
    ("facets", .object (Facet.all.map fun f => (f.key, ctx.facetJson f)))]

end EventContext

end DurableWorkflow
