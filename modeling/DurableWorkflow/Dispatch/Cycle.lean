import DurableWorkflow.Dispatch.Route

/-!
# Decision cycles

A cycle takes the new events of a history, the oldest first, and gives the decisions that they lead
to.  The first event that fails ends the cycle without decisions.

## Main Definitions

* `CycleState`: the draft and what has been noted so far.
* `CycleState.visit`: what one event does.
* `Cycle`: how a cycle ended.
* `Registry.cycle`: the cycle over a history.
-/

namespace DurableWorkflow

/-- A cycle in the making. -/
structure CycleState where
  draft : Draft
  /-- The contexts that handlers were called with. -/
  handled : List EventContext
  notices : List Notice

/-- Why a cycle ends early. -/
inductive Interruption where
  | failed (error : Error)
  /-- A handler broke off. -/
  | crashed (message : String)
  deriving DecidableEq, Repr

namespace CycleState

/-- A cycle before its first event. -/
def start (draft : Draft) : CycleState := ⟨draft, [], []⟩

variable (s : CycleState)

/-- Carries out a plan for a handler's call. -/
def call (ctx : EventContext) (plan : Plan) : CycleState × Option Interruption :=
  let (ending, draft) := plan.run s.draft
  let s' := { s with draft := draft, handled := s.handled ++ [ctx] }
  match ending with
  | .done => (s', none)
  | .failed message => (s', some (.failed (.handler ctx.event.id ctx.event.type message)))
  | .crashed message => (s', some (.crashed message))

/-- Takes an event its way. -/
def follow (ctx : EventContext) : Route → CycleState × Option Interruption
  | .reissue control => ({ s with draft := s.draft.close control }, none)
  | .wait timerId delay control =>
    ({ s with draft := s.draft.startTimer timerId delay (some control.encode) }, none)
  | .again schedule markerName count =>
    ({ s with
        draft := (s.draft.append [schedule]).recordMarker markerName (some count.encode) }, none)
  | .handle handler => s.call ctx (handler ctx)
  | .giveUp reason details =>
    ({ s with draft := s.draft.close (.fail (some reason) details) }, none)
  | .skip => (s, none)

/-- What one event does. -/
def visit (r : Registry) (log : EventLog) (workflow : WorkflowInfo) (e : Event) :
    CycleState × Option Interruption :=
  match EventContext.extract e log workflow with
  | .error error => (s, some (.failed error))
  | .ok ctx =>
    match r.route ctx with
    | .error error => (s, some (.failed error))
    | .ok routing => { s with notices := s.notices ++ routing.notices }.follow ctx routing.route

/-- What events do, up to the first that ends the cycle. -/
def visitAll (r : Registry) (log : EventLog) (workflow : WorkflowInfo) :
    CycleState → List Event → CycleState × Option Interruption
  | s, [] => (s, none)
  | s, e :: rest =>
    match s.visit r log workflow e with
    | (s', none) => visitAll r log workflow s' rest
    | (s', some stop) => (s', some stop)

end CycleState

/-- How a cycle ended. -/
inductive Cycle.Ending where
  | decided (batch : DecisionBatch)
  | failed (error : Error)
  | crashed (message : String)
  deriving DecidableEq

/-- A cycle that has ended. -/
structure Cycle where
  ending : Cycle.Ending
  /-- The contexts that handlers were called with, in order. -/
  handled : List EventContext
  notices : List Notice
  /-- The fresh texts that are left. -/
  fresh : FreshTexts

namespace Cycle

/-- The decisions, if the cycle came to any. -/
def batch? (c : Cycle) : Option DecisionBatch :=
  match c.ending with
  | .decided batch => some batch
  | _ => none

/-- The cycle that a state and an interruption stand for. -/
def ofState : CycleState × Option Interruption → Cycle
  | (s, stop) =>
    { ending :=
        match stop with
        | none => .decided s.draft.decisions
        | some (.failed error) => .failed error
        | some (.crashed message) => .crashed message
      handled := s.handled
      notices := s.notices
      fresh := s.draft.fresh }

end Cycle

/-- The cycle over the new events of a history. -/
def Registry.cycle (r : Registry) (log : EventLog) (workflow : WorkflowInfo)
    (fresh : FreshTexts) : Cycle :=
  .ofState (CycleState.visitAll r log workflow (.start (r.draft fresh)) log.newEvents)

end DurableWorkflow
