import DurableWorkflow.Polling.Source

/-!
# Scripted sources

A source of work that is given in advance, for trying pollers out.

## Main Definitions

* `WorkItem`: a unit and how its processing goes.
* `PollCue`: one poll and what it gives.
* `Rehearsal`: the polls that are left, and what has happened.
* `Rehearsal.source`: the source.
-/

namespace DurableWorkflow

/-- How something that is given in advance goes. -/
inductive Rehearsal.Effect (α : Type) where
  | given (value : α)
  | failed (error : Error)
  | broken (message : String)

/-- A unit, how long its processing takes, and how it goes. -/
structure WorkItem where
  label : String
  ms : Nat
  effect : Rehearsal.Effect PUnit

/-- A poll, how long it takes, and what it gives. -/
structure PollCue where
  ms : Nat
  effect : Rehearsal.Effect (Option WorkItem)

/-- What happens in a scripted source. -/
inductive Rehearsal.Happening where
  | poll
  | start (label : String)
  | finish (label : String)
  | failure (label : String)
  /-- The processing of the unit breaks off. -/
  | breakdown (label : String)
  deriving DecidableEq, Repr

/-- The polls that are left, and what has happened, with times. -/
structure Rehearsal where
  polls : List PollCue
  past : List (Time × Rehearsal.Happening)

namespace Rehearsal

/-- Notes down what happens. -/
def note (r : Rehearsal) (now : Time) (what : Happening) : Rehearsal :=
  { r with past := r.past ++ [(now, what)] }

/-- A scripted poll. -/
inductive Fetch where
  | start
  | answered (effect : Effect (Option WorkItem))

/-- A scripted unit. -/
inductive Job where
  | start (item : WorkItem)
  | worked (item : WorkItem)

/-- A step of a scripted poll. -/
def poll (now : Time) (r : Rehearsal) :
    Fetch → Rehearsal × Progress Fetch (Except Error (Option Job))
  | .start =>
    let r := r.note now .poll
    match r.polls with
    | [] => (r, .never)
    | cue :: rest => ({ r with polls := rest }, .wait cue.ms (.answered cue.effect))
  | .answered (.given item) => (r, .done (.ok (item.map .start)))
  | .answered (.failed e) => (r, .done (.error e))
  | .answered (.broken message) => (r, .crash message)

/-- A step of a scripted unit. -/
def process (now : Time) (r : Rehearsal) : Job → UnitStep Rehearsal Job
  | .start item => ⟨r.note now (.start item.label), [.executing], [], .wait item.ms (.worked item)⟩
  | .worked item =>
    match item.effect with
    | .given _ => ⟨r.note now (.finish item.label), [], [], .done (.ok ⟨⟩)⟩
    | .failed e => ⟨r.note now (.failure item.label), [], [], .done (.error e)⟩
    | .broken message => ⟨r.note now (.breakdown item.label), [], [], .crash message⟩

/-- A scripted source, with the errors of units that stop its poller. -/
def source (kind : String) (isFatal : Error → Bool) : PollSource Rehearsal Fetch Job where
  kind := kind
  start := .start
  poll := poll
  process := process
  detached _ := none
  isFatal := isFatal

end Rehearsal

end DurableWorkflow
