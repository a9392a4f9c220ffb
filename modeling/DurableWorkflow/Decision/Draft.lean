import DurableWorkflow.Decision.Close

/-!
# Drafts

The decisions of a cycle in the making.  Decisions are only ever appended, and each close decision
directly follows the marker that keeps its control.

## Main Definitions

* `FreshTexts`: a supply of texts, none of which is handed out twice.
* `Draft`: the decisions so far.
* `Draft.schedule`, `Draft.startTimer`, `Draft.cancelTimer`, `Draft.recordMarker`, `Draft.close`

## Design Notes

The supply of fresh texts is a sequence and a position in it, so a cycle is a function of its input.
-/

namespace DurableWorkflow

/-- A supply of texts for names that have to be new. -/
structure FreshTexts where
  text : Nat → String
  next : Nat

namespace FreshTexts

/-- The next text. -/
def head (f : FreshTexts) : String := f.text f.next

/-- The supply without its next text. -/
def tail (f : FreshTexts) : FreshTexts := { f with next := f.next + 1 }

end FreshTexts

/-- The start of the names of timers that are started to bring about a further decision task. -/
def forcedTimerPrefix : String := "--force-decision-"

/-- The decisions of a cycle so far. -/
structure Draft where
  decisions : DecisionBatch
  /-- Options of a task type that hold where a request leaves them open. -/
  defaults : TaskType → Option TaskOptions
  fresh : FreshTexts

namespace Draft

/-- A draft without decisions. -/
def start (defaults : TaskType → Option TaskOptions) (fresh : FreshTexts) : Draft :=
  ⟨[], defaults, fresh⟩

variable (d : Draft)

/-- Appends decisions. -/
def append (more : DecisionBatch) : Draft := { d with decisions := d.decisions ++ more }

/-- The options of a request, with the defaults of its task type. -/
def optionsOf (r : TaskRequest) : TaskOptions :=
  match d.defaults r.taskType with
  | some defaults => r.options.withDefaults defaults
  | none => r.options

/-- The identity that the next task of a type will get. -/
def nextTaskId (t : TaskType) : String := t.name ++ "-" ++ d.fresh.head

/-- Schedules a task under a new identity. -/
def schedule (r : TaskRequest) : Draft :=
  { d.append [.scheduleTask (d.nextTaskId r.taskType) r.taskType r.input r.control (d.optionsOf r)]
    with fresh := d.fresh.tail }

/-- Starts a timer. -/
def startTimer (timerId : String) (startToFire : Duration) (control : Option String) : Draft :=
  d.append [.startTimer timerId startToFire control]

/-- Cancels a timer.  On request a timer with a new name that fires at once brings about a further
decision task. -/
def cancelTimer (timerId : String) (force : Bool) : Draft :=
  if force then
    { d.append
        [.cancelTimer timerId, .startTimer (forcedTimerPrefix ++ d.fresh.head) .zero none]
      with fresh := d.fresh.tail }
  else d.append [.cancelTimer timerId]

/-- Records a marker. -/
def recordMarker (markerName : String) (details : Option String) : Draft :=
  d.append [.recordMarker markerName details]

/-- Keeps the control in a marker and closes the run. -/
def close (control : CloseControl) : Draft :=
  d.append [.recordMarker closeMarkerName (some control.encode), control.decision]

end Draft

end DurableWorkflow
