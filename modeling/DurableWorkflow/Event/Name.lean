import DurableWorkflow.Event.Identity
import DurableWorkflow.Event.Kind

/-!
# Names of events

Handlers are registered for a type of events together with a name: the type of a task, the name of a
signal, and so on.

## Main Definitions

* `EventName`: a name.
* `EventName.category`: the category whose events carry names of this shape.
-/

namespace DurableWorkflow

/-- The name under which an event is handed to handlers. -/
inductive EventName where
  | task (type : TaskType)
  | signal (name : String)
  | timer (timerId : String)
  | marker (name : String)
  | workflow (type : WorkflowType)
  /-- All events about decision tasks share one name. -/
  | decisionTask
  deriving DecidableEq, Repr

namespace EventName

/-- The category whose events carry names of this shape. -/
def category : EventName → EventCategory
  | .task _ => .task
  | .signal _ => .signal
  | .timer _ => .timer
  | .marker _ => .marker
  | .workflow _ => .workflowExecution
  | .decisionTask => .decisionTask

/-- The name in messages. -/
def text : EventName → String
  | .task type => "task " ++ type.text
  | .signal name => "signal " ++ name
  | .timer timerId => "timer " ++ timerId
  | .marker name => "marker " ++ name
  | .workflow type => "workflow " ++ type.text
  | .decisionTask => "decision task"

end EventName

end DurableWorkflow
