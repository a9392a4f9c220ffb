import DurableWorkflow.Event.Basic

/-!
# What events refer to

Events about the end of a task or a timer refer to its schedule or start by number.

## Main Definitions

* `Scheduling`: what an event that schedules a task says.
* `Attributes.schedules`, `Attributes.starts`, `Attributes.fires`: events by the name of the task or
  the timer.
* `Attributes.scheduleRef?`, `Attributes.taskRef?`, `Attributes.startRef?`: the references.
* `Attributes.closed?`, `Attributes.failed?`, `Attributes.fired?`: those of single kinds of events.
* `Attributes.failure?`: what the failure of a task tells.
-/

namespace DurableWorkflow

/-- What an event that schedules a task says. -/
structure Scheduling where
  taskId : String
  taskType : TaskType
  input : Option String
  control : Option String
  options : TaskOptions

/-- A scheduling as what an event says. -/
def Scheduling.attributes (x : Scheduling) : Attributes :=
  .taskScheduled x.taskId x.taskType x.input x.control x.options

/-- The event that schedules a task tells how the task was scheduled. -/
theorem Scheduling.attributes_inj {x y : Scheduling} (h : x.attributes = y.attributes) : x = y := by
  cases x
  cases y
  simpa [attributes] using h

namespace Attributes

/-- Whether an event schedules a task. -/
def schedules (taskId : String) : Attributes → Bool
  | .taskScheduled id .. => id = taskId
  | _ => false

/-- Whether an event starts a timer. -/
def starts (timerId : String) : Attributes → Bool
  | .timerStarted id .. => id = timerId
  | _ => false

/-- Whether an event is the firing of a timer. -/
def fires (timerId : String) : Attributes → Bool
  | .timerFired id _ => id = timerId
  | _ => false

/-- The schedule whose course an event is about. -/
def scheduleRef? : Attributes → Option Int
  | .taskStarted id _ | .taskCompleted id _ | .taskFailed id .. | .taskTimedOut id ..
  | .taskCanceled id _ => some id
  | _ => none

/-- The task that an event refers to by its name. -/
def taskRef? : Attributes → Option String
  | .taskCancelRequested taskId | .requestCancelTaskFailed taskId _ => some taskId
  | _ => none

/-- The timer that has come to its end, and its start. -/
def startRef? : Attributes → Option (String × Int)
  | .timerFired timerId id | .timerCanceled timerId id => some (timerId, id)
  | _ => none

/-- The schedule that has come to its end. -/
def closed? : Attributes → Option Int
  | .taskCompleted id _ | .taskFailed id .. | .taskTimedOut id .. => some id
  | _ => none

/-- The schedule that has failed, be it for want of time. -/
def failed? : Attributes → Option Int
  | .taskFailed id .. | .taskTimedOut id .. => some id
  | _ => none

/-- What the failure of a task tells: its reason, or the kind of its time limit, or else the type of
the event, and its details. -/
def failure? : Attributes → Option (String × Option String)
  | .taskFailed _ reason details => some (reason.getD EventType.taskFailed.name, details)
  | .taskTimedOut _ timeoutType details => some (timeoutType, details)
  | _ => none

/-- The start of the timer that has fired. -/
def fired? : Attributes → Option Int
  | .timerFired _ id => some id
  | _ => none

/-- An event schedules a task if it is that of a scheduling under its identifier. -/
theorem schedules_iff {taskId : String} {a : Attributes} :
    a.schedules taskId = true ↔ ∃ x : Scheduling, a = x.attributes ∧ x.taskId = taskId := by
  constructor
  · intro h
    cases a <;> simp only [schedules, Bool.false_eq_true, decide_eq_true_eq] at h
    exact ⟨⟨_, _, _, _, _⟩, rfl, h⟩
  · rintro ⟨x, rfl, rfl⟩
    simp [schedules, Scheduling.attributes]

theorem starts_iff {timerId : String} {a : Attributes} :
    a.starts timerId = true ↔ ∃ delay control, a = .timerStarted timerId delay control := by
  cases a <;> simp [starts]

theorem fires_iff {timerId : String} {a : Attributes} :
    a.fires timerId = true ↔ ∃ id, a = .timerFired timerId id := by
  cases a <;> simp [fires]

/-- Only events of tasks refer to a schedule by its number. -/
theorem category_of_scheduleRef {a : Attributes} {id : Int} (h : a.scheduleRef? = some id) :
    a.type.category = .task := by
  cases a <;> first | rfl | cases h

/-- Only events of tasks refer to a schedule by the identifier of the task. -/
theorem category_of_taskRef {a : Attributes} {taskId : String} (h : a.taskRef? = some taskId) :
    a.type.category = .task := by
  cases a <;> first | rfl | cases h

/-- Only events of timers refer to the start of a timer. -/
theorem category_of_startRef {a : Attributes} {ref : String × Int} (h : a.startRef? = some ref) :
    a.type.category = .timer := by
  cases a <;> first | rfl | cases h

/-- A task that has failed is over. -/
theorem closed?_of_failed? {a : Attributes} {id : Int} (h : a.failed? = some id) :
    a.closed? = some id := by
  cases a <;> simp_all [failed?, closed?]

end Attributes

end DurableWorkflow
