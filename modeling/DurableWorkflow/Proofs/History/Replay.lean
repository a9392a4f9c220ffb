import DurableWorkflow.Proofs.History.Query

/-!
# States of tasks by replay

How far a task has come can be told by reading the history from its beginning, remembering the
current schedule of the task and its state.  A log looks from the newest event on instead, and
compares what it meets with the latest schedule, which it has looked up before.  Both give the same
state, whatever the events refer to.

## Main Definitions

* `TaskReplay`: what is known of a task after some of the history has been read.
* `TaskReplay.read`, `TaskReplay.readAll`: reading one event, and a history.

## Main Statements

* `TaskReplay.schedule_readAll`: the current schedule at the end is the latest one.
* `TaskReplay.state_read`: what one event does is what it implies for the schedule after it.
* `EventLog.taskState_eq_replay`: the state that a log tells is the one at the end of the replay.
-/

namespace DurableWorkflow

/-- What is known of a task after some of the history has been read. -/
structure TaskReplay where
  /-- The number of the current schedule. -/
  schedule : Option Int
  state : TaskState
  deriving DecidableEq

namespace TaskReplay

/-- Nothing has been read. -/
def start : TaskReplay := ⟨none, .initial⟩

/-- The schedule with a number has come to a state.  Only that of the current one counts. -/
def reach (r : TaskReplay) (id : Int) (state : TaskState) : TaskReplay :=
  if r.schedule = some id then ⟨r.schedule, state⟩ else r

/-- Reads the next event. -/
def read (taskId : String) (r : TaskReplay) (e : Event) : TaskReplay :=
  match e.attributes with
  | .taskScheduled id .. => if id = taskId then ⟨some e.id, .scheduled⟩ else r
  | .scheduleTaskFailed id .. => if id = taskId then ⟨r.schedule, .scheduleFailed⟩ else r
  | .taskCancelRequested id => if id = taskId then ⟨r.schedule, .cancelRequested⟩ else r
  | .taskStarted id _ => r.reach id .started
  | .taskCompleted id _ => r.reach id .completed
  | .taskFailed id .. => r.reach id .failed
  | .taskTimedOut id .. => r.reach id .timedOut
  | .taskCanceled id _ => r.reach id .canceled
  | _ => r

/-- Reads a history from its beginning. -/
def readAll (taskId : String) (history : List Event) : TaskReplay :=
  history.foldl (read taskId) start

variable {taskId : String} {r : TaskReplay} {e : Event}

theorem schedule_reach (id : Int) (state : TaskState) :
    (r.reach id state).schedule = r.schedule := by
  rw [reach]
  split <;> rfl

theorem state_reach (id : Int) (state : TaskState) :
    (r.reach id state).state
      = (if some id = r.schedule then some state else none).getD r.state := by
  by_cases h : r.schedule = some id
  · simp [reach, h]
  · simp [reach, h, Ne.symm h]

/-- The current schedule changes only when the task is scheduled. -/
theorem schedule_read :
    (read taskId r e).schedule
      = if e.attributes.schedules taskId then some e.id else r.schedule := by
  cases hattr : e.attributes <;> simp only [read, hattr, Attributes.schedules, schedule_reach,
    Bool.false_eq_true, if_false, decide_eq_true_eq]
  all_goals split <;> rfl

/-- What an event does is what it implies for the schedule that is current after it. -/
theorem state_read :
    (read taskId r e).state
      = (EventLog.impliedState taskId (read taskId r e).schedule e).getD r.state := by
  rw [schedule_read]
  cases hattr : e.attributes <;> simp only [read, hattr, Attributes.schedules,
    EventLog.impliedState, state_reach, Bool.false_eq_true, if_false, Option.getD_none]
  all_goals split <;> rfl

/-- The latest event is read last. -/
theorem readAll_reverse_cons (older : List Event) :
    readAll taskId (e :: older).reverse = read taskId (readAll taskId older.reverse) e := by
  rw [readAll, List.reverse_cons, List.foldl_concat, readAll]

/-- The current schedule at the end of a history is the latest one. -/
theorem schedule_readAll (taskId : String) (events : List Event) :
    (readAll taskId events.reverse).schedule
      = (events.find? (·.attributes.schedules taskId)).map (·.id) := by
  induction events with
  | nil => rfl
  | cons e older ih =>
      rw [readAll_reverse_cons, schedule_read, ih, List.find?_cons]
      split <;> simp [*]

end TaskReplay

namespace EventLog

theorem impliedState_of_schedules {taskId : String} {e : Event} (scheduled : Option Int)
    (h : e.attributes.schedules taskId = true) :
    impliedState taskId scheduled e = some .scheduled := by
  obtain ⟨x, hx, rfl⟩ := Attributes.schedules_iff.mp h
  rw [impliedState, hx]
  exact if_pos rfl

/-- **The state of a task is where a replay of the history leaves it.**  Events that refer to a
schedule count while it is the current one, so what comes of schedules that have been replaced, or
before its schedule, does not. -/
theorem taskState_eq_replay (log : EventLog) (taskId : String) :
    log.taskState taskId = (TaskReplay.readAll taskId log.events.reverse).state := by
  obtain ⟨events, boundary⟩ := log
  induction events with
  | nil => rfl
  | cons e older ih =>
      have hschedule := TaskReplay.schedule_readAll taskId (e :: older)
      rw [TaskReplay.readAll_reverse_cons] at hschedule ⊢
      rw [TaskReplay.state_read, hschedule, ← ih]
      simp only [taskState, scheduledEventFor_eq_find?, List.findSome?_cons, List.find?_cons]
      cases hnew : e.attributes.schedules taskId with
      | true =>
          -- The log goes no further than to the latest schedule.
          simp only [Option.map_some, impliedState_of_schedules _ hnew, Option.getD_some]
      | false =>
          cases impliedState taskId ((older.find? (·.attributes.schedules taskId)).map (·.id)) e <;>
            rfl

/-- A late result of the first of two schedules leaves the task scheduled. -/
example :
    let scheduled : Attributes := .taskScheduled "charge-1" ⟨"charge", "1"⟩ none none .empty
    let log : EventLog :=
      ⟨[⟨4, .epoch, .taskCompleted 1 none⟩, ⟨3, .epoch, scheduled⟩,
        ⟨2, .epoch, .taskFailed 1 none none⟩, ⟨1, .epoch, scheduled⟩], 0⟩
    log.taskState "charge-1" = .scheduled := by decide

end EventLog

end DurableWorkflow
