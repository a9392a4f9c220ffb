import DurableWorkflow.History.Context
import DurableWorkflow.Proofs.Event.Reference
import DurableWorkflow.Proofs.History.Log

/-!
# What contexts are made of

The data of an event that refers to another one are those of the event it refers to.

## Main Definitions

* `Scheduling.details`: the data of a schedule.
* `Attributes.Resolves`: all references of an event lead to events of the right kind.

## Main Statements

* `EventDetails.extract_total`: an event whose references resolve has data.
* `TaskDetails.extract_of_scheduleRef`, `TimerDetails.extract_of_startRef`: what the data of an
  event are, given what it refers to.
* `EventDetails.task_of_failed`, `EventDetails.timer_of_fired`: the data of a failure are those of
  the schedule, the data of a firing those of the start.
-/

namespace DurableWorkflow

/-- Where two steps succeed, each of them does. -/
theorem exists_of_bind_eq_ok {ε α β : Type} {x : Except ε α} {f : α → Except ε β} {b : β}
    (h : x >>= f = .ok b) : ∃ a, x = .ok a ∧ f a = .ok b := by
  cases x with
  | error e => cases h
  | ok a => exact ⟨a, rfl, h⟩

/-- Where two steps fail, the first one does, or the second one after it. -/
theorem eq_error_of_bind_eq_error {ε α β : Type} {x : Except ε α} {f : α → Except ε β} {e : ε}
    (h : x >>= f = .error e) : x = .error e ∨ ∃ a, x = .ok a ∧ f a = .error e := by
  cases x with
  | error e' =>
      cases h
      exact .inl rfl
  | ok a => exact .inr ⟨a, rfl, h⟩

theorem exists_of_map_eq_ok {ε α β : Type} {x : Except ε α} {f : α → β} {b : β}
    (h : x.map f = .ok b) : ∃ a, x = .ok a ∧ f a = b := by
  cases x with
  | error e => cases h
  | ok a => exact ⟨a, rfl, by simpa [Except.map] using h⟩

variable {e : Event} {log : EventLog} {workflow : WorkflowInfo}

theorem EventContext.extract_ok {ctx : EventContext}
    (h : EventContext.extract e log workflow = .ok ctx) :
    ∃ details, EventDetails.extract e log workflow = .ok details ∧
      ctx = ⟨e, log, workflow, details⟩ := by
  obtain ⟨details, hdetails, hctx⟩ := exists_of_map_eq_ok h
  exact ⟨details, hdetails, hctx.symm⟩

theorem EventContext.extract_of_details {details : EventDetails}
    (h : EventDetails.extract e log workflow = .ok details) :
    EventContext.extract e log workflow = .ok ⟨e, log, workflow, details⟩ := by
  rw [EventContext.extract, h]
  rfl

/-- The data of a schedule with a number. -/
def Scheduling.details (x : Scheduling) (id : Int) : TaskDetails :=
  ⟨x.taskId, x.taskType, some id, x.input, x.control, none, none, none, none⟩

namespace TaskDetails

variable {d : TaskDetails}

/-- Details are taken from the event of a schedule. -/
theorem ofScheduled?_eq_some (h : ofScheduled? e = some d) :
    ∃ x : Scheduling, e.attributes = x.attributes ∧ d = x.details e.id := by
  unfold ofScheduled? at h
  split at h
  · next hattr =>
      cases h
      exact ⟨⟨_, _, _, _, _⟩, hattr, rfl⟩
  · cases h

/-- The data that a number stands for are those of the schedule with this number. -/
theorem ofScheduleId_ok {id : Int} (h : ofScheduleId e log id = .ok d) :
    ∃ s, log.get? id = some s ∧ ofScheduled? s = some d := by
  unfold ofScheduleId at h
  split at h
  · next found hfound =>
      cases h
      exact Option.bind_eq_some_iff.mp hfound
  · cases h

/-- The data of a failure are those of the schedule that has failed, up to how it failed. -/
theorem extract_failed {id : Int} (hfailed : e.attributes.failed? = some id)
    (h : extract e log = .ok d) :
    ∃ scheduled, ofScheduleId e log id = .ok scheduled ∧ d.taskId = scheduled.taskId ∧
      d.taskType = scheduled.taskType ∧ d.scheduledEventId = scheduled.scheduledEventId := by
  unfold extract at h
  cases hattr : e.attributes <;>
    simp only [hattr, Attributes.failed?, reduceCtorEq, Option.some.injEq] at hfailed h
  all_goals
    obtain ⟨scheduled, hscheduled, hd⟩ := exists_of_bind_eq_ok h
    cases hd
    exact ⟨scheduled, hfailed ▸ hscheduled, rfl, rfl, rfl⟩

/-- What a failure tells is what its data say. -/
theorem failure_of_extract {id : Int} (hfailed : e.attributes.failed? = some id)
    (h : extract e log = .ok d) :
    e.attributes.failure? = some ((d.reason <|> d.cause).getD e.type.name, d.details) := by
  have hbare (scheduled : TaskDetails) (hof : ofScheduleId e log id = .ok scheduled) :
      scheduled.reason = none ∧ scheduled.cause = none := by
    obtain ⟨s, -, hs⟩ := ofScheduleId_ok hof
    obtain ⟨x, -, rfl⟩ := ofScheduled?_eq_some hs
    exact ⟨rfl, rfl⟩
  unfold extract at h
  cases hattr : e.attributes <;>
    simp only [hattr, Attributes.failed?, reduceCtorEq, Option.some.injEq] at hfailed h
  all_goals
    subst hfailed
    obtain ⟨scheduled, hscheduled, hd⟩ := exists_of_bind_eq_ok h
    obtain ⟨hreason, hcause⟩ := hbare scheduled hscheduled
    cases hd
    simp [Attributes.failure?, Event.type, hattr, Attributes.type, hreason, hcause]

theorem ofScheduled?_scheduling {s : Event} {x : Scheduling} (hx : s.attributes = x.attributes) :
    ofScheduled? s = some (x.details s.id) := by
  rw [ofScheduled?, hx]
  rfl

/-- A reference to the number of a schedule gives the details of that schedule. -/
theorem ofScheduleId_of_get? {s : Event} {x : Scheduling} {id : Int} (hget : log.get? id = some s)
    (hx : s.attributes = x.attributes) : ofScheduleId e log id = .ok (x.details s.id) := by
  rw [ofScheduleId, hget, Option.bind_some, ofScheduled?_scheduling hx]

/-- A reference to a task that has been scheduled is resolved. -/
theorem ofTaskId_of_scheduled {taskId : String}
    (h : ∃ s ∈ log.events, s.attributes.schedules taskId = true) :
    ∃ d, ofTaskId e log taskId = .ok d := by
  have hfound : (log.scheduledEventFor taskId).isSome := List.find?_isSome.mpr h
  obtain ⟨s, hs⟩ := Option.isSome_iff_exists.mp hfound
  have hschedules : s.attributes.schedules taskId = true :=
    List.find?_some (p := fun e : Event => e.attributes.schedules taskId) hs
  obtain ⟨x, hx, -⟩ := Attributes.schedules_iff.mp hschedules
  exact ⟨x.details s.id, by rw [ofTaskId, hs, Option.bind_some, ofScheduled?_scheduling hx]⟩

/-- A request to cancel a task that has been scheduled has data. -/
theorem extract_of_taskRef {taskId : String} (href : e.attributes.taskRef? = some taskId)
    (h : ∃ s ∈ log.events, s.attributes.schedules taskId = true) :
    ∃ d, extract e log = .ok d := by
  obtain ⟨d, hd⟩ := ofTaskId_of_scheduled (e := e) h
  unfold extract
  cases hattr : e.attributes <;>
    simp only [hattr, Attributes.taskRef?, reduceCtorEq, Option.some.injEq] at href ⊢
  all_goals
    subst href
    rw [hd]
    exact ⟨_, rfl⟩

/-- The data of an event about the course of a task are those of its schedule, up to how it went. -/
theorem extract_of_scheduleRef {s : Event} {x : Scheduling} {id : Int}
    (href : e.attributes.scheduleRef? = some id) (hget : log.get? id = some s)
    (hx : s.attributes = x.attributes) :
    ∃ d, extract e log = .ok d ∧ d.taskId = x.taskId ∧ d.taskType = x.taskType ∧
      d.scheduledEventId = some s.id ∧ d.input = x.input ∧ d.control = x.control := by
  have hof : ofScheduleId e log id = .ok (x.details s.id) := ofScheduleId_of_get? hget hx
  unfold extract
  cases hattr : e.attributes <;>
    simp only [hattr, Attributes.scheduleRef?, reduceCtorEq, Option.some.injEq] at href ⊢
  all_goals
    subst href
    rw [hof]
    exact ⟨_, rfl, rfl, rfl, rfl, rfl, rfl⟩

end TaskDetails

namespace TimerDetails

/-- The control of a timer that has fired is that of its start. -/
theorem ofStartId_ok {timerId : String} {id : Int} {d : TimerDetails}
    (h : ofStartId e log timerId id = .ok d) :
    d.timerId = timerId ∧ ∃ s other delay, log.get? id = some s ∧
      s.attributes = .timerStarted other delay d.control := by
  unfold ofStartId at h
  split at h
  · next control delay hfound =>
      cases h
      obtain ⟨s, hs, hof⟩ := Option.bind_eq_some_iff.mp hfound
      unfold ofStarted? at hof
      split at hof
      · next hattr =>
          cases hof
          exact ⟨rfl, s, _, _, hs, hattr⟩
      · cases hof
  · cases h

/-- A reference to the number of a start gives the delay and the control of that start. -/
theorem ofStartId_of_get? {timerId other : String} {id : Int} {s : Event} {delay : Duration}
    {control : Option String} (hget : log.get? id = some s)
    (hs : s.attributes = .timerStarted other delay control) :
    ofStartId e log timerId id = .ok ⟨timerId, control, some delay, none⟩ := by
  rw [ofStartId, hget, Option.bind_some, ofStarted?, hs]

/-- The data of the end of a timer are those of its start, under its own name. -/
theorem extract_of_startRef {timerId other : String} {id : Int} {s : Event} {delay : Duration}
    {control : Option String} (href : e.attributes.startRef? = some (timerId, id))
    (hget : log.get? id = some s) (hs : s.attributes = .timerStarted other delay control) :
    extract e log = .ok ⟨timerId, control, some delay, none⟩ := by
  have hof : ofStartId e log timerId id = .ok ⟨timerId, control, some delay, none⟩ :=
    ofStartId_of_get? hget hs
  unfold extract
  cases hattr : e.attributes <;>
    simp only [hattr, Attributes.startRef?, reduceCtorEq, Option.some.injEq, Prod.mk.injEq] at href
  all_goals
    obtain ⟨rfl, rfl⟩ := href
    exact hof

end TimerDetails

/-! ### Every event whose references resolve has data -/

/-- All references of an event lead to events of the right kind. -/
structure Attributes.Resolves (log : EventLog) (a : Attributes) : Prop where
  schedule : ∀ id, a.scheduleRef? = some id →
    ∃ s, ∃ x : Scheduling, log.get? id = some s ∧ s.attributes = x.attributes
  task : ∀ taskId, a.taskRef? = some taskId →
    ∃ s ∈ log.events, s.attributes.schedules taskId = true
  start : ∀ timerId id, a.startRef? = some (timerId, id) →
    ∃ s other delay control, log.get? id = some s ∧
      s.attributes = .timerStarted other delay control
  interpreted : a.isOther = false

namespace EventDetails

theorem extract_eq_task (hcategory : e.category = .task) :
    extract e log workflow = (TaskDetails.extract e log).map .task := by
  rw [extract, hcategory]

theorem extract_eq_timer (hcategory : e.category = .timer) :
    extract e log workflow = (TimerDetails.extract e log).map .timer := by
  rw [extract, hcategory]

theorem extract_of_task {d : TaskDetails} (hcategory : e.category = .task)
    (hd : TaskDetails.extract e log = .ok d) : extract e log workflow = .ok (.task d) := by
  rw [extract_eq_task hcategory, hd]
  rfl

theorem extract_of_timer {d : TimerDetails} (hcategory : e.category = .timer)
    (hd : TimerDetails.extract e log = .ok d) : extract e log workflow = .ok (.timer d) := by
  rw [extract_eq_timer hcategory, hd]
  rfl

/-- Every event whose references resolve has data. -/
theorem extract_total (h : e.attributes.Resolves log) (workflow : WorkflowInfo) :
    ∃ details, extract e log workflow = .ok details := by
  cases hschedule : e.attributes.scheduleRef? with
  | some id =>
      obtain ⟨s, x, hget, hx⟩ := h.schedule id hschedule
      obtain ⟨d, hd, -⟩ := TaskDetails.extract_of_scheduleRef hschedule hget hx
      exact ⟨.task d, extract_of_task (Attributes.category_of_scheduleRef hschedule) hd⟩
  | none =>
  cases htask : e.attributes.taskRef? with
  | some taskId =>
      obtain ⟨d, hd⟩ := TaskDetails.extract_of_taskRef htask (h.task taskId htask)
      exact ⟨.task d, extract_of_task (Attributes.category_of_taskRef htask) hd⟩
  | none =>
  cases hstart : e.attributes.startRef? with
  | some ref =>
      obtain ⟨timerId, id⟩ := ref
      obtain ⟨s, other, delay, control, hget, hs⟩ := h.start timerId id hstart
      exact ⟨_, extract_of_timer (Attributes.category_of_startRef hstart)
        (TimerDetails.extract_of_startRef hstart hget hs)⟩
  | none =>
      -- Nothing is left that refers to another event.
      have hinterpreted := h.interpreted
      obtain ⟨number, timestamp, attributes⟩ := e
      cases attributes
      case taskStarted | taskCompleted | taskFailed | taskTimedOut | taskCanceled =>
        cases hschedule
      case taskCancelRequested | requestCancelTaskFailed => cases htask
      case timerFired | timerCanceled => cases hstart
      case other => cases hinterpreted
      all_goals exact ⟨_, rfl⟩

/-! ### What data tell of the event referred to -/

/-- The details of an event of a task are those of a task. -/
theorem exists_task_of_category {details : EventDetails} (hcategory : e.category = .task)
    (h : EventDetails.extract e log workflow = .ok details) :
    ∃ d, TaskDetails.extract e log = .ok d ∧ EventDetails.task d = details := by
  rw [extract_eq_task hcategory] at h
  exact exists_of_map_eq_ok h

/-- The details of an event of a timer are those of a timer. -/
theorem exists_timer_of_category {details : EventDetails} (hcategory : e.category = .timer)
    (h : EventDetails.extract e log workflow = .ok details) :
    ∃ d, TimerDetails.extract e log = .ok d ∧ EventDetails.timer d = details := by
  rw [extract_eq_timer hcategory] at h
  exact exists_of_map_eq_ok h

/-- A failure has the data of a task. -/
theorem exists_task {details : EventDetails} (htype : e.type = .taskFailed ∨ e.type = .taskTimedOut)
    (h : EventDetails.extract e log workflow = .ok details) :
    ∃ d, TaskDetails.extract e log = .ok d ∧ EventDetails.task d = details := by
  refine exists_task_of_category ?_ h
  rcases htype with htype | htype <;> rw [Event.category, htype] <;> rfl

/-- A firing has the data of a timer. -/
theorem exists_timer {details : EventDetails} (htype : e.type = .timerFired)
    (h : EventDetails.extract e log workflow = .ok details) :
    ∃ d, TimerDetails.extract e log = .ok d ∧ EventDetails.timer d = details := by
  refine exists_timer_of_category ?_ h
  rw [Event.category, htype]
  rfl

/-- The data of a failure: it refers to a schedule, and that tells the task. -/
theorem task_of_failed {d : TaskDetails}
    (htype : e.type = .taskFailed ∨ e.type = .taskTimedOut)
    (h : EventDetails.extract e log workflow = .ok (.task d)) :
    ∃ s ∈ log.events, e.attributes.failed? = some s.id ∧ d.scheduledEventId = some s.id ∧
      ∃ x : Scheduling, s.attributes = x.attributes ∧ d.taskId = x.taskId ∧
        d.taskType = x.taskType := by
  obtain ⟨d', hd, hd'⟩ := exists_task htype h
  cases hd'
  have hfailed : ∃ id, e.attributes.failed? = some id := by
    obtain ⟨id, timestamp, attributes⟩ := e
    cases attributes <;>
      simp_all [Event.type, Attributes.type, Attributes.failed?, TaskDetails.extract]
  obtain ⟨id, hid⟩ := hfailed
  obtain ⟨scheduled, hofId, htask, htaskType, hsid⟩ := TaskDetails.extract_failed hid hd
  obtain ⟨s, hs, hof⟩ := TaskDetails.ofScheduleId_ok hofId
  obtain ⟨x, hx, rfl⟩ := TaskDetails.ofScheduled?_eq_some hof
  obtain ⟨hmem, rfl⟩ := EventLog.mem_of_get? hs
  exact ⟨s, hmem, hid, hsid, x, hx, htask, htaskType⟩

/-- The data of a firing: it refers to a start, and that tells the control. -/
theorem timer_of_fired {d : TimerDetails} (htype : e.type = .timerFired)
    (h : EventDetails.extract e log workflow = .ok (.timer d)) :
    ∃ s ∈ log.events, e.attributes = .timerFired d.timerId s.id ∧
      ∃ other delay, s.attributes = .timerStarted other delay d.control := by
  obtain ⟨d', hd, hd'⟩ := exists_timer htype h
  cases hd'
  unfold TimerDetails.extract at hd
  split at hd <;> rename_i hattr <;>
    simp only [Event.type, Attributes.type, hattr, reduceCtorEq] at htype
  · next timerId id =>
      obtain ⟨htimer, s, other, delay, hs, hstart⟩ := TimerDetails.ofStartId_ok hd
      obtain ⟨hmem, rfl⟩ := EventLog.mem_of_get? hs
      exact ⟨s, hmem, by rw [hattr, htimer], other, delay, hstart⟩
  · cases hd

end EventDetails

end DurableWorkflow
