import DurableWorkflow.Proofs.History.Context
import DurableWorkflow.Proofs.History.Query

/-!
# Which events have contexts

An event has no context if its category is not handed to handlers, if it is carried without being
interpreted, or if it refers to something that the log does not have.  Every other event has one,
under a name of the shape that its category asks for.

## Main Definitions

* `Attributes.Dangles`: a reference that leads nowhere.
* `Event.Refused`: why an event has no context.

## Main Statements

* `EventDetails.extract_of_refused`: an event that is refused has no data, for the reason it is
  refused for.
* `Attributes.resolves_of_not_dangles`: references that do not lead nowhere resolve.
* `EventDetails.category_name`: the name that data give an event is one of its category.
* `EventContext.extract_iff_refused`: which events have a context, and why the others do not.
-/

namespace DurableWorkflow

/-- An event refers to something that no event of the log provides.  The reference is told as it is
written in messages, together with the type of the event that it asks for. -/
inductive Attributes.Dangles (log : EventLog) (a : Attributes) : String → EventType → Prop
  /-- No schedule has the number. -/
  | schedule {id : Int} (ref : a.scheduleRef? = some id)
      (missing : ∀ s ∈ log.events, ∀ x : Scheduling, s.attributes = x.attributes → s.id ≠ id) :
      Dangles log a (toString id) .taskScheduled
  /-- No schedule is one of the task. -/
  | task {taskId : String} (ref : a.taskRef? = some taskId)
      (missing : ∀ s ∈ log.events, ∀ x : Scheduling, s.attributes = x.attributes →
        x.taskId ≠ taskId) :
      Dangles log a taskId .taskScheduled
  /-- No start of a timer has the number. -/
  | start {timerId : String} {id : Int} (ref : a.startRef? = some (timerId, id))
      (missing : ∀ s ∈ log.events, ∀ other delay control,
        s.attributes = .timerStarted other delay control → s.id ≠ id) :
      Dangles log a (toString id) .timerStarted

/-- Why an event has no context. -/
inductive Event.Refused (log : EventLog) (e : Event) : Error → Prop
  /-- Events of its category are not handed to handlers. -/
  | category (h : e.category.isSupported = false) :
      Refused log e (.unsupportedCategory e.id e.category)
  /-- They are, but this one has not been interpreted. -/
  | shape (hsupported : e.category.isSupported = true) (h : e.attributes.isOther = true) :
      Refused log e (.mismatchedAttributes e.id e.type)
  /-- It refers to something that is not there. -/
  | reference {referenced : String} {expected : EventType}
      (h : e.attributes.Dangles log referenced expected) :
      Refused log e (.missingReference e.id referenced expected)

variable {e : Event} {log : EventLog} {workflow : WorkflowInfo}

/-! ### References that lead nowhere -/

namespace TaskDetails

/-- Without a schedule of the number that it refers to, an event cannot be resolved. -/
theorem ofScheduleId_of_missing {id : Int}
    (h : ∀ s ∈ log.events, ∀ x : Scheduling, s.attributes = x.attributes → s.id ≠ id) :
    ofScheduleId e log id = .error (e.unresolved (toString id) .taskScheduled) := by
  unfold ofScheduleId
  split
  · next d hfound =>
      obtain ⟨s, hs, hof⟩ := Option.bind_eq_some_iff.mp hfound
      obtain ⟨x, hx, -⟩ := ofScheduled?_eq_some hof
      obtain ⟨hmem, hid⟩ := EventLog.mem_of_get? hs
      exact absurd hid (h s hmem x hx)
  · rfl

/-- Without a schedule of the task that it refers to, an event cannot be resolved. -/
theorem ofTaskId_of_missing {taskId : String}
    (h : ∀ s ∈ log.events, ∀ x : Scheduling, s.attributes = x.attributes → x.taskId ≠ taskId) :
    ofTaskId e log taskId = .error (e.unresolved taskId .taskScheduled) := by
  have hnone : log.scheduledEventFor taskId = none := by
    rw [EventLog.scheduledEventFor_eq_find?, List.find?_eq_none]
    intro s hs hschedules
    obtain ⟨x, hx, htask⟩ := Attributes.schedules_iff.mp hschedules
    exact h s hs x hx htask
  rw [ofTaskId, hnone]
  rfl

theorem extract_error_of_scheduleRef {id : Int} {err : Error}
    (href : e.attributes.scheduleRef? = some id) (h : ofScheduleId e log id = .error err) :
    extract e log = .error err := by
  unfold extract
  cases hattr : e.attributes <;>
    simp only [hattr, Attributes.scheduleRef?, reduceCtorEq, Option.some.injEq] at href ⊢
  all_goals subst href
  case taskStarted => exact h
  all_goals
    rw [h]
    rfl

theorem extract_error_of_taskRef {taskId : String} {err : Error}
    (href : e.attributes.taskRef? = some taskId) (h : ofTaskId e log taskId = .error err) :
    extract e log = .error err := by
  unfold extract
  cases hattr : e.attributes <;>
    simp only [hattr, Attributes.taskRef?, reduceCtorEq, Option.some.injEq] at href ⊢
  all_goals subst href
  case taskCancelRequested => exact h
  case requestCancelTaskFailed =>
    rw [h]
    rfl

end TaskDetails

namespace TimerDetails

/-- Without a start of the number that it refers to, an event cannot be resolved. -/
theorem ofStartId_of_missing {timerId : String} {id : Int}
    (h : ∀ s ∈ log.events, ∀ other delay control,
      s.attributes = .timerStarted other delay control → s.id ≠ id) :
    ofStartId e log timerId id = .error (e.unresolved (toString id) .timerStarted) := by
  cases hof : ofStartId e log timerId id with
  | ok d =>
      obtain ⟨-, s, other, delay, hs, hattr⟩ := ofStartId_ok hof
      obtain ⟨hmem, hid⟩ := EventLog.mem_of_get? hs
      exact absurd hid (h s hmem _ _ _ hattr)
  | error err =>
      unfold ofStartId at hof
      split at hof
      · cases hof
      · exact hof.symm

theorem extract_error_of_startRef {timerId : String} {id : Int} {err : Error}
    (href : e.attributes.startRef? = some (timerId, id))
    (h : ofStartId e log timerId id = .error err) : extract e log = .error err := by
  unfold extract
  cases hattr : e.attributes <;>
    simp only [hattr, Attributes.startRef?, reduceCtorEq, Option.some.injEq, Prod.mk.injEq] at href
  all_goals
    obtain ⟨rfl, rfl⟩ := href
    exact h

end TimerDetails

/-! ### Which events have data -/

namespace EventDetails

/-- An event whose reference dangles has no context, but an error that names what is missing. -/
theorem extract_of_dangles {referenced : String} {expected : EventType}
    (h : e.attributes.Dangles log referenced expected) :
    extract e log workflow = .error (.missingReference e.id referenced expected) := by
  cases h with
  | schedule href hmissing =>
      rw [extract_eq_task (Attributes.category_of_scheduleRef href),
        TaskDetails.extract_error_of_scheduleRef href (TaskDetails.ofScheduleId_of_missing hmissing)]
      rfl
  | task href hmissing =>
      rw [extract_eq_task (Attributes.category_of_taskRef href),
        TaskDetails.extract_error_of_taskRef href (TaskDetails.ofTaskId_of_missing hmissing)]
      rfl
  | start href hmissing =>
      rw [extract_eq_timer (Attributes.category_of_startRef href),
        TimerDetails.extract_error_of_startRef href (TimerDetails.ofStartId_of_missing hmissing)]
      rfl

/-- An event that is refused has no data, for the reason it is refused for. -/
theorem extract_of_refused {err : Error} (h : e.Refused log err) :
    extract e log workflow = .error err := by
  cases h with
  | category h =>
      rw [extract]
      cases hcategory : e.category <;> simp_all [EventCategory.isSupported]
  | shape hsupported h =>
      obtain ⟨id, timestamp, attributes⟩ := e
      cases attributes
      case other type payload =>
        cases type <;> first | rfl | cases hsupported
      all_goals cases h
  | reference h => exact extract_of_dangles h

/-- Only events that have been interpreted have data. -/
theorem interpreted_of_extract {details : EventDetails} (h : extract e log workflow = .ok details) :
    e.attributes.isOther = false := by
  by_contra hother
  have hother : e.attributes.isOther = true := by simpa using hother
  obtain ⟨err, hrefused⟩ : ∃ err, e.Refused log err := by
    cases hsupported : e.category.isSupported with
    | true => exact ⟨_, .shape hsupported hother⟩
    | false => exact ⟨_, .category hsupported⟩
  rw [extract_of_refused hrefused] at h
  cases h

/-- The name that data give an event is one of its category. -/
theorem category_name {details : EventDetails} (h : extract e log workflow = .ok details) :
    details.name.category = e.category := by
  unfold extract at h
  cases hcategory : e.category <;> simp only [hcategory] at h
  case workflowExecution | task | timer =>
    obtain ⟨d, -, rfl⟩ := exists_of_map_eq_ok h
    rfl
  case decisionTask =>
    split at h <;> cases h
    rfl
  case marker | signal =>
    split at h <;> cases h <;> rfl
  all_goals cases h

end EventDetails

/-- References that do not lead nowhere resolve. -/
theorem Attributes.resolves_of_not_dangles {a : Attributes} (hnumbered : Numbered log.events)
    (hinterpreted : a.isOther = false)
    (h : ∀ referenced expected, ¬ a.Dangles log referenced expected) : a.Resolves log := by
  refine ⟨fun id href => ?_, fun taskId href => ?_, fun timerId id href => ?_, hinterpreted⟩
  · by_contra hnone
    refine h _ _ (.schedule href fun s hs x hx hid => hnone ⟨s, x, ?_, hx⟩)
    exact (EventLog.get?_eq_some_iff hnumbered).mpr ⟨hs, hid⟩
  · by_contra hnone
    refine h _ _ (.task href fun s hs x hx htask => hnone ⟨s, hs, ?_⟩)
    exact schedules_iff.mpr ⟨x, hx, htask⟩
  · by_contra hnone
    refine h _ _ (.start href fun s hs other delay control hattr hid =>
      hnone ⟨s, other, delay, control, ?_, hattr⟩)
    exact (EventLog.get?_eq_some_iff hnumbered).mpr ⟨hs, hid⟩

/-- An event is not refused exactly if it is of a kind that is handled, is understood, and refers to
nothing that is missing. -/
theorem Event.not_refused_iff : (∀ err, ¬ e.Refused log err) ↔
    e.category.isSupported = true ∧ e.attributes.isOther = false ∧
      ∀ referenced expected, ¬ e.attributes.Dangles log referenced expected := by
  constructor
  · intro h
    have hsupported : e.category.isSupported = true := by
      by_contra hcategory
      exact h _ (.category (Bool.eq_false_iff.mpr hcategory))
    refine ⟨hsupported, ?_, fun referenced expected hdangles => h _ (.reference hdangles)⟩
    by_contra hother
    exact h _ (.shape hsupported (Bool.not_eq_false _ ▸ hother))
  · rintro ⟨hsupported, hinterpreted, hdangles⟩ err (hcategory | ⟨-, hother⟩ | href)
    · rw [hsupported] at hcategory
      cases hcategory
    · rw [hinterpreted] at hother
      cases hother
    · exact hdangles _ _ href

namespace EventContext

/-- An event that is refused has no context, but the error with which it is refused. -/
theorem extract_of_refused {err : Error} (h : e.Refused log err) :
    extract e log workflow = .error err := by
  rw [extract, EventDetails.extract_of_refused h]
  rfl

/-- An event that is not refused has a context. -/
theorem extract_of_not_refused (hnumbered : Numbered log.events) (h : ∀ err, ¬ e.Refused log err)
    (workflow : WorkflowInfo) : ∃ ctx, extract e log workflow = .ok ctx := by
  obtain ⟨-, hinterpreted, hdangles⟩ := Event.not_refused_iff.mp h
  obtain ⟨details, hdetails⟩ := EventDetails.extract_total
    (Attributes.resolves_of_not_dangles hnumbered hinterpreted hdangles) workflow
  exact ⟨_, extract_of_details hdetails⟩

/-- **An event has no context if and only if it is refused**, and then it is said why.  A context
names its event in the way of its category. -/
theorem extract_iff_refused {delivered : List Event} {boundary : Int}
    (hlog : EventLog.assemble delivered boundary = .ok log) (e : Event) (workflow : WorkflowInfo) :
    (∀ err, extract e log workflow = .error err ↔ e.Refused log err) ∧
    ((∃ ctx, extract e log workflow = .ok ctx) ↔
      e.category.isSupported = true ∧ e.attributes.isOther = false ∧
        ∀ referenced expected, ¬ e.attributes.Dangles log referenced expected) ∧
    ∀ ctx, extract e log workflow = .ok ctx → ctx.name.category = e.category := by
  have hnumbered := (EventLog.assemble_numbered hlog).1
  refine ⟨fun err => ⟨fun h => ?_, extract_of_refused⟩, ?_, fun ctx h => ?_⟩
  -- Without any refusal there would be a context, and a refusal gives its own error.
  · obtain ⟨refusal, hrefused⟩ : ∃ refusal, e.Refused log refusal := by
      by_contra hnone
      obtain ⟨ctx, hctx⟩ := extract_of_not_refused hnumbered
        (fun refusal hrefused => hnone ⟨refusal, hrefused⟩) workflow
      rw [h] at hctx
      cases hctx
    rw [extract_of_refused hrefused] at h
    cases h
    exact hrefused
  · rw [← Event.not_refused_iff]
    refine ⟨fun ⟨ctx, hctx⟩ err hrefused => ?_,
      fun h => extract_of_not_refused hnumbered h workflow⟩
    rw [extract_of_refused hrefused] at hctx
    cases hctx
  · obtain ⟨details, hdetails, rfl⟩ := extract_ok h
    exact EventDetails.category_name hdetails

/-- Two failures, of a schedule that is there and of one that is not. -/
theorem extract_iff_refused_twoFailures :
    let failed (id : Int) : Event := ⟨2, .epoch, .taskFailed id (some "declined") none⟩
    let log : EventLog :=
      ⟨[failed 7, ⟨1, .epoch, .taskScheduled "charge-1" ⟨"charge", "1"⟩ none none .empty⟩], 0⟩
    EventLog.assemble log.events 0 = .ok log ∧
      extract (failed 7) log default = .error (.missingReference 2 "7" .taskScheduled) ∧
      ∃ ctx, extract (failed 1) log default = .ok ctx ∧ ctx.name.category = .task := by
  intro failed log
  have hlog : EventLog.assemble log.events 0 = .ok log := rfl
  obtain ⟨hrefused, -, -⟩ := extract_iff_refused hlog (failed 7) default
  obtain ⟨-, hok, hname⟩ := extract_iff_refused hlog (failed 1) default
  have href : (failed 7).attributes.scheduleRef? = some 7 := rfl
  have hmissing : (failed 7).attributes.Dangles log "7" .taskScheduled :=
    .schedule href (by simp [log, failed])
  have hresolved : ∀ referenced expected,
      ¬ (failed 1).attributes.Dangles log referenced expected := by
    rintro referenced expected (⟨href, hmissing⟩ | ⟨href, -⟩ | ⟨href, -⟩) <;> cases href
    exact hmissing _ (List.mem_cons_of_mem _ (List.mem_cons_self ..)) ⟨_, _, _, _, _⟩ rfl rfl
  obtain ⟨ctx, hctx⟩ := hok.mpr ⟨rfl, rfl, hresolved⟩
  exact ⟨hlog, (hrefused _).mpr (.reference hmissing), ctx, hctx, hname ctx hctx⟩

end EventContext

end DurableWorkflow
