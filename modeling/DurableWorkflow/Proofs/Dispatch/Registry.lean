import DurableWorkflow.Dispatch.Registry
import DurableWorkflow.Proofs.History.Extraction

/-!
# Which keys registries accept

A key is accepted if its name has the shape that events of its type are named by.  These are just
the keys that events carry: contexts name their events in that way, and for every such key there is
a history with an event that carries it.

## Main Definitions

* `HandlerKey.CarriedBy`: an event that a handler for the key is called for.
* `EventType.sample`, `HandlerKey.history`: an event of a given type and name, in a history.

## Main Statements

* `HandlerKey.fits_of_carriedBy`: the keys that events carry are accepted.
* `HandlerKey.carriedBy_sample`: every key that is accepted is carried in its history.
* `Registry.build_refuses_iff`: a key is refused if and only if no event ever carries it.
-/

namespace DurableWorkflow

/-- An event of the type of a key has a context of its name. -/
def HandlerKey.CarriedBy (k : HandlerKey) (log : EventLog) (e : Event) : Prop :=
  e.type = k.type ∧
    ∃ workflow ctx, EventContext.extract e log workflow = .ok ctx ∧ ctx.name = k.name

/-! ### An event for every key -/

namespace EventName

/-- The type of the tasks that a name stands for. -/
def taskType : EventName → TaskType
  | .task type => type
  | _ => default

/-- The type of the workflows that a name stands for. -/
def workflowType : EventName → WorkflowType
  | .workflow type => type
  | _ => default

/-- The signal, the timer or the marker that a name stands for. -/
def label : EventName → String
  | .signal label | .timer label | .marker label => label
  | _ => ""

end EventName

/-- What an event of a type and a name says in a history in which the first event schedules a task
of the name, and the second one starts a timer. -/
def EventType.sample (name : EventName) : EventType → Attributes
  | .workflowExecutionStarted => .workflowExecutionStarted name.workflowType none .empty []
  | .workflowExecutionCompleted => .workflowExecutionCompleted none
  | .completeWorkflowExecutionFailed => .completeWorkflowExecutionFailed ""
  | .workflowExecutionFailed => .workflowExecutionFailed none none
  | .failWorkflowExecutionFailed => .failWorkflowExecutionFailed ""
  | .workflowExecutionTimedOut => .workflowExecutionTimedOut ""
  | .workflowExecutionCanceled => .workflowExecutionCanceled none
  | .cancelWorkflowExecutionFailed => .cancelWorkflowExecutionFailed ""
  | .workflowExecutionCancelRequested => .workflowExecutionCancelRequested none
  | .workflowExecutionTerminated => .workflowExecutionTerminated none none
  | .decisionTaskScheduled => .decisionTaskScheduled ""
  | .decisionTaskStarted => .decisionTaskStarted 1 none
  | .decisionTaskCompleted => .decisionTaskCompleted 1 2
  | .decisionTaskTimedOut => .decisionTaskTimedOut 1 2 ""
  | .taskScheduled => .taskScheduled "" name.taskType none none .empty
  | .scheduleTaskFailed => .scheduleTaskFailed "" name.taskType ""
  | .taskStarted => .taskStarted 1 none
  | .taskCompleted => .taskCompleted 1 none
  | .taskFailed => .taskFailed 1 none none
  | .taskTimedOut => .taskTimedOut 1 "" none
  | .taskCanceled => .taskCanceled 1 none
  | .taskCancelRequested => .taskCancelRequested ""
  | .requestCancelTaskFailed => .requestCancelTaskFailed "" ""
  | .timerStarted => .timerStarted name.label .zero none
  | .startTimerFailed => .startTimerFailed name.label ""
  | .timerFired => .timerFired name.label 2
  | .timerCanceled => .timerCanceled name.label 2
  | .cancelTimerFailed => .cancelTimerFailed name.label ""
  | .markerRecorded => .markerRecorded name.label none
  | .recordMarkerFailed => .recordMarkerFailed name.label ""
  | .workflowExecutionSignaled => .workflowExecutionSignaled name.label none
  | type => .other type .null

theorem EventType.type_sample (name : EventName) (type : EventType) :
    (type.sample name).type = type := by
  cases type <;> rfl

namespace HandlerKey

variable (k : HandlerKey)

/-- An event of the type and the name of a key. -/
def sample : Event := ⟨3, .epoch, k.type.sample k.name⟩

/-- A history that ends with it. -/
def history : EventLog :=
  ⟨[k.sample, ⟨2, .epoch, .timerStarted "" .zero none⟩,
    ⟨1, .epoch, .taskScheduled "" k.name.taskType none none .empty⟩], 0⟩

/-- The run that the history is one of. -/
def workflow : WorkflowInfo := ⟨"", default, k.name.workflowType, 0⟩

variable {k}

/-- Every key that is accepted is carried in its history. -/
theorem carriedBy_sample (h : k.fits = true) : k.CarriedBy k.history k.sample := by
  refine ⟨EventType.type_sample .., k.workflow, ?_⟩
  obtain ⟨type, name⟩ := k
  -- Only the types that are named in the way of the name are left.
  cases name <;> cases type <;> cases h
  all_goals exact ⟨_, rfl, rfl⟩

theorem numbered_history (k : HandlerKey) : Numbered k.history.events :=
  ⟨rfl, rfl, rfl, trivial⟩

/-- Every key that is accepted is carried by an event of a complete history. -/
theorem exists_carriedBy (h : k.fits = true) :
    ∃ delivered boundary log, EventLog.assemble delivered boundary = .ok log ∧
      ∃ e ∈ log.events, k.CarriedBy log e :=
  ⟨k.history.events, 0, k.history,
    EventLog.assemble_of_numbered k.numbered_history (List.cons_ne_nil _ _) 0,
    k.sample, List.mem_cons_self .., carriedBy_sample h⟩

/-- The keys that events carry are accepted. -/
theorem fits_of_carriedBy {log : EventLog} {e : Event} (h : k.CarriedBy log e) : k.fits = true := by
  obtain ⟨htype, workflow, ctx, hctx, hname⟩ := h
  obtain ⟨details, hdetails, rfl⟩ := EventContext.extract_ok hctx
  have hcategory := EventDetails.category_name hdetails
  rw [Event.category, htype] at hcategory
  rw [fits, ← hname]
  exact decide_eq_true hcategory

/-- A key of a category whose events are not handed to handlers is not accepted. -/
theorem fits_eq_false_of_unsupported (h : k.type.category.isSupported = false) :
    k.fits = false := by
  refine decide_eq_false fun hcategory => ?_
  rw [← hcategory] at h
  cases hname : k.name <;> rw [hname] at h <;> cases h

end HandlerKey

namespace Registry

theorem build_handler (k : HandlerKey) (handler : Handler) :
    build [.handler k handler] =
      if k.fits then .ok { empty with handlers := [(k, handler)] }
      else .error (.invalidHandlerKey k.type k.name) := by
  cases hfits : k.fits <;>
    simp [build, Builder.build, Builder.add, Builder.register, Builder.start, empty, hfits]

/-- **A key is refused if and only if no event ever carries it.**  No event of an unsupported
category carries one, and every other key is carried by an event of a complete history. -/
theorem build_refuses_iff (k : HandlerKey) (handler : Handler) :
    (build [.handler k handler] = .error (.invalidHandlerKey k.type k.name) ↔
      ¬ ∃ log e, k.CarriedBy log e) ∧
    (k.type.category.isSupported = false →
      build [.handler k handler] = .error (.invalidHandlerKey k.type k.name)) ∧
    ((∃ r, build [.handler k handler] = .ok r) ↔
      ∃ delivered boundary log, EventLog.assemble delivered boundary = .ok log ∧
        ∃ e ∈ log.events, k.CarriedBy log e) := by
  rw [build_handler]
  refine ⟨⟨?_, fun hnone => ?_⟩, fun hunsupported => ?_, ⟨?_, ?_⟩⟩
  · rintro hrefused ⟨log, e, h⟩
    rw [HandlerKey.fits_of_carriedBy h] at hrefused
    cases hrefused
  · refine if_neg fun hfits => hnone ?_
    obtain ⟨-, -, log, -, e, -, h⟩ := HandlerKey.exists_carriedBy hfits
    exact ⟨log, e, h⟩
  · rw [HandlerKey.fits_eq_false_of_unsupported hunsupported]
    rfl
  · rintro ⟨r, hr⟩
    refine HandlerKey.exists_carriedBy ?_
    by_contra hfits
    rw [if_neg hfits] at hr
    cases hr
  · rintro ⟨-, -, log, -, e, -, h⟩
    rw [HandlerKey.fits_of_carriedBy h]
    exact ⟨_, rfl⟩

/-- What comes of child workflows is not handed to handlers; the end of a timer is. -/
theorem build_refuses_iff_childWorkflow :
    let child : HandlerKey := ⟨.childWorkflowExecutionCompleted, .workflow ⟨"child", "1"⟩⟩
    let timer : HandlerKey := ⟨.timerCanceled, .timer "reminder"⟩
    build [.handler child fun _ => .done] =
        .error (.invalidHandlerKey child.type child.name) ∧
      (¬ ∃ log e, child.CarriedBy log e) ∧
      ∃ delivered boundary log, EventLog.assemble delivered boundary = .ok log ∧
        ∃ e ∈ log.events, timer.CarriedBy log e := by
  intro child timer
  obtain ⟨hrefused, hunsupported, -⟩ := build_refuses_iff child fun _ => .done
  obtain ⟨-, -, haccepted⟩ := build_refuses_iff timer fun _ => .done
  have hchild := hunsupported rfl
  exact ⟨hchild, hrefused.mp hchild, haccepted.mp ⟨_, rfl⟩⟩

end Registry

end DurableWorkflow
