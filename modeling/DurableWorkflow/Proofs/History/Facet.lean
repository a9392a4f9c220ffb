import DurableWorkflow.Proofs.History.Extraction

/-!
# What the facets of an event show

The table of facets says what events of a type carry, the data of an event hold it, and the context
gives access to it.  All three agree with what the event itself and the event that it refers to say.

## Main Definitions

* `Attributes.entries`, `Attributes.inherited`: what an event says by itself, and what it takes from
  the event that it refers to.
* `Attributes.RefersTo`: which event this is.
* `Attributes.Shows`: the value that an event has for a facet.
* `EventDetails.fields`: what the data of an event hold.
* `EventContext.Agrees`: table, data and access agree on a facet.

## Main Statements

* `Attributes.perm_facets`: the table lists exactly what an event says by itself or takes over.
* `Attributes.Shows.unique`: an event has one value for a facet.
* `EventDetails.tells_of_extract`: a listed field holds what the event shows, every other is empty.
* `EventContext.agrees_of_extract`: table, data and access agree on every facet.
-/

namespace DurableWorkflow

namespace Attributes

/-- What an event says by itself, facet by facet. -/
def entries : Attributes → List (Facet × FacetValue)
  | .workflowExecutionStarted _ input _ _ | .workflowExecutionSignaled _ input =>
    [(.input, .text input)]
  | .workflowExecutionCompleted result | .taskCompleted _ result => [(.output, .text result)]
  | .workflowExecutionFailed reason details | .workflowExecutionTerminated reason details
  | .taskFailed _ reason details => [(.reason, .text reason), (.details, .text details)]
  | .workflowExecutionCanceled details | .markerRecorded _ details | .taskCanceled _ details =>
    [(.details, .text details)]
  | .workflowExecutionTimedOut timeoutType => [(.cause, .text (some timeoutType))]
  | .taskTimedOut _ timeoutType details =>
    [(.cause, .text (some timeoutType)), (.details, .text details)]
  | .workflowExecutionCancelRequested cause => [(.cause, .text cause)]
  | .completeWorkflowExecutionFailed cause | .failWorkflowExecutionFailed cause
  | .cancelWorkflowExecutionFailed cause | .recordMarkerFailed _ cause
  | .requestCancelTaskFailed _ cause => [(.cause, .text (some cause))]
  | .taskScheduled _ taskType input control _ =>
    [(.taskType, .taskType taskType), (.input, .text input), (.control, .text control)]
  | .scheduleTaskFailed _ taskType cause =>
    [(.taskType, .taskType taskType), (.cause, .text (some cause))]
  | .timerStarted timerId _ control =>
    [(.timerId, .text (some timerId)), (.control, .text control)]
  | .startTimerFailed timerId cause | .cancelTimerFailed timerId cause =>
    [(.timerId, .text (some timerId)), (.cause, .text (some cause))]
  | .timerFired timerId _ | .timerCanceled timerId _ => [(.timerId, .text (some timerId))]
  | _ => []

/-- The facets that an event takes from the event that it refers to. -/
def inherited : Attributes → List Facet
  | .taskStarted .. | .taskCompleted .. | .taskFailed .. | .taskTimedOut .. | .taskCanceled ..
  | .taskCancelRequested .. => [.taskType, .input, .control]
  | .requestCancelTaskFailed .. => [.taskType]
  | .timerFired .. | .timerCanceled .. => [.control]
  | _ => []

/-- The event of a log that an event refers to. -/
inductive RefersTo (log : EventLog) (a : Attributes) (s : Event) : Prop where
  /-- The schedule with a number. -/
  | schedule {id : Int} {x : Scheduling} (ref : a.scheduleRef? = some id) (mem : s ∈ log.events)
      (number : s.id = id) (content : s.attributes = x.attributes)
  /-- The latest schedule of a task. -/
  | task {taskId : String} (ref : a.taskRef? = some taskId)
      (latest : IsLatest log.events (fun s => s.attributes.schedules taskId = true) s)
  /-- The start of a timer with a number. -/
  | start {timerId other : String} {id : Int} {delay : Duration} {control : Option String}
      (ref : a.startRef? = some (timerId, id)) (mem : s ∈ log.events) (number : s.id = id)
      (content : s.attributes = .timerStarted other delay control)

/-- The value that an event has for a facet. -/
def Shows (log : EventLog) (a : Attributes) (f : Facet) (v : FacetValue) : Prop :=
  (f, v) ∈ a.entries ∨ f ∈ a.inherited ∧ ∃ s, a.RefersTo log s ∧ (f, v) ∈ s.attributes.entries

variable {a : Attributes} {log : EventLog}

/-- The table lists exactly what an event says by itself or takes over. -/
theorem perm_facets (h : a.isOther = false) :
    (a.inherited ++ a.entries.map (·.1)).Perm a.type.facets := by
  cases a
  case timerFired | timerCanceled => exact .swap ..
  case other => cases h
  all_goals exact .refl _

/-- What an event shows is listed. -/
theorem Shows.listed {f : Facet} {v : FacetValue} (h : a.Shows log f v)
    (hinterpreted : a.isOther = false) : f ∈ a.type.facets := by
  refine (perm_facets hinterpreted).mem_iff.mp (List.mem_append.mpr ?_)
  rcases h with h | ⟨h, -⟩
  · exact .inr (List.mem_map_of_mem h)
  · exact .inl h

/-- An event refers to one event. -/
theorem RefersTo.unique (hnumbered : Numbered log.events) {s t : Event} (hs : a.RefersTo log s)
    (ht : a.RefersTo log t) : s = t := by
  -- The ways of referring exclude each other, so that both are of one kind.
  rcases hs with ⟨hs, hsmem, hsid, -⟩ | ⟨hs, hslatest⟩ | ⟨hs, hsmem, hsid, -⟩ <;>
    rcases ht with ⟨ht, htmem, htid, -⟩ | ⟨ht, htlatest⟩ | ⟨ht, htmem, htid, -⟩ <;>
    cases a <;> cases hs <;> cases ht
  all_goals first
    | exact hnumbered.eq_of_id_eq hsmem htmem (hsid.trans htid.symm)
    | exact hslatest.unique hnumbered htlatest

theorem nodup_facets (a : Attributes) : (a.inherited ++ a.entries.map (·.1)).Nodup := by
  cases a <;> simp [inherited, entries]

theorem eq_of_mem_entries {f : Facet} {v w : FacetValue} (hv : (f, v) ∈ a.entries)
    (hw : (f, w) ∈ a.entries) : v = w := by
  have hnodup := (List.nodup_append.mp a.nodup_facets).2.1
  exact (Prod.mk.inj (List.inj_on_of_nodup_map hnodup hv hw rfl)).2

/-- An event has one value for a facet. -/
theorem Shows.unique (hnumbered : Numbered log.events) {f : Facet} {v w : FacetValue}
    (hv : a.Shows log f v) (hw : a.Shows log f w) : v = w := by
  have hapart {u : FacetValue} (hinherited : f ∈ a.inherited) (hown : (f, u) ∈ a.entries) : False :=
    (List.nodup_append.mp a.nodup_facets).2.2 f hinherited f (List.mem_map_of_mem hown) rfl
  rcases hv with hv | ⟨hinherited, s, hs, hv⟩ <;> rcases hw with hw | ⟨hinherited', t, ht, hw⟩
  · exact eq_of_mem_entries hv hw
  · exact (hapart hinherited' hv).elim
  · exact (hapart hinherited hw).elim
  · obtain rfl := hs.unique hnumbered ht
    exact eq_of_mem_entries hv hw

end Attributes

/-- The facets that the data of events of a category have a field for. -/
def EventCategory.facets : EventCategory → List Facet
  | .workflowExecution => [.input, .output, .reason, .details, .cause]
  | .task => [.taskType, .input, .control, .output, .reason, .details, .cause]
  | .timer => [.timerId, .control, .cause]
  | .marker => [.details, .cause]
  | .signal => [.input]
  | _ => []

/-- What a type lists has a field. -/
theorem EventType.facets_subset (t : EventType) : t.facets ⊆ t.category.facets := by
  cases t <;> decide

variable {e : Event} {log : EventLog} {workflow : WorkflowInfo}

/-! ### Data that are taken over -/

/-- The data that a number stands for are those of the schedule that is referred to. -/
theorem TaskDetails.refersTo_of_ofScheduleId {id : Int} {d : TaskDetails}
    (href : e.attributes.scheduleRef? = some id) (h : ofScheduleId e log id = .ok d) :
    ∃ s, ∃ x : Scheduling, e.attributes.RefersTo log s ∧ s.attributes = x.attributes ∧
      d = x.details s.id := by
  obtain ⟨s, hs, hof⟩ := ofScheduleId_ok h
  obtain ⟨x, hx, rfl⟩ := ofScheduled?_eq_some hof
  obtain ⟨hmem, hid⟩ := EventLog.mem_of_get? hs
  exact ⟨s, x, .schedule href hmem hid hx, hx, rfl⟩

/-- So are those that the name of a task stands for. -/
theorem TaskDetails.refersTo_of_ofTaskId (hnumbered : Numbered log.events) {taskId : String}
    {d : TaskDetails} (href : e.attributes.taskRef? = some taskId)
    (h : ofTaskId e log taskId = .ok d) :
    ∃ s, ∃ x : Scheduling, e.attributes.RefersTo log s ∧ s.attributes = x.attributes ∧
      d = x.details s.id := by
  unfold ofTaskId at h
  split at h
  · next found hfound =>
      cases h
      obtain ⟨s, hs, hof⟩ := Option.bind_eq_some_iff.mp hfound
      obtain ⟨x, hx, rfl⟩ := ofScheduled?_eq_some hof
      rw [EventLog.scheduledEventFor_eq_find?, find?_eq_some_iff_isLatest hnumbered] at hs
      exact ⟨s, x, .task href hs, hx, rfl⟩
  · cases h

/-- The data of the end of a timer are its own name and those of the start that is referred to. -/
theorem TimerDetails.refersTo_of_ofStartId {timerId : String} {id : Int} {d : TimerDetails}
    (href : e.attributes.startRef? = some (timerId, id))
    (h : ofStartId e log timerId id = .ok d) :
    ∃ s other delay control, e.attributes.RefersTo log s ∧
      s.attributes = .timerStarted other delay control ∧
      d = ⟨timerId, control, some delay, none⟩ := by
  obtain ⟨-, s, other, delay, hs, hattr⟩ := ofStartId_ok h
  have hd : ofStartId e log timerId id = .ok ⟨timerId, d.control, some delay, none⟩ :=
    ofStartId_of_get? hs hattr
  obtain ⟨hmem, hid⟩ := EventLog.mem_of_get? hs
  rw [h] at hd
  exact ⟨s, other, delay, d.control, .start href hmem hid hattr, hattr, Except.ok.inj hd⟩

/-! ### What data hold -/

namespace EventDetails

/-- What the data of an event hold, facet by facet. -/
def fields : EventDetails → List (Facet × FacetValue)
  | .workflow d =>
    [(.input, .text d.input), (.output, .text d.result), (.reason, .text d.reason),
      (.details, .text d.details), (.cause, .text d.cause)]
  | .decisionTask => []
  | .task d =>
    [(.taskType, .taskType d.taskType), (.input, .text d.input), (.control, .text d.control),
      (.output, .text d.result), (.reason, .text d.reason), (.details, .text d.details),
      (.cause, .text d.cause)]
  | .timer d =>
    [(.timerId, .text (some d.timerId)), (.control, .text d.control), (.cause, .text d.cause)]
  | .marker d => [(.details, .text d.details), (.cause, .text d.cause)]
  | .signal d => [(.input, .text d.input)]

/-- A field of the data holds what the event shows, or it is not listed and empty. -/
def Tells (log : EventLog) (a : Attributes) (p : Facet × FacetValue) : Prop :=
  a.Shows log p.1 p.2 ∨ p.1 ∉ a.type.facets ∧ p.2 = .text none

variable {a : Attributes} {details : EventDetails}

theorem tells_of_entries
    (h : ∀ p ∈ details.fields, p ∈ a.entries ∨ p.1 ∉ a.type.facets ∧ p.2 = .text none) :
    ∀ p ∈ details.fields, Tells log a p := by
  intro p hp
  rcases h p hp with hown | hempty
  · exact .inl (.inl hown)
  · exact .inr hempty

theorem tells_of_refersTo {s : Event} (href : a.RefersTo log s)
    (h : ∀ p ∈ details.fields, p ∈ a.entries ∨ (p.1 ∈ a.inherited ∧ p ∈ s.attributes.entries) ∨
      p.1 ∉ a.type.facets ∧ p.2 = .text none) :
    ∀ p ∈ details.fields, Tells log a p := by
  intro p hp
  rcases h p hp with hown | ⟨hinherited, hentry⟩ | hempty
  · exact .inl (.inl hown)
  · exact .inl (.inr ⟨hinherited, s, href, hentry⟩)
  · exact .inr hempty

/-- Data hold what the event shows, and nothing that is not listed. -/
theorem tells_of_extract (hnumbered : Numbered log.events)
    (h : extract e log workflow = .ok details) :
    ∀ p ∈ details.fields, Tells log e.attributes p := by
  have hinterpreted := interpreted_of_extract h
  obtain ⟨id, timestamp, attributes⟩ := e
  cases attributes
  case other => cases hinterpreted
  case taskStarted =>
    obtain ⟨d, hd, rfl⟩ := exists_task_of_category rfl h
    obtain ⟨s, x, href, hx, rfl⟩ := TaskDetails.refersTo_of_ofScheduleId rfl hd
    refine tells_of_refersTo href ?_
    simp [fields, hx, Scheduling.attributes, Scheduling.details, Attributes.entries,
      Attributes.inherited, Attributes.type, EventType.facets]
  case taskCancelRequested =>
    obtain ⟨d, hd, rfl⟩ := exists_task_of_category rfl h
    obtain ⟨s, x, href, hx, rfl⟩ := TaskDetails.refersTo_of_ofTaskId hnumbered rfl hd
    refine tells_of_refersTo href ?_
    simp [fields, hx, Scheduling.attributes, Scheduling.details, Attributes.entries,
      Attributes.inherited, Attributes.type, EventType.facets]
  case taskCompleted | taskFailed | taskCanceled | taskTimedOut =>
    obtain ⟨d, hd, rfl⟩ := exists_task_of_category rfl h
    obtain ⟨scheduled, hscheduled, hd⟩ := exists_of_bind_eq_ok hd
    obtain ⟨s, x, href, hx, rfl⟩ := TaskDetails.refersTo_of_ofScheduleId rfl hscheduled
    cases hd
    refine tells_of_refersTo href ?_
    simp [fields, hx, Scheduling.attributes, Scheduling.details, Attributes.entries,
      Attributes.inherited, Attributes.type, EventType.facets]
  case requestCancelTaskFailed =>
    obtain ⟨d, hd, rfl⟩ := exists_task_of_category rfl h
    obtain ⟨scheduled, hscheduled, hd⟩ := exists_of_bind_eq_ok hd
    obtain ⟨s, x, href, hx, rfl⟩ := TaskDetails.refersTo_of_ofTaskId hnumbered rfl hscheduled
    cases hd
    refine tells_of_refersTo href ?_
    simp [fields, hx, Scheduling.attributes, Scheduling.details, Attributes.entries,
      Attributes.inherited, Attributes.type, EventType.facets]
  case timerFired | timerCanceled =>
    obtain ⟨d, hd, rfl⟩ := exists_timer_of_category rfl h
    obtain ⟨s, other, delay, control, href, hs, rfl⟩ := TimerDetails.refersTo_of_ofStartId rfl hd
    refine tells_of_refersTo href ?_
    simp [fields, hs, Attributes.entries, Attributes.inherited, Attributes.type, EventType.facets]
  all_goals
    obtain rfl := Except.ok.inj h
    refine tells_of_entries ?_
    simp [fields, Attributes.entries, Attributes.type, EventType.facets, WorkflowDetails.ofType]

/-! ### Access to the data -/

theorem map_fst_fields (details : EventDetails) :
    details.fields.map (·.1) = details.name.category.facets := by
  cases details <;> rfl

theorem exists_field (h : extract e log workflow = .ok details) {f : Facet}
    (hf : f ∈ e.type.facets) : ∃ v, (f, v) ∈ details.fields := by
  have hfield : f ∈ details.fields.map (·.1) := by
    rw [map_fst_fields, category_name h]
    exact e.type.facets_subset hf
  obtain ⟨⟨_, v⟩, hmem, rfl⟩ := List.mem_map.mp hfield
  exact ⟨v, hmem⟩

end EventDetails

namespace EventContext

theorem facet_of_mem_fields (ctx : EventContext) :
    ∀ p ∈ ctx.details.fields, p.1 ∈ ctx.event.type.facets → ctx.facet p.1 = .ok p.2 := by
  obtain ⟨event, log, workflow, details⟩ := ctx
  cases details <;> simp +contextual [EventDetails.fields, facet, EventType.hasFacet,
    EventDetails.text]

theorem facet_of_not_listed (ctx : EventContext) {f : Facet} (hf : f ∉ ctx.event.type.facets) :
    ctx.facet f = .error (.missingFacet f ctx.event.type) := by
  have hlisted : ¬ ctx.event.type.hasFacet f = true := by simpa [EventType.hasFacet] using hf
  exact if_neg hlisted

/-- The table, the data of an event and the access to them agree on a facet. -/
structure Agrees (log : EventLog) (e : Event) (ctx : EventContext) (f : Facet) : Prop where
  /-- There is access unless the facet is not listed, and then it is said that it is not. -/
  refused : ∀ err, ctx.facet f = .error err ↔
    f ∉ e.type.facets ∧ err = .missingFacet f e.type
  /-- The data hold nothing that is not listed. -/
  empty : f ∉ e.type.facets → ∀ v, (f, v) ∈ ctx.details.fields → v = .text none
  /-- Of what is listed, there is access to what the data hold. -/
  held : f ∈ e.type.facets → ∀ v, ctx.facet f = .ok v ↔ (f, v) ∈ ctx.details.fields
  /-- This is what the event itself says, or the event that it refers to. -/
  shown : ∀ v, ctx.facet f = .ok v ↔ e.attributes.Shows log f v

/-- **Table, data and access agree on every facet of every event that has a context.** -/
theorem agrees_of_extract {delivered : List Event} {boundary : Int} {ctx : EventContext}
    (hlog : EventLog.assemble delivered boundary = .ok log)
    (h : extract e log workflow = .ok ctx) (f : Facet) : Agrees log e ctx f := by
  have hnumbered := (EventLog.assemble_numbered hlog).1
  obtain ⟨details, hdetails, rfl⟩ := extract_ok h
  have hinterpreted := EventDetails.interpreted_of_extract hdetails
  have htells := EventDetails.tells_of_extract hnumbered hdetails
  have haccess := facet_of_mem_fields ⟨e, log, workflow, details⟩
  by_cases hf : f ∈ e.type.facets
  · obtain ⟨v, hv⟩ := EventDetails.exists_field hdetails hf
    have hfacet := haccess (f, v) hv hf
    have hshows : e.attributes.Shows log f v :=
      (htells (f, v) hv).resolve_right fun hempty => hempty.1 hf
    refine ⟨fun err => ?_, fun hnot => absurd hf hnot, fun _ w => ⟨fun hw => ?_, fun hw => ?_⟩,
      fun w => ⟨fun hw => ?_, fun hw => ?_⟩⟩
    · rw [hfacet]
      simp [hf]
    · rw [hfacet] at hw
      cases hw
      exact hv
    · exact haccess (f, w) hw hf
    · rw [hfacet] at hw
      cases hw
      exact hshows
    · rw [hfacet, hshows.unique hnumbered hw]
  · have hfacet := facet_of_not_listed ⟨e, log, workflow, details⟩ hf
    refine ⟨fun err => ?_, fun _ v hv => ?_, fun hlisted => absurd hlisted hf,
      fun v => ⟨fun hv => ?_, fun hv => absurd (hv.listed hinterpreted) hf⟩⟩
    · rw [hfacet]
      simp [hf, eq_comm]
    · rcases htells (f, v) hv with hshows | ⟨-, hempty⟩
      · exact absurd (hshows.listed hinterpreted) hf
      · exact hempty
    · rw [hfacet] at hv
      cases hv

/-- The time limit of a task that has been retried. -/
theorem agrees_of_extract_timedOut :
    let scheduled (input : String) : Attributes :=
      .taskScheduled "charge-1" ⟨"charge", "1"⟩ (some input) none .empty
    let timedOut : Event := ⟨3, .epoch, .taskTimedOut 1 "START_TO_CLOSE" none⟩
    let log : EventLog :=
      ⟨[timedOut, ⟨2, .epoch, scheduled "43"⟩, ⟨1, .epoch, scheduled "42"⟩], 0⟩
    EventLog.assemble log.events 0 = .ok log ∧
      ∃ ctx, extract timedOut log default = .ok ctx ∧ (∀ f, Agrees log timedOut ctx f) ∧
        ctx.facet .input = .ok (.text (some "42")) ∧ ctx.facet .control = .ok (.text none) ∧
        ctx.facet .reason = .error (.missingFacet .reason .taskTimedOut) := by
  intro scheduled timedOut log
  have hlog : EventLog.assemble log.events 0 = .ok log := rfl
  obtain ⟨ctx, hctx⟩ : ∃ ctx, extract timedOut log default = .ok ctx := ⟨_, rfl⟩
  refine ⟨hlog, ctx, hctx, agrees_of_extract hlog hctx, ?_, ?_, ?_⟩ <;>
    cases hctx <;> rfl

end EventContext

end DurableWorkflow
