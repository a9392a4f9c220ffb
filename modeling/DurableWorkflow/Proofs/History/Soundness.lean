import DurableWorkflow.Proofs.Dispatch.Cycle

/-!
# Sound histories

In a sound history every reference leads to an event of the right kind, and what stands under names
that belong to retries was written for a retry.  No event of a sound history can be misread.

## Main Definitions

* `Attributes.Justified`: what an event says is borne out by a history.
* `SoundHistory`: every event of a history is borne out by it.

## Main Statements

* `SoundHistory.retryOf_of_start`: a retry timer that fires leads back to the schedule to repeat.
* `SoundHistory.extract_total`, `SoundHistory.judge_total`: every event has data, and every one gets
  a verdict.
* `SoundHistory.cycle_decides`: every cycle over a sound history decides.

## Design Notes

A history is sound with respect to itself, not to what came before each event.  Longer histories
bear out more (`Attributes.Justified.mono`), so nothing that has been borne out has to be looked at
again.
-/

namespace DurableWorkflow

/-- A timer is the retry timer of a schedule: its name is that of the task, and its control tells
where the schedule is. -/
def RetryOf (s : Event) (timerId : String) (control : Option String) : Prop :=
  ∃ x : Scheduling, s.attributes = x.attributes ∧ timerId = x.timerId ∧
    control = some (RetryControl.encode ⟨s.id, x.markerName⟩)

/-- What an event says is borne out by a history. -/
def Attributes.Justified (events : List Event) : Attributes → Prop
  | .taskStarted id _ | .taskCompleted id _ | .taskFailed id .. | .taskTimedOut id ..
  | .taskCanceled id _ => ∃ s ∈ events, s.id = id ∧ ∃ taskId, s.attributes.schedules taskId = true
  | .taskCancelRequested taskId | .requestCancelTaskFailed taskId _ =>
    ∃ s ∈ events, s.attributes.schedules taskId = true
  | .timerFired timerId id | .timerCanceled timerId id =>
    ∃ s ∈ events, s.id = id ∧ s.attributes.starts timerId = true
  | .timerStarted timerId _ control =>
    isRetryTimer timerId = true → ∃ s ∈ events, RetryOf s timerId control
  | .markerRecorded markerName details =>
    isRetryMarker markerName = true →
      (∃ s ∈ events, ∃ x : Scheduling, s.attributes = x.attributes ∧ markerName = x.markerName) ∧
      ∃ n : RetryCount, details = some n.encode
  | .other .. => False
  | _ => True

theorem Attributes.Justified.mono {events more : List Event} (hsub : events ⊆ more)
    {a : Attributes} (h : a.Justified events) : a.Justified more := by
  cases a <;> simp only [Justified] at h ⊢ <;> try exact h
  case taskStarted | taskCompleted | taskFailed | taskTimedOut | taskCanceled
      | timerFired | timerCanceled =>
    obtain ⟨s, hs, hid⟩ := h
    exact ⟨s, hsub hs, hid⟩
  case taskCancelRequested | requestCancelTaskFailed =>
    obtain ⟨s, hs, hschedules⟩ := h
    exact ⟨s, hsub hs, hschedules⟩
  case timerStarted =>
    intro hretry
    obtain ⟨s, hs, hof⟩ := h hretry
    exact ⟨s, hsub hs, hof⟩
  case markerRecorded =>
    intro hretry
    obtain ⟨⟨s, hs, hof⟩, hcount⟩ := h hretry
    exact ⟨⟨s, hsub hs, hof⟩, hcount⟩

/-- What has failed has been scheduled. -/
theorem Attributes.Justified.exists_of_failed? {events : List Event} {a : Attributes} {id : Int}
    (h : a.Justified events) (hfailed : a.failed? = some id) : ∃ s ∈ events, s.id = id := by
  cases a <;> simp only [failed?, reduceCtorEq, Option.some.injEq] at hfailed <;> subst hfailed
  all_goals
    obtain ⟨s, hs, hid, -⟩ := h
    exact ⟨s, hs, hid⟩

/-- The events of a history are numbered and borne out by it. -/
structure SoundHistory (events : List Event) : Prop where
  numbered : Numbered events
  fits : (events.length : Int) ≤ Int64.maxValue.toInt
  justified : ∀ e ∈ events, e.attributes.Justified events

namespace SoundHistory

variable {events : List Event} {log : EventLog} {workflow : WorkflowInfo} {e : Event}

theorem fitsId (h : SoundHistory events) (he : e ∈ events) : FitsId e.id := by
  have hbounds := h.numbered.id_bounds e he
  have := h.fits
  exact .of_nonneg (by omega) (by omega)

/-- A retry timer that fires was started for a schedule, which its control tells. -/
theorem retryOf_of_start (h : SoundHistory events) {timerId other : String} {start : Event}
    {delay : Duration} {control : Option String} (he : e ∈ events)
    (hfired : e.attributes = .timerFired timerId start.id) (hstart : start ∈ events)
    (hattr : start.attributes = .timerStarted other delay control)
    (hretry : isRetryTimer timerId = true) : ∃ s ∈ events, RetryOf s timerId control := by
  have hjustified := h.justified e he
  rw [hfired] at hjustified
  obtain ⟨found, hfound, hid, hstarts⟩ := hjustified
  obtain rfl := h.numbered.eq_of_id_eq hfound hstart hid
  obtain rfl : other = timerId := by simpa [hattr, Attributes.starts] using hstarts
  have hof := h.justified found hstart
  rw [hattr] at hof
  exact hof hretry

/-- The control of a retry timer is read as it was written. -/
theorem decode_of_retryOf (h : SoundHistory events) {s : Event} (hs : s ∈ events) {timerId : String}
    {payload : String} (hof : RetryOf s timerId (some payload)) :
    ∃ x : Scheduling, s.attributes = x.attributes ∧ timerId = x.timerId ∧
      RetryControl.decode payload = .ok ⟨s.id, x.markerName⟩ := by
  obtain ⟨x, hattr, htimer, hcontrol⟩ := hof
  refine ⟨x, hattr, htimer, ?_⟩
  rw [Option.some.inj hcontrol]
  exact RetryControl.decode_encode (h.fitsId hs)

/-! ### Counting markers -/

theorem attributes_of_latestMarker {markerName : String}
    (h : log.latestMarker markerName = some e) :
    e ∈ log.events ∧ ∃ details, e.attributes = .markerRecorded markerName details := by
  have hmem : e ∈ log.events := (List.mem_filter.mp (List.mem_of_find?_eq_some h)).1
  have hname := List.find?_some h
  refine ⟨hmem, ?_⟩
  cases hattr : e.attributes <;> simp [hattr] at hname
  exact ⟨_, by rw [hname]⟩

/-- Counting markers are read as they were written. -/
theorem retryCount_total (h : SoundHistory log.events) {markerName : String}
    (hretry : isRetryMarker markerName = true) : ∃ n, log.retryCount markerName = .ok n := by
  unfold EventLog.retryCount
  split
  · next details hdetails =>
      obtain ⟨e, hlatest, he⟩ := Option.bind_eq_some_iff.mp hdetails
      obtain ⟨hmem, recorded, hattr⟩ := attributes_of_latestMarker hlatest
      have hjustified := h.justified e hmem
      simp only [hattr] at hjustified he
      obtain ⟨-, n, hn⟩ := hjustified hretry
      rw [hn] at he
      exact ⟨n, by rw [← Option.some.inj he]; exact RetryCount.decode_encode n⟩
  · exact ⟨0, rfl⟩

/-! ### Every event has data -/

/-- What has been borne out leads to events of the right kind. -/
theorem resolves (h : SoundHistory log.events) (he : e ∈ log.events) :
    e.attributes.Resolves log := by
  have hget (s : Event) (hs : s ∈ log.events) : log.get? s.id = some s :=
    (EventLog.get?_eq_some_iff h.numbered).mpr ⟨hs, rfl⟩
  have hjustified := h.justified e he
  cases hattr : e.attributes <;> rw [hattr] at hjustified
  case taskStarted | taskCompleted | taskFailed | taskTimedOut | taskCanceled =>
    obtain ⟨s, hs, rfl, taskId, hschedules⟩ := hjustified
    obtain ⟨x, hx, -⟩ := Attributes.schedules_iff.mp hschedules
    refine ⟨?_, nofun, nofun, rfl⟩
    rintro id ⟨⟩
    exact ⟨s, x, hget s hs, hx⟩
  case taskCancelRequested | requestCancelTaskFailed =>
    refine ⟨nofun, ?_, nofun, rfl⟩
    rintro taskId ⟨⟩
    exact hjustified
  case timerFired | timerCanceled =>
    obtain ⟨s, hs, rfl, hstarts⟩ := hjustified
    obtain ⟨delay, control, hattr⟩ := Attributes.starts_iff.mp hstarts
    refine ⟨nofun, nofun, ?_, rfl⟩
    rintro timerId id ⟨⟩
    exact ⟨s, _, delay, control, hget s hs, hattr⟩
  case other => exact hjustified.elim
  all_goals exact ⟨nofun, nofun, nofun, rfl⟩

/-- Every event of a sound history has data. -/
theorem extract_total (h : SoundHistory log.events) (he : e ∈ log.events)
    (workflow : WorkflowInfo) :
    ∃ details, EventDetails.extract e log workflow = .ok details :=
  EventDetails.extract_total (h.resolves he) workflow

/-! ### Every event gets a verdict -/

theorem judgeFailure_total {p : RetryPolicies} {ctx : EventContext}
    (h : SoundHistory ctx.log.events) : ∃ verdict, p.judgeFailure ctx = .ok verdict := by
  unfold RetryPolicies.judgeFailure
  split
  · next task _ =>
      obtain ⟨n, hn⟩ := h.retryCount_total (isRetryMarker_retryMarkerName task.taskType task.taskId)
      dsimp only
      split
      · rw [hn]
        simp only [bind, Except.bind]
        split <;> exact ⟨_, rfl⟩
      · exact ⟨_, rfl⟩
  · exact ⟨_, rfl⟩

/-- A retry timer that fires has a control that can be read, and there is a schedule to repeat. -/
theorem judgeTimer_total (h : SoundHistory log.events) (he : e ∈ log.events)
    (htype : e.type = .timerFired) {details : EventDetails}
    (hdetails : EventDetails.extract e log workflow = .ok details) :
    ∃ verdict, RetryPolicies.judgeTimer ⟨e, log, workflow, details⟩ = .ok verdict := by
  unfold RetryPolicies.judgeTimer
  split
  · next timer htimer =>
      simp only at htimer
      subst htimer
      split
      · next hretry =>
          split
          · exact ⟨_, rfl⟩
          · next payload hpayload =>
              -- The control was written for a schedule, so it can be read and leads there.
              obtain ⟨start, hstart, hfired, other, delay, hattr⟩ :=
                EventDetails.timer_of_fired htype hdetails
              obtain ⟨s, hs, hof⟩ := h.retryOf_of_start he hfired hstart hattr hretry
              rw [hpayload] at hof
              obtain ⟨x, hschedule, -, hdecode⟩ := h.decode_of_retryOf hs hof
              obtain ⟨n, hn⟩ := h.retryCount_total x.isRetryMarker_markerName
              have hget : log.get? s.id = some s :=
                (EventLog.get?_eq_some_iff h.numbered).mpr ⟨hs, rfl⟩
              simp [hdecode, hget, Event.repeatedSchedule?, hschedule, Scheduling.attributes, hn,
                bind, Except.bind, pure, Except.pure]
      · exact ⟨_, rfl⟩
  · exact ⟨_, rfl⟩

/-- Every event of a sound history gets a verdict. -/
theorem judge_total (h : SoundHistory log.events) (he : e ∈ log.events) (p : RetryPolicies)
    {details : EventDetails} (hdetails : EventDetails.extract e log workflow = .ok details) :
    ∃ verdict, p.judge ⟨e, log, workflow, details⟩ = .ok verdict := by
  unfold RetryPolicies.judge
  split
  · exact h.judgeFailure_total
  · exact h.judgeFailure_total
  · next htype => exact h.judgeTimer_total he htype hdetails
  · exact ⟨_, rfl⟩

/-! ### What is done for retries -/

variable {p : RetryPolicies} {details : EventDetails}

/-- A timer is started for the schedule that has failed, as long as the count allows. -/
theorem wait_grounds {timerId : String} {delay : Duration} {control : RetryControl}
    (hdetails : EventDetails.extract e log workflow = .ok details)
    (hjudged : p.Judged ⟨e, log, workflow, details⟩ (.wait timerId delay control)) :
    ∃ s ∈ log.events, ∃ x : Scheduling, s.attributes = x.attributes ∧
      e.attributes.failed? = some s.id ∧ timerId = x.timerId ∧ control = ⟨s.id, x.markerName⟩ ∧
      ∃ retries, log.retryCount x.markerName = .ok retries ∧
        (p.policyFor x.taskType).delayBefore? retries.succ = some delay := by
  cases hjudged with
  | @wait task _ retries _ htype htask hid hcount hdelay =>
      simp only at htask
      subst htask
      obtain ⟨s, hs, hfailed, hsid, x, hattr, htaskId, htaskType⟩ :=
        EventDetails.task_of_failed htype hdetails
      rw [hsid] at hid
      rw [htaskId, htaskType] at hcount
      rw [htaskType] at hdelay
      refine ⟨s, hs, x, hattr, hfailed, ?_, ?_, retries, hcount, hdelay⟩
      · rw [htaskId, htaskType, Scheduling.timerId]
      · rw [htaskId, htaskType, Option.some.inj hid, Scheduling.markerName]

/-- The schedule is repeated whose retry timer has fired, and the count of its task goes up. -/
theorem again_grounds (h : SoundHistory log.events) (he : e ∈ log.events) {schedule : Decision}
    {markerName : String} {count : RetryCount}
    (hdetails : EventDetails.extract e log workflow = .ok details)
    (hjudged : p.Judged ⟨e, log, workflow, details⟩ (.again schedule markerName count)) :
    ∃ s ∈ log.events, ∃ x : Scheduling, s.attributes = x.attributes ∧
      e.attributes.fires x.timerId = true ∧ schedule = x.decision ∧ markerName = x.markerName ∧
      ∃ retries, log.retryCount x.markerName = .ok retries ∧ count = retries.succ := by
  cases hjudged with
  | @again timer payload control scheduled _ retries htype htimer hretry hpayload hcontrol
      hscheduled hschedule hcount =>
      simp only at htimer
      subst htimer
      obtain ⟨start, hstart, hfired, other, delay, hattr⟩ :=
        EventDetails.timer_of_fired htype hdetails
      obtain ⟨s, hs, hof⟩ := h.retryOf_of_start he hfired hstart hattr hretry
      rw [hpayload] at hof
      obtain ⟨x, hx, htimerId, hdecode⟩ := h.decode_of_retryOf hs hof
      obtain rfl : control = ⟨s.id, x.markerName⟩ := Except.ok.inj (hcontrol.symm.trans hdecode)
      have hget : log.get? s.id = some s := (EventLog.get?_eq_some_iff h.numbered).mpr ⟨hs, rfl⟩
      obtain rfl : scheduled = s := Option.some.inj (hscheduled.symm.trans hget)
      refine ⟨scheduled, hs, x, hx, ?_, ?_, rfl, retries, hcount, rfl⟩
      · exact Attributes.fires_iff.mpr ⟨start.id, hfired.trans (by rw [htimerId])⟩
      · simpa [Event.repeatedSchedule?, hx, Scheduling.attributes, Scheduling.decision] using
          hschedule.symm

/-- The firing of a retry timer is taken for one. -/
theorem firesRetry_of_fires (h : SoundHistory log.events) (he : e ∈ log.events) {timerId : String}
    (hfires : e.attributes.fires timerId = true) (hretry : isRetryTimer timerId = true)
    (hdetails : EventDetails.extract e log workflow = .ok details) :
    EventContext.FiresRetry ⟨e, log, workflow, details⟩ := by
  obtain ⟨id, hattr⟩ := Attributes.fires_iff.mp hfires
  have htype : e.type = .timerFired := by
    rw [Event.type, hattr]
    rfl
  obtain ⟨timer, -, rfl⟩ := EventDetails.exists_timer htype hdetails
  obtain ⟨start, hstart, hfired, other, delay, hstarted⟩ :=
    EventDetails.timer_of_fired htype hdetails
  obtain rfl : timer.timerId = timerId := by
    rw [hattr] at hfired
    cases hfired
    rfl
  obtain ⟨s, hs, x, -, -, hcontrol⟩ := h.retryOf_of_start he hfired hstart hstarted hretry
  exact ⟨htype, timer, rfl, hretry, by simp [hcontrol]⟩

/-- A failure is retried as long as the policy gives a delay. -/
theorem grants_of_failed (h : SoundHistory log.events) {s : Event} (hs : s ∈ log.events)
    {x : Scheduling} (hx : s.attributes = x.attributes) (hfailed : e.attributes.failed? = some s.id)
    (hdetails : EventDetails.extract e log workflow = .ok details) {retries : RetryCount}
    (hcount : log.retryCount x.markerName = .ok retries) {delay : Duration}
    (hdelay : (p.policyFor x.taskType).delayBefore? retries.succ = some delay) :
    p.Grants ⟨e, log, workflow, details⟩ := by
  have htype : e.type = .taskFailed ∨ e.type = .taskTimedOut := by
    cases hattr : e.attributes <;>
      simp_all [Attributes.failed?, Event.type, Attributes.type]
  obtain ⟨task, -, rfl⟩ := EventDetails.exists_task htype hdetails
  obtain ⟨found, hfound, hfailed', hsid, y, hy, htaskId, htaskType⟩ :=
    EventDetails.task_of_failed htype hdetails
  obtain rfl : found = s :=
    h.numbered.eq_of_id_eq hfound hs (Option.some.inj (hfailed'.symm.trans hfailed))
  obtain rfl := Scheduling.attributes_inj (hy.symm.trans hx)
  refine ⟨htype, task, found.id, retries, delay, rfl, hsid, ?_, ?_⟩
  · rwa [htaskType, htaskId]
  · rwa [htaskType]

/-! ### Every cycle decides -/

variable {r : Registry}

theorem follow_total (hcompletes : r.Completes) (s : CycleState) (ctx : EventContext)
    (verdict : RetryVerdict) : ∃ s', s.follow ctx (r.routeAfter ctx verdict) = (s', none) := by
  have hforward (exhausted : Bool) :
      ∃ s', s.follow ctx (r.routeForward ctx exhausted) = (s', none) := by
    unfold Registry.routeForward
    split
    · next handler hhandler =>
        have hdone := hcompletes _ (Registry.mem_of_handler? hhandler) ctx s.draft
        simp only at hdone
        simp [CycleState.follow, CycleState.call, hdone]
    · split <;> exact ⟨_, rfl⟩
  cases verdict with
  | wait | again => exact ⟨_, rfl⟩
  | pass | passOrphan => exact hforward false
  | exhausted => exact hforward true

/-- No event of a sound history ends a cycle. -/
theorem visit_total (h : SoundHistory log.events) (hcompletes : r.Completes) (he : e ∈ log.events)
    (workflow : WorkflowInfo) (s : CycleState) :
    ∃ s', s.visit r log workflow e = (s', none) := by
  obtain ⟨details, hdetails⟩ := h.extract_total he workflow
  have hextract := EventContext.extract_of_details hdetails
  cases hrecovery : EventContext.recovery? ⟨e, log, workflow, details⟩ with
  | some recovery =>
      simp only [CycleState.visit, hextract, Registry.route, hrecovery]
      exact ⟨_, rfl⟩
  | none =>
      obtain ⟨verdict, hverdict⟩ := h.judge_total he r.policies hdetails
      simp only [CycleState.visit, hextract, Registry.route, hrecovery, hverdict, Except.map]
      exact follow_total hcompletes _ _ verdict

theorem visitAll_total (h : SoundHistory log.events) (hcompletes : r.Completes)
    {events : List Event} (hsub : events ⊆ log.events) (workflow : WorkflowInfo) (s : CycleState) :
    ∃ s', CycleState.visitAll r log workflow s events = (s', none) := by
  induction events generalizing s with
  | nil => exact ⟨s, rfl⟩
  | cons e rest ih =>
      obtain ⟨hhead, hrest⟩ := List.cons_subset.mp hsub
      obtain ⟨s₁, hvisit⟩ := h.visit_total hcompletes hhead workflow s
      simp only [CycleState.visitAll, hvisit]
      exact ih hrest s₁

/-- **Every cycle over a sound history decides**, unless a handler gives up or breaks off. -/
theorem cycle_decides (h : SoundHistory log.events) (hcompletes : r.Completes)
    (workflow : WorkflowInfo) (fresh : FreshTexts) :
    ∃ batch, (r.cycle log workflow fresh).ending = .decided batch := by
  have hsub : log.newEvents ⊆ log.events := fun _ he =>
    ((EventLog.mem_newEvents h.numbered.descending).mp he).1
  obtain ⟨s, hs⟩ := h.visitAll_total hcompletes hsub workflow (.start (r.draft fresh))
  exact ⟨s.draft.decisions, by simp [Registry.cycle, hs, Cycle.ofState]⟩

end SoundHistory

end DurableWorkflow
