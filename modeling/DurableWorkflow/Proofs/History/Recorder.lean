import DurableWorkflow.History.Recorder
import DurableWorkflow.Proofs.Event.Reference
import DurableWorkflow.Proofs.History.Log

/-!
# What a recorder does to its history

A recorder only ever adds events, numbered as they come, and every reference it writes is to an
event that is there.

## Main Definitions

* `Decision.intended?`: the event that a decision leads to, if retries depend on it.
* `Recorder.completed`: a history whose decision task has been completed, before the decisions.

## Main Statements

* `Recorder.scheduledId_latest`, `Recorder.startedId_latest`: what a resolved reference refers to.
* `Recorder.recordAll_induction`, `Recorder.apply_induction`: what every recorded decision keeps
  holds after the batch.
* `Recorder.apply_frame`: what recording a batch leaves as it was.
-/

namespace DurableWorkflow

/-- The event that a decision leads to, if it is one on which retries depend. -/
def Decision.intended? : Decision → Option Attributes
  | .scheduleTask taskId t input control options =>
    some (.taskScheduled taskId t input control options)
  | .startTimer timerId delay control => some (.timerStarted timerId delay control)
  | .recordMarker markerName details => some (.markerRecorded markerName details)
  | .cancelTimer _ | .completeWorkflow _ | .failWorkflow .. | .cancelWorkflow _ => none

namespace Recorder

variable {r r' : Recorder}

/-! ### Single events -/

@[simp]
theorem push_events (a : Attributes) :
    (r.push a).events = ⟨r.lastId + 1, .epoch, a⟩ :: r.events := rfl

@[simp]
theorem push_workflow (a : Attributes) : (r.push a).workflow = r.workflow := rfl

@[simp]
theorem push_previousStartedEventId (a : Attributes) :
    (r.push a).previousStartedEventId = r.previousStartedEventId := rfl

@[simp]
theorem push_decisionScheduledEventId (a : Attributes) :
    (r.push a).decisionScheduledEventId = r.decisionScheduledEventId := rfl

@[simp]
theorem lastId_push (a : Attributes) : (r.push a).lastId = r.lastId + 1 := by
  simp [lastId]

/-- An event that is recorded gets the next number. -/
theorem numbered_push (h : Numbered r.events) (a : Attributes) : Numbered (r.push a).events :=
  ⟨rfl, h⟩

/-! ### Decision tasks -/

/-- Starting a decision task adds two events. -/
theorem decisionStarted_events (r : Recorder) :
    r.decisionStarted.events =
      ⟨r.lastId + 2, .epoch, .decisionTaskStarted (r.lastId + 1) (some worker)⟩ ::
        ⟨r.lastId + 1, .epoch, .decisionTaskScheduled "default"⟩ :: r.events := by
  simp only [decisionStarted, push_events, lastId, List.length_cons]
  congr 2

@[simp]
theorem lastId_decisionStarted (r : Recorder) : r.decisionStarted.lastId = r.lastId + 2 := by
  simp only [lastId, decisionStarted_events, List.length_cons]
  omega

@[simp]
theorem decisionStarted_previousStartedEventId (r : Recorder) :
    r.decisionStarted.previousStartedEventId = r.previousStartedEventId := rfl

@[simp]
theorem decisionStarted_decisionStartedEventId (r : Recorder) :
    r.decisionStarted.workflow.decisionStartedEventId = r.lastId + 2 := by
  simp only [decisionStarted, lastId, push_events, List.length_cons]
  omega

/-- The events of a decision task get the next two numbers. -/
theorem numbered_decisionStarted (h : Numbered r.events) : Numbered r.decisionStarted.events := by
  rw [decisionStarted_events]
  refine ⟨?_, rfl, h⟩
  simp only [lastId, List.length_cons]
  omega

/-- The events that a started decision task leaves on top are its own. -/
theorem decisionStarted_started (r : Recorder) :
    ∃ e ∈ r.decisionStarted.events,
      e.id = r.decisionStarted.workflow.decisionStartedEventId ∧ e.type = .decisionTaskStarted := by
  rw [decisionStarted_events, decisionStarted_decisionStartedEventId]
  exact ⟨_, List.mem_cons_self .., rfl, rfl⟩

/-- The log of a history is the history. -/
theorem log_ok (h : Numbered r.events) {log : EventLog} (hlog : r.log = .ok log) :
    log = ⟨r.events, r.previousStartedEventId⟩ := by
  by_cases hne : r.events = []
  · rw [Recorder.log, hne] at hlog
    cases hlog
  · rw [Recorder.log, EventLog.assemble_of_numbered h hne] at hlog
    cases hlog
    rfl

/-! ### References -/

/-- A search for a number finds that of the first event of a kind. -/
theorem findSome?_id {p : Event → Bool} {f : Event → Option Int}
    (hf : ∀ e, f e = if p e then some e.id else none) (events : List Event) :
    events.findSome? f = (events.find? p).map (·.id) := by
  induction events with
  | nil => rfl
  | cons e rest ih =>
      rw [List.findSome?_cons, List.find?_cons, hf]
      cases p e with
      | true => rfl
      | false => exact ih

/-- The number of a schedule is that of the latest one of the task. -/
theorem scheduledId_eq_ok_iff {taskId : String} {id : Int} :
    r.scheduledId taskId = .ok id ↔
      ∃ s, r.events.find? (·.attributes.schedules taskId) = some s ∧ s.id = id := by
  rw [scheduledId, findSome?_id (p := fun e => e.attributes.schedules taskId)]
  · cases r.events.find? (·.attributes.schedules taskId) <;> simp
  · intro e
    cases e.attributes <;> simp [Attributes.schedules]

/-- The number of a start is that of the latest one of the timer. -/
theorem startedId_eq_ok_iff {timerId : String} {id : Int} :
    r.startedId timerId = .ok id ↔
      ∃ s, r.events.find? (·.attributes.starts timerId) = some s ∧ s.id = id := by
  rw [startedId, findSome?_id (p := fun e => e.attributes.starts timerId)]
  · cases r.events.find? (·.attributes.starts timerId) <;> simp
  · intro e
    cases e.attributes <;> simp [Attributes.starts]

/-- A resolved reference to a task is to the event that schedules it last. -/
theorem scheduledId_latest (hnumbered : Numbered r.events) {taskId : String} {id : Int}
    (h : r.scheduledId taskId = .ok id) :
    ∃ s, s.id = id ∧ IsLatest r.events (fun x => x.attributes.schedules taskId = true) s := by
  obtain ⟨s, hs, hid⟩ := scheduledId_eq_ok_iff.mp h
  exact ⟨s, hid, (find?_eq_some_iff_isLatest hnumbered).mp hs⟩

/-- A resolved reference to a timer is to the event that starts it last. -/
theorem startedId_latest (hnumbered : Numbered r.events) {timerId : String} {id : Int}
    (h : r.startedId timerId = .ok id) :
    ∃ s, s.id = id ∧ IsLatest r.events (fun x => x.attributes.starts timerId = true) s := by
  obtain ⟨s, hs, hid⟩ := startedId_eq_ok_iff.mp h
  exact ⟨s, hid, (find?_eq_some_iff_isLatest hnumbered).mp hs⟩

/-- A timer that has been started can be referred to. -/
theorem startedId_total {timerId : String}
    (h : ∃ s ∈ r.events, s.attributes.starts timerId = true) :
    ∃ id, r.startedId timerId = .ok id := by
  obtain ⟨s, hs⟩ := Option.isSome_iff_exists.mp
    (List.find?_isSome (p := fun e : Event => e.attributes.starts timerId).mpr h)
  exact ⟨s.id, startedId_eq_ok_iff.mpr ⟨s, hs, rfl⟩⟩

/-- A resolved reference to a task is to an event that schedules it. -/
theorem scheduledId_ok {taskId : String} {id : Int} (h : r.scheduledId taskId = .ok id) :
    ∃ e ∈ r.events, e.id = id ∧ e.attributes.schedules taskId := by
  obtain ⟨s, hs, hid⟩ := scheduledId_eq_ok_iff.mp h
  exact ⟨s, List.mem_of_find?_eq_some hs, hid,
    List.find?_some (p := fun e : Event => e.attributes.schedules taskId) hs⟩

/-- A resolved reference to a timer is to an event that starts it. -/
theorem startedId_ok {timerId : String} {id : Int} (h : r.startedId timerId = .ok id) :
    ∃ e ∈ r.events, e.id = id ∧ e.attributes.starts timerId := by
  obtain ⟨s, hs, hid⟩ := startedId_eq_ok_iff.mp h
  exact ⟨s, List.mem_of_find?_eq_some hs, hid,
    List.find?_some (p := fun e : Event => e.attributes.starts timerId) hs⟩

/-! ### Batches -/

/-- What holds of a history and the decisions that are still to be recorded holds when all are
recorded, if every single decision keeps it. -/
theorem recordAll_induction {rejection : Option String} {motive : Recorder → DecisionBatch → Prop}
    (step : ∀ r d rest a, r.consequence rejection d = .ok a → motive r (d :: rest) →
      motive (r.push a) rest) :
    ∀ {batch : DecisionBatch} {r : Recorder}, motive r batch →
      recordAll rejection r batch = (r', none) → motive r' []
  | [], r, hr, h => by
      simp only [recordAll, Prod.mk.injEq] at h
      exact h.1 ▸ hr
  | d :: rest, r, hr, h => by
      unfold recordAll at h
      split at h
      · next a ha => exact recordAll_induction step (step r d rest a ha hr) h
      · simp at h

/-- A history before the decisions of a batch are recorded. -/
def completed (r : Recorder) : Recorder :=
  { r.push
      (.decisionTaskCompleted r.decisionScheduledEventId r.workflow.decisionStartedEventId) with
    previousStartedEventId := r.workflow.decisionStartedEventId }

@[simp]
theorem completed_events (r : Recorder) :
    r.completed.events =
      ⟨r.lastId + 1, .epoch, .decisionTaskCompleted r.decisionScheduledEventId
        r.workflow.decisionStartedEventId⟩ :: r.events := rfl

@[simp]
theorem completed_workflow (r : Recorder) : r.completed.workflow = r.workflow := rfl

@[simp]
theorem completed_previousStartedEventId (r : Recorder) :
    r.completed.previousStartedEventId = r.workflow.decisionStartedEventId := rfl

/-- What holds when a decision task has been completed holds when its batch is recorded, if every
single decision keeps it. -/
theorem apply_induction {rejection : Option String} {motive : Recorder → DecisionBatch → Prop}
    {batch : DecisionBatch} (start : motive r.completed batch)
    (step : ∀ r d rest a, r.consequence rejection d = .ok a → motive r (d :: rest) →
      motive (r.push a) rest)
    (h : r.apply rejection batch = (r', none)) : motive r' [] :=
  recordAll_induction step start h

/-- What recording a batch leaves as it was, and what it moves on. -/
theorem apply_frame {rejection : Option String} {batch : DecisionBatch}
    (h : r.apply rejection batch = (r', none)) (hnumbered : Numbered r.events) :
    Numbered r'.events ∧ r.lastId ≤ r'.lastId ∧ r'.workflow = r.workflow ∧
      r'.previousStartedEventId = r.workflow.decisionStartedEventId ∧ r.events <:+ r'.events := by
  refine apply_induction (motive := fun r' _ => Numbered r'.events ∧ r.lastId ≤ r'.lastId ∧
    r'.workflow = r.workflow ∧ r'.previousStartedEventId = r.workflow.decisionStartedEventId ∧
    r.events <:+ r'.events) ?_ ?_ h
  · refine ⟨⟨rfl, hnumbered⟩, ?_, rfl, rfl, List.suffix_cons ..⟩
    simp only [lastId, completed_events, List.length_cons]
    omega
  · rintro r₁ d rest a - ⟨hnumbered₁, hlast, hworkflow, hprevious, hsuffix⟩
    refine ⟨numbered_push hnumbered₁ a, ?_, hworkflow, hprevious,
      hsuffix.trans (List.suffix_cons ..)⟩
    rw [lastId_push]
    omega

end Recorder

end DurableWorkflow
