import DurableWorkflow.Proofs.Run.Basic

/-!
# Where the data of an event come from

A history that is recorded by named operations, with any batches of decisions, can be told event by
event together with what each was recorded for.  The end of a timer leads back to the decision that
started it, the course of a task to the decision that scheduled it, and nothing is changed on the
way.

## Main Definitions

* `Origin`: what an event is recorded for.
* `Recorder.Chronicle`: the histories that named operations lead to, with the origins of their
  events.
* `CancelsStarted`: a batch cancels only timers that have been started.
* `Origin.Gives`: an event that may be recorded for an origin after a history.
* `Told`: every event of a history may be recorded for its origin.
* `TellsStart`, `TellsSchedule`: what the context of an event tells of a timer or a task.

## Main Statements

* `Occurrence.record_gives`, `Recorder.consequence_gives`: what a single operation records.
* `Recorder.apply_total`: no cycle that cancels only timers that have been started breaks off.
* `Recorder.Chronicle.told`: every history that is recorded can be told.
* `Recorder.Chronicle.references_resolve`: every event has a context, and it tells what was asked
  for.

## Design Notes

A reference is resolved twice: by name in the history before the event, when the event is recorded,
and by number in the whole log, when it is read.  `Origin.Gives` says of the first that it finds the
latest event of the name; as numbers ascend, that is also the latest one before the event in any
longer history (`IsLatest.before`), and the number leads there.
-/

namespace DurableWorkflow

/-- What an event is recorded for. -/
inductive Origin where
  /-- The start of the run and the course of its decision tasks. -/
  | service
  | occurrence (occurrence : Occurrence)
  | decision (decision : Decision)

namespace Occurrence

/-- Whether an occurrence is of a named kind. -/
def IsNamed : Occurrence → Prop
  | .raw _ => False
  | _ => True

/-- The task whose course an occurrence is about. -/
def task? : Occurrence → Option String
  | .taskStarted taskId | .taskCompleted taskId _ | .taskFailed taskId ..
  | .taskTimedOut taskId _ => some taskId
  | _ => none

end Occurrence

/-- The timer that is to end. -/
def Origin.endedTimer? : Origin → Option String
  | .occurrence (.timerFired timerId) | .decision (.cancelTimer timerId) => some timerId
  | _ => none

/-- Every timer that a batch cancels has been started before, if only earlier in the batch. -/
def CancelsStarted (events : List Event) (batch : DecisionBatch) : Prop :=
  ∀ (i : Nat) (timerId : String), batch[i]? = some (.cancelTimer timerId) →
    (∃ e ∈ events, e.attributes.starts timerId = true) ∨
      ∃ delay control, .startTimer timerId delay control ∈ batch.take i

/-- The histories that named operations lead to, with what each event was recorded for, the newest
first. -/
inductive Recorder.Chronicle : Recorder → List Origin → Prop
  | start (workflowType : WorkflowType) (input : Option String) :
      Chronicle (.start workflowType input) [.service, .service, .service]
  | begin {r : Recorder} {origins : List Origin} (h : Chronicle r origins) :
      Chronicle r.decisionStarted (.service :: .service :: origins)
  | occur {r r' : Recorder} {origins : List Origin} {o : Occurrence} (h : Chronicle r origins)
      (hnamed : o.IsNamed) (hrecord : o.record r = .ok r') :
      Chronicle r' (.occurrence o :: origins)
  | apply {r : Recorder} {origins : List Origin} {rejection : Option String}
      {batch : DecisionBatch} (h : Chronicle r origins)
      (hcancels : CancelsStarted r.events batch) :
      Chronicle (r.apply rejection batch).1
        ((batch.map Origin.decision).reverse ++ .service :: origins)

/-- Whether an event neither refers to another one nor can be referred to. -/
def Attributes.standsAlone : Attributes → Bool
  | .taskScheduled .. | .taskStarted .. | .taskCompleted .. | .taskFailed .. | .taskTimedOut ..
  | .taskCanceled .. | .taskCancelRequested .. | .requestCancelTaskFailed .. | .timerStarted ..
  | .timerFired .. | .timerCanceled .. | .other .. => false
  | _ => true

theorem Attributes.refs_of_standsAlone {a : Attributes} (h : a.standsAlone = true) :
    a.scheduleRef? = none ∧ a.taskRef? = none ∧ a.startRef? = none ∧ a.isOther = false := by
  cases a <;> first | exact ⟨rfl, rfl, rfl, rfl⟩ | cases h

/-- No event is about both the course of a task and the end of a timer. -/
theorem Attributes.startRef?_of_scheduleRef {a : Attributes} {id : Int}
    (h : a.scheduleRef? = some id) : a.startRef? = none := by
  cases a <;> first | rfl | cases h

/-- An event that may be recorded for an origin after a history. -/
inductive Origin.Gives (older : List Event) : Origin → Attributes → Prop
  | schedule (x : Scheduling) : Gives older (.decision x.decision) x.attributes
  | start (timerId : String) (delay : Duration) (control : Option String) :
      Gives older (.decision (.startTimer timerId delay control))
        (.timerStarted timerId delay control)
  /-- A timer that no decision asked for has no control. -/
  | startUnasked (timerId : String) (delay : Duration) :
      Gives older (.occurrence (.timerStarted timerId delay)) (.timerStarted timerId delay none)
  /-- The course of a task refers to the latest schedule of that task. -/
  | course {o : Occurrence} {taskId : String} {s : Event} {a : Attributes}
      (htask : o.task? = some taskId)
      (hlatest : IsLatest older (fun x => x.attributes.schedules taskId = true) s)
      (href : a.scheduleRef? = some s.id) : Gives older (.occurrence o) a
  /-- The end of a timer refers to the latest start of that timer. -/
  | timerEnd {o : Origin} {timerId : String} {s : Event} {a : Attributes}
      (htimer : o.endedTimer? = some timerId)
      (hlatest : IsLatest older (fun x => x.attributes.starts timerId = true) s)
      (href : a.startRef? = some (timerId, s.id)) : Gives older o a
  | alone {o : Origin} {a : Attributes} (h : a.standsAlone = true) : Gives older o a

namespace Origin.Gives

variable {older : List Event} {o : Origin} {a : Attributes}

/-- A schedule is what was decided. -/
theorem of_schedule {x : Scheduling} (h : o.Gives older a) (ha : a = x.attributes) :
    o = .decision x.decision := by
  cases h with
  | schedule y => rw [Scheduling.attributes_inj ha]
  | start | startUnasked => cases ha
  | course _ _ href | timerEnd _ _ href | alone href =>
      rw [ha] at href
      cases href

/-- The start of a timer is what was decided, or nobody decided it. -/
theorem of_start {timerId : String} {delay : Duration} {control : Option String}
    (h : o.Gives older a) (ha : a = .timerStarted timerId delay control) :
    o = .decision (.startTimer timerId delay control) ∨
      control = none ∧ o = .occurrence (.timerStarted timerId delay) := by
  cases h with
  | schedule => cases ha
  | start =>
      cases ha
      exact .inl rfl
  | startUnasked =>
      cases ha
      exact .inr ⟨rfl, rfl⟩
  | course _ _ href | timerEnd _ _ href | alone href =>
      rw [ha] at href
      cases href

theorem of_scheduleRef {id : Int} (h : o.Gives older a) (ha : a.scheduleRef? = some id) :
    ∃ (occurrence : Occurrence) (taskId : String) (s : Event),
      o = .occurrence occurrence ∧ occurrence.task? = some taskId ∧ s.id = id ∧
        IsLatest older (fun x => x.attributes.schedules taskId = true) s := by
  cases h with
  | schedule | start | startUnasked => cases ha
  | course htask hlatest href =>
      exact ⟨_, _, _, rfl, htask, Option.some.inj (href.symm.trans ha), hlatest⟩
  | timerEnd _ _ href =>
      rw [Attributes.startRef?_of_scheduleRef ha] at href
      cases href
  | alone halone =>
      rw [(Attributes.refs_of_standsAlone halone).1] at ha
      cases ha

theorem of_startRef {timerId : String} {id : Int} (h : o.Gives older a)
    (ha : a.startRef? = some (timerId, id)) :
    o.endedTimer? = some timerId ∧
      ∃ s : Event, s.id = id ∧ IsLatest older (fun x => x.attributes.starts timerId = true) s := by
  cases h with
  | schedule | start | startUnasked => cases ha
  | timerEnd htimer hlatest href =>
      cases href.symm.trans ha
      exact ⟨htimer, _, rfl, hlatest⟩
  | course _ _ href =>
      rw [Attributes.startRef?_of_scheduleRef href] at ha
      cases ha
  | alone halone =>
      rw [(Attributes.refs_of_standsAlone halone).2.2.1] at ha
      cases ha

/-- Nothing is recorded that refers to a task by its name, and nothing that is not interpreted. -/
theorem taskRef?_eq_none (h : o.Gives older a) : a.taskRef? = none ∧ a.isOther = false := by
  cases h with
  | schedule | start | startUnasked => exact ⟨rfl, rfl⟩
  | course _ _ href | timerEnd _ _ href => cases a <;> first | exact ⟨rfl, rfl⟩ | cases href
  | alone halone => exact ⟨(Attributes.refs_of_standsAlone halone).2.1,
      (Attributes.refs_of_standsAlone halone).2.2.2⟩

end Origin.Gives

/-! ### What single operations record -/

/-- What occurs is recorded with references to the latest schedule or start. -/
theorem Occurrence.record_gives {o : Occurrence} {r r' : Recorder} (hnumbered : Numbered r.events)
    (hnamed : o.IsNamed) (h : o.record r = .ok r') :
    ∃ a, r' = r.push a ∧ (Origin.occurrence o).Gives r.events a := by
  cases o with
  | taskStarted | taskCompleted | taskFailed | taskTimedOut =>
      obtain ⟨id, hid, rfl⟩ := exists_of_map_eq_ok h
      obtain ⟨s, rfl, hlatest⟩ := Recorder.scheduledId_latest hnumbered hid
      exact ⟨_, rfl, .course rfl hlatest rfl⟩
  | timerFired =>
      obtain ⟨id, hid, rfl⟩ := exists_of_map_eq_ok h
      obtain ⟨s, rfl, hlatest⟩ := Recorder.startedId_latest hnumbered hid
      exact ⟨_, rfl, .timerEnd rfl hlatest rfl⟩
  | timerStarted timerId delay =>
      cases h
      exact ⟨_, rfl, .startUnasked timerId delay⟩
  | signal | marker =>
      cases h
      exact ⟨_, rfl, .alone rfl⟩
  | raw => exact hnamed.elim

namespace Recorder

variable {r : Recorder}

/-- What is decided is recorded as it was decided. -/
theorem consequence_gives {rejection : Option String} {d : Decision} {a : Attributes}
    (hnumbered : Numbered r.events) (h : r.consequence rejection d = .ok a) :
    (Origin.decision d).Gives r.events a := by
  cases d with
  | scheduleTask taskId taskType input control options =>
      cases h
      exact .schedule ⟨taskId, taskType, input, control, options⟩
  | startTimer timerId delay control =>
      cases h
      exact .start timerId delay control
  | cancelTimer timerId =>
      obtain ⟨id, hid, rfl⟩ := exists_of_map_eq_ok h
      obtain ⟨s, rfl, hlatest⟩ := startedId_latest hnumbered hid
      exact .timerEnd rfl hlatest rfl
  | recordMarker =>
      cases h
      exact .alone rfl
  | completeWorkflow | failWorkflow | cancelWorkflow =>
      cases rejection <;> cases h <;> exact .alone rfl

/-- A decision can be recorded if the timer has been started that it cancels, if any. -/
theorem consequence_total (rejection : Option String) {d : Decision}
    (h : ∀ timerId, d = .cancelTimer timerId →
      ∃ e ∈ r.events, e.attributes.starts timerId = true) :
    ∃ a, r.consequence rejection d = .ok a := by
  cases d with
  | cancelTimer timerId =>
      obtain ⟨id, hid⟩ := startedId_total (h timerId rfl)
      exact ⟨.timerCanceled timerId id, by rw [consequence, hid]; rfl⟩
  | scheduleTask | startTimer | recordMarker | completeWorkflow | failWorkflow
  | cancelWorkflow => exact ⟨_, rfl⟩

/-- When the first decision of a batch has been recorded, what it started is in the history. -/
theorem cancelsStarted_push {rejection : Option String} {d : Decision} {rest : DecisionBatch}
    {a : Attributes} (h : CancelsStarted r.events (d :: rest))
    (ha : r.consequence rejection d = .ok a) : CancelsStarted (r.push a).events rest := by
  intro i timerId hi
  rcases h (i + 1) timerId hi with ⟨e, he, hstarts⟩ | ⟨delay, control, hmem⟩
  · exact .inl ⟨e, List.mem_cons_of_mem _ he, hstarts⟩
  · rcases List.mem_cons.mp (List.take_succ_cons ▸ hmem) with rfl | hmem
    · cases ha
      exact .inl ⟨_, List.mem_cons_self .., Attributes.starts_iff.mpr ⟨delay, control, rfl⟩⟩
    · exact .inr ⟨delay, control, hmem⟩

/-- A batch that cancels only timers that have been started is recorded to its end. -/
theorem recordAll_total (rejection : Option String) {batch : DecisionBatch}
    (h : CancelsStarted r.events batch) :
    ∃ r', recordAll rejection r batch = (r', none) := by
  induction batch generalizing r with
  | nil => exact ⟨r, rfl⟩
  | cons d rest ih =>
      have hfirst : ∀ timerId, d = .cancelTimer timerId →
          ∃ e ∈ r.events, e.attributes.starts timerId = true := by
        rintro timerId rfl
        rcases h 0 timerId rfl with hstarted | ⟨_, _, hmem⟩
        · exact hstarted
        · cases hmem
      obtain ⟨a, ha⟩ := consequence_total rejection hfirst
      obtain ⟨r', hr'⟩ := ih (cancelsStarted_push h ha)
      exact ⟨r', by rw [recordAll, ha]; exact hr'⟩

/-- A cycle that cancels only timers that have been started is recorded without a fault. -/
theorem apply_total (rejection : Option String) {batch : DecisionBatch}
    (h : CancelsStarted r.events batch) : ∃ r', r.apply rejection batch = (r', none) :=
  recordAll_total rejection fun i timerId hi =>
    (h i timerId hi).imp_left fun ⟨e, he, hstarts⟩ => ⟨e, List.mem_cons_of_mem _ he, hstarts⟩

end Recorder

/-! ### Histories that can be told -/

/-- Every event of a history may be recorded for its origin after those before it. -/
inductive Told : List Event → List Origin → Prop
  | nil : Told [] []
  | cons {events : List Event} {origins : List Origin} {o : Origin} {a : Attributes}
      (h : Told events origins) (hgives : o.Gives events a) :
      Told (⟨events.length + 1, .epoch, a⟩ :: events) (o :: origins)

namespace Told

variable {events : List Event} {origins : List Origin} {e : Event}

theorem numbered (h : Told events origins) : Numbered events := by
  induction h with
  | nil => trivial
  | cons _ _ ih => exact ⟨rfl, ih⟩

theorem push {r : Recorder} {o : Origin} {a : Attributes} (h : Told r.events origins)
    (hgives : o.Gives r.events a) : Told (r.push a).events (o :: origins) :=
  .cons h hgives

theorem length_eq (h : Told events origins) : origins.length = events.length := by
  induction h with
  | nil => rfl
  | cons _ _ ih => rw [List.length_cons, List.length_cons, ih]

theorem exists_origin (h : Told events origins) (he : e ∈ events) :
    ∃ o newer older, (e, o) ∈ events.zip origins ∧ events = newer ++ e :: older ∧
      o.Gives older e.attributes := by
  induction h with
  | nil => cases he
  | cons _ hgives ih =>
      rcases List.mem_cons.mp he with rfl | he
      · exact ⟨_, [], _, List.mem_cons_self .., rfl, hgives⟩
      · obtain ⟨o, newer, older, ho, rfl, hold⟩ := ih he
        exact ⟨o, _ :: newer, older, List.mem_cons_of_mem _ ho, rfl, hold⟩

/-- Every event of a told history has been recorded for something, and what was the latest then is
the latest before the event ever after. -/
theorem traced (h : Told events origins) (he : e ∈ events) :
    ∃ o older, (e, o) ∈ events.zip origins ∧ o.Gives older e.attributes ∧
      ∀ (p : Event → Prop) (s : Event), IsLatest older p s →
        IsLatest events (fun x => x.id < e.id ∧ p x) s := by
  obtain ⟨o, newer, older, ho, rfl, hgives⟩ := h.exists_origin he
  exact ⟨o, older, ho, hgives, fun _ _ hlatest => hlatest.before h.numbered⟩

end Told

namespace Recorder

variable {r : Recorder} {origins : List Origin}

/-- Every decision of a batch is recorded after those before it. -/
theorem told_of_apply {rejection : Option String} {batch : DecisionBatch}
    (h : Told r.events origins) (hcancels : CancelsStarted r.events batch) :
    Told (r.apply rejection batch).1.events
      ((batch.map Origin.decision).reverse ++ .service :: origins) := by
  have hcompleted : Told r.completed.events (.service :: origins) := .cons h (.alone rfl)
  obtain ⟨r', happly⟩ := apply_total rejection hcancels
  -- What has been recorded of the batch is told, whatever is left of it.
  obtain ⟨done, hdone, htold⟩ := recordAll_induction
    (motive := fun r' rest => ∃ done, batch = done ++ rest ∧
      Told r'.events ((done.map Origin.decision).reverse ++ .service :: origins))
    (fun r₁ d rest a ha ⟨done, hdone, htold⟩ => by
      refine ⟨done ++ [d], by simpa using hdone, ?_⟩
      rw [List.map_append, List.reverse_append]
      exact htold.push (consequence_gives htold.numbered ha))
    ⟨[], rfl, hcompleted⟩ happly
  rw [happly, hdone, List.append_nil]
  exact htold

/-- **Every history that is recorded by named operations can be told.** -/
theorem Chronicle.told (h : Chronicle r origins) : Told r.events origins := by
  induction h with
  | start => exact .cons (.cons (.cons .nil (.alone rfl)) (.alone rfl)) (.alone rfl)
  | begin _ ih => exact .cons (.cons ih (.alone rfl)) (.alone rfl)
  | occur _ hnamed hrecord ih =>
      obtain ⟨a, rfl, hgives⟩ := Occurrence.record_gives ih.numbered hnamed hrecord
      exact .cons ih hgives
  | apply _ hcancels ih => exact told_of_apply ih hcancels

theorem Chronicle.events_ne_nil (h : Chronicle r origins) : r.events ≠ [] := by
  have horigins : origins ≠ [] := by
    cases h <;> simp
  intro hnil
  have hlength := h.told.length_eq
  rw [hnil, List.length_nil] at hlength
  exact horigins (List.length_eq_zero_iff.mp hlength)

end Recorder

/-! ### What contexts tell -/

/-- The context of the end of a timer tells the start it belongs to, as that was asked for. -/
structure TellsStart (log : EventLog) (origins : List Origin) (workflow : WorkflowInfo)
    (e s : Event) (timerId : String) (delay : Duration) (control : Option String) : Prop where
  latest : IsLatest log.events (fun x => x.id < e.id ∧ x.attributes.starts timerId = true) s
  start : s.attributes = .timerStarted timerId delay control
  context : EventContext.extract e log workflow =
    .ok ⟨e, log, workflow, .timer ⟨timerId, control, some delay, none⟩⟩
  /-- The event is about the timer that was named. -/
  about : ∃ o : Origin, (e, o) ∈ log.events.zip origins ∧ o.endedTimer? = some timerId
  origin : (s, .decision (.startTimer timerId delay control)) ∈ log.events.zip origins ∨
    control = none ∧ (s, .occurrence (.timerStarted timerId delay)) ∈ log.events.zip origins

/-- The context of an event about the course of a task tells the schedule it belongs to, as that was
asked for. -/
structure TellsSchedule (log : EventLog) (origins : List Origin) (workflow : WorkflowInfo)
    (e s : Event) (x : Scheduling) : Prop where
  latest :
    IsLatest log.events (fun y => y.id < e.id ∧ y.attributes.schedules x.taskId = true) s
  schedule : s.attributes = x.attributes
  context : ∃ d, EventContext.extract e log workflow = .ok ⟨e, log, workflow, .task d⟩ ∧
    d.taskId = x.taskId ∧ d.taskType = x.taskType ∧ d.input = x.input ∧ d.control = x.control
  /-- The event is about the task that was named. -/
  about : ∃ o : Occurrence, (e, .occurrence o) ∈ log.events.zip origins ∧ o.task? = some x.taskId
  origin : (s, .decision x.decision) ∈ log.events.zip origins

namespace Told

variable {log : EventLog} {origins : List Origin} {e : Event} {id : Int}

theorem tellsStart (h : Told log.events origins) (workflow : WorkflowInfo) (he : e ∈ log.events)
    {timerId : String} (href : e.attributes.startRef? = some (timerId, id)) :
    ∃ s delay control, s.id = id ∧ TellsStart log origins workflow e s timerId delay control := by
  obtain ⟨o, older, ho, hgives, hkeeps⟩ := h.traced he
  obtain ⟨htimer, s, hid, hlatest⟩ := hgives.of_startRef href
  have hbefore := hkeeps _ s hlatest
  obtain ⟨delay, control, hs⟩ := Attributes.starts_iff.mp hlatest.holds
  have hget : log.get? id = some s := (EventLog.get?_eq_some_iff h.numbered).mpr ⟨hbefore.mem, hid⟩
  have hdetails : EventDetails.extract e log workflow = .ok _ :=
    EventDetails.extract_of_timer (Attributes.category_of_startRef href)
      (TimerDetails.extract_of_startRef href hget hs)
  obtain ⟨start, _, hstart, hgiven, -⟩ := h.traced hbefore.mem
  refine ⟨s, delay, control, hid, hbefore, hs, EventContext.extract_of_details hdetails,
    ⟨o, ho, htimer⟩, ?_⟩
  rcases hgiven.of_start hs with rfl | ⟨hcontrol, rfl⟩
  · exact .inl hstart
  · exact .inr ⟨hcontrol, hstart⟩

theorem tellsSchedule (h : Told log.events origins) (workflow : WorkflowInfo) (he : e ∈ log.events)
    (href : e.attributes.scheduleRef? = some id) :
    ∃ s x, s.id = id ∧ TellsSchedule log origins workflow e s x := by
  obtain ⟨o, older, ho, hgives, hkeeps⟩ := h.traced he
  obtain ⟨occurrence, taskId, s, rfl, htask, hid, hlatest⟩ := hgives.of_scheduleRef href
  have hbefore := hkeeps _ s hlatest
  obtain ⟨x, hx, rfl⟩ := Attributes.schedules_iff.mp hlatest.holds
  have hget : log.get? id = some s := (EventLog.get?_eq_some_iff h.numbered).mpr ⟨hbefore.mem, hid⟩
  obtain ⟨d, hd, htaskId, htaskType, -, hinput, hcontrol⟩ :=
    TaskDetails.extract_of_scheduleRef href hget hx
  have hdetails : EventDetails.extract e log workflow = .ok (.task d) :=
    EventDetails.extract_of_task (Attributes.category_of_scheduleRef href) hd
  obtain ⟨decided, _, hdecided, hgiven, -⟩ := h.traced hbefore.mem
  exact ⟨s, x, hid, hbefore, hx,
    ⟨d, EventContext.extract_of_details hdetails, htaskId, htaskType, hinput, hcontrol⟩,
    ⟨occurrence, ho, htask⟩, hgiven.of_schedule hx ▸ hdecided⟩

/-- The references of every event of a history that can be told resolve. -/
theorem resolves (h : Told log.events origins) (he : e ∈ log.events) :
    e.attributes.Resolves log := by
  obtain ⟨o, older, -, hgives, hkeeps⟩ := h.traced he
  obtain ⟨htask, hinterpreted⟩ := hgives.taskRef?_eq_none
  have hget {p : Event → Prop} {s : Event} (hlatest : IsLatest older p s) :
      log.get? s.id = some s :=
    (EventLog.get?_eq_some_iff h.numbered).mpr ⟨(hkeeps p s hlatest).mem, rfl⟩
  refine ⟨fun id href => ?_, fun taskId href => ?_, fun timerId id href => ?_, hinterpreted⟩
  · obtain ⟨-, taskId, s, -, -, rfl, hlatest⟩ := hgives.of_scheduleRef href
    obtain ⟨x, hx, -⟩ := Attributes.schedules_iff.mp hlatest.holds
    exact ⟨s, x, hget hlatest, hx⟩
  · rw [htask] at href
    cases href
  · obtain ⟨-, s, rfl, hlatest⟩ := hgives.of_startRef href
    obtain ⟨delay, control, hs⟩ := Attributes.starts_iff.mp hlatest.holds
    exact ⟨s, timerId, delay, control, hget hlatest, hs⟩

end Told

/-- **References always resolve, and nothing is changed on the way.**  Whatever batches and
occurrences a history has been recorded from, its log is complete, each of its events has a context,
the end of a timer tells the latest start of that timer before it, and the course of a task the
latest schedule of that task before it, with the very texts that were asked for. -/
theorem Recorder.Chronicle.references_resolve {r : Recorder} {origins : List Origin}
    (h : Chronicle r origins) (workflow : WorkflowInfo) :
    ∃ log, r.log = .ok log ∧ log.events = r.events ∧ origins.length = log.events.length ∧
      (∀ e ∈ log.events, ∃ ctx, EventContext.extract e log workflow = .ok ctx) ∧
      (∀ e ∈ log.events, ∀ timerId id, e.attributes.startRef? = some (timerId, id) →
        ∃ s delay control, s.id = id ∧ TellsStart log origins workflow e s timerId delay control) ∧
      (∀ e ∈ log.events, ∀ id, e.attributes.scheduleRef? = some id →
        ∃ s x, s.id = id ∧ TellsSchedule log origins workflow e s x) := by
  have htold := h.told
  refine ⟨_, EventLog.assemble_of_numbered htold.numbered h.events_ne_nil _, rfl, htold.length_eq,
    fun e he => ?_, fun e he timerId id href => htold.tellsStart workflow he href,
    fun e he id href => htold.tellsSchedule workflow he href⟩
  obtain ⟨details, hdetails⟩ := EventDetails.extract_total (htold.resolves he) workflow
  exact ⟨_, EventContext.extract_of_details hdetails⟩

/-- A timer is started, canceled and started again in one batch.  When it fires, its context tells
the second start. -/
theorem Recorder.Chronicle.references_resolve_restarted :
    let batch : DecisionBatch := [.startTimer "reminder" (.ofMillis 1000) (some "first"),
      .cancelTimer "reminder", .startTimer "reminder" (.ofMillis 2000) (some "second")]
    let applied := ((Recorder.start ⟨"order", "1"⟩ none).apply none batch).1
    let fired := applied.push (.timerFired "reminder" 7)
    ∃ origins log s, Chronicle fired origins ∧ fired.log = .ok log ∧
      TellsStart log origins fired.workflow ⟨8, .epoch, .timerFired "reminder" 7⟩ s "reminder"
        (.ofMillis 2000) (some "second") := by
  intro batch applied fired
  have hcancels : CancelsStarted (Recorder.start ⟨"order", "1"⟩ none).events batch := by
    intro i timerId hi
    match i with
    | 0 | 2 | _ + 3 => cases hi
    | 1 =>
        cases hi
        exact .inr ⟨_, _, List.mem_cons_self ..⟩
  have hfired : Chronicle fired _ :=
    .occur (o := .timerFired "reminder") (.apply (.start _ _) hcancels) trivial rfl
  obtain ⟨log, hlog, hevents, -, -, htimers, -⟩ := hfired.references_resolve fired.workflow
  have he : ⟨8, .epoch, .timerFired "reminder" 7⟩ ∈ log.events := by
    rw [hevents]
    exact List.mem_cons_self ..
  obtain ⟨s, delay, control, hid, htells⟩ := htimers _ he "reminder" 7 rfl
  have hstart : s = ⟨7, .epoch, .timerStarted "reminder" (.ofMillis 2000) (some "second")⟩ := by
    refine hfired.told.numbered.eq_of_id_eq (hevents ▸ htells.latest.mem) ?_ hid
    exact List.mem_cons_of_mem _ (List.mem_cons_self ..)
  have hattr := htells.start
  rw [hstart] at hattr
  cases hattr
  exact ⟨_, log, s, hfired, hlog, htells⟩

end DurableWorkflow
