import DurableWorkflow.Proofs.Dispatch.Recovery
import DurableWorkflow.Proofs.History.Soundness
import DurableWorkflow.Proofs.Run.Basic

/-!
# The ways of events through a cycle

Every new event that a cycle comes to goes exactly one of six ways, in the order of the numbers.
The first event that cannot go its way ends the cycle.

## Main Definitions

* `Way`: the ways.
* `Registry.Takes`: which way an event has to go, from what the history says of it.
* `Registry.Goes`: what a way adds to the draft, and the contexts that handlers are called with.
* `Registry.Visits`: what becomes of one event, be it the one that ends the cycle.
* `Registry.Course`: what becomes of events one after the other.

## Main Statements

* `Registry.Takes.unique`: no event has two ways to go.
* `CycleState.sees_visit`: every visit is as `Registry.Visits` says.
* `Registry.exists_course`: every cycle has a course.
* `Registry.cycle_course`: the course of a cycle over the log of any delivery.

## Design Notes

The conditions (`Registry.Takes`) are kept apart from the effects (`Registry.Goes`).  Effects are
told in terms of the events that a failure or a firing refers to, not of the data extracted from
them.
-/

namespace DurableWorkflow

/-- The ways that an event can go. -/
inductive Way where
  /-- A rejected close is issued again. -/
  | reissue
  /-- A failed task waits to be tried again. -/
  | wait
  /-- A task is tried again. -/
  | again
  /-- A handler is called. -/
  | handle
  /-- The run fails because a task has failed for good. -/
  | giveUp
  /-- Nobody asks for the event. -/
  | skip
  deriving DecidableEq, Repr

/-! ### What events refer to -/

namespace EventContext

/-- The event is the failure of a schedule. -/
structure Fails (ctx : EventContext) (s : Event) (x : Scheduling) : Prop where
  mem : s ∈ ctx.log.events
  failed : ctx.event.attributes.failed? = some s.id
  scheduling : s.attributes = x.attributes

/-- The event is the firing of a timer that was started with a control. -/
structure Fires (ctx : EventContext) (timerId payload : String) (start : Event) : Prop where
  mem : start ∈ ctx.log.events
  fired : ctx.event.attributes = .timerFired timerId start.id
  started : ∃ other delay, start.attributes = .timerStarted other delay (some payload)

/-- The key of the handler for an event. -/
def key (ctx : EventContext) : HandlerKey := ⟨ctx.event.type, ctx.name⟩

end EventContext

/-- The event is left to handlers: it reports no rejected close, and retries have nothing to do. -/
structure RetryPolicies.Leaves (p : RetryPolicies) (ctx : EventContext) : Prop where
  not_rejected : ctx.event.type.isCloseFailure = false
  quiet : p.Quiet ctx

namespace Registry

/-! ### Conditions -/

/-- Which way an event has to go. -/
def Takes (r : Registry) (ctx : EventContext) : Way → Prop
  | .reissue => ctx.event.type.isCloseFailure = true
  | .wait => r.policies.Grants ctx
  | .again => ctx.FiresRetry
  | .handle => r.policies.Leaves ctx ∧ ∃ handler, r.handler? ctx.key = some handler
  | .giveUp => r.policies.Leaves ctx ∧ r.handler? ctx.key = none ∧ r.policies.GivesUp ctx
  | .skip => r.policies.Leaves ctx ∧ r.handler? ctx.key = none ∧ ¬ r.policies.GivesUp ctx

variable {r : Registry} {ctx : EventContext}

/-- **No event has two ways to go.** -/
theorem Takes.unique {w w' : Way} (h : r.Takes ctx w) (h' : r.Takes ctx w') : w = w' := by
  -- The first three ways exclude each other by type, and each of them excludes what is left to
  -- handlers.
  have hrejected : ctx.event.type.isCloseFailure = true → r.policies.Quiet ctx :=
    RetryPolicies.quiet_of_rejected
  have hfires : ctx.FiresRetry → ¬ r.policies.Grants ctx :=
    RetryPolicies.not_grants_of_firesRetry
  cases w <;> cases w' <;> grind [Takes, RetryPolicies.Leaves, RetryPolicies.Quiet]

/-! ### Effects -/

/-- What a way adds to the draft, and the contexts that handlers are called with. -/
inductive Goes (r : Registry) (ctx : EventContext) (d : Draft) :
    Way → Draft → List EventContext → Prop
  | reissue {control : CloseControl} (hreissues : ctx.Reissues control) :
      Goes r ctx d .reissue (d.append [control.record, control.decision]) []
  | wait {s : Event} {x : Scheduling} {retries : RetryCount} {delay : Duration}
      (hfails : ctx.Fails s x)
      (hcount : ctx.log.retryCount x.markerName = .ok retries)
      (hdelay : (r.policies.policyFor x.taskType).delayBefore? retries.succ = some delay) :
      Goes r ctx d .wait
        (d.append [.startTimer x.timerId delay (some (RetryControl.encode ⟨s.id, x.markerName⟩))])
        []
  | again {timerId payload : String} {start s : Event} {x : Scheduling} {control : RetryControl}
      {retries : RetryCount}
      (hfires : ctx.Fires timerId payload start)
      (hretry : isRetryTimer timerId = true)
      (hcontrol : RetryControl.decode payload = .ok control)
      (hscheduled : ctx.log.get? control.scheduledEventId = some s)
      (hscheduling : s.attributes = x.attributes)
      (hcount : ctx.log.retryCount control.markerName = .ok retries) :
      Goes r ctx d .again
        (d.append [x.decision, .recordMarker control.markerName (some retries.succ.encode)]) []
  | handle {handler : Handler} {d' : Draft}
      (hhandler : r.handler? ctx.key = some handler)
      (hrun : (handler ctx).run d = (.done, d')) : Goes r ctx d .handle d' [ctx]
  | giveUp {s : Event} {x : Scheduling} {text : String} {details : Option String}
      {control : CloseControl}
      (hfails : ctx.Fails s x)
      (htext : ctx.event.attributes.failure? = some (text, details))
      (hcontrol : control = .fail
        (some (x.taskType.name ++ ":" ++ x.taskType.version ++ ": " ++ text)) details) :
      Goes r ctx d .giveUp (d.append [control.record, control.decision]) []
  | skip : Goes r ctx d .skip d []

/-- What becomes of an event: it goes exactly one way, or it ends the cycle. -/
inductive Visits (r : Registry) (log : EventLog) (workflow : WorkflowInfo) (d : Draft) (e : Event) :
    Draft → List EventContext → Option Interruption → Prop
  | goes {ctx : EventContext} {d' : Draft} {calls : List EventContext}
      (hctx : EventContext.extract e log workflow = .ok ctx)
      (hway : ∃! way, r.Takes ctx way ∧ r.Goes ctx d way d' calls) :
      Visits r log workflow d e d' calls none
  /-- The event has no context. -/
  | unreadable {error : Error} (hctx : EventContext.extract e log workflow = .error error) :
      Visits r log workflow d e d [] (some (.failed error))
  /-- What the history keeps for retries cannot be read. -/
  | refused {ctx : EventContext} {error : Error}
      (hctx : EventContext.extract e log workflow = .ok ctx)
      (hrefuses : r.policies.Refuses ctx error) :
      Visits r log workflow d e d [] (some (.failed error))
  /-- The handler gives up. -/
  | failed {ctx : EventContext} {handler : Handler} {message : String} {d' : Draft}
      (hctx : EventContext.extract e log workflow = .ok ctx) (htakes : r.Takes ctx .handle)
      (hhandler : r.handler? ctx.key = some handler)
      (hrun : (handler ctx).run d = (.failed message, d')) :
      Visits r log workflow d e d' [ctx] (some (.failed (.handler e.id e.type message)))
  /-- The handler breaks off. -/
  | crashed {ctx : EventContext} {handler : Handler} {message : String} {d' : Draft}
      (hctx : EventContext.extract e log workflow = .ok ctx) (htakes : r.Takes ctx .handle)
      (hhandler : r.handler? ctx.key = some handler)
      (hrun : (handler ctx).run d = (.crashed message, d')) :
      Visits r log workflow d e d' [ctx] (some (.crashed message))

theorem Visits.of_goes {log : EventLog} {workflow : WorkflowInfo} {d d' : Draft} {e : Event}
    {calls : List EventContext} (way : Way)
    (hctx : EventContext.extract e log workflow = .ok ctx) (htakes : r.Takes ctx way)
    (hgoes : r.Goes ctx d way d' calls) : r.Visits log workflow d e d' calls none :=
  .goes hctx ⟨way, ⟨htakes, hgoes⟩, fun _ hother => hother.1.unique htakes⟩

/-- What becomes of events one after the other, up to the first that ends the cycle. -/
inductive Course (r : Registry) (log : EventLog) (workflow : WorkflowInfo) :
    Draft → List Event → Draft → List EventContext → Option Interruption → Prop
  | done {d : Draft} : Course r log workflow d [] d [] none
  | step {d d' d'' : Draft} {e : Event} {rest : List Event} {calls more : List EventContext}
      {stop : Option Interruption} (hvisits : r.Visits log workflow d e d' calls none)
      (hrest : Course r log workflow d' rest d'' more stop) :
      Course r log workflow d (e :: rest) d'' (calls ++ more) stop
  | stop {d d' : Draft} {e : Event} {rest : List Event} {calls : List EventContext}
      {stop : Interruption} (hvisits : r.Visits log workflow d e d' calls (some stop)) :
      Course r log workflow d (e :: rest) d' calls (some stop)

end Registry

/-- How a cycle ends that leaves a draft behind. -/
def Cycle.Ending.of (d : Draft) : Option Interruption → Cycle.Ending
  | none => .decided d.decisions
  | some (.failed error) => .failed error
  | some (.crashed message) => .crashed message

/-! ### Visits -/

namespace CycleState

open Registry (Visits Takes Goes Course)

variable {r : Registry} {log : EventLog} {workflow : WorkflowInfo} {s s' : CycleState} {e : Event}
  {details : EventDetails} {stop : Option Interruption}

/-- What a visit does, as seen in the state of the cycle. -/
def Sees (r : Registry) (log : EventLog) (workflow : WorkflowInfo) (s : CycleState) (e : Event)
    (s' : CycleState) (stop : Option Interruption) : Prop :=
  ∃ calls, r.Visits log workflow s.draft e s'.draft calls stop ∧ s'.handled = s.handled ++ calls

/-- An event that goes its way without a handler. -/
theorem sees_goes {ctx : EventContext} (way : Way)
    (hctx : EventContext.extract e log workflow = .ok ctx) (htakes : r.Takes ctx way)
    (hgoes : r.Goes ctx s.draft way s'.draft []) (hhandled : s'.handled = s.handled) :
    Sees r log workflow s e s' none :=
  ⟨[], .of_goes way hctx htakes hgoes, by rw [hhandled, List.append_nil]⟩

theorem sees_call {ctx : EventContext} {handler : Handler}
    (hctx : EventContext.extract e log workflow = .ok ctx)
    (hleaves : r.policies.Leaves ctx) (hhandler : r.handler? ctx.key = some handler)
    (h : s.call ctx (handler ctx) = (s', stop)) : Sees r log workflow s e s' stop := by
  obtain ⟨details, -, rfl⟩ := EventContext.extract_ok hctx
  have htakes : r.Takes _ .handle := ⟨hleaves, handler, hhandler⟩
  cases hrun : (handler ⟨e, log, workflow, details⟩).run s.draft with
  | mk ending d =>
      cases ending <;>
        simp only [call, hrun, Prod.mk.injEq] at h <;>
        obtain ⟨rfl, rfl⟩ := h
      case done => exact ⟨_, .of_goes .handle hctx htakes (.handle hhandler hrun), rfl⟩
      case failed => exact ⟨_, .failed hctx htakes hhandler hrun, rfl⟩
      case crashed => exact ⟨_, .crashed hctx htakes hhandler hrun, rfl⟩

/-- What a failure for good adds tells what the failure tells. -/
theorem goes_giveUp {d : Draft} {task : TaskDetails}
    (hdetails : EventDetails.extract e log workflow = .ok (.task task))
    (htype : e.type = .taskFailed ∨ e.type = .taskTimedOut) :
    r.Goes ⟨e, log, workflow, .task task⟩ d .giveUp
      (d.close (.fail (some (task.givenUpReason e.type)) task.details)) [] := by
  obtain ⟨x, hx, hof⟩ := EventDetails.exists_task htype hdetails
  cases hof
  obtain ⟨s, hs, hfailed, -, x, hattr, -, htaskType⟩ := EventDetails.task_of_failed htype hdetails
  refine .giveUp ⟨hs, hfailed, hattr⟩ (TaskDetails.failure_of_extract hfailed hx) ?_
  rw [TaskDetails.givenUpReason, htaskType, TaskType.text]

/-- A timer that is started is that of the schedule that has failed. -/
theorem goes_wait {d : Draft} {timerId : String} {delay : Duration} {control : RetryControl}
    (hdetails : EventDetails.extract e log workflow = .ok details)
    (hjudged : r.policies.Judged ⟨e, log, workflow, details⟩ (.wait timerId delay control)) :
    r.Goes ⟨e, log, workflow, details⟩ d .wait (d.startTimer timerId delay (some control.encode))
      [] := by
  obtain ⟨s, hs, x, hattr, hfailed, rfl, rfl, retries, hcount, hdelay⟩ :=
    SoundHistory.wait_grounds hdetails hjudged
  exact .wait ⟨hs, hfailed, hattr⟩ hcount hdelay

/-- What is scheduled again is what was scheduled where the control of the timer points. -/
theorem goes_again {d : Draft} {schedule : Decision} {markerName : String} {count : RetryCount}
    (hdetails : EventDetails.extract e log workflow = .ok details)
    (hjudged : r.policies.Judged ⟨e, log, workflow, details⟩ (.again schedule markerName count)) :
    r.Goes ⟨e, log, workflow, details⟩ d .again
      ((d.append [schedule]).recordMarker markerName (some count.encode)) [] := by
  cases hjudged with
  | again htype htimer hretry hpayload hcontrol hscheduled hschedule hcount =>
      simp only at htimer
      subst htimer
      obtain ⟨start, hstart, hfired, hstarted⟩ := EventDetails.timer_of_fired htype hdetails
      rw [hpayload] at hstarted
      obtain ⟨x, hattr, rfl⟩ := Event.exists_of_repeatedSchedule? hschedule
      rw [Draft.recordMarker, Draft.append_append]
      exact .again ⟨hstart, hfired, hstarted⟩ hretry hcontrol hscheduled hattr hcount

theorem sees_forward (hdetails : EventDetails.extract e log workflow = .ok details)
    (exhausted : Bool) (hleaves : r.policies.Leaves ⟨e, log, workflow, details⟩)
    (hexhausted : exhausted = true ↔ r.policies.GivesUp ⟨e, log, workflow, details⟩)
    (h : s.follow ⟨e, log, workflow, details⟩
      (r.routeForward ⟨e, log, workflow, details⟩ exhausted) = (s', stop)) :
    Sees r log workflow s e s' stop := by
  have hctx : EventContext.extract e log workflow = .ok ⟨e, log, workflow, details⟩ := by
    rw [EventContext.extract, hdetails]
    rfl
  unfold Registry.routeForward at h
  split at h
  · next handler hhandler => exact sees_call hctx hleaves hhandler h
  · next hnone =>
      split at h
      · next task htask =>
          have hgivesUp := hexhausted.mp rfl
          simp only at htask
          subst htask
          cases h
          exact sees_goes .giveUp hctx ⟨hleaves, hnone, hgivesUp⟩
            (goes_giveUp hdetails hgivesUp.1) rfl
      · next hother =>
          cases h
          refine sees_goes .skip hctx ⟨hleaves, hnone, fun hgivesUp => ?_⟩ .skip rfl
          obtain ⟨task, -, -, htask, -⟩ := hgivesUp.2
          exact hother task (hexhausted.mpr hgivesUp) htask

theorem sees_after {verdict : RetryVerdict}
    (hdetails : EventDetails.extract e log workflow = .ok details)
    (hnone : e.type.isCloseFailure = false)
    (hverdict : r.policies.judge ⟨e, log, workflow, details⟩ = .ok verdict)
    (h : s.follow ⟨e, log, workflow, details⟩
      (r.routeAfter ⟨e, log, workflow, details⟩ verdict) = (s', stop)) :
    Sees r log workflow s e s' stop := by
  have hctx : EventContext.extract e log workflow = .ok ⟨e, log, workflow, details⟩ := by
    rw [EventContext.extract, hdetails]
    rfl
  have hexhausted : verdict = .exhausted ↔ r.policies.GivesUp ⟨e, log, workflow, details⟩ := by
    rw [← RetryPolicies.judge_eq_exhausted_iff, hverdict, Except.ok.injEq]
  have hjudged := RetryPolicies.judged_of_judge hverdict
  cases verdict with
  | wait timerId delay control =>
      cases h
      exact sees_goes .wait hctx hjudged.grants (goes_wait hdetails hjudged) rfl
  | again schedule markerName count =>
      cases h
      exact sees_goes .again hctx hjudged.firesRetry (goes_again hdetails hjudged) rfl
  | pass =>
      cases hjudged with
      | pass hquiet =>
          exact sees_forward hdetails false ⟨hnone, hquiet⟩ (by simpa using hexhausted) h
  | passOrphan =>
      cases hjudged with
      | passOrphan hquiet =>
          exact sees_forward hdetails false ⟨hnone, hquiet⟩ (by simpa using hexhausted) h
  | exhausted =>
      cases hjudged with
      | exhausted hquiet =>
          exact sees_forward hdetails true ⟨hnone, hquiet⟩ (by simpa using hexhausted) h

/-- **Every visit is as `Registry.Visits` says.** -/
theorem sees_visit (h : s.visit r log workflow e = (s', stop)) :
    Sees r log workflow s e s' stop := by
  cases outcome_of_visit h with
  | unreadable hctx => exact ⟨[], .unreadable hctx, (List.append_nil _).symm⟩
  | recovered hctx hrecovery =>
      obtain ⟨details, -, rfl⟩ := EventContext.extract_ok hctx
      have hreissues := EventContext.reissues_of_recovery? hrecovery
      exact sees_goes .reissue hctx hreissues.rejected (.reissue hreissues) rfl
  | refused hctx _ hjudge =>
      exact ⟨[], .refused hctx (RetryPolicies.refuses_of_judge hjudge), (List.append_nil _).symm⟩
  | @judged _ verdict _ _ hctx hrecovery hjudge hfollow =>
      obtain ⟨details, hdetails, rfl⟩ := EventContext.extract_ok hctx
      exact sees_after (s := { s with notices := s.notices ++ verdict.notices }) hdetails
        (EventContext.recovery?_eq_none_iff.mp hrecovery) hjudge hfollow

/-- The events of a cycle have a course. -/
theorem course_visitAll (events : List Event)
    (h : visitAll r log workflow s events = (s', stop)) :
    ∃ calls, r.Course log workflow s.draft events s'.draft calls stop ∧
      s'.handled = s.handled ++ calls := by
  induction events generalizing s with
  | nil =>
      cases h
      exact ⟨[], .done, (List.append_nil _).symm⟩
  | cons e rest ih =>
      unfold visitAll at h
      split at h
      · next s₁ hvisit =>
          obtain ⟨calls, hvisits, hcalls⟩ := sees_visit hvisit
          obtain ⟨more, hrest, hmore⟩ := ih h
          exact ⟨calls ++ more, .step hvisits hrest, by rw [hmore, hcalls, List.append_assoc]⟩
      · next s₁ stop₁ hvisit =>
          cases h
          obtain ⟨calls, hvisits, hcalls⟩ := sees_visit hvisit
          exact ⟨calls, .stop hvisits, hcalls⟩

end CycleState

namespace Registry

/-- Every cycle has a course, which tells how it ends. -/
theorem exists_course (r : Registry) (log : EventLog) (workflow : WorkflowInfo)
    (fresh : FreshTexts) :
    ∃ d stop, r.Course log workflow (r.draft fresh) log.newEvents d
        (r.cycle log workflow fresh).handled stop ∧
      (r.cycle log workflow fresh).ending = .of d stop := by
  rw [cycle]
  cases hall : CycleState.visitAll r log workflow (.start (r.draft fresh)) log.newEvents with
  | mk s stop =>
      obtain ⟨calls, hcourse, hcalls⟩ := CycleState.course_visitAll log.newEvents hall
      have hhandled : (Cycle.ofState (s, stop)).handled = calls := hcalls
      refine ⟨s.draft, stop, hhandled ▸ hcourse, ?_⟩
      · cases stop with
        | none => rfl
        | some stop => cases stop <;> rfl

variable {r : Registry} {log : EventLog} {workflow : WorkflowInfo} {d d' : Draft} {e : Event}
  {calls : List EventContext} {stop : Option Interruption}

theorem Visits.not_rejected (h : r.Visits log workflow d e d' calls stop) :
    ∀ ctx ∈ calls, ctx.event.type.isCloseFailure = false := by
  cases h with
  | goes _ hway =>
      obtain ⟨way, ⟨htakes, hgoes⟩, -⟩ := hway
      cases hgoes with
      | handle => exact List.forall_mem_singleton.mpr htakes.1.not_rejected
      | reissue | wait | again | giveUp | skip => exact fun _ h => absurd h List.not_mem_nil
  | unreadable | refused => exact fun _ h => absurd h List.not_mem_nil
  | failed _ htakes | crashed _ htakes =>
      exact List.forall_mem_singleton.mpr htakes.1.not_rejected

theorem Course.not_rejected {events : List Event}
    (h : r.Course log workflow d events d' calls stop) :
    ∀ ctx ∈ calls, ctx.event.type.isCloseFailure = false := by
  induction h with
  | done => exact fun _ h => absurd h List.not_mem_nil
  | step hvisits _ ih => exact List.forall_mem_append.mpr ⟨hvisits.not_rejected, ih⟩
  | stop hvisits => exact hvisits.not_rejected

/-- No handler is called for an event that reports a rejected close. -/
theorem handled_not_rejected (r : Registry) (log : EventLog) (workflow : WorkflowInfo)
    (fresh : FreshTexts) : ∀ ctx ∈ (r.cycle log workflow fresh).handled,
      ctx.event.type.isCloseFailure = false := by
  obtain ⟨d, stop, hcourse, -⟩ := r.exists_course log workflow fresh
  exact hcourse.not_rejected

/-- **Every new event goes exactly one way.**  A cycle over the log of any events that have been
delivered visits the events beyond the boundary in ascending order, each of them once, up to the
first that ends it.  What each of them adds to the draft and which handler is called for it is what
`Registry.Visits` says, and the cycle leaves behind what all of them have added. -/
theorem cycle_course (r : Registry) {delivered : List Event} {boundary : Int} {log : EventLog}
    (hlog : EventLog.assemble delivered boundary = .ok log) (workflow : WorkflowInfo)
    (fresh : FreshTexts) :
    (log.newEvents.Pairwise fun a b => a.id < b.id) ∧
      (∀ e, e ∈ log.newEvents ↔ e ∈ log.events ∧ boundary < e.id) ∧
      ∃ d stop, r.Course log workflow (r.draft fresh) log.newEvents d
          (r.cycle log workflow fresh).handled stop ∧
        (r.cycle log workflow fresh).ending = .of d stop := by
  obtain ⟨hdescending, hboundary⟩ := EventLog.assemble_ok hlog
  refine ⟨EventLog.newEvents_ascending hdescending, fun e => ?_, r.exists_course log workflow fresh⟩
  rw [EventLog.mem_newEvents hdescending, hboundary]

/-- A history that is delivered out of order and in part twice: a task that has failed, and a close
that has been rejected. -/
def Event.outOfOrder : List Event :=
  [⟨3, .epoch, .taskFailed 2 (some "declined") none⟩,
    ⟨1, .epoch, .workflowExecutionStarted ⟨"order", "1"⟩ none .empty []⟩,
    ⟨4, .epoch, .completeWorkflowExecutionFailed "UNHANDLED_DECISION"⟩,
    ⟨2, .epoch, Scheduling.firstTask.attributes⟩,
    ⟨3, .epoch, .taskFailed 2 (some "declined") none⟩]

/-- In the cycle over that history the handler is called once, the task waits to be tried again, and
the close is issued again. -/
theorem cycle_course_outOfOrder :
    ∃ log, EventLog.assemble Event.outOfOrder 0 = .ok log ∧
      ((log.newEvents.Pairwise fun a b => a.id < b.id) ∧
        (∀ e, e ∈ log.newEvents ↔ e ∈ log.events ∧ 0 < e.id) ∧
        ∃ d stop, Registry.oneTask.Course log Run.oneTask.recorder.workflow
            (Registry.oneTask.draft .counted) log.newEvents d
            (Registry.oneTask.cycle log Run.oneTask.recorder.workflow .counted).handled stop ∧
          (Registry.oneTask.cycle log Run.oneTask.recorder.workflow .counted).ending
            = .of d stop) ∧
      (Registry.oneTask.cycle log Run.oneTask.recorder.workflow .counted).handled.map (·.event.id)
        = [1] ∧
      (Registry.oneTask.cycle log Run.oneTask.recorder.workflow .counted).ending
        = .decided [Scheduling.firstTask.decision,
            .startTimer Scheduling.firstTask.timerId (.ofMillis 1000)
              (some (RetryControl.encode ⟨2, Scheduling.firstTask.markerName⟩)),
            CloseControl.record (.complete none), .completeWorkflow none] := by
  have hlog : EventLog.assemble Event.outOfOrder 0 = .ok
      ⟨EventLog.dropRepeated (EventLog.sortDescending Event.outOfOrder), 0⟩ := rfl
  exact ⟨_, hlog, Registry.oneTask.cycle_course hlog _ _, by decide +kernel, by decide +kernel⟩

end Registry

end DurableWorkflow
