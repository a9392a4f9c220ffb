import DurableWorkflow.Proofs.History.Context
import DurableWorkflow.Proofs.Retry.Control
import DurableWorkflow.Proofs.Retry.Policy
import DurableWorkflow.Retry.Verdict

/-!
# Verdicts and their grounds

A verdict that starts or repeats something tells what was found in the history.

## Main Definitions

* `EventContext.FiresRetry`: the firing of a retry timer with a control.
* `RetryPolicies.Grants`: a failure that the policy still allows to retry.
* `RetryPolicies.Judged`: a verdict with its grounds.
* `RetryPolicies.GivesUp`: a failure after which no retry is left.
* `RetryPolicies.Refuses`: why there is no verdict.

## Main Statements

* `RetryPolicies.judged_of_judge`: every verdict has grounds.
* `RetryPolicies.judge_eq_exhausted_iff`, `RetryPolicies.refuses_of_judge`: when a task has failed
  for good, and when there is no verdict.
-/

namespace DurableWorkflow

/-- The event is the firing of a retry timer, and the timer has a control. -/
def EventContext.FiresRetry (ctx : EventContext) : Prop :=
  ctx.event.type = .timerFired ∧
    ∃ timer, ctx.details = .timer timer ∧ isRetryTimer timer.timerId = true ∧ timer.control ≠ none

/-- Only a schedule is repeated, and it is repeated as it was. -/
theorem Event.exists_of_repeatedSchedule? {e : Event} {schedule : Decision}
    (h : e.repeatedSchedule? = some schedule) :
    ∃ x : Scheduling, e.attributes = x.attributes ∧ schedule = x.decision := by
  unfold repeatedSchedule? at h
  split at h
  · next hattr =>
      cases h
      exact ⟨⟨_, _, _, _, _⟩, hattr, rfl⟩
  · cases h

/-! ### Verdicts -/

namespace RetryPolicies

/-- The event is the failure of a task, and there is a delay before one more retry. -/
def Grants (p : RetryPolicies) (ctx : EventContext) : Prop :=
  (ctx.event.type = .taskFailed ∨ ctx.event.type = .taskTimedOut) ∧
    ∃ task scheduledEventId retries delay, ctx.details = .task task ∧
      task.scheduledEventId = some scheduledEventId ∧
      ctx.log.retryCount (retryMarkerName task.taskType task.taskId) = .ok retries ∧
      (p.policyFor task.taskType).delayBefore? retries.succ = some delay

/-- The event asks for nothing to be done for retries. -/
structure Quiet (p : RetryPolicies) (ctx : EventContext) : Prop where
  not_fires : ¬ ctx.FiresRetry
  not_grants : ¬ p.Grants ctx

/-- What fires is no failure. -/
theorem not_grants_of_firesRetry {p : RetryPolicies} {ctx : EventContext} (h : ctx.FiresRetry) :
    ¬ p.Grants ctx := by
  rintro ⟨htype, -⟩
  rw [h.1] at htype
  rcases htype with htype | htype <;> cases htype

/-- What reports a rejected close is of no concern to retries. -/
theorem quiet_of_rejected {p : RetryPolicies} {ctx : EventContext}
    (h : ctx.event.type.isCloseFailure = true) : p.Quiet ctx := by
  constructor
  · rintro ⟨htype, -⟩
    rw [htype] at h
    cases h
  · rintro ⟨htype, -⟩
    rcases htype with htype | htype <;> rw [htype] at h <;> cases h

/-- A verdict with its grounds. -/
inductive Judged (p : RetryPolicies) (ctx : EventContext) : RetryVerdict → Prop
  /-- The task has failed, and the delay before one more retry is known. -/
  | wait {task : TaskDetails} {scheduledEventId : Int} {retries : RetryCount} {delay : Duration}
      (htype : ctx.event.type = .taskFailed ∨ ctx.event.type = .taskTimedOut)
      (hdetails : ctx.details = .task task)
      (hid : task.scheduledEventId = some scheduledEventId)
      (hcount : ctx.log.retryCount (retryMarkerName task.taskType task.taskId) = .ok retries)
      (hdelay : (p.policyFor task.taskType).delayBefore? retries.succ = some delay) :
      Judged p ctx (.wait (retryTimerId task.taskType task.taskId) delay
        ⟨scheduledEventId, retryMarkerName task.taskType task.taskId⟩)
  /-- A retry timer has fired, and its control names a schedule. -/
  | again {timer : TimerDetails} {payload : String} {control : RetryControl} {scheduled : Event}
      {schedule : Decision} {retries : RetryCount}
      (htype : ctx.event.type = .timerFired)
      (hdetails : ctx.details = .timer timer)
      (hretry : isRetryTimer timer.timerId = true)
      (hpayload : timer.control = some payload)
      (hcontrol : RetryControl.decode payload = .ok control)
      (hscheduled : ctx.log.get? control.scheduledEventId = some scheduled)
      (hschedule : scheduled.repeatedSchedule? = some schedule)
      (hcount : ctx.log.retryCount control.markerName = .ok retries) :
      Judged p ctx (.again schedule control.markerName retries.succ)
  | pass (hquiet : p.Quiet ctx) : Judged p ctx .pass
  | passOrphan (hquiet : p.Quiet ctx) : Judged p ctx .passOrphan
  | exhausted (hquiet : p.Quiet ctx) : Judged p ctx .exhausted

variable {p : RetryPolicies} {ctx : EventContext} {verdict : RetryVerdict}

/-- A retry that is put off has been granted by the policy. -/
theorem Judged.grants {timerId : String} {delay : Duration} {control : RetryControl}
    (h : Judged p ctx (.wait timerId delay control)) : p.Grants ctx := by
  cases h with
  | wait htype hdetails hid hcount hdelay =>
      exact ⟨htype, _, _, _, _, hdetails, hid, hcount, hdelay⟩

theorem Judged.firesRetry {schedule : Decision} {markerName : String} {count : RetryCount}
    (h : Judged p ctx (.again schedule markerName count)) : ctx.FiresRetry := by
  cases h with
  | again htype hdetails hretry hpayload =>
      exact ⟨htype, _, hdetails, hretry, by rw [hpayload]; exact Option.some_ne_none _⟩

/-- What is judged of a failure has its grounds in the policy and the count of retries. -/
theorem judged_of_judgeFailure
    (htype : ctx.event.type = .taskFailed ∨ ctx.event.type = .taskTimedOut)
    (h : p.judgeFailure ctx = .ok verdict) : Judged p ctx verdict := by
  have hfires : ¬ ctx.FiresRetry := by
    rintro ⟨hfired, -⟩
    rcases htype with htype | htype <;> rw [htype] at hfired <;> cases hfired
  cases hdetails : ctx.details with
  | task task =>
      simp only [judgeFailure, hdetails] at h
      split at h
      · next scheduledEventId _ hid =>
          obtain ⟨retries, hcount, h⟩ := exists_of_bind_eq_ok h
          split at h
          · next delay hdelay =>
              cases h
              exact .wait htype hdetails hid hcount hdelay
          · next hdelay =>
              cases h
              refine .exhausted ⟨hfires, ?_⟩
              rintro ⟨-, found, id, retries', delay, hfound, -, hcount', hdelay'⟩
              obtain rfl := EventDetails.task.inj (hdetails.symm.trans hfound)
              obtain rfl := Except.ok.inj (hcount.symm.trans hcount')
              rw [hdelay] at hdelay'
              cases hdelay'
      · next hother =>
          cases h
          refine .pass ⟨hfires, ?_⟩
          rintro ⟨-, found, id, retries, delay, hfound, hid, -, hdelay⟩
          obtain rfl := EventDetails.task.inj (hdetails.symm.trans hfound)
          exact hother id (RetryPolicy.retries_of_delayBefore? hdelay) hid
  | workflow | decisionTask | timer | marker | signal =>
      simp only [judgeFailure, hdetails] at h
      cases h
      refine .pass ⟨hfires, ?_⟩
      rintro ⟨-, found, -, -, -, hfound, -⟩
      rw [hdetails] at hfound
      cases hfound

/-- What is judged of a timer has its grounds in what the timer carries. -/
theorem judged_of_judgeTimer (htype : ctx.event.type = .timerFired)
    (h : judgeTimer ctx = .ok verdict) : Judged p ctx verdict := by
  have hgrants : ¬ p.Grants ctx := by
    rintro ⟨hfailed, -⟩
    rw [htype] at hfailed
    rcases hfailed with hfailed | hfailed <;> cases hfailed
  cases hdetails : ctx.details with
  | timer timer =>
      have hquiet (hother : isRetryTimer timer.timerId = false ∨ timer.control = none) :
          p.Quiet ctx := by
        refine ⟨?_, hgrants⟩
        rintro ⟨-, found, hfound, hretry, hsome⟩
        rw [hdetails] at hfound
        cases hfound
        rcases hother with hother | hother
        · rw [hother] at hretry
          cases hretry
        · exact hsome hother
      simp only [judgeTimer, hdetails] at h
      split at h
      · next hretry =>
        split at h
        · next hnone =>
            cases h
            exact .passOrphan (hquiet (.inr hnone))
        · next payload hpayload =>
            obtain ⟨control, hcontrol, h⟩ := exists_of_bind_eq_ok h
            split at h
            · cases h
            · next schedule hfound =>
                obtain ⟨scheduled, hscheduled, hschedule⟩ := Option.bind_eq_some_iff.mp hfound
                obtain ⟨retries, hcount, h⟩ := exists_of_bind_eq_ok h
                cases h
                exact .again htype hdetails hretry hpayload hcontrol hscheduled hschedule hcount
      · next hretry =>
          cases h
          exact .pass (hquiet (.inl (by simpa using hretry)))
  | workflow | decisionTask | task | marker | signal =>
      have hfires : ¬ ctx.FiresRetry := by
        rintro ⟨-, timer, htimer, -⟩
        rw [hdetails] at htimer
        cases htimer
      simp only [judgeTimer, hdetails] at h
      cases h
      exact .pass ⟨hfires, hgrants⟩

/-- **Every verdict has grounds.** -/
theorem judged_of_judge (h : p.judge ctx = .ok verdict) : Judged p ctx verdict := by
  unfold judge at h
  split at h
  · next htype => exact judged_of_judgeFailure (.inl htype) h
  · next htype => exact judged_of_judgeFailure (.inr htype) h
  · next htype => exact judged_of_judgeTimer htype h
  · next hfailed htimedOut hfired =>
      cases h
      exact .pass ⟨fun hfires => hfired hfires.1, fun hgrants => hgrants.1.elim hfailed htimedOut⟩

/-! ### Failures for good -/

/-- The event is the failure of a task whose policy is about retries, and there is no delay before
one more. -/
def GivesUp (p : RetryPolicies) (ctx : EventContext) : Prop :=
  (ctx.event.type = .taskFailed ∨ ctx.event.type = .taskTimedOut) ∧
    ∃ task scheduledEventId retries, ctx.details = .task task ∧
      task.scheduledEventId = some scheduledEventId ∧
      (p.policyFor task.taskType).retries = true ∧
      ctx.log.retryCount (retryMarkerName task.taskType task.taskId) = .ok retries ∧
      (p.policyFor task.taskType).delayBefore? retries.succ = none

/-- Retries run out only if the policy allows for no further one. -/
theorem givesUp_of_judgeFailure
    (htype : ctx.event.type = .taskFailed ∨ ctx.event.type = .taskTimedOut)
    (h : p.judgeFailure ctx = .ok .exhausted) : p.GivesUp ctx := by
  refine ⟨htype, ?_⟩
  unfold judgeFailure at h
  split at h
  · next task hdetails =>
      simp only at h
      split at h
      · next scheduledEventId hretries hid =>
          obtain ⟨retries, hcount, h⟩ := exists_of_bind_eq_ok h
          split at h
          · cases h
          · next hdelay =>
              exact ⟨task, scheduledEventId, retries, hdetails, hid, hretries, hcount, hdelay⟩
      · cases h
  · cases h

theorem judgeTimer_ne_exhausted : judgeTimer ctx ≠ .ok .exhausted := by
  intro h
  unfold judgeTimer at h
  split at h
  · split at h
    · split at h
      · cases h
      · obtain ⟨control, -, h⟩ := exists_of_bind_eq_ok h
        split at h
        · cases h
        · obtain ⟨retries, -, h⟩ := exists_of_bind_eq_ok h
          cases h
    · cases h
  · cases h

/-- A verdict that no retry is left is one on a failure for good. -/
theorem judge_eq_exhausted_iff : p.judge ctx = .ok .exhausted ↔ p.GivesUp ctx := by
  constructor
  · intro h
    unfold judge at h
    split at h
    · next htype => exact givesUp_of_judgeFailure (.inl htype) h
    · next htype => exact givesUp_of_judgeFailure (.inr htype) h
    · exact (judgeTimer_ne_exhausted h).elim
    · cases h
  · rintro ⟨htype, task, id, retries, hdetails, hid, hretries, hcount, hdelay⟩
    have hfailure : p.judgeFailure ctx = .ok .exhausted := by
      simp [judgeFailure, hdetails, hid, hretries, hcount, hdelay, bind, Except.bind, pure,
        Except.pure]
    rcases htype with htype | htype <;> rw [judge, htype] <;> exact hfailure

/-! ### Retries that cannot be judged -/

/-- What keeps retries from a verdict: a count or a control that cannot be read, or a control that
names no schedule. -/
inductive Refuses (p : RetryPolicies) (ctx : EventContext) : Error → Prop
  | count {task : TaskDetails} {error : Error}
      (htype : ctx.event.type = .taskFailed ∨ ctx.event.type = .taskTimedOut)
      (hdetails : ctx.details = .task task)
      (hretries : (p.policyFor task.taskType).retries = true)
      (hcount : ctx.log.retryCount (retryMarkerName task.taskType task.taskId) = .error error) :
      Refuses p ctx error
  | control {timer : TimerDetails} {payload : String} {error : Error}
      (htype : ctx.event.type = .timerFired)
      (hdetails : ctx.details = .timer timer)
      (hretry : isRetryTimer timer.timerId = true)
      (hpayload : timer.control = some payload)
      (hcontrol : RetryControl.decode payload = .error error) : Refuses p ctx error
  | schedule {timer : TimerDetails} {payload : String} {control : RetryControl}
      (htype : ctx.event.type = .timerFired)
      (hdetails : ctx.details = .timer timer)
      (hretry : isRetryTimer timer.timerId = true)
      (hpayload : timer.control = some payload)
      (hcontrol : RetryControl.decode payload = .ok control)
      (hnone : (ctx.log.get? control.scheduledEventId).bind Event.repeatedSchedule? = none) :
      Refuses p ctx (.missingReference ctx.event.id (toString control.scheduledEventId)
        .taskScheduled)
  | timerCount {timer : TimerDetails} {payload : String} {control : RetryControl} {error : Error}
      (htype : ctx.event.type = .timerFired)
      (hdetails : ctx.details = .timer timer)
      (hretry : isRetryTimer timer.timerId = true)
      (hpayload : timer.control = some payload)
      (hcontrol : RetryControl.decode payload = .ok control)
      (hcount : ctx.log.retryCount control.markerName = .error error) : Refuses p ctx error

variable {error : Error}

/-- A failure is left without a verdict only if the retries cannot be counted. -/
theorem refuses_of_judgeFailure
    (htype : ctx.event.type = .taskFailed ∨ ctx.event.type = .taskTimedOut)
    (h : p.judgeFailure ctx = .error error) : p.Refuses ctx error := by
  unfold judgeFailure at h
  split at h
  · next task hdetails =>
      simp only at h
      split at h
      · next hretries hid =>
          rcases eq_error_of_bind_eq_error h with hcount | ⟨retries, -, h⟩
          · exact .count htype hdetails hretries hcount
          · split at h <;> cases h
      · cases h
  · cases h

/-- A timer is left without a verdict only if what it carries cannot be read, or leads nowhere. -/
theorem refuses_of_judgeTimer (htype : ctx.event.type = .timerFired)
    (h : judgeTimer ctx = .error error) : p.Refuses ctx error := by
  unfold judgeTimer at h
  split at h
  · next timer hdetails =>
      split at h
      · next hretry =>
          split at h
          · cases h
          · next payload hpayload =>
              rcases eq_error_of_bind_eq_error h with hcontrol | ⟨control, hcontrol, h⟩
              · exact .control htype hdetails hretry hpayload hcontrol
              · split at h
                · next hnone =>
                    cases h
                    exact .schedule htype hdetails hretry hpayload hcontrol hnone
                · rcases eq_error_of_bind_eq_error h with hcount | ⟨retries, -, h⟩
                  · exact .timerCount htype hdetails hretry hpayload hcontrol hcount
                  · cases h
      · cases h
  · cases h

/-- **Where there is no verdict, it is known what keeps retries from it.** -/
theorem refuses_of_judge (h : p.judge ctx = .error error) : p.Refuses ctx error := by
  unfold judge at h
  split at h
  · next htype => exact refuses_of_judgeFailure (.inl htype) h
  · next htype => exact refuses_of_judgeFailure (.inr htype) h
  · next htype => exact refuses_of_judgeTimer htype h
  · cases h

end RetryPolicies

end DurableWorkflow
