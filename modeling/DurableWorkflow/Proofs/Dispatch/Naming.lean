import DurableWorkflow.Proofs.Decision.Naming
import DurableWorkflow.Proofs.Dispatch.Contribution

/-!
# The new names of a cycle

Only handlers make names, and all handlers of a cycle take their texts from one supply.

## Main Definitions

* `Registry.plan?`: the plan that is carried out for an event.
* `CycleState.newNames`, `Registry.newNames`: the names that the handlers of a cycle make.
* `Registry.NamesApart`: what can be said of the new names of a cycle.

## Main Statements

* `CycleState.makes_newNames`: a cycle makes one name of each text that it takes.
* `Registry.namesApart`: no name is made twice in a cycle.
* `Registry.names_never_collide`: as long as no text is the end of another one, names never collide,
  be it in one cycle or in several.
-/

namespace DurableWorkflow

/-! ### Visits -/

/-- The plan that is carried out for an event: that of the handler that is called for it. -/
def Registry.plan? (r : Registry) (log : EventLog) (workflow : WorkflowInfo) (e : Event) :
    Option Plan :=
  match EventContext.extract e log workflow with
  | .error _ => none
  | .ok ctx =>
    match r.route ctx with
    | .ok ⟨.handle handler, _⟩ => some (handler ctx)
    | _ => none

namespace CycleState

section Visits

variable {r : Registry} {log : EventLog} {workflow : WorkflowInfo} {s : CycleState} {e : Event}

/-- A visit with a plan does to the draft what the plan does, however it ends. -/
theorem visit_draft_of_plan? {p : Plan} (h : r.plan? log workflow e = some p) :
    (s.visit r log workflow e).1.draft = (p.run s.draft).2 := by
  unfold Registry.plan? at h
  split at h
  · cases h
  · next ctx hctx =>
      split at h
      · next handler notices hroute =>
          cases h
          simp only [visit, hctx, hroute, follow, call]
          cases ((handler ctx).run s.draft).1 <;> rfl
      · cases h

/-- A visit without a plan takes no texts. -/
theorem visit_fresh_of_plan?_eq_none (h : r.plan? log workflow e = none) :
    (s.visit r log workflow e).1.draft.fresh = s.draft.fresh := by
  unfold Registry.plan? at h
  cases hctx : EventContext.extract e log workflow with
  | error error => simp only [visit, hctx]
  | ok ctx =>
      cases hroute : r.route ctx with
      | error error => simp only [visit, hctx, hroute]
      | ok routing =>
          obtain ⟨route, notices⟩ := routing
          cases route with
          | handle handler => simp [hctx, hroute] at h
          | reissue | wait | again | giveUp | skip =>
              simp only [visit, hctx, hroute, follow, Draft.close_fresh, Draft.startTimer_fresh,
                Draft.recordMarker_fresh, Draft.append_fresh]

end Visits

variable (r : Registry) (log : EventLog) (workflow : WorkflowInfo)

/-- The names that are made for an event. -/
def newNamesAt (s : CycleState) (e : Event) : List NewName :=
  match r.plan? log workflow e with
  | some p => p.newNames s.draft
  | none => []

/-- The names that are made for events, up to the first that ends the cycle. -/
def newNames : CycleState → List Event → List NewName
  | _, [] => []
  | s, e :: rest =>
    s.newNamesAt r log workflow e ++
      match s.visit r log workflow e with
      | (s', none) => newNames s' rest
      | (_, some _) => []

theorem makes_newNamesAt (s : CycleState) (e : Event) :
    s.draft.fresh.Makes (s.newNamesAt r log workflow e)
      (s.visit r log workflow e).1.draft.fresh := by
  unfold newNamesAt
  cases hplan : r.plan? log workflow e with
  | some p =>
      rw [visit_draft_of_plan? hplan]
      exact p.makes_newNames s.draft
  | none =>
      rw [visit_fresh_of_plan?_eq_none hplan]
      exact .nil

/-- **A cycle makes one name of each text that it takes**, whether it decides or not. -/
theorem makes_newNames (s : CycleState) (events : List Event) :
    s.draft.fresh.Makes (newNames r log workflow s events)
      (visitAll r log workflow s events).1.draft.fresh := by
  induction events generalizing s with
  | nil => exact .nil
  | cons e rest ih =>
      have hone := s.makes_newNamesAt r log workflow e
      cases hvisit : s.visit r log workflow e with
      | mk s' stop =>
          rw [hvisit] at hone
          simp only [visitAll, newNames, hvisit]
          cases stop with
          | none => exact hone.append (ih s')
          | some stop => exact hone.append .nil

theorem decided_of_mem_newNamesAt (s : CycleState) (e : Event) :
    ∀ name ∈ s.newNamesAt r log workflow e,
      name.Decided (s.visit r log workflow e).1.draft.decisions := by
  intro name hname
  unfold newNamesAt at hname
  split at hname
  · next p hplan =>
      rw [visit_draft_of_plan? hplan]
      exact p.decided_of_mem_newNames s.draft name hname
  · cases hname

/-- The names that a cycle makes are those of decisions that it leaves behind. -/
theorem decided_of_mem_newNames (s : CycleState) (events : List Event) :
    ∀ name ∈ newNames r log workflow s events,
      name.Decided (visitAll r log workflow s events).1.draft.decisions := by
  induction events generalizing s with
  | nil => exact fun _ hname => absurd hname List.not_mem_nil
  | cons e rest ih =>
      have hone := s.decided_of_mem_newNamesAt r log workflow e
      cases hvisit : s.visit r log workflow e with
      | mk s' stop =>
          rw [hvisit] at hone
          simp only [visitAll, newNames, hvisit, List.forall_mem_append]
          cases stop with
          | none =>
              -- What comes after the event is appended to its decisions.
              have hprefix : s'.draft.decisions
                  <+: (visitAll r log workflow s' rest).1.draft.decisions := by
                rw [visitAll_decisions]
                exact List.prefix_append ..
              exact ⟨fun name hname => (hone name hname).of_isPrefix hprefix, ih s'⟩
          | some stop => exact ⟨hone, fun _ hname => absurd hname List.not_mem_nil⟩

end CycleState

/-! ### Cycles -/

namespace Registry

variable (r : Registry) (log : EventLog) (workflow : WorkflowInfo) (fresh : FreshTexts)

/-- The names that the handlers of a cycle make, also if the cycle does not decide. -/
def newNames : List NewName :=
  CycleState.newNames r log workflow (.start (r.draft fresh)) log.newEvents

/-- What can be said of the new names of a cycle. -/
structure NamesApart : Prop where
  /-- There is one name of each text that the cycle takes. -/
  made : fresh.Makes (r.newNames log workflow fresh) (r.cycle log workflow fresh).fresh
  /-- The names are those of decisions. -/
  decided : ∀ batch, (r.cycle log workflow fresh).ending = .decided batch →
    ∀ name ∈ r.newNames log workflow fresh, name.Decided batch
  taskIds : ((r.newNames log workflow fresh).filterMap NewName.taskId?).Nodup
  timerIds : ((r.newNames log workflow fresh).filterMap NewName.timerId?).Nodup
  retryTimerIds : ((r.newNames log workflow fresh).filterMap NewName.retryTimerId?).Nodup
  retryMarkerNames : ((r.newNames log workflow fresh).filterMap NewName.retryMarkerName?).Nodup

variable {r log workflow fresh}

/-- **No name is made twice in a cycle.** -/
theorem namesApart (hapart : (r.cycle log workflow fresh).fresh.Apart) :
    r.NamesApart log workflow fresh := by
  have hmade : fresh.Makes (r.newNames log workflow fresh) (r.cycle log workflow fresh).fresh :=
    CycleState.makes_newNames r log workflow (.start (r.draft fresh)) log.newEvents
  refine ⟨hmade, fun batch hbatch => ?_, hmade.nodup hapart NewName.tells_taskId?,
    hmade.nodup hapart NewName.tells_timerId?, hmade.nodup hapart NewName.tells_retryTimerId?,
    hmade.nodup hapart NewName.tells_retryMarkerName?⟩
  obtain ⟨s, hs, rfl, -⟩ := exists_of_decided hbatch
  have hdecided := CycleState.decided_of_mem_newNames r log workflow (.start (r.draft fresh))
    log.newEvents
  rwa [hs] at hdecided

/-- **Names never collide**, whatever the types of tasks are called, as long as no text is the end
of another one.  Of equally long texts, none of which comes twice, none is. -/
theorem names_never_collide :
    (∀ f : FreshTexts, f.Distinct → f.Apart) ∧
    (∀ (r : Registry) (log : EventLog) (workflow : WorkflowInfo) (fresh : FreshTexts),
      (r.cycle log workflow fresh).fresh.Apart → r.NamesApart log workflow fresh) ∧
    (∀ d d' : Draft, EndsApart d.fresh.head d'.fresh.head → ∀ t u, d.RetriesApart d' t u) ∧
    (∀ text, isRetryTimer (forcedTimerPrefix ++ text) = false) ∧
    ∀ t taskId, retryMarkerName t taskId ≠ closeMarkerName :=
  ⟨fun _ => FreshTexts.Distinct.apart, fun _ _ _ _ => namesApart, fun _ _ => Draft.retriesApart,
    isRetryTimer_forced, retryMarkerName_ne_closeMarkerName⟩

/-- A registry that schedules tasks with similar names when a run starts, and twice brings about a
further decision task. -/
def crowded : Registry where
  handlers := [(⟨.workflowExecutionStarted, .workflow ⟨"order", "1"⟩⟩, fun _ =>
    .schedule (.plain ⟨"a", "1"⟩ none) fun _ => .schedule (.plain ⟨"a", "2"⟩ none) fun _ =>
      .schedule (.plain ⟨"a:a", "1"⟩ none) fun _ =>
        .cancelTimer "due" true (.cancelTimer "due" true .done))]
  policies := .uniform .noRetry
  defaults := fun _ => none

/-- Five names are made in a cycle of that registry, and no two of them collide.  Neither do those
for the retries of its first and its last task. -/
theorem names_never_collide_crowded :
    ∃ log workflow, (crowded.cycle log workflow .counted).fresh.Distinct ∧
      (crowded.newNames log workflow .counted).length = 5 ∧
      crowded.NamesApart log workflow .counted ∧
      ∃ d d' : Draft, EndsApart d.fresh.head d'.fresh.head ∧ d.fresh.head ≠ d'.fresh.head ∧
        d.nextTaskId ⟨"a", "1"⟩ = "a-00000000-0000-4000-8000-000000000000" ∧
        d'.nextTaskId ⟨"a:a", "1"⟩ = "a:a-00000000-0000-4000-8000-000000000002" ∧
        d.RetriesApart d' ⟨"a", "1"⟩ ⟨"a:a", "1"⟩ := by
  obtain ⟨hlong, hcycle, hdrafts, -⟩ := names_never_collide
  let log : EventLog := ⟨Run.oneTask.recorder.events, 0⟩
  let workflow := Run.oneTask.recorder.workflow
  have hdistinct : (crowded.cycle log workflow .counted).fresh.Distinct :=
    ⟨by decide +kernel, by decide +kernel⟩
  have hlength : (crowded.newNames log workflow .counted).length = 5 := by decide +kernel
  let d := crowded.draft .counted
  let d' := (d.schedule (.plain ⟨"a", "1"⟩ none)).schedule (.plain ⟨"a", "2"⟩ none)
  have hends : EndsApart d.fresh.head d'.fresh.head := .of_length_eq (by decide +kernel)
  exact ⟨log, workflow, hdistinct, hlength, hcycle _ _ _ _ (hlong _ hdistinct), d, d', hends,
    by decide +kernel, by decide +kernel, by decide +kernel, hdrafts d d' hends _ _⟩

end Registry

end DurableWorkflow
