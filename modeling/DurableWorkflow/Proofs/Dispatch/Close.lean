import DurableWorkflow.Proofs.Dispatch.Contribution

/-!
# Closes in a cycle

Whoever closes a run in a cycle, be it a handler, recovery or retries that give up, the close
decision directly follows the record of its control, and every look at the decisions on the way
shows it so.

## Main Definitions

* `CycleState.snapshotsAt`: the decisions that the handler called for an event looks at.
* `Registry.snapshots`: the decisions that the handlers of a cycle look at.

## Main Statements

* `Registry.Visits.closesRecorded`: visits keep the records.
* `CycleState.isPrefix_of_mem_snapshotsAt`: what a handler sees is the beginning of what its event
  leaves behind.
* `Registry.closes_recoverable`: every close decision of a cycle can be issued again.
-/

namespace DurableWorkflow

open DecisionBatch (ClosesRecorded Recoverable)

/-! ### Records -/

namespace Registry

variable {r : Registry} {log : EventLog} {workflow : WorkflowInfo} {ctx : EventContext}
  {d d' : Draft} {e : Event} {calls : List EventContext} {stop : Option Interruption}

theorem closesRecorded_of_run {p : Plan} {ending : Plan.Ending}
    (hd : ClosesRecorded d.decisions) (h : p.run d = (ending, d')) :
    ClosesRecorded d'.decisions := by
  have hrun := p.run_closesRecorded hd
  rwa [h] at hrun

/-- Whatever way an event goes, closes stay recorded. -/
theorem Goes.closesRecorded {way : Way} (h : r.Goes ctx d way d' calls)
    (hd : ClosesRecorded d.decisions) : ClosesRecorded d'.decisions := by
  cases h with
  | reissue | giveUp => exact hd.append (.close _)
  | wait => exact Draft.closesRecorded_append hd (List.forall_mem_singleton.mpr rfl)
  | again =>
      refine Draft.closesRecorded_append hd fun x hx => ?_
      rcases List.mem_pair.mp hx with rfl | rfl <;> rfl
  | handle _ hrun => exact closesRecorded_of_run hd hrun
  | skip => exact hd

/-- **Visits keep the records of close decisions**, be it the visit that ends the cycle. -/
theorem Visits.closesRecorded (h : r.Visits log workflow d e d' calls stop)
    (hd : ClosesRecorded d.decisions) : ClosesRecorded d'.decisions := by
  cases h with
  | goes _ hway =>
      obtain ⟨way, ⟨-, hgoes⟩, -⟩ := hway
      exact hgoes.closesRecorded hd
  | unreadable | refused => exact hd
  | failed _ _ _ hrun | crashed _ _ _ hrun => exact closesRecorded_of_run hd hrun

end Registry

/-! ### Snapshots -/

namespace CycleState

variable (r : Registry) (log : EventLog) (workflow : WorkflowInfo)

/-- The decisions that the handler called for an event looks at. -/
def snapshotsAt (s : CycleState) (e : Event) : List DecisionBatch :=
  match EventContext.extract e log workflow with
  | .error _ => []
  | .ok ctx =>
    match r.route ctx with
    | .ok ⟨.handle handler, _⟩ => (handler ctx).snapshots s.draft
    | _ => []

/-- The decisions that handlers look at, up to the first event that ends the cycle. -/
def snapshots : CycleState → List Event → List DecisionBatch
  | _, [] => []
  | s, e :: rest =>
    s.snapshotsAt r log workflow e ++
      match s.visit r log workflow e with
      | (s', none) => snapshots s' rest
      | (_, some _) => []

/-- What a handler sees is the beginning of what its event leaves behind. -/
theorem isPrefix_of_mem_snapshotsAt (s : CycleState) (e : Event) :
    ∀ seen ∈ s.snapshotsAt r log workflow e,
      seen <+: (s.visit r log workflow e).1.draft.decisions := by
  intro seen hseen
  unfold snapshotsAt at hseen
  split at hseen
  · cases hseen
  · next ctx hctx =>
      split at hseen
      · next handler notices hroute =>
          have hprefix := (handler ctx).isPrefix_of_mem_snapshots s.draft seen hseen
          simp only [visit, hctx, hroute, follow, call]
          cases hending : ((handler ctx).run s.draft).1 <;> exact hprefix
      · cases hseen

variable {r log workflow}

/-- Every visit keeps the records, and handlers see them on the way. -/
theorem visit_closesRecorded {s s' : CycleState} {e : Event} {stop : Option Interruption}
    (h : s.visit r log workflow e = (s', stop)) (hs : ClosesRecorded s.draft.decisions) :
    ClosesRecorded s'.draft.decisions ∧
      ∀ seen ∈ s.snapshotsAt r log workflow e, ClosesRecorded seen := by
  obtain ⟨calls, hvisits, -⟩ := sees_visit h
  have hs' := hvisits.closesRecorded hs
  refine ⟨hs', fun seen hseen => hs'.of_isPrefix ?_⟩
  have hprefix := isPrefix_of_mem_snapshotsAt r log workflow s e seen hseen
  rwa [h] at hprefix

/-- Closes stay recorded from event to event, and in all that handlers see meanwhile. -/
theorem visitAll_closesRecorded {s : CycleState} {events : List Event}
    (hs : ClosesRecorded s.draft.decisions) :
    ClosesRecorded (visitAll r log workflow s events).1.draft.decisions ∧
      ∀ seen ∈ s.snapshots r log workflow events, ClosesRecorded seen := by
  induction events generalizing s with
  | nil => exact ⟨hs, fun _ hseen => absurd hseen List.not_mem_nil⟩
  | cons e rest ih =>
      cases hvisit : s.visit r log workflow e with
      | mk s' stop =>
          obtain ⟨hs', hseen⟩ := visit_closesRecorded hvisit hs
          simp only [visitAll, snapshots, hvisit, List.forall_mem_append]
          cases stop with
          | none => exact ⟨(ih hs').1, hseen, (ih hs').2⟩
          | some stop => exact ⟨hs', hseen, fun _ h => absurd h List.not_mem_nil⟩

end CycleState

namespace Registry

/-- The decisions that the handlers of a cycle look at, also if the cycle does not decide. -/
def snapshots (r : Registry) (log : EventLog) (workflow : WorkflowInfo) (fresh : FreshTexts) :
    List DecisionBatch :=
  CycleState.snapshots r log workflow (.start (r.draft fresh)) log.newEvents

variable (r : Registry) (log : EventLog) (workflow : WorkflowInfo) (fresh : FreshTexts)

theorem closesRecorded_cycle :
    ClosesRecorded (CycleState.visitAll r log workflow (.start (r.draft fresh))
        log.newEvents).1.draft.decisions ∧
      ∀ seen ∈ r.snapshots log workflow fresh, ClosesRecorded seen :=
  CycleState.visitAll_closesRecorded
    (show ClosesRecorded (CycleState.start (r.draft fresh)).draft.decisions from .nil)

variable {r log workflow fresh} in
/-- The closes of a batch that a cycle decides are recorded. -/
theorem closesRecorded_of_decided {batch : DecisionBatch}
    (h : (r.cycle log workflow fresh).ending = .decided batch) : ClosesRecorded batch := by
  obtain ⟨s, hs, rfl, -⟩ := exists_of_decided h
  have hall := (r.closesRecorded_cycle log workflow fresh).1
  rwa [hs] at hall

/-- **Every close decision of a cycle can be issued again.**  It directly follows a marker from
which it is read back as it was, in the decisions of the cycle as in all that handlers see on the
way. -/
theorem closes_recoverable :
    (∀ batch, (r.cycle log workflow fresh).ending = .decided batch → Recoverable batch) ∧
      ∀ seen ∈ r.snapshots log workflow fresh, Recoverable seen :=
  ⟨fun _ hdecided => (closesRecorded_of_decided hdecided).recoverable, fun seen hseen =>
    ((r.closesRecorded_cycle log workflow fresh).2 seen hseen).recoverable⟩

/-- A registry whose handler closes a run when it starts, and then looks at the decisions. -/
def closing (control : CloseControl) : Registry where
  handlers := [(⟨.workflowExecutionStarted, .workflow ⟨"order", "1"⟩⟩,
    fun _ => .close control (.inspect fun _ => .done))]
  policies := .uniform .noRetry
  defaults := fun _ => none

/-- A close with a text that has to be escaped, as the cycle decides it and as the handler sees
it. -/
theorem closes_recoverable_closing :
    ∃ control batch seen,
      ((closing control).cycle ⟨Run.oneTask.recorder.events, 0⟩ Run.oneTask.recorder.workflow
        .counted).ending = .decided batch ∧
      seen ∈ (closing control).snapshots ⟨Run.oneTask.recorder.events, 0⟩
        Run.oneTask.recorder.workflow .counted ∧
      control.decision ∈ batch ∧ control.decision ∈ seen ∧ Recoverable batch ∧
      Recoverable seen := by
  let control : CloseControl := .complete (some "said \"done\"")
  have hrun : ((closing control).cycle ⟨Run.oneTask.recorder.events, 0⟩
      Run.oneTask.recorder.workflow .counted).ending
        = .decided [control.record, control.decision] := by decide +kernel
  have hseen : [control.record, control.decision] ∈ (closing control).snapshots
      ⟨Run.oneTask.recorder.events, 0⟩ Run.oneTask.recorder.workflow .counted := by decide +kernel
  obtain ⟨hbatch, hsnapshots⟩ := (closing control).closes_recoverable
    ⟨Run.oneTask.recorder.events, 0⟩ Run.oneTask.recorder.workflow .counted
  have hmem : control.decision ∈ [control.record, control.decision] := by simp
  exact ⟨control, _, _, hrun, hseen, hmem, hmem, hbatch _ hrun, hsnapshots _ hseen⟩

end Registry

end DurableWorkflow
