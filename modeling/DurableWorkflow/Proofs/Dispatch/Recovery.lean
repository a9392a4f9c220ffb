import DurableWorkflow.Dispatch.Cycle
import DurableWorkflow.History.Recorder
import DurableWorkflow.Proofs.Decision.Close
import DurableWorkflow.Proofs.History.Context

/-!
# Which close is issued again

A rejected close is issued again as the close marker recorded last says.  The type of the event that
reports the rejection counts only where no marker can be read, so the close that is issued again may
be of another kind than the one that was rejected.

## Main Definitions

* `Decision.rejection?`: the type of the events that report a decision as rejected.
* `EventContext.Reissues`: the control with which a rejected close is issued again.

## Main Statements

* `EventContext.reissues_of_recovery?`: what recovery makes of an event.
* `CycleState.visit_rejected`: the visit of an event that reports a rejected close, and when it
  issues a close of the reported kind.
* `CycleState.visit_rejected_otherKind`: of two closes rejected in one batch the first is issued
  again as the second.
-/

namespace DurableWorkflow

/-- The type of the events that report a decision as rejected, if it is a close decision. -/
def Decision.rejection? : Decision → Option EventType
  | .completeWorkflow _ => some .completeWorkflowExecutionFailed
  | .failWorkflow .. => some .failWorkflowExecutionFailed
  | .cancelWorkflow _ => some .cancelWorkflowExecutionFailed
  | _ => none

theorem CloseControl.isSome_emptyFor? (t : EventType) :
    (emptyFor? t).isSome = t.isCloseFailure := by
  cases t <;> rfl

theorem CloseControl.rejection?_of_emptyFor? {t : EventType} {c : CloseControl}
    (h : emptyFor? t = some c) : c.decision.rejection? = some t := by
  unfold emptyFor? at h
  split at h <;> cases h <;> rfl

namespace EventContext

variable {ctx : EventContext}

/-- The control with which a rejected close is issued again. -/
inductive Reissues (ctx : EventContext) : CloseControl → Prop
  /-- That of the close marker recorded last. -/
  | recorded {payload : String} {control : CloseControl}
      (hrejected : ctx.event.type.isCloseFailure = true)
      (hlatest : ctx.log.latestMarkerDetails closeMarkerName = some payload)
      (hdecode : CloseControl.decode payload = .ok control) : Reissues ctx control
  /-- The one without parameters for the type of the event, if that marker cannot be read. -/
  | bare {control : CloseControl}
      (hnone : ∀ payload recorded, ctx.log.latestMarkerDetails closeMarkerName = some payload →
        CloseControl.decode payload ≠ .ok recorded)
      (hempty : CloseControl.emptyFor? ctx.event.type = some control) : Reissues ctx control

theorem Reissues.rejected {control : CloseControl} (h : ctx.Reissues control) :
    ctx.event.type.isCloseFailure = true := by
  cases h with
  | recorded hrejected => exact hrejected
  | bare _ hempty => rw [← CloseControl.isSome_emptyFor?, hempty, Option.isSome_some]

/-- **What recovery makes of an event.** -/
theorem reissues_of_recovery? {recovery : Recovery} (h : ctx.recovery? = some recovery) :
    ctx.Reissues recovery.control := by
  obtain ⟨empty, hempty, rfl⟩ := Option.map_eq_some_iff.mp h
  have hrejected : ctx.event.type.isCloseFailure = true := by
    rw [← CloseControl.isSome_emptyFor?, hempty, Option.isSome_some]
  split
  · next payload hlatest =>
      split
      · next control hdecode => exact .recorded hrejected hlatest hdecode
      · next error hdecode =>
          refine .bare (fun payload' recorded hlatest' hok => ?_) hempty
          rw [hlatest] at hlatest'
          cases hlatest'
          rw [hdecode] at hok
          cases hok
  · next hnone =>
      refine .bare (fun payload recorded hlatest => ?_) hempty
      rw [hnone] at hlatest
      cases hlatest

/-- Recovery leaves alone what reports no rejected close. -/
theorem recovery?_eq_none_iff : ctx.recovery? = none ↔ ctx.event.type.isCloseFailure = false := by
  rw [recovery?, Option.map_eq_none_iff, ← CloseControl.isSome_emptyFor?,
    Option.isSome_eq_false_iff, Option.isNone_iff_eq_none]

/-- The close that is issued again is of the reported kind if and only if the close marker recorded
last does not keep a control of another kind. -/
theorem Reissues.rejection?_eq_iff {control : CloseControl} (h : ctx.Reissues control) :
    control.decision.rejection? = some ctx.event.type ↔
      ∀ payload recorded, ctx.log.latestMarkerDetails closeMarkerName = some payload →
        CloseControl.decode payload = .ok recorded →
        recorded.decision.rejection? = some ctx.event.type := by
  cases h with
  | recorded hrejected hlatest hdecode =>
      constructor
      · intro hkind payload recorded hlatest' hdecode'
        obtain rfl := Option.some.inj (hlatest.symm.trans hlatest')
        obtain rfl := Except.ok.inj (hdecode.symm.trans hdecode')
        exact hkind
      · exact fun hkind => hkind _ _ hlatest hdecode
  | bare hnone hempty =>
      refine ⟨fun _ payload recorded hlatest hdecode => ?_, fun _ => ?_⟩
      · exact (hnone payload recorded hlatest hdecode).elim
      · exact CloseControl.rejection?_of_emptyFor? hempty

/-- A control that can be read is the one to issue again. -/
theorem Reissues.eq_of_latest {control c : CloseControl} (h : ctx.Reissues control)
    (hlatest : ctx.log.latestMarkerDetails closeMarkerName = some c.encode) : control = c := by
  cases h with
  | recorded _ hlatest' hdecode =>
      obtain rfl := Option.some.inj (hlatest.symm.trans hlatest')
      exact Except.ok.inj (hdecode.symm.trans c.decode_encode)
  | bare hnone => exact absurd c.decode_encode (hnone _ _ hlatest)

/-- An event that reports a rejected close has a context. -/
theorem exists_of_rejected {e : Event} (log : EventLog) (workflow : WorkflowInfo)
    (hrejected : e.type.isCloseFailure = true) (hregular : e.attributes.isOther = false) :
    ∃ ctx, EventContext.extract e log workflow = .ok ctx := by
  have hdetails : ∃ details, EventDetails.extract e log workflow = .ok details := by
    cases hattr : e.attributes <;>
      simp only [Event.type, hattr, Attributes.type, Attributes.isOther, EventType.isCloseFailure,
        reduceCtorEq] at hrejected hregular
    all_goals
      simp only [EventDetails.extract, Event.category, Event.type, hattr, Attributes.type,
        EventType.category, WorkflowDetails.extract]
      exact ⟨_, rfl⟩
  obtain ⟨details, hdetails⟩ := hdetails
  exact ⟨_, by rw [EventContext.extract, hdetails]; rfl⟩

end EventContext

namespace CycleState

variable {r : Registry} {log : EventLog} {workflow : WorkflowInfo} {s : CycleState} {e : Event}
  {ctx : EventContext}

/-- The visit of an event that reports a rejected close issues a close again and does not end the
cycle. -/
theorem exists_visit_of_rejected (r : Registry) (s : CycleState)
    (hctx : EventContext.extract e log workflow = .ok ctx)
    (hrejected : e.type.isCloseFailure = true) :
    ∃ (s' : CycleState) (control : CloseControl), s.visit r log workflow e = (s', none) ∧
      s'.handled = s.handled ∧ s'.draft = s.draft.close control ∧ ctx.Reissues control := by
  obtain ⟨details, -, rfl⟩ := EventContext.extract_ok hctx
  have hsome : EventContext.recovery? ⟨e, log, workflow, details⟩ ≠ none := by
    rw [Ne, EventContext.recovery?_eq_none_iff, hrejected]
    exact Bool.true_eq_false.mp
  obtain ⟨recovery, hrecovery⟩ := Option.ne_none_iff_exists'.mp hsome
  have hvisit : s.visit r log workflow e
      = ({ s with
            draft := s.draft.close recovery.control
            notices := s.notices ++ recovery.notices }, none) := by
    simp only [visit, hctx, Registry.route, hrecovery, follow]
  exact ⟨_, recovery.control, hvisit, rfl, rfl, EventContext.reissues_of_recovery? hrecovery⟩

/-- **The visit of an event that reports a rejected close.**  It adds one close decision with its
record and calls no handler.  The close is of the kind that was rejected if and only if the close
marker recorded last does not keep a control of another kind. -/
theorem visit_rejected (hctx : EventContext.extract e log workflow = .ok ctx)
    (hrejected : e.type.isCloseFailure = true) :
    ∃ (s' : CycleState) (control : CloseControl), s.visit r log workflow e = (s', none) ∧
      s'.handled = s.handled ∧
      s'.draft.decisions = s.draft.decisions ++ [control.record, control.decision] ∧
      (control.decision.rejection? = some e.type ↔
        ∀ payload recorded, log.latestMarkerDetails closeMarkerName = some payload →
          CloseControl.decode payload = .ok recorded →
          recorded.decision.rejection? = some e.type) := by
  obtain ⟨s', control, hvisit, hhandled, hdraft, hreissues⟩ :=
    exists_visit_of_rejected r s hctx hrejected
  obtain ⟨details, -, rfl⟩ := EventContext.extract_ok hctx
  exact ⟨s', control, hvisit, hhandled, by rw [hdraft]; rfl, hreissues.rejection?_eq_iff⟩

end CycleState

/-! ### Two closes in one batch -/

/-- A batch that closes a run twice, as handlers of two events may do. -/
def DecisionBatch.twoCloses : DecisionBatch :=
  [CloseControl.record (.complete none), .completeWorkflow none,
    CloseControl.record (.fail none none), .failWorkflow none none]

/-- A run that has rejected that batch, with its next decision task in progress. -/
def Recorder.twoCloses : Recorder :=
  ((start ⟨"order", "1"⟩ none).apply (some "UNHANDLED_DECISION") .twoCloses).1.decisionStarted

/-- The log of that run. -/
def EventLog.twoCloses : EventLog := ⟨Recorder.twoCloses.events, 3⟩

theorem Recorder.log_twoCloses : twoCloses.log = .ok .twoCloses := rfl

/-- The event that reports the second close is answered with a close of its kind. -/
theorem CycleState.visit_rejected_twoCloses :
    ∃ e ∈ EventLog.twoCloses.newEvents, e.type = .failWorkflowExecutionFailed ∧
      ∃ (s' : CycleState) (control : CloseControl),
        (CycleState.start (Registry.empty.draft ⟨fun _ => "", 0⟩)).visit Registry.empty .twoCloses
          Recorder.twoCloses.workflow e = (s', none) ∧ s'.handled = [] ∧
        s'.draft.decisions = [control.record, control.decision] ∧
        (control.decision.rejection? = some e.type ↔
          ∀ payload recorded,
            EventLog.twoCloses.latestMarkerDetails closeMarkerName = some payload →
            CloseControl.decode payload = .ok recorded →
            recorded.decision.rejection? = some e.type) := by
  let e : Event := ⟨8, .epoch, .failWorkflowExecutionFailed "UNHANDLED_DECISION"⟩
  let details : WorkflowDetails :=
    { WorkflowDetails.ofType ⟨"order", "1"⟩ with cause := some "UNHANDLED_DECISION" }
  have hctx : EventContext.extract e .twoCloses Recorder.twoCloses.workflow
      = .ok ⟨e, .twoCloses, Recorder.twoCloses.workflow, .workflow details⟩ := rfl
  exact ⟨e, by decide +kernel, rfl, visit_rejected hctx rfl⟩

/-- The event that reports the first close is answered with a close of the other kind. -/
theorem CycleState.visit_rejected_otherKind :
    Recorder.twoCloses.log = .ok .twoCloses ∧
      ∃ e ∈ EventLog.twoCloses.newEvents, e.type = .completeWorkflowExecutionFailed ∧
        ((CycleState.start (Registry.empty.draft ⟨fun _ => "", 0⟩)).visit Registry.empty .twoCloses
          Recorder.twoCloses.workflow e).1.draft.decisions
          = [CloseControl.record (.fail none none), .failWorkflow none none] :=
  ⟨Recorder.log_twoCloses, by decide +kernel⟩

end DurableWorkflow
