import DurableWorkflow.Proofs.History.Soundness
import DurableWorkflow.Proofs.Run.Basic

/-!
# Runs do not break by themselves

As long as nobody else uses the names that belong to retries, the history of a run stays sound, so
its log is complete and every cycle over it decides.

## Main Definitions

* `Decision.Justified`: the event that a decision leads to is borne out by a history.
* `Run.Sound`: the history of a run is sound, and so are the decisions not yet recorded.
* `Occurrence.LeavesRetries`: what may occur.

## Main Statements

* `Run.Sound.step`: every step keeps a run sound.
* `Reaches.decides`: every log is complete, and every cycle decides.

## Design Notes

Decisions are borne out when they are made.  The history they are recorded in is a longer one, which
bears them out as well.
-/

namespace DurableWorkflow

/-! ### Decisions -/

/-- What a decision leads to is borne out by a history. -/
def Decision.Justified (events : List Event) (x : Decision) : Prop :=
  ∀ a, x.intended? = some a → a.Justified events

theorem Decision.Justified.mono {events more : List Event} (hsub : events ⊆ more) {x : Decision}
    (h : x.Justified events) : x.Justified more :=
  fun a ha => (h a ha).mono hsub

@[simp]
theorem CloseControl.decision_intended? (control : CloseControl) :
    control.decision.intended? = none := by
  cases control <;> rfl

/-- A decision that leaves retries alone is borne out by every history. -/
theorem Decision.justified_of_leaves {events : List Event} {x : Decision}
    (h : x.touchesRetries = false) : x.Justified events := by
  intro a ha
  cases x <;> cases ha <;> simp only [touchesRetries] at h
  · trivial
  · intro hretry
    rw [h] at hretry
    cases hretry
  · intro hretry
    rw [h] at hretry
    cases hretry

namespace Recorder

variable {r : Recorder} {a : Attributes}

/-- What a decision that is borne out leads to is borne out when it is recorded. -/
theorem consequence_justified {rejection : Option String} {x : Decision}
    (hx : x.Justified r.events) (h : r.consequence rejection x = .ok a) : a.Justified r.events := by
  cases x with
  | scheduleTask | startTimer | recordMarker =>
      cases h
      exact hx _ rfl
  | cancelTimer timerId =>
      obtain ⟨id, hid, rfl⟩ := exists_of_map_eq_ok h
      exact startedId_ok hid
  | completeWorkflow | failWorkflow | cancelWorkflow =>
      cases rejection <;> cases h <;> trivial

end Recorder

/-- A history stays borne out when an event comes that it bears out. -/
theorem justified_cons {events : List Event} {e : Event}
    (h : ∀ x ∈ events, x.attributes.Justified events) (he : e.attributes.Justified events) :
    ∀ x ∈ e :: events, x.attributes.Justified (e :: events) := by
  intro x hx
  rcases List.mem_cons.mp hx with rfl | hx
  · exact he.mono (List.subset_cons_self ..)
  · exact (h x hx).mono (List.subset_cons_self ..)

/-- Recording a decision keeps a history and the decisions after it borne out. -/
theorem Recorder.record_justified {r : Recorder} {rejection : Option String} {x : Decision}
    {rest : DecisionBatch} {a : Attributes} (ha : r.consequence rejection x = .ok a)
    (h : (∀ e ∈ r.events, e.attributes.Justified r.events) ∧
      ∀ y ∈ x :: rest, y.Justified r.events) :
    (∀ e ∈ (r.push a).events, e.attributes.Justified (r.push a).events) ∧
      ∀ y ∈ rest, y.Justified (r.push a).events :=
  ⟨justified_cons h.1 (Recorder.consequence_justified (h.2 x (List.mem_cons_self ..)) ha),
    fun y hy => (h.2 y (List.mem_cons_of_mem _ hy)).mono (List.subset_cons_self ..)⟩

/-! ### What may occur -/

/-- Whether an occurrence is of a named kind and leaves the names that belong to retries alone. -/
def Occurrence.LeavesRetries : Occurrence → Prop
  | .timerStarted timerId _ => isRetryTimer timerId = false
  | .marker name _ => isRetryMarker name = false
  | .raw _ => False
  | _ => True

/-- Whether a step leaves the names that belong to retries alone. -/
def Run.Action.LeavesRetries : Run.Action → Prop
  | .occur o => o.LeavesRetries
  | .begin | .decide | .apply _ => True

instance : DecidablePred Occurrence.LeavesRetries
  | .timerStarted timerId _ => inferInstanceAs (Decidable (isRetryTimer timerId = false))
  | .marker name _ => inferInstanceAs (Decidable (isRetryMarker name = false))
  | .raw _ => inferInstanceAs (Decidable False)
  | .taskStarted .. | .taskCompleted .. | .taskFailed .. | .taskTimedOut .. | .timerFired ..
  | .signal .. => inferInstanceAs (Decidable True)

instance : DecidablePred Run.Action.LeavesRetries
  | .occur o => inferInstanceAs (Decidable o.LeavesRetries)
  | .begin | .decide | .apply _ => inferInstanceAs (Decidable True)

/-- What occurs is borne out by the history before it. -/
theorem Occurrence.record_justified {o : Occurrence} {r r' : Recorder} (hleaves : o.LeavesRetries)
    (h : o.record r = .ok r') : ∃ a, r' = r.push a ∧ a.Justified r.events := by
  cases o with
  | taskStarted | taskCompleted | taskFailed | taskTimedOut =>
      obtain ⟨id, hid, rfl⟩ := exists_of_map_eq_ok h
      obtain ⟨s, hs, hsid, hschedules⟩ := Recorder.scheduledId_ok hid
      exact ⟨_, rfl, s, hs, hsid, _, hschedules⟩
  | timerFired timerId =>
      obtain ⟨id, hid, rfl⟩ := exists_of_map_eq_ok h
      exact ⟨_, rfl, Recorder.startedId_ok hid⟩
  | timerStarted timerId delay =>
      cases h
      refine ⟨_, rfl, fun hretry => ?_⟩
      rw [Occurrence.LeavesRetries] at hleaves
      rw [hleaves] at hretry
      cases hretry
  | signal =>
      cases h
      exact ⟨_, rfl, trivial⟩
  | marker name details =>
      cases h
      refine ⟨_, rfl, fun hretry => ?_⟩
      rw [Occurrence.LeavesRetries] at hleaves
      rw [hleaves] at hretry
      cases hretry
  | raw => exact hleaves.elim

/-! ### Cycles -/

namespace SoundHistory

variable {log : EventLog} {workflow : WorkflowInfo} {e : Event} {r : Registry} {ctx : EventContext}
  {d d' : Draft}

/-- Every visit of a cycle over a sound history adds decisions that the history bears out. -/
theorem effect_justified (h : SoundHistory log.events) (hleaves : r.LeavesRetries)
    (he : e ∈ log.events) (hctx : EventContext.extract e log workflow = .ok ctx)
    (heffect : r.Effect ctx d d') (hd : ∀ x ∈ d.decisions, x.Justified log.events) :
    ∀ x ∈ d'.decisions, x.Justified log.events := by
  obtain ⟨details, hdetails, rfl⟩ := EventContext.extract_ok hctx
  cases heffect with
  | @wait timerId delay control hjudged =>
      obtain ⟨s, hs, x, hx, -, htimer, rfl, -⟩ := wait_grounds hdetails hjudged
      refine List.forall_mem_append.mpr ⟨hd, List.forall_mem_singleton.mpr ?_⟩
      rintro a ⟨⟩ -
      exact ⟨s, hs, x, hx, htimer, rfl⟩
  | @again schedule markerName count hjudged =>
      obtain ⟨s, hs, x, hx, -, rfl, rfl, retries, -, rfl⟩ := h.again_grounds he hdetails hjudged
      have hrepeated : x.decision.Justified log.events := Decision.justified_of_leaves rfl
      refine List.forall_mem_append.mpr
        ⟨List.forall_mem_append.mpr ⟨hd, List.forall_mem_singleton.mpr hrepeated⟩,
          List.forall_mem_singleton.mpr ?_⟩
      rintro a ⟨⟩ -
      exact ⟨⟨s, hs, x, hx, rfl⟩, _, rfl⟩
  | close _ control =>
      exact List.forall_mem_append.mpr
        ⟨hd, fun x hx => Decision.justified_of_leaves (control.leaves x hx).1⟩
  | @handle hquiet key handler _ hmem hrun =>
      have hadded :
          d'.decisions = d.decisions ++ (handler ⟨e, log, workflow, details⟩).added d := by
        rw [← Plan.run_decisions, hrun]
      rw [hadded]
      exact List.forall_mem_append.mpr
        ⟨hd, fun x hx => Decision.justified_of_leaves (hleaves _ hmem _ d x hx)⟩
  | skip => exact hd

end SoundHistory

/-! ### Runs -/

namespace Run

/-- The history of a run is sound, and so are the decisions that have not been recorded. -/
structure Sound (s : Run) : Prop where
  orderly : s.Orderly
  justified : ∀ e ∈ s.recorder.events, e.attributes.Justified s.recorder.events
  pending : ∀ x ∈ s.pending, x.Justified s.recorder.events

variable {reg : Registry} {s t : Run} {a : Action}

theorem Sound.history (h : Sound s) : SoundHistory s.recorder.events :=
  ⟨h.orderly.numbered, h.orderly.fits, h.justified⟩

theorem sound_start (workflowType : WorkflowType) (input : Option String) (fresh : FreshTexts) :
    Sound (start workflowType input fresh) where
  orderly := orderly_start workflowType input fresh
  justified := by
    intro e he
    rcases List.mem_cons.mp he with rfl | he
    · trivial
    · rcases List.mem_cons.mp he with rfl | he
      · trivial
      · rw [List.mem_singleton.mp he]
        trivial
  pending := fun _ hx => absurd hx List.not_mem_nil

theorem sound_empty (workflowType : WorkflowType) (fresh : FreshTexts) :
    Sound (empty workflowType fresh) where
  orderly := orderly_empty workflowType fresh
  justified := fun _ he => absurd he List.not_mem_nil
  pending := fun _ hx => absurd hx List.not_mem_nil

/-- Every step keeps a run sound. -/
theorem Sound.step (h : Sound s) (hleaves : reg.LeavesRetries) (hallowed : a.LeavesRetries)
    (hstep : Step reg s a t) (hfits : t.fits) : Sound t := by
  have ht := h.orderly.step hstep hfits
  cases hstep with
  | occur hphase hrecord =>
      obtain ⟨a, rfl, ha⟩ := Occurrence.record_justified hallowed hrecord
      exact ⟨ht, justified_cons h.justified ha,
        fun x hx => (h.pending x hx).mono (List.subset_cons_self ..)⟩
  | begin hphase =>
      refine ⟨ht, ?_, fun _ hx => absurd hx List.not_mem_nil⟩
      rw [Recorder.decisionStarted_events]
      exact justified_cons (justified_cons h.justified trivial) trivial
  | decide hphase hlog hcycle =>
      obtain rfl := Recorder.log_ok h.orderly.numbered hlog
      obtain ⟨d, rfl, -, hd⟩ := Registry.cycle_induction
        (motive := fun _ d => ∀ x ∈ d.decisions, x.Justified s.recorder.events) hcycle
        h.orderly.numbered h.orderly.previous_nonneg
        (Int.le_trans h.orderly.previous_le h.orderly.started_le)
        (fun e he n d d' ctx _ _ hctx heffect hd =>
          SoundHistory.effect_justified h.history hleaves he hctx heffect hd)
        (fun _ hx => absurd hx List.not_mem_nil)
      exact ⟨ht, h.justified, hd⟩
  | giveUp hphase hfresh => exact ⟨ht, h.justified, fun _ hx => absurd hx List.not_mem_nil⟩
  | @apply rejection batch r hphase happly =>
      have hpending : ∀ x ∈ batch, x.Justified s.recorder.events := by
        simpa [Run.pending, hphase] using h.pending
      -- The history grows with every decision that is recorded, and bears out those that are left.
      have hrecorded := Recorder.apply_induction
        (motive := fun r batch => (∀ e ∈ r.events, e.attributes.Justified r.events) ∧
          ∀ x ∈ batch, x.Justified r.events) ?_ ?_ happly
      · exact ⟨ht, hrecorded.1, fun _ hx => absurd hx List.not_mem_nil⟩
      · exact ⟨justified_cons h.justified trivial,
          fun x hx => (hpending x hx).mono (List.subset_cons_self ..)⟩
      · exact fun r x rest a ha h => Recorder.record_justified ha h

/-- A sound run that has begun has a complete log. -/
theorem Sound.log_total (h : Sound s) (hne : s.recorder.events ≠ []) :
    s.recorder.log = .ok ⟨s.recorder.events, s.recorder.previousStartedEventId⟩ :=
  EventLog.assemble_of_numbered h.orderly.numbered hne _

end Run

/-- Every state that is reached without touching what belongs to retries is sound. -/
theorem Reaches.sound {reg : Registry} {allowed : Run → Run.Action → Prop} {s t : Run}
    (hleaves : reg.LeavesRetries) (hallowed : ∀ s a, allowed s a → a.LeavesRetries) (hs : s.Sound)
    (h : Reaches reg allowed s t) : t.Sound :=
  h.induction (fun _ _ _ ha hstep hfits ht => ht.step hleaves (hallowed _ _ ha) hstep hfits) hs

/-- **A run never breaks by itself.**  Whatever is done to a run by named operations, as long as
neither they nor the handlers use names that belong to retries, and no handler gives up: every log
is complete, and every cycle decides. -/
theorem Reaches.decides {reg : Registry} {workflowType : WorkflowType} {input : Option String}
    {fresh : FreshTexts} {t : Run} (hcompletes : reg.Completes) (hleaves : reg.LeavesRetries)
    (h : Reaches reg (fun _ a => a.LeavesRetries) (.start workflowType input fresh) t) :
    ∃ log, t.recorder.log = .ok log ∧
      ∀ fresh, ∃ batch, (reg.cycle log t.recorder.workflow fresh).ending = .decided batch := by
  have hsound := h.sound hleaves (fun _ _ ha => ha) (Run.sound_start workflowType input fresh)
  have hne : t.recorder.events ≠ [] := by
    have hsuffix := h.events_suffix (Run.orderly_start workflowType input fresh)
    intro hempty
    rw [hempty] at hsuffix
    cases List.suffix_nil.mp hsuffix
  refine ⟨_, hsound.log_total hne, fun fresh => ?_⟩
  exact SoundHistory.cycle_decides hsound.history hcompletes _ fresh

theorem Registry.oneTask_completes : Registry.oneTask.Completes := by
  intro entry hentry ctx d
  cases List.mem_singleton.mp hentry
  rfl

theorem Registry.oneTask_leavesRetries : Registry.oneTask.LeavesRetries := by
  intro entry hentry ctx d x hx
  cases List.mem_singleton.mp hentry
  simp only [Plan.added, Plan.run, Draft.schedule_decisions, List.drop_left] at hx
  rw [List.mem_singleton.mp hx]
  rfl

/-- After a retry the next cycle decides as well. -/
theorem Reaches.decides_oneRetry :
    ∃ t, Run.oneTask.steps? .oneTask (fun _ a => a.LeavesRetries) Run.oneRetry = some t ∧
      ∃ log, t.recorder.log = .ok log ∧ ∀ fresh, ∃ batch,
        (Registry.oneTask.cycle log t.recorder.workflow fresh).ending = .decided batch := by
  have hrun :
      (Run.oneTask.steps? .oneTask (fun _ a => a.LeavesRetries) Run.oneRetry).isSome = true := by
    decide +kernel
  obtain ⟨t, ht⟩ := Option.isSome_iff_exists.mp hrun
  exact ⟨t, ht, Reaches.decides Registry.oneTask_completes Registry.oneTask_leavesRetries
    (Reaches.iff_steps?.mpr ⟨_, ht⟩)⟩

end DurableWorkflow
