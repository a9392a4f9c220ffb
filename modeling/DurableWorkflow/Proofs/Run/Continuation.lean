import DurableWorkflow.Proofs.Decision.Close
import DurableWorkflow.Proofs.Retry.Ledger

/-!
# Histories that await a close

A history in which a close has just been rejected goes on in any way.  As long as nothing in it
reports another rejection or records another close, the rejected close is the only one to be issued
again, and its control is the one that will be read.

## Main Definitions

* `Recorder.Built`: the histories that a recorder can come to.
* `Recorder.Continues`: how a history may go on, given what its events may say.
* `Attributes.ReportsNone`, `Attributes.LeavesCloses`: events that do not stand in the way.
* `Recorder.rejections`, `Recorder.latestClose`: the rejected closes that have not been decided on,
  and the one that would be issued again.
* `Recorder.Answered`, `Recorder.Clear`, `Recorder.Awaits`: how far a history has come with them.

## Main Statements

* `Recorder.Awaits.continues`: a history goes on to await a close.
* `Recorder.awaits_of_apply`: after a close has been rejected the history awaits it.

## Design Notes

A rejection passes through three states.  Once a decision task has been started all earlier
rejections are behind it (`Answered`); its completion leaves none that is new (`Clear`); and the
recorded batch brings in the one of its own close (`Awaits`).
-/

namespace DurableWorkflow

/-- Whether a decision records a close marker. -/
def Decision.recordsClose : Decision → Bool
  | .recordMarker markerName _ => markerName = closeMarkerName
  | _ => false

namespace Attributes

/-- The event reports no rejected close. -/
def ReportsNone (a : Attributes) : Prop := a.type.isCloseFailure = false

/-- The event neither reports a rejected close nor records a close marker. -/
def LeavesCloses (a : Attributes) : Prop :=
  a.ReportsNone ∧ a.recorded? closeMarkerName = none

end Attributes

open Attributes (ReportsNone LeavesCloses)

/-- Whether an event beyond a number reports a rejected close. -/
def Event.rejectsAfter (boundary : Int) (e : Event) : Bool :=
  e.type.isCloseFailure && decide (boundary < e.id)

theorem Event.rejectsAfter_of_reportsNone {boundary : Int} {e : Event}
    (h : e.attributes.ReportsNone) : e.rejectsAfter boundary = false := by
  rw [rejectsAfter, show e.type.isCloseFailure = false from h, Bool.false_and]

namespace Recorder

variable {r s : Recorder} {c : CloseControl} {rejection : Option String}
  {allowed : Attributes → Prop}

/-! ### How histories go on -/

/-- The histories that a recorder can come to. -/
inductive Built : Recorder → Prop
  | empty (workflowType : WorkflowType) : Built (empty workflowType)
  | push {r : Recorder} (h : Built r) (a : Attributes) : Built (r.push a)
  | begin {r : Recorder} (h : Built r) : Built r.decisionStarted
  | apply {r s : Recorder} {rejection : Option String} {batch : DecisionBatch} (h : Built r)
      (happly : r.apply rejection batch = (s, none)) : Built s

/-- A history goes on with events that are allowed, and with decision tasks. -/
inductive Continues (allowed : Attributes → Prop) (r : Recorder) : Recorder → Prop
  | refl : Continues allowed r r
  | push {s : Recorder} {a : Attributes} (h : Continues allowed r s) (ha : allowed a) :
      Continues allowed r (s.push a)
  | begin {s : Recorder} (h : Continues allowed r s) : Continues allowed r s.decisionStarted

/-- Every history that a recorder comes to is numbered. -/
theorem Built.numbered (h : Built r) : Numbered r.events := by
  induction h with
  | empty => trivial
  | push _ a ih => exact numbered_push ih a
  | begin _ ih => exact numbered_decisionStarted ih
  | apply _ happly ih => exact (apply_frame happly ih).1

/-- A history that has gone on goes on from there. -/
theorem Continues.trans {t : Recorder} (hrs : Continues allowed r s) (hst : Continues allowed s t) :
    Continues allowed r t := by
  induction hst with
  | refl => exact hrs
  | push _ ha ih => exact ih.push ha
  | begin _ ih => exact ih.begin

/-- What is allowed may be widened. -/
theorem Continues.mono {allowed' : Attributes → Prop} (hmono : ∀ a, allowed a → allowed' a)
    (h : Continues allowed r s) : Continues allowed' r s := by
  induction h with
  | refl => exact .refl
  | push _ ha ih => exact ih.push (hmono _ ha)
  | begin _ ih => exact ih.begin

/-- A batch whose decisions lead to allowed events is a way to go on. -/
theorem Continues.of_recordAll {batch : DecisionBatch}
    (hallowed : ∀ r, ∀ d ∈ batch, ∀ a, consequence r rejection d = .ok a → allowed a)
    (h : recordAll rejection r batch = (s, none)) : Continues allowed r s := by
  refine (recordAll_induction
    (motive := fun s rest => Continues allowed r s ∧ ∀ d ∈ rest, d ∈ batch) ?_
    ⟨.refl, fun _ => id⟩ h).1
  rintro s d rest a ha ⟨hcontinues, hrest⟩
  exact ⟨hcontinues.push (hallowed s d (hrest d (List.mem_cons_self ..)) a ha),
    fun x hx => hrest x (List.mem_cons_of_mem _ hx)⟩

/-- A batch is recorded one part after the other. -/
theorem recordAll_append {batch more : DecisionBatch}
    (h : recordAll rejection r (batch ++ more) = (s, none)) :
    ∃ t, recordAll rejection r batch = (t, none) ∧ recordAll rejection t more = (s, none) := by
  induction batch generalizing r with
  | nil => exact ⟨r, rfl, h⟩
  | cons d rest ih =>
      simp only [List.cons_append, recordAll] at h ⊢
      split at h
      · exact ih h
      · cases h

/-! ### What a batch brings in -/

/-- Only the rejection of a close decision reports one. -/
theorem reportsNone_of_consequence {d : Decision} {a : Attributes} (hd : d.isTerminal = false)
    (h : r.consequence rejection d = .ok a) : a.ReportsNone := by
  cases d with
  | completeWorkflow | failWorkflow | cancelWorkflow => cases hd
  | cancelTimer timerId =>
      obtain ⟨id, -, rfl⟩ := exists_of_map_eq_ok h
      rfl
  | scheduleTask | startTimer | recordMarker =>
      cases h
      rfl

/-- A decision that neither closes a run nor records how it is closed has no part in closing it. -/
theorem leavesCloses_of_consequence {d : Decision} {a : Attributes} (hd : d.isTerminal = false)
    (hrecords : d.recordsClose = false) (h : r.consequence rejection d = .ok a) :
    a.LeavesCloses := by
  refine ⟨reportsNone_of_consequence hd h, ?_⟩
  cases d with
  | completeWorkflow | failWorkflow | cancelWorkflow => cases hd
  | cancelTimer timerId =>
      obtain ⟨id, -, rfl⟩ := exists_of_map_eq_ok h
      rfl
  | scheduleTask | startTimer =>
      cases h
      rfl
  | recordMarker markerName details =>
      cases h
      exact if_neg (of_decide_eq_false hrecords)

/-- A close decision that is rejected leads to an event that reports it. -/
theorem consequence_rejected {cause : String} {a : Attributes}
    (h : r.consequence (some cause) c.decision = .ok a) :
    a.type.isCloseFailure = true ∧ a.isOther = false := by
  cases c <;> cases h <;> exact ⟨rfl, rfl⟩

/-! ### Rejected closes -/

/-- The events about rejected closes that have not been decided on. -/
def rejections (r : Recorder) : List Event :=
  r.events.filter (·.rejectsAfter r.previousStartedEventId)

/-- An event that reports no rejected close adds no new rejection. -/
theorem rejections_push {a : Attributes} (ha : a.ReportsNone) :
    (r.push a).rejections = r.rejections :=
  List.filter_cons_of_neg (by rw [Event.rejectsAfter_of_reportsNone ha]; exact Bool.false_ne_true)

/-- An event that reports a rejected close is the latest of the new rejections. -/
theorem rejections_push_rejected {a : Attributes} (ha : a.type.isCloseFailure = true)
    (hprevious : r.previousStartedEventId ≤ r.lastId) :
    (r.push a).rejections = ⟨r.lastId + 1, .epoch, a⟩ :: r.rejections := by
  refine List.filter_cons_of_pos ?_
  rw [Event.rejectsAfter, Bool.and_eq_true, decide_eq_true_eq]
  exact ⟨ha, Int.lt_add_one_of_le hprevious⟩

/-- A decision task that is started adds no new rejection. -/
theorem rejections_decisionStarted (r : Recorder) :
    r.decisionStarted.rejections = r.rejections :=
  calc r.decisionStarted.rejections
    _ = ((r.push (.decisionTaskScheduled "default")).push
          (.decisionTaskStarted (r.push (.decisionTaskScheduled "default")).lastId
            (some worker))).rejections := rfl
    _ = (r.push (.decisionTaskScheduled "default")).rejections := rejections_push rfl
    _ = r.rejections := rejections_push rfl

/-- The log that a history with events has. -/
def asLog (r : Recorder) : EventLog := ⟨r.events, r.previousStartedEventId⟩

/-- The close that would be issued again. -/
def latestClose (r : Recorder) : Option String := r.asLog.latestMarkerDetails closeMarkerName

/-- An event that records no close leaves the latest record as it is. -/
theorem latestClose_push {a : Attributes} (ha : a.recorded? closeMarkerName = none) :
    (r.push a).latestClose = r.latestClose := by
  simp [latestClose, asLog, latestMarkerDetails_eq, ha]

/-- What has just been recorded of a close is the latest record. -/
theorem latestClose_push_record (payload : String) :
    (r.push (.markerRecorded closeMarkerName (some payload))).latestClose = some payload := by
  simp [latestClose, asLog, latestMarkerDetails_eq, Attributes.recorded?]

theorem latestClose_decisionStarted (r : Recorder) :
    r.decisionStarted.latestClose = r.latestClose := by
  simp [latestClose, asLog, latestMarkerDetails_eq, decisionStarted_events, Attributes.recorded?]

/-! ### From one rejection to the next -/

/-- All rejected closes lie before the decision task in progress. -/
structure Answered (r : Recorder) : Prop where
  numbered : Numbered r.events
  started_le : r.workflow.decisionStartedEventId ≤ r.lastId
  answered : ∀ e ∈ r.events, e.type.isCloseFailure = true →
    e.id ≤ r.workflow.decisionStartedEventId

/-- All rejected closes have been decided on. -/
structure Clear (r : Recorder) : Prop where
  numbered : Numbered r.events
  previous_le : r.previousStartedEventId ≤ r.lastId
  none_left : r.rejections = []

/-- Of the rejected closes one has not been decided on, and its control is the one recorded last. -/
structure Awaits (c : CloseControl) (r : Recorder) : Prop where
  numbered : Numbered r.events
  one_left : ∃ e, r.rejections = [e] ∧ e.attributes.isOther = false
  latest : r.latestClose = some c.encode

/-- When a decision task is started all rejected closes lie before it. -/
theorem answered_decisionStarted (h : Numbered r.events) : Answered r.decisionStarted where
  numbered := numbered_decisionStarted h
  started_le := Int.le_of_eq <| by
    rw [decisionStarted_decisionStartedEventId, lastId_decisionStarted]
  answered := fun e he _ => by
    have hle := ((numbered_decisionStarted h).id_bounds e he).2
    rwa [decisionStarted_decisionStartedEventId, ← lastId_decisionStarted]

/-- Rejections stay answered as long as no close is rejected. -/
theorem Answered.continues (hr : Answered r) (h : Continues ReportsNone r s) : Answered s := by
  induction h with
  | refl => exact hr
  | @push s a _ ha ih =>
      refine ⟨numbered_push ih.numbered a, ?_, fun e he hrejected => ?_⟩
      · have := ih.started_le
        rw [push_workflow, lastId_push]
        omega
      · rcases List.mem_cons.mp he with rfl | he
        · exact absurd hrejected (Bool.eq_false_iff.mp ha)
        · exact ih.answered e he hrejected
  | begin _ ih => exact answered_decisionStarted ih.numbered

/-- The completion of the decision task decides on all rejected closes. -/
theorem Answered.completed (h : Answered r) : Clear r.completed where
  numbered := ⟨rfl, h.numbered⟩
  previous_le := by
    have := h.started_le
    simp only [completed_previousStartedEventId, lastId, completed_events, List.length_cons] at *
    omega
  none_left := by
    refine List.filter_eq_nil_iff.mpr fun e he => ?_
    rw [Event.rejectsAfter, Bool.and_eq_true, decide_eq_true_eq, completed_previousStartedEventId]
    rintro ⟨hrejected, hlt⟩
    rcases List.mem_cons.mp he with rfl | he
    · cases hrejected
    · exact absurd hlt (Int.not_lt.mpr (h.answered e he hrejected))

/-- A history stays clear as long as no close is rejected. -/
theorem Clear.continues (hr : Clear r) (h : Continues ReportsNone r s) : Clear s := by
  induction h with
  | refl => exact hr
  | @push s a _ ha ih =>
      have hle := ih.previous_le
      refine ⟨numbered_push ih.numbered a, ?_, (rejections_push ha).trans ih.none_left⟩
      rw [push_previousStartedEventId, lastId_push]
      omega
  | @begin s _ ih =>
      have hle := ih.previous_le
      refine ⟨numbered_decisionStarted ih.numbered, ?_,
        (rejections_decisionStarted s).trans ih.none_left⟩
      rw [decisionStarted_previousStartedEventId, lastId_decisionStarted]
      omega

/-- A rejected close with its record leaves the history awaiting it. -/
theorem Clear.awaits {cause : String} (hr : Clear r)
    (h : recordAll (some cause) r [c.record, c.decision] = (s, none)) : Awaits c s := by
  let t := r.push (.markerRecorded closeMarkerName (some c.encode))
  have hrecord : r.consequence (some cause) c.record
      = .ok (.markerRecorded closeMarkerName (some c.encode)) := rfl
  simp only [recordAll, hrecord] at h
  split at h
  · next a ha =>
      cases h
      obtain ⟨hrejected, hregular⟩ := consequence_rejected ha
      have ht : Clear t := hr.continues (.push .refl rfl)
      have hleft : (t.push a).rejections = [⟨t.lastId + 1, .epoch, a⟩] := by
        rw [rejections_push_rejected hrejected ht.previous_le, ht.none_left]
      have hlatest : (t.push a).latestClose = t.latestClose :=
        latestClose_push (by cases a <;> first | rfl | cases hrejected)
      exact ⟨numbered_push ht.numbered a, ⟨_, hleft, hregular⟩,
        hlatest.trans (latestClose_push_record _)⟩
  · cases h

/-- **A history goes on to await a close**, whatever else occurs. -/
theorem Awaits.continues (hr : Awaits c r) (h : Continues LeavesCloses r s) : Awaits c s := by
  induction h with
  | refl => exact hr
  | @push s a _ ha ih =>
      refine ⟨numbered_push ih.numbered a, ?_, (latestClose_push ha.2).trans ih.latest⟩
      rw [rejections_push ha.1]
      exact ih.one_left
  | @begin s _ ih =>
      refine ⟨numbered_decisionStarted ih.numbered, ?_,
        (latestClose_decisionStarted s).trans ih.latest⟩
      rw [rejections_decisionStarted]
      exact ih.one_left

/-- **After a close has been rejected the history awaits it.**  The batch has the close decision
right after its record, no other one, and no other record behind it. -/
theorem awaits_of_apply {cause : String} {before after : DecisionBatch} (hr : Answered r)
    (hbefore : ∀ x ∈ before, x.isTerminal = false)
    (hafter : ∀ x ∈ after, x.isTerminal = false ∧ x.recordsClose = false)
    (h : r.apply (some cause) (before ++ c.record :: c.decision :: after) = (s, none)) :
    Awaits c s := by
  obtain ⟨t, hfirst, hrest⟩ := recordAll_append (r := r.completed) h
  obtain ⟨u, hclose, hlast⟩ := recordAll_append
    (show recordAll (some cause) t ([c.record, c.decision] ++ after) = (s, none) from hrest)
  have ht : Clear t := hr.completed.continues
    (.of_recordAll (fun _ d hd _ => reportsNone_of_consequence (hbefore d hd)) hfirst)
  exact (ht.awaits hclose).continues
    (.of_recordAll (fun _ d hd _ => leavesCloses_of_consequence (hafter d hd).1 (hafter d hd).2)
      hlast)

end Recorder

end DurableWorkflow
