import DurableWorkflow.Proofs.Event.Reference
import DurableWorkflow.Proofs.History.Assembly

/-!
# What logs answer

Every query of a log looks through the events from the newest one on and stops as soon as it can.
What it gives is told without that order: by membership and by numbers.

## Main Definitions

* `EventLog.Answers`: what the queries of a log give.

## Main Statements

* `EventLog.answers_of_assemble`: this is what the queries of every log give.
-/

namespace DurableWorkflow

/-! ### Queries -/

/-- Whether an event records a marker of a name. -/
def Attributes.marks (name : String) : Attributes → Bool
  | .markerRecorded markerName _ => markerName = name
  | _ => false

theorem Attributes.marks_iff {name : String} {a : Attributes} :
    a.marks name = true ↔ ∃ details, a = .markerRecorded name details := by
  cases a <;> simp [marks]

namespace EventLog

variable (log : EventLog)

theorem latestMarker_eq_find? (name : String) :
    log.latestMarker name = log.events.find? (·.attributes.marks name) := by
  rw [latestMarker, markers, List.find?_filter]
  congr 1
  funext e
  cases hattr : e.attributes <;> simp [Event.type, hattr, Attributes.type, Attributes.marks]

theorem scheduledEventFor_eq_find? (taskId : String) :
    log.scheduledEventFor taskId = log.events.find? (·.attributes.schedules taskId) := rfl

/-- What the queries of a log give. -/
structure Answers (boundary : Int) : Prop where
  /-- Beyond a number are the events with higher numbers, whatever the number. -/
  mem_after : ∀ (k : Int) (e : Event), e ∈ log.after k ↔ e ∈ log.events ∧ k < e.id
  /-- They come in the order of their numbers. -/
  after_ascending : ∀ k : Int, (log.after k).Pairwise fun a b => a.id < b.id
  /-- The new events are those beyond the boundary that was delivered. -/
  newEvents : log.newEvents = log.after boundary
  latestMarker : ∀ (name : String) (e : Event), log.latestMarker name = some e ↔
    IsLatest log.events (fun x => ∃ details, x.attributes = .markerRecorded name details) e
  latestMarker_none : ∀ name : String, log.latestMarker name = none ↔
    ∀ e ∈ log.events, ∀ details, e.attributes ≠ .markerRecorded name details
  scheduledEventFor : ∀ (taskId : String) (e : Event), log.scheduledEventFor taskId = some e ↔
    IsLatest log.events (fun x => ∃ s : Scheduling, x.attributes = s.attributes ∧ s.taskId = taskId)
      e
  scheduledEventFor_none : ∀ taskId : String, log.scheduledEventFor taskId = none ↔
    ∀ e ∈ log.events, ∀ s : Scheduling, e.attributes = s.attributes → s.taskId ≠ taskId
  /-- A marker is told by its type, also if the event is carried without being interpreted. -/
  mem_markers : ∀ e : Event, e ∈ log.markers ↔ e ∈ log.events ∧ e.type = .markerRecorded
  markers_descending : Descending log.markers
  mem_signals : ∀ e : Event, e ∈ log.signals ↔ e ∈ log.events ∧ e.type = .workflowExecutionSignaled
  signals_descending : Descending log.signals

variable {log}

/-- **Every query of every log gives what its name says.** -/
theorem answers_of_assemble {delivered : List Event} {boundary : Int}
    (h : assemble delivered boundary = .ok log) : log.Answers boundary := by
  obtain ⟨hnumbered, rfl⟩ := assemble_numbered h
  have hdescending := hnumbered.descending
  refine ⟨fun k e => mem_after hdescending, after_ascending hdescending, rfl, fun name e => ?_,
    fun name => ?_, fun taskId e => ?_, fun taskId => ?_, fun e => ?_, hdescending.filter _,
    fun e => ?_, hdescending.filter _⟩
  · rw [latestMarker_eq_find?, find?_eq_some_iff_isLatest hnumbered]
    exact isLatest_congr fun x _ => Attributes.marks_iff
  · rw [latestMarker_eq_find?, List.find?_eq_none]
    simp [Attributes.marks_iff]
  · rw [scheduledEventFor_eq_find?, find?_eq_some_iff_isLatest hnumbered]
    exact isLatest_congr fun x _ => Attributes.schedules_iff
  · rw [scheduledEventFor_eq_find?, List.find?_eq_none]
    simp [Attributes.schedules_iff]
  · simp [EventLog.markers]
  · simp [EventLog.signals]

/-- Markers of two names, delivered out of order. -/
theorem answers_of_assemble_twoNames :
    let marker (id : Int) (name : String) : Event := ⟨id, .epoch, .markerRecorded name none⟩
    let log : EventLog :=
      ⟨[marker 4 "paid", marker 3 "seen", marker 2 "seen", marker 1 "paid"], -1⟩
    assemble [marker 2 "seen", marker 4 "paid", marker 1 "paid", marker 3 "seen"] (-1) = .ok log ∧
      log.Answers (-1) ∧ log.latestMarker "seen" = some (marker 3 "seen") ∧
      log.after 2 = [marker 3 "seen", marker 4 "paid"] := by
  intro marker log
  have h : assemble [marker 2 "seen", marker 4 "paid", marker 1 "paid", marker 3 "seen"] (-1) =
      .ok log := rfl
  exact ⟨h, answers_of_assemble h, by decide, by decide⟩

end EventLog

end DurableWorkflow
