import DurableWorkflow.Proofs.Dispatch.Cycle
import DurableWorkflow.Proofs.History.Recorder

/-!
# Runs

A run is a recorder together with the decider that works on its history: decision tasks are started,
decided and completed, and in between things occur.

## Main Definitions

* `Occurrence`: what happens to a run apart from its decision tasks.
* `Run`: the state of a run.
* `Run.step?`: one step, if it can be taken.
* `Reaches`: the states after any number of steps of an allowed kind.
* `Run.steps?`: the run after a sequence of such steps.
* `Run.horizon`, `Run.pending`: how far has been decided, and what of it has not been recorded.
* `Run.Orderly`: the numbers of a run are in order.
* `Run.oneTask`, `Run.oneRetry`: a run in which a task is tried again once.

## Main Statements

* `Run.step_of_step?`: what a step can do.
* `Reaches.iff_steps?`: a state is reached if some sequence of steps leads to it.
* `Reaches.induction`: what every step keeps holds in every state that is reached.
* `Reaches.orderly`: every state that is reached is orderly.

## Design Notes

Nothing occurs between the start of a decision task and the cycle over it; between the cycle and the
completion of the task anything may.  A cycle that does not decide leaves no trace but in the supply
of fresh texts.  A batch that cannot be recorded stops the run, and so does a history whose numbers
no longer fit 64 bits.
-/

namespace DurableWorkflow

/-- What happens to a run apart from its decision tasks. -/
inductive Occurrence where
  | taskStarted (taskId : String)
  | taskCompleted (taskId : String) (result : Option String)
  | taskFailed (taskId reason : String) (details : Option String)
  | taskTimedOut (taskId timeoutType : String)
  | timerFired (timerId : String)
  | timerStarted (timerId : String) (startToFire : Duration)
  | signal (name : String) (input : Option String)
  | marker (name : String) (details : Option String)
  /-- An event that says just anything. -/
  | raw (attributes : Attributes)

namespace Occurrence

/-- The history with an occurrence. -/
def record (r : Recorder) : Occurrence → Except Recorder.Fault Recorder
  | .taskStarted taskId => r.taskStarted taskId
  | .taskCompleted taskId result => r.taskCompleted taskId result
  | .taskFailed taskId reason details => r.taskFailed taskId reason details
  | .taskTimedOut taskId timeoutType => r.taskTimedOut taskId timeoutType
  | .timerFired timerId => r.timerFired timerId
  | .timerStarted timerId startToFire => .ok (r.timerStarted timerId startToFire)
  | .signal name input => .ok (r.signal name input)
  | .marker name details => .ok (r.marker name details)
  | .raw attributes => .ok (r.push attributes)

/-- Every occurrence is one event. -/
theorem record_ok {o : Occurrence} {r r' : Recorder} (h : o.record r = .ok r') :
    ∃ a, r' = r.push a := by
  cases o with
  | taskStarted | taskCompleted | taskFailed | taskTimedOut | timerFired =>
      obtain ⟨id, -, hid⟩ := exists_of_map_eq_ok h
      exact ⟨_, hid.symm⟩
  | timerStarted | signal | marker | raw =>
      cases h
      exact ⟨_, rfl⟩

end Occurrence

/-- How far the decision task of a run has come. -/
inductive Run.Phase where
  /-- There is none. -/
  | waiting
  /-- It has just been started. -/
  | started
  /-- The cycle over it has come to decisions, which have not been recorded. -/
  | decided (batch : DecisionBatch)
  deriving DecidableEq

/-- A cycle that has come to decisions. -/
structure Run.Success where
  /-- The start of its decision task. -/
  startedEventId : Int
  /-- The events that it visited, in order. -/
  visited : List Event

/-- The state of a run. -/
structure Run where
  recorder : Recorder
  phase : Run.Phase
  fresh : FreshTexts
  /-- The cycles that have come to decisions, the last one first. -/
  successes : List Run.Success

/-- A step of a run. -/
inductive Run.Action where
  | occur (occurrence : Occurrence)
  /-- A decision task is scheduled and started. -/
  | begin
  /-- The cycle over the decision task in progress. -/
  | decide
  /-- The decisions are recorded; with a cause, closing the run is rejected for it. -/
  | apply (rejection : Option String)

namespace Run

/-- A run that has been started, with its first decision task in progress. -/
def start (workflowType : WorkflowType) (input : Option String) (fresh : FreshTexts) : Run :=
  ⟨.start workflowType input, .started, fresh, []⟩

/-- A run without events. -/
def empty (workflowType : WorkflowType) (fresh : FreshTexts) : Run :=
  ⟨.empty workflowType, .waiting, fresh, []⟩

variable (reg : Registry) (s : Run)

/-- The run after something has occurred. -/
def occur (o : Occurrence) : Option Run :=
  if s.phase = .started then none
  else
    match o.record s.recorder with
    | .ok r => some { s with recorder := r }
    | .error _ => none

/-- The run with a decision task in progress. -/
def begin : Option Run :=
  if s.phase = .waiting then
    some { s with recorder := s.recorder.decisionStarted, phase := .started }
  else none

/-- The run after the cycle over a log. -/
def afterCycle (log : EventLog) : Run :=
  let cycle := reg.cycle log s.recorder.workflow s.fresh
  match cycle.ending with
  | .decided batch =>
    { s with
      phase := .decided batch
      fresh := cycle.fresh
      successes :=
        ⟨s.recorder.workflow.decisionStartedEventId,
          reg.visited log s.recorder.workflow s.fresh⟩ :: s.successes }
  | .failed _ | .crashed _ => { s with phase := .waiting, fresh := cycle.fresh }

/-- The run after the cycle over its decision task. -/
def decide : Option Run :=
  if s.phase = .started then
    match s.recorder.log with
    | .ok log => some (s.afterCycle reg log)
    | .error _ => some { s with phase := .waiting }
  else none

/-- The run after the decisions have been recorded. -/
def apply (rejection : Option String) : Option Run :=
  match s.phase with
  | .decided batch =>
    match s.recorder.apply rejection batch with
    | (r, none) => some { s with recorder := r, phase := .waiting }
    | (_, some _) => none
  | _ => none

/-- All numbers of the history fit 64 bits with sign. -/
def fits : Bool := s.recorder.lastId ≤ Int64.maxValue.toInt

/-- The run after a step, if the step can be taken. -/
def step? : Action → Option Run
  | .occur o => (s.occur o).filter fits
  | .begin => s.begin.filter fits
  | .decide => (s.decide reg).filter fits
  | .apply rejection => (s.apply rejection).filter fits

/-- What a step does. -/
inductive Step (reg : Registry) (s : Run) : Action → Run → Prop
  | occur {o : Occurrence} {r : Recorder} (hphase : s.phase ≠ .started)
      (hrecord : o.record s.recorder = .ok r) : Step reg s (.occur o) { s with recorder := r }
  | begin (hphase : s.phase = .waiting) :
      Step reg s .begin { s with recorder := s.recorder.decisionStarted, phase := .started }
  | decide {log : EventLog} {batch : DecisionBatch} (hphase : s.phase = .started)
      (hlog : s.recorder.log = .ok log)
      (hcycle : (reg.cycle log s.recorder.workflow s.fresh).ending = .decided batch) :
      Step reg s .decide
        { s with
          phase := .decided batch
          fresh := (reg.cycle log s.recorder.workflow s.fresh).fresh
          successes :=
            ⟨s.recorder.workflow.decisionStartedEventId, log.newEvents⟩ :: s.successes }
  | giveUp {fresh : FreshTexts} (hphase : s.phase = .started) (hfresh : s.fresh.Later fresh) :
      Step reg s .decide { s with phase := .waiting, fresh := fresh }
  | apply {rejection : Option String} {batch : DecisionBatch} {r : Recorder}
      (hphase : s.phase = .decided batch)
      (happly : s.recorder.apply rejection batch = (r, none)) :
      Step reg s (.apply rejection) { s with recorder := r, phase := .waiting }

variable {reg s} {a : Action} {t : Run}

theorem step_of_afterCycle {log : EventLog} (hphase : s.phase = .started)
    (hlog : s.recorder.log = .ok log) : Step reg s .decide (s.afterCycle reg log) := by
  have hlater := reg.cycle_later log s.recorder.workflow s.fresh
  unfold afterCycle
  cases hcycle : (reg.cycle log s.recorder.workflow s.fresh).ending with
  | decided batch =>
      simp only [hcycle, Registry.visited_of_decided hcycle]
      exact .decide hphase hlog hcycle
  | failed | crashed =>
      simp only [hcycle]
      exact .giveUp hphase hlater

/-- No step puts texts back into the supply. -/
theorem Step.later (h : Step reg s a t) : s.fresh.Later t.fresh := by
  cases h with
  | occur | begin | apply => exact .refl _
  | decide => exact reg.cycle_later ..
  | giveUp _ hfresh => exact hfresh

/-- **What a step can do.** -/
theorem step_of_step? (h : s.step? reg a = some t) : Step reg s a t ∧ t.fits := by
  cases a with
  | occur o =>
      obtain ⟨hstep, hfits⟩ := Option.filter_eq_some_iff.mp h
      refine ⟨?_, hfits⟩
      unfold Run.occur at hstep
      split at hstep
      · cases hstep
      · next hphase =>
          split at hstep
          · next r hrecord =>
              cases hstep
              exact .occur hphase hrecord
          · cases hstep
  | begin =>
      obtain ⟨hstep, hfits⟩ := Option.filter_eq_some_iff.mp h
      refine ⟨?_, hfits⟩
      unfold Run.begin at hstep
      split at hstep
      · next hphase =>
          cases hstep
          exact .begin hphase
      · cases hstep
  | decide =>
      obtain ⟨hstep, hfits⟩ := Option.filter_eq_some_iff.mp h
      refine ⟨?_, hfits⟩
      unfold Run.decide at hstep
      split at hstep
      · next hphase =>
          split at hstep
          · next log hlog =>
              cases hstep
              exact step_of_afterCycle hphase hlog
          · cases hstep
            exact .giveUp hphase (.refl _)
      · cases hstep
  | apply rejection =>
      obtain ⟨hstep, hfits⟩ := Option.filter_eq_some_iff.mp h
      refine ⟨?_, hfits⟩
      unfold Run.apply at hstep
      split at hstep
      · next batch hphase =>
          split at hstep
          · next r happly =>
              cases hstep
              exact .apply hphase happly
          · cases hstep
      · cases hstep

end Run

/-- The states that are reached by steps of an allowed kind. -/
inductive Reaches (reg : Registry) (allowed : Run → Run.Action → Prop) (s : Run) : Run → Prop
  | refl : Reaches reg allowed s s
  | step {t u : Run} {a : Run.Action} (hreach : Reaches reg allowed s t) (hallowed : allowed t a)
      (hstep : t.step? reg a = some u) : Reaches reg allowed s u

namespace Reaches

variable {reg : Registry} {allowed : Run → Run.Action → Prop} {s t : Run}

/-- What every step keeps holds in every state that is reached. -/
theorem induction {motive : Run → Prop}
    (step : ∀ t u a, allowed t a → Run.Step reg t a u → u.fits → motive t → motive u)
    (hstart : motive s) (h : Reaches reg allowed s t) : motive t := by
  induction h with
  | refl => exact hstart
  | step hreach hallowed hstep ih =>
      obtain ⟨hdid, hfits⟩ := Run.step_of_step? hstep
      exact step _ _ _ hallowed hdid hfits ih

end Reaches

/-! ### Runs as sequences of steps -/

section Steps

variable (reg : Registry) (allowed : Run → Run.Action → Prop) [∀ s a, Decidable (allowed s a)]

/-- The run after several steps of an allowed kind, if they can be taken. -/
def Run.steps? (s : Run) : List Run.Action → Option Run
  | [] => some s
  | a :: rest => if allowed s a then (s.step? reg a).bind fun t => t.steps? rest else none

variable {reg allowed} {s t : Run}

theorem Run.steps?_append (s : Run) (actions more : List Run.Action) :
    s.steps? reg allowed (actions ++ more)
      = (s.steps? reg allowed actions).bind fun t => t.steps? reg allowed more := by
  induction actions generalizing s with
  | nil => rfl
  | cons a rest ih =>
      simp only [List.cons_append, steps?]
      split
      · cases hstep : s.step? reg a with
        | none => rfl
        | some u => exact ih u
      · rfl

/-- A run that can be computed is a run. -/
theorem Reaches.of_steps? {u : Run} (h : Reaches reg allowed s u) {actions : List Run.Action}
    (hsteps : u.steps? reg allowed actions = some t) : Reaches reg allowed s t := by
  induction actions generalizing u with
  | nil =>
      cases hsteps
      exact h
  | cons a rest ih =>
      rw [Run.steps?] at hsteps
      split at hsteps
      · next hallowed =>
          obtain ⟨v, hstep, hrest⟩ := Option.bind_eq_some_iff.mp hsteps
          exact ih (h.step hallowed hstep) hrest
      · cases hsteps

/-- A state is reached if some sequence of steps leads to it. -/
theorem Reaches.iff_steps? :
    Reaches reg allowed s t ↔ ∃ actions, s.steps? reg allowed actions = some t := by
  constructor
  · intro h
    induction h with
    | refl => exact ⟨[], rfl⟩
    | @step u v a _ hallowed hstep ih =>
        obtain ⟨actions, hactions⟩ := ih
        refine ⟨actions ++ [a], ?_⟩
        rw [Run.steps?_append, hactions]
        simp [Run.steps?, hallowed, hstep]
  · rintro ⟨actions, hactions⟩
    exact Reaches.refl.of_steps? hactions

end Steps

/-! ### A run with one retry -/

/-- Texts of the length of unique identifiers. -/
def FreshTexts.counted : FreshTexts :=
  ⟨fun n => "00000000-0000-4000-8000-00000000000" ++ toString n, 0⟩

/-- A registry that schedules one task when a run starts, and tries it again up to two times. -/
def Registry.oneTask : Registry where
  handlers := [(⟨.workflowExecutionStarted, .workflow ⟨"order", "1"⟩⟩,
    fun _ => .schedule (.plain ⟨"charge", "1"⟩ none) fun _ => .done)]
  policies := .uniform (.constantDelay 1000 2)
  defaults := fun _ => none

/-- The task that is scheduled when such a run starts. -/
def Scheduling.firstTask : Scheduling :=
  ⟨"charge-00000000-0000-4000-8000-000000000000", ⟨"charge", "1"⟩, none, none, .empty⟩

/-- A run of that registry. -/
def Run.oneTask : Run := .start ⟨"order", "1"⟩ none .counted

/-- The task of that run fails and is tried again.  A signal arrives before the task has been
recorded. -/
def Run.oneRetry : List Run.Action :=
  [.decide, .occur (.signal "paid" none), .apply none,
    .occur (.taskFailed Scheduling.firstTask.taskId "timeout" none), .begin, .decide, .apply none,
    .occur (.timerFired (retryTimerId ⟨"charge", "1"⟩ Scheduling.firstTask.taskId)), .begin,
    .decide, .apply none]

/-! ### Order -/

namespace Run

/-- The number up to which the history has been decided on. -/
def horizon (s : Run) : Int :=
  match s.phase with
  | .decided _ => s.recorder.workflow.decisionStartedEventId
  | _ => s.recorder.previousStartedEventId

/-- The decisions that have not been recorded. -/
def pending (s : Run) : DecisionBatch :=
  match s.phase with
  | .decided batch => batch
  | _ => []

/-- The numbers of a run are in order. -/
structure Orderly (s : Run) : Prop where
  numbered : Numbered s.recorder.events
  fits : s.recorder.lastId ≤ Int64.maxValue.toInt
  previous_nonneg : 0 ≤ s.recorder.previousStartedEventId
  previous_le : s.recorder.previousStartedEventId ≤ s.recorder.workflow.decisionStartedEventId
  started_le : s.recorder.workflow.decisionStartedEventId ≤ s.recorder.lastId
  /-- A decision task that has just been started is about all events, and some are new. -/
  started_eq : s.phase = .started → s.recorder.workflow.decisionStartedEventId = s.recorder.lastId ∧
    s.recorder.previousStartedEventId < s.recorder.lastId
  started_event : s.phase = .started → ∃ e ∈ s.recorder.events,
    e.id = s.recorder.workflow.decisionStartedEventId ∧ e.type = .decisionTaskStarted

theorem orderly_start (workflowType : WorkflowType) (input : Option String) (fresh : FreshTexts) :
    Orderly (start workflowType input fresh) where
  numbered := ⟨rfl, rfl, rfl, trivial⟩
  fits := show (3 : Int) ≤ Int64.maxValue.toInt by decide
  previous_nonneg := Int.le_refl 0
  previous_le := show (0 : Int) ≤ 3 by decide
  started_le := Int.le_refl 3
  started_eq := fun _ => ⟨rfl, show (0 : Int) < 3 by decide⟩
  started_event := fun _ => Recorder.decisionStarted_started _

theorem orderly_empty (workflowType : WorkflowType) (fresh : FreshTexts) :
    Orderly (empty workflowType fresh) where
  numbered := trivial
  fits := show (0 : Int) ≤ Int64.maxValue.toInt by decide
  previous_nonneg := Int.le_refl 0
  previous_le := Int.le_refl 0
  started_le := Int.le_refl 0
  started_eq := nofun
  started_event := nofun

variable {reg : Registry} {s t : Run} {a : Action}

theorem Orderly.horizon_le (h : Orderly s) : s.horizon ≤ s.recorder.lastId := by
  have := h.previous_le
  have := h.started_le
  unfold horizon
  split <;> omega

/-- A step leaves a run orderly. -/
theorem Orderly.step (h : Orderly s) (hstep : Step reg s a t) (hfits : t.fits) : Orderly t := by
  have hfits : t.recorder.lastId ≤ Int64.maxValue.toInt := by simpa [Run.fits] using hfits
  cases hstep with
  | occur hphase hrecord =>
      obtain ⟨a, rfl⟩ := Occurrence.record_ok hrecord
      refine ⟨Recorder.numbered_push h.numbered a, hfits, h.previous_nonneg, h.previous_le, ?_,
        fun hstarted => absurd hstarted hphase, fun hstarted => absurd hstarted hphase⟩
      have := h.started_le
      simp only [Recorder.push_workflow, Recorder.lastId_push]
      omega
  | begin hphase =>
      have hprevious := h.previous_le
      have hstarted := h.started_le
      refine ⟨Recorder.numbered_decisionStarted h.numbered, hfits, h.previous_nonneg, ?_, ?_,
        fun _ => ⟨?_, ?_⟩, fun _ => Recorder.decisionStarted_started _⟩ <;>
        simp only [Recorder.decisionStarted_previousStartedEventId,
          Recorder.decisionStarted_decisionStartedEventId, Recorder.lastId_decisionStarted] <;>
        omega
  | decide hphase hlog hcycle =>
      exact ⟨h.numbered, hfits, h.previous_nonneg, h.previous_le, h.started_le,
        nofun, nofun⟩
  | giveUp hphase hfresh =>
      exact ⟨h.numbered, hfits, h.previous_nonneg, h.previous_le, h.started_le,
        nofun, nofun⟩
  | apply hphase happly =>
      obtain ⟨hnumbered, hlast, hworkflow, hprevious, -⟩ := Recorder.apply_frame happly h.numbered
      have hle := h.previous_le
      have hstarted := h.started_le
      have hnonneg := h.previous_nonneg
      refine ⟨hnumbered, hfits, ?_, ?_, ?_, nofun,
        nofun⟩ <;>
        simp only [hworkflow, hprevious] <;> omega

/-- A step forgets nothing of what has happened. -/
theorem Step.events_suffix (hstep : Step reg s a t) (h : s.Orderly) :
    s.recorder.events <:+ t.recorder.events := by
  cases hstep with
  | occur hphase hrecord =>
      obtain ⟨a, rfl⟩ := Occurrence.record_ok hrecord
      exact List.suffix_cons ..
  | begin hphase =>
      rw [Recorder.decisionStarted_events]
      exact (List.suffix_cons ..).trans (List.suffix_cons ..)
  | decide | giveUp => exact List.suffix_rfl
  | apply hphase happly => exact (Recorder.apply_frame happly h.numbered).2.2.2.2

end Run

/-- Every state that is reached is orderly. -/
theorem Reaches.orderly {reg : Registry} {allowed : Run → Run.Action → Prop} {s t : Run}
    (h : Reaches reg allowed s t) (hs : s.Orderly) : t.Orderly :=
  h.induction (fun _ _ _ _ hstep hfits ht => ht.step hstep hfits) hs

/-- A run forgets nothing of what has happened. -/
theorem Reaches.events_suffix {reg : Registry} {allowed : Run → Run.Action → Prop} {s t : Run}
    (h : Reaches reg allowed s t) (hs : s.Orderly) : s.recorder.events <:+ t.recorder.events :=
  (h.induction (motive := fun t => t.Orderly ∧ s.recorder.events <:+ t.recorder.events)
    (fun _ _ _ _ hstep hfits ⟨ht, hsuffix⟩ =>
      ⟨ht.step hstep hfits, hsuffix.trans (hstep.events_suffix ht)⟩)
    ⟨hs, List.suffix_rfl⟩).2

end DurableWorkflow
