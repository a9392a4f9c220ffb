import Mathlib.Data.List.Induction
import DurableWorkflow.Polling.Stopping
import DurableWorkflow.Proofs.Polling.Passage
import DurableWorkflow.Proofs.Polling.Slots
import DurableWorkflow.Proofs.Worker.Report

/-!
# What goes on after the end

A poller for tasks that has come to its end polls and reports no more.  But an executor runs on its
own: if it has been left running, because the loop has waited for it as long as it is to, it goes on
to give signs of life.

## Main Definitions

* `Poller.Trails`: what is done by a poller that has come to its end, or to it.
* `TaskDuty.LeftRunning`: what goes on is an executor that was running at the end.

## Main Statements

* `Poller.Run.trails`: a poller that has come to its end stays as it is, but for what goes on of
  aborted units.
* `TaskDuty.only_signs_after_end`: nothing but signs of life follows the end.
* `TaskDuty.signs_after_end`: signs of life do follow.

## Design Notes

What a run has led to can be told from what was done.  So a run and its continuation agree on the
poller in between.
-/

namespace DurableWorkflow

namespace Poller

variable {Env Fetch Job : Type} {src : PollSource Env Fetch Job} {s : PollerSettings}
  {deeds : List (Poller.Deed Env Fetch Job)} {p p' : Poller Fetch Job}

/-! ### A run and its continuation -/

/-- The poller after something has been done. -/
def after (p : Poller Fetch Job) : Deed Env Fetch Job → Poller Fetch Job
  | .turned _ _ _ turn => turn.poller
  | .worked _ _ _ turn => turn.poller
  | .rang alarm => (p.ring alarm).getD p
  | .asked => p.requestStop

/-- The poller is told from what has been done. -/
theorem Run.eq_foldl (h : Run src s deeds p) : p = deeds.foldl after .fresh := by
  induction h with
  | start => rfl
  | turn hrun now env ih => rw [List.foldl_concat, after]
  | work hrun halive hturn ih => rw [List.foldl_concat, after]
  | ring hrun hring ih => rw [List.foldl_concat, ← ih, after, hring, Option.getD_some]
  | ask hrun ih => rw [List.foldl_concat, ← ih, after]

/-- Whether something that is done is not the last step of the unit with a number. -/
def Deed.keepsAlive (n : Nat) : Deed Env Fetch Job → Bool
  | .worked _ _ m turn => m ≠ n || turn.next ≠ .never
  | .turned .. | .rang _ | .asked => true

theorem alive_of_all {n : Nat} (h : deeds.all (Deed.keepsAlive n) = true) : Alive deeds n := by
  intro now env turn hdeed
  have hkeeps := List.all_eq_true.mp h _ hdeed
  simpa [Deed.keepsAlive] using hkeeps

/-- What is done by a poller that has come to its end, or to it: its loop does nothing, and what
goes on of aborted units makes its steps. -/
inductive Trails (src : PollSource Env Fetch Job) (deeds : List (Deed Env Fetch Job))
    (p : Poller Fetch Job) : Deed Env Fetch Job → Poller Fetch Job → Prop
  | turns (now : Time) (env : Env) : Trails src deeds p (.turned now env p (.of env p false)) p
  | goesOn (now : Time) (env : Env) {n : Nat} {job : Job} (halive : Alive deeds n)
      (hjob : (n, job) ∈ p.strays) :
      Trails src deeds p (.worked now env n (stepStray src now env p n job))
        (stepStray src now env p n job).poller
  | asks : Trails src deeds p .asked p.requestStop

theorem Run.running_eq_nil (h : Run src s deeds p) (hover : p.ending?.isSome) :
    p.running = [] := by
  have hbalanced := h.balanced
  cases hstage : p.stage with
  | ended | crashed =>
      simp only [Balanced, hstage] at hbalanced
      exact hbalanced.1
  | starting | seeking | polling | pausing | draining => simp [ending?, hstage] at hover

/-- The last thing that is done in a run. -/
theorem Run.exists_trails {deed : Deed Env Fetch Job} (h : Run src s (deeds ++ [deed]) p') :
    ∃ p, Run src s deeds p ∧ (p.ending?.isSome → Trails src deeds p deed p') := by
  generalize hall : deeds ++ [deed] = all at h
  cases h with
  | start => simp at hall
  | @turn earlier p hrun now env =>
      obtain ⟨rfl, rfl⟩ := List.append_singleton_inj.mp hall
      refine ⟨p, hrun, fun hover => ?_⟩
      rw [turn_of_over hover]
      exact .turns now env
  | @work earlier p hrun now env n turn halive hturn =>
      obtain ⟨rfl, rfl⟩ := List.append_singleton_inj.mp hall
      refine ⟨p, hrun, fun hover => ?_⟩
      rw [stepUnit?, hrun.running_eq_nil hover, List.find?_nil] at hturn
      dsimp only at hturn
      split at hturn
      · next k job hfound =>
        obtain rfl : k = n := by simpa using List.find?_some hfound
        obtain rfl : stepStray src now env p k job = turn := Option.some.inj hturn
        exact .goesOn now env halive (List.mem_of_find?_eq_some hfound)
      · cases hturn
  | @ring earlier p _ hrun alarm hring =>
      obtain ⟨rfl, rfl⟩ := List.append_singleton_inj.mp hall
      refine ⟨p, hrun, fun hover => ?_⟩
      cases (ring_of_over hover alarm).symm.trans hring
  | @ask earlier p hrun =>
      obtain ⟨rfl, rfl⟩ := List.append_singleton_inj.mp hall
      exact ⟨p, hrun, fun _ => .asks⟩

theorem Trails.ending? {deed : Deed Env Fetch Job} (h : Trails src deeds p deed p') :
    p'.ending? = p.ending? := by
  cases h with
  | turns | asks => rfl
  | goesOn now env halive hjob =>
      rw [Poller.ending?, Poller.ending?, (stepStray_move hjob).stage]

/-- **A poller that has come to its end stays as it is**, but for what goes on of aborted units:
whatever holds of the poller then, and is kept by what trails, goes on to hold. -/
theorem Run.trails {P : Poller Fetch Job → Prop} {Q : Deed Env Fetch Job → Prop}
    (hrun : Run src s deeds p) (hover : p.ending?.isSome) (hstart : P p)
    (hkeeps : ∀ earlier q deed q', Run src s (deeds ++ earlier) q → P q →
      Trails src (deeds ++ earlier) q deed q' → P q' ∧ Q deed)
    {rest : List (Deed Env Fetch Job)} (hrest : Run src s (deeds ++ rest) p') :
    p'.ending? = p.ending? ∧ P p' ∧ ∀ deed ∈ rest, Q deed := by
  induction rest using List.reverseRecOn generalizing p' with
  | nil =>
      rw [List.append_nil] at hrest
      obtain rfl : p' = p := hrest.eq_foldl.trans hrun.eq_foldl.symm
      exact ⟨rfl, hstart, fun _ hdeed => absurd hdeed List.not_mem_nil⟩
  | append_singleton rest deed ih =>
      rw [← List.append_assoc] at hrest
      obtain ⟨q, hq, htrails⟩ := hrest.exists_trails
      obtain ⟨hending, hholds, hearlier⟩ := ih hq
      have hlast := htrails (by rwa [hending])
      obtain ⟨hholds', hdeed⟩ := hkeeps rest q deed p' hq hholds hlast
      refine ⟨hlast.ending?.trans hending, hholds', fun x hx => ?_⟩
      rcases List.mem_append.mp hx with hold | hnew
      · exact hearlier x hold
      · rw [List.mem_singleton.mp hnew]
        exact hdeed

/-- What goes on of aborted units is what was detached from them. -/
theorem Run.exists_detached (h : Run src s deeds p) :
    ∀ x ∈ p.strays, ∃ job, src.detached job = some x.2 := by
  induction h with
  | start => exact nofun
  | @turn deeds p hrun now env ih =>
      obtain ⟨env', -, heffect⟩ := turn_effect (s := s) now env p
      have hstrays : (p.turn src s now env).poller.strays = p.strays ∨
          (p.turn src s now env).poller.strays = (p.abort src).strays := by
        generalize p.polled? src now env = job? at heffect
        cases heffect with
        | keeps hkeeps => exact .inl hkeeps.2.2.1
        | aborts haborts => exact .inr haborts.2.2.1
        | takesUp htakes => exact .inl htakes.2.2.1
      intro x hx
      rcases hstrays with hsame | habort
      · exact ih x (hsame ▸ hx)
      · rw [habort, Poller.abort, List.mem_append, List.mem_filterMap] at hx
        rcases hx with hold | ⟨⟨n, job⟩, -, hdetached⟩
        · exact ih x hold
        · obtain ⟨rest, hrest, rfl⟩ := Option.map_eq_some_iff.mp hdetached
          exact ⟨job, hrest⟩
  | @work deeds p hrun now env n turn halive hturn ih =>
      intro x hx
      rw [stepUnit?] at hturn
      split at hturn
      · next k job hfound =>
        obtain rfl := Option.some.inj hturn
        rw [(stepRunning_effect src now env p n job).2.2.1] at hx
        exact ih x hx
      · split at hturn
        · next k job hfound =>
          obtain rfl := Option.some.inj hturn
          obtain ⟨-, -, -, haltered⟩ := stepStray_effect src now env p n job
          rcases haltered.mem hx with ⟨-, hold⟩ | ⟨-, hnext⟩
          · exact ih x hold
          · obtain ⟨state, -, hdetached⟩ := Option.bind_eq_some_iff.mp hnext
            exact ⟨state, hdetached⟩
        · cases hturn
  | ring hrun hring ih =>
      intro x hx
      refine ih x ?_
      cases ring_move hring <;> exact hx
  | ask hrun ih => exact ih

end Poller

/-! ### Executors that have been left running -/

namespace TaskDuty

variable {State : Type} {d : TaskDuty State} {s : PollerSettings}

theorem exists_of_detached {job state : Working} (h : d.source.detached job = some state) :
    ∃ a run, state = .task (.running a run) := by
  rcases job with job | (a | ⟨a, run⟩ | ⟨a, outcome⟩ | ⟨outcome, answer⟩)
  · cases h
  · cases h
  · cases h
    exact ⟨a, run, rfl⟩
  · cases h
  · cases h

/-- A step of a running executor makes no call but for a sign of life. -/
theorem stepRun_calls (now : Time) (h : Host State) (a : TaskAssignment) (run : TaskRun) :
    ∀ call ∈ h.since (d.stepRun now h a run).1,
      ∃ details, call = .heartbeat a.taskToken details := by
  cases run with
  | finish | fail | crash | sleep =>
      have hquiet : h.since h = [] := Host.since_of_eq rfl
      intro call hcall
      simp only [stepRun, hquiet] at hcall
      cases hcall
  | heartbeat details next =>
      have hcall : (d.stepRun now h a (.heartbeat details next)).1.calls
          = h.calls ++ [(now, .heartbeat a.taskToken details)] := rfl
      rw [Host.since_of_call hcall]
      exact fun call hmem => ⟨details, List.mem_singleton.mp hmem⟩

/-- The assignment of a running executor is the one that a poll has given. -/
theorem polled_of_running {deeds : List (Poller.Deed (Host State) Fetching Working)}
    {p : Poller Fetching Working} (hrun : Poller.Run d.source s deeds p) {n : Nat}
    {a : TaskAssignment} {run : TaskRun} (hunit : (n, .task (.running a run)) ∈ p.units)
    (halive : Poller.Alive deeds n) :
    (Poller.polled d.source deeds)[n]? = some (.task (.assigned a)) := by
  have htracks := hrun.tracks
  have hlt : n < (Poller.polled d.source deeds).length :=
    htracks.taken ▸ htracks.numbered.lt _ hunit
  have hjob := List.getElem?_eq_getElem hlt
  obtain ⟨progress, hworks, hnext⟩ := htracks.works n _ hjob
  obtain ⟨a', hassigned⟩ := d.exists_of_polled (List.getElem_mem hlt)
  rw [hassigned] at hworks
  obtain ⟨job, heq, hstanding⟩ := (standing_of_works hworks).1 _ (hnext _ hunit halive)
  cases heq
  cases hstanding
  rw [hjob, hassigned]

/-- An executor that goes on by itself makes a step. -/
theorem strays_of_stepStray {q : Poller Fetching Working} {now : Time} {h : Host State} {n : Nat}
    {a : TaskAssignment} {run : TaskRun} {x : Nat × Working}
    (hx : x ∈ (Poller.stepStray d.source now h q n (.task (.running a run))).poller.strays) :
    x ∈ q.strays ∨ ∃ run', x = (n, .task (.running a run')) := by
  obtain ⟨-, -, -, haltered⟩ :=
    Poller.stepStray_effect d.source now h q n (.task (.running a run))
  obtain ⟨m, state⟩ := x
  rcases haltered.mem hx with ⟨-, hold⟩ | ⟨rfl, hnext⟩
  · exact .inl hold
  · obtain ⟨state', hstate', hdetached⟩ := Option.bind_eq_some_iff.mp hnext
    obtain ⟨job, hjob, rfl⟩ := Progress.exists_of_next?_map hstate'
    rcases d.stepRun_next? hjob with ⟨run', rfl⟩ | ⟨outcome, rfl⟩
    · cases hdetached
      exact .inr ⟨run', rfl⟩
    · cases hdetached

/-- Whatever goes on of the units of a poller is an executor that was running at another one. -/
def LeftRunning (p q : Poller Fetching Working) : Prop :=
  ∀ x ∈ q.strays, ∃ a run run',
    x.2 = .task (.running a run') ∧ (x.1, .task (.running a run)) ∈ p.strays

theorem leftRunning_self {deeds : List (Poller.Deed (Host State) Fetching Working)}
    {p : Poller Fetching Working} (hrun : Poller.Run d.source s deeds p) : LeftRunning p p := by
  intro x hx
  obtain ⟨job, hjob⟩ := hrun.exists_detached x hx
  obtain ⟨a, run, hstate⟩ := exists_of_detached hjob
  exact ⟨a, run, run, hstate, hstate ▸ hx⟩

/-- An executor that goes on was running when the loop ended. -/
theorem LeftRunning.goesOn {p q : Poller Fetching Working} (h : LeftRunning p q) {n : Nat}
    {job : Working} (hjob : (n, job) ∈ q.strays) (now : Time) (host : Host State) :
    LeftRunning p (Poller.stepStray d.source now host q n job).poller ∧
      ∃ a run, (n, .task (.running a run)) ∈ p.strays ∧
        ∀ call ∈ host.since (Poller.stepStray d.source now host q n job).env,
          ∃ details, call = .heartbeat a.taskToken details := by
  obtain ⟨a, run, run', hstate, hstray⟩ := h _ hjob
  dsimp only at hstate hstray
  subst hstate
  refine ⟨fun x hx => ?_, a, run, hstray, ?_⟩
  · rcases strays_of_stepStray hx with hold | ⟨run'', rfl⟩
    · exact h x hold
    · exact ⟨a, run, run'', rfl, hstray⟩
  · obtain ⟨henv, -⟩ :=
      Poller.stepStray_effect d.source now host q n (.task (.running a run'))
    rw [henv]
    exact d.stepRun_calls now host a run'

/-- **Nothing but signs of life follows the end.**  A poller for tasks that has come to its end,
whatever has ended it, stays at its end with nothing in flight.  Each call that is made on its
behalf after that is a sign of life of an executor that was running when the loop abandoned its
assignment, with the token of that assignment: the poller polls no more, and reports no more. -/
theorem only_signs_after_end (d : TaskDuty State) {s : PollerSettings}
    {deeds : List (Poller.Deed (Host State) Fetching Working)} {p : Poller Fetching Working}
    (hrun : Poller.Run d.source s deeds p) (hover : p.ending?.isSome)
    {rest : List (Poller.Deed (Host State) Fetching Working)} {p' : Poller Fetching Working}
    (hrest : Poller.Run d.source s (deeds ++ rest) p') :
    p'.ending? = p.ending? ∧ p'.running = [] ∧
      ∀ deed ∈ rest, ∀ call ∈ deed.calls, ∃ n ∈ Poller.abandoned deeds, ∃ a run details,
        (n, .task (.running a run)) ∈ p.strays ∧
          (Poller.polled d.source deeds)[n]? = some (.task (.assigned a)) ∧
            (deed.stride? n).isSome ∧ call = .heartbeat a.taskToken details := by
  -- What goes on is told from the poller at the end, so this is what is kept.
  suffices hkeeps : ∀ earlier q deed q', Poller.Run d.source s (deeds ++ earlier) q →
      LeftRunning p q → Poller.Trails d.source (deeds ++ earlier) q deed q' →
        LeftRunning p q' ∧ ∀ call ∈ deed.calls, ∃ n ∈ Poller.abandoned deeds, ∃ a run details,
          (n, .task (.running a run)) ∈ p.strays ∧
            (Poller.polled d.source deeds)[n]? = some (.task (.assigned a)) ∧
              (deed.stride? n).isSome ∧ call = .heartbeat a.taskToken details by
    obtain ⟨hending, -, hcalls⟩ := hrun.trails hover (leftRunning_self hrun) hkeeps hrest
    exact ⟨hending, hrest.running_eq_nil (hending ▸ hover), hcalls⟩
  intro earlier q deed q' hq hleft htrails
  cases htrails with
  | turns now h =>
      refine ⟨hleft, fun call hcall => ?_⟩
      have hquiet : h.since h = [] := Host.since_of_eq rfl
      simp [Poller.Deed.calls, Poller.Turn.of, hquiet] at hcall
  | asks => exact ⟨hleft, fun call hcall => absurd hcall List.not_mem_nil⟩
  | @goesOn now h n job halive hjob =>
      obtain ⟨hleft', a, run, hstray, hsigns⟩ := hleft.goesOn hjob now h
      refine ⟨hleft', fun call hcall => ?_⟩
      have halive' : Poller.Alive deeds n :=
        fun now h turn hdeed => halive now h turn (List.mem_append_left _ hdeed)
      have hpolled := polled_of_running hrun (Poller.mem_units.mpr (.inr hstray)) halive'
      obtain ⟨details, rfl⟩ := hsigns call hcall
      exact ⟨n, hrun.ledger.strays _ hstray, a, run, details, hstray, hpolled,
        by simp [Poller.Deed.stride?], rfl⟩

/-! ### An executor that goes on -/

/-- A worker with one executor, which takes half a second and gives two signs of life. -/
def oneExecutor : TaskDuty Script where
  service := Script.service
  registry := ⟨[(⟨"charge", "1"⟩, fun _ _ =>
    .sleep 500 (.heartbeat (some "half") fun _ => .sleep 100 (.heartbeat (some "done") fun _ =>
      .finish (.completed (some "7")))))]⟩
  request := ⟨"default", "default", "worker-1"⟩

/-- A service with one task, which then answers that there is nothing more to do. -/
def oneTask : Host Script :=
  .start { Script.empty with
    taskPolls := [
      ⟨0, .given (some ⟨"token-1", "charge-1", ⟨"charge", "1"⟩, some "7", ⟨"", ""⟩, 0⟩)⟩,
      ⟨0, .given none⟩] } ⟨toString, 0⟩

/-- The settings of a poller that fails fast and waits for its units for a tenth of a second. -/
def hasty : PollerSettings :=
  { PollerSettings.standard with
    concurrency := 2, mode := .failFast, shutdownTimeout := ⟨100 * nanosPerMilli, by decide⟩ }

/-- The poller ends because there is nothing more to do, without having waited long enough for its
executor, which then gives a sign of life. -/
theorem only_signs_after_end_oneSign :
    ∃ deeds p rest p', Poller.Run oneExecutor.source hasty deeds p ∧
      p.ending? = some (.ok (.error (.noUnitAvailable "task"))) ∧
        Poller.Run oneExecutor.source hasty (deeds ++ rest) p' ∧ p'.running = [] ∧
          Poller.abandoned deeds = [0] ∧
            rest.flatMap Poller.Deed.calls = [.heartbeat "token-1" (some "half")] := by
  let source := oneExecutor.source
  let task : TaskAssignment := ⟨"token-1", "charge-1", ⟨"charge", "1"⟩, some "7", ⟨"", ""⟩, 0⟩
  let last : TaskRun :=
    .sleep 100 (.heartbeat (some "done") fun _ => .finish (.completed (some "7")))
  let run : TaskRun := .sleep 500 (.heartbeat (some "half") fun _ => last)
  let nothing : UnitResult := .error (.noUnitAvailable "task")
  -- The first poll gives the task, and its executor is started.
  have hstart : Poller.Run source hasty [] .fresh := .start
  have hasked : Poller.Run source hasty _
      ⟨.polling source.start true .unset, false, 1, 1, 0, [], [], [], [.polling]⟩ :=
    (hstart.turn 0 oneTask).turn 0 oneTask
  let host₁ : Host Script := (source.poll 0 oneTask source.start).1
  have htaken : Poller.Run source hasty _
      ⟨.seeking, false, 1, 1, 1, [(0, .task (.assigned task))], [], [], [.polling]⟩ :=
    (hasked.turn 0 oneTask).turn 0 host₁
  have hrunning : Poller.Run source hasty _
      ⟨.seeking, false, 1, 1, 1, [(0, .task (.running task run))], [], [],
        [.executing, .polling]⟩ :=
    @Poller.Run.work _ _ _ _ _ _ _ htaken 0 host₁ 0 _ (Poller.alive_of_strides_eq_nil rfl) rfl
  -- The second one gives nothing, and the loop is left.
  have hagain : Poller.Run source hasty _
      ⟨.polling (.task (.answered (.given (.ok none)))) true .unset, false, 0, 2, 1,
        [(0, .task (.running task run))], [], [], [.polling, .executing, .polling]⟩ :=
    (hrunning.turn 0 host₁).turn 0 host₁
  let host₂ : Host Script := (source.poll 0 host₁ source.start).1
  have hleft : Poller.Run source hasty _
      ⟨.draining nothing .running, false, 0, 2, 1, [(0, .task (.running task run))], [], [],
        [.idle, .polling, .executing, .polling]⟩ :=
    (hagain.turn 0 host₂).turn 0 host₂
  have hended : Poller.Run source hasty _
      ⟨.ended nothing, false, 0, 2, 1, [], [], [(0, .task (.running task run))],
        [.stopped, .idle, .polling, .executing, .polling]⟩ :=
    (@Poller.Run.ring _ _ _ _ _ _ _ _ hleft .shutdown rfl).turn 100 host₂
  -- The executor goes on.
  have hslept : Poller.Run source hasty _
      ⟨.ended nothing, false, 0, 2, 1, [], [],
        [(0, .task (.running task (.heartbeat (some "half") fun _ => last)))],
        [.stopped, .idle, .polling, .executing, .polling]⟩ :=
    @Poller.Run.work _ _ _ _ _ _ _ hended 100 host₂ 0 _ (Poller.alive_of_all rfl) rfl
  have hsign := @Poller.Run.work _ _ _ _ _ _ _ hslept 500 host₂ 0 _ (Poller.alive_of_all rfl) rfl
  rw [List.append_assoc] at hsign
  obtain ⟨hending, hrunning, -⟩ := only_signs_after_end oneExecutor hended rfl hsign
  exact ⟨_, _, _, _, hended, rfl, hsign, hrunning, rfl, rfl⟩

/-- The executor gives its signs of life after the end of the poller. -/
theorem signs_after_end :
    ¬ ∀ (d : TaskDuty Script) (s : PollerSettings) (h : Host Script)
      (w : World (Host Script) Fetching Working), World.Reached h [(d.source, s)] w →
        (w.ending? 0).isSome → ∀ t fuel w', w.runTo t fuel = some w' →
          w'.env.calls = w.env.calls := by
  intro hquiet
  have hcalls : ((World.start oneTask [(oneExecutor.source, hasty)]).runTo 200 50).bind (fun w =>
        (w.runTo 1000 50).map fun w' =>
          ((w.ending? 0).isSome, w'.env.calls.drop w.env.calls.length))
      = some (true, [(500, .heartbeat "token-1" (some "half")),
        (600, .heartbeat "token-1" (some "done"))]) := by decide +kernel
  obtain ⟨w, hended, hgoes⟩ := Option.bind_eq_some_iff.mp hcalls
  obtain ⟨w', hlater, hpair⟩ := Option.map_eq_some_iff.mp hgoes
  obtain ⟨hover, hsigns⟩ := Prod.mk.inj hpair
  have hsame := hquiet _ _ _ w (World.Reached.start.runTo hended) hover 1000 50 w' hlater
  rw [hsame, List.drop_length] at hsigns
  cases hsigns

end TaskDuty

end DurableWorkflow
