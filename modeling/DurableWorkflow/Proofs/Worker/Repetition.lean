import DurableWorkflow.Proofs.Polling.Lockstep
import DurableWorkflow.Proofs.Polling.Single
import DurableWorkflow.Proofs.Worker.Report
import DurableWorkflow.Service.Script

/-!
# Running and polling again and again

The loop of a worker with one slot does the same work as someone who makes one single poll after the
other, if the answers of the service depend only on what it has been asked.

## Main Definitions

* `Host.Alike`, `Host.Agree`: hosts, and steps, that differ at most in the times of the calls.
* `Collection.measure`: how many steps a poll for a decision task may still have to make.
* `Scripted`: the sources of workers whose service follows a script.

## Main Statements

* `DecisionDuty.timeless`, `TaskDuty.timeless`: the time does not matter to workers.
* `DecisionDuty.settles`, `TaskDuty.settles`: what they begin comes to an end, or waits for ever.
* `Scripted.asked_prefix_polledOnce`: what the loop has asked is what single polls begin with.

## Design Notes

The loop may be in the middle of a unit, while single polls are let go to their ends.  So its calls
are those with which the calls of the single polls begin.  That a poll has an end rests on the
script, which has only finitely many further pages to hand out.
-/

namespace DurableWorkflow

variable {State : Type}

/-! ### Hosts that differ in times -/

namespace Host

/-- The calls that have been made, without their times. -/
def asked (h : Host State) : List Call := h.calls.map (·.2)

/-- Two hosts differ at most in the times of the calls. -/
structure Alike (h h' : Host State) : Prop where
  service : h.service = h'.service
  fresh : h.fresh = h'.fresh
  handled : h.handled = h'.handled
  asked : h.asked = h'.asked

/-- Two steps lead to the same, in hosts that differ at most in times, and the second one does not
undo what has been asked before. -/
structure Agree {R : Type} (before : List Call) (x x' : Host State × R) : Prop where
  alike : x.1.Alike x'.1
  result : x.2 = x'.2
  grows : before <+: x'.1.asked

variable {h h' : Host State} {R : Type}

theorem Alike.refl (h : Host State) : h.Alike h := ⟨rfl, rfl, rfl, rfl⟩

theorem asked_call {α : Type} (now : Time) (what : Call) (make : State → State × Reply α)
    (h : Host State) : (h.call now what make).1.asked = h.asked ++ [what] := by
  rw [asked, call, List.map_append]
  rfl

/-- Steps that leave hosts as they are. -/
theorem Alike.stay (halike : h.Alike h') (r : R) : Agree h'.asked (h, r) (h', r) :=
  ⟨halike, rfl, List.prefix_rfl⟩

/-- A call leads to the same whenever it is made. -/
theorem Alike.call {α : Type} (halike : h.Alike h') (now : Time) (what : Call)
    (make : State → State × Reply α) :
    Agree h'.asked (h.call now what make) (h'.call 0 what make) := by
  refine ⟨⟨?_, halike.fresh, halike.handled, ?_⟩, ?_, ?_⟩
  · simp only [Host.call, halike.service]
  · rw [asked_call, asked_call, halike.asked]
  · simp only [Host.call, halike.service]
  · rw [asked_call]
    exact List.prefix_append _ _

/-- Results may be changed in the same way. -/
theorem Agree.map {S : Type} {before : List Call} {x x' : Host State × R}
    (hagree : Agree before x x') (f : R → S) : Agree before (x.1, f x.2) (x'.1, f x'.2) :=
  ⟨hagree.alike, congrArg f hagree.result, hagree.grows⟩

end Host

/-- A source of a worker for which the time does not matter. -/
theorem PollSource.timeless_of_agree {Fetch Job : Type} {src : PollSource (Host State) Fetch Job}
    (hpoll : ∀ now {h h' : Host State} fetch, h.Alike h' →
      Host.Agree h'.asked (src.poll now h fetch) (src.poll 0 h' fetch))
    (hprocess : ∀ now {h h' : Host State} job, h.Alike h' →
      Host.Agree h'.asked ((src.process now h job).env, (src.process now h job).progress)
        ((src.process 0 h' job).env, (src.process 0 h' job).progress)) :
    src.Timeless Host.Alike Host.asked where
  poll now _ _ fetch halike := ⟨(hpoll now fetch halike).alike, (hpoll now fetch halike).result⟩
  process now _ _ job halike := ⟨(hprocess now job halike).alike, (hprocess now job halike).result⟩
  same halike := halike.asked
  poll_grows h fetch := (hpoll 0 fetch (.refl h)).grows
  process_grows h job := (hprocess 0 job (.refl h)).grows

namespace DecisionDuty

variable (d : DecisionDuty State) {h h' : Host State}

theorem poll_agree (halike : h.Alike h') (now : Time) (state : Collection) :
    Host.Agree h'.asked (d.poll now h state) (d.poll 0 h' state) := by
  have hask (token : Option String) (next : Answer (Remote (Option HistoryPage)) → Collection) :
      Host.Agree (R := Progress Collection (Except Error (Option DecisionTask))) h'.asked
        ((d.ask now token h).1, (d.ask now token h).2.progress next)
        ((d.ask 0 token h').1, (d.ask 0 token h').2.progress next) :=
    (halike.call now _ _).map (Reply.progress · next)
  have hcollect (task : DecisionTask) (token : Option String) :
      Host.Agree h'.asked (d.collect now h task token) (d.collect 0 h' task token) := by
    cases token with
    | none => exact halike.stay _
    | some token => exact hask (some token) (.further task token)
  cases state with
  | start => exact hask none .first
  | first answer =>
      rcases answer with (e | _ | page) | message
      · exact halike.stay _
      · exact halike.stay _
      · exact hcollect _ _
      · exact halike.stay _
  | further task token answer =>
      rcases answer with (e | _ | page) | message
      · exact halike.stay _
      · exact halike.stay _
      · exact hcollect _ _
      · exact halike.stay _

theorem process_agree (halike : h.Alike h') (now : Time) (state : Deciding) :
    Host.Agree h'.asked ((d.process now h state).env, (d.process now h state).progress)
      ((d.process 0 h' state).env, (d.process 0 h' state).progress) := by
  cases state with
  | collected task =>
      have hdecide : d.decide h task = d.decide h' task := by
        rw [decide, decide, halike.fresh]
      simp only [process, hdecide]
      cases d.decide h' task with
      | error e => exact halike.stay _
      | ok cycle =>
          have hcycle :
              Host.Alike { h with fresh := cycle.fresh, handled := h.handled ++ cycle.handled }
                { h' with fresh := cycle.fresh, handled := h'.handled ++ cycle.handled } :=
            ⟨halike.service, rfl, congrArg (· ++ cycle.handled) halike.handled, halike.asked⟩
          cases hending : cycle.ending with
          | failed e =>
            simp only [hending]
            exact hcycle.stay _
          | crashed message =>
            simp only [hending]
            exact hcycle.stay _
          | decided batch =>
            simp only [hending]
            exact (hcycle.call now _ _).map fun reply => reply.progress Deciding.submitted
  | submitted answer =>
      rcases answer with (e | ⟨⟩) | message
      · exact halike.stay _
      · exact halike.stay _
      · exact halike.stay _

/-- The time does not matter to decision tasks. -/
theorem timeless : d.source.Timeless Host.Alike Host.asked := by
  refine PollSource.timeless_of_agree (fun now h h' fetch halike => ?_)
    fun now h h' job halike => ?_
  · cases fetch with
    | decision state =>
        exact (d.poll_agree halike now state).map
          (Progress.mapPoll Fetching.decision fun task => Working.decision (.collected task))
    | task state => exact halike.stay _
  · cases job with
    | decision state => exact (d.process_agree halike now state).map (Progress.map Working.decision)
    | task state => exact halike.stay _

end DecisionDuty

namespace TaskDuty

variable (d : TaskDuty State) {h h' : Host State}

theorem poll_agree (halike : h.Alike h') (now : Time) (state : TaskPoll) :
    Host.Agree h'.asked (d.poll now h state) (d.poll 0 h' state) := by
  cases state with
  | start => exact (halike.call now _ _).map fun reply => reply.progress TaskPoll.answered
  | answered answer =>
      rcases answer with (e | assignment) | message
      · exact halike.stay _
      · exact halike.stay _
      · exact halike.stay _

theorem report_agree (halike : h.Alike h') (now : Time) (a : TaskAssignment)
    (outcome : TaskOutcome) :
    Host.Agree h'.asked (d.report now h a outcome) (d.report 0 h' a outcome) :=
  (halike.call now _ _).map fun reply => reply.progress (Executing.reported outcome.clipped)

theorem process_agree (halike : h.Alike h') (now : Time) (state : Executing) :
    Host.Agree h'.asked ((d.process now h state).env, (d.process now h state).progress)
      ((d.process 0 h' state).env, (d.process 0 h' state).progress) := by
  cases state with
  | assigned a =>
      simp only [process]
      cases d.registry.executor? a.taskType with
      | some executor => exact halike.stay _
      | none => exact d.report_agree halike now a _
  | running a run =>
      cases run with
      | finish | fail | crash | sleep => exact halike.stay _
      | heartbeat details next =>
          exact (halike.call now _ _).map fun reply =>
            reply.progress fun answer => Executing.running a (resume next answer)
  | ended a outcome => exact d.report_agree halike now a outcome
  | reported outcome answer =>
      rcases answer with (e | ⟨⟩) | message
      · exact halike.stay _
      · exact halike.stay _
      · exact halike.stay _

/-- The time does not matter to tasks. -/
theorem timeless : d.source.Timeless Host.Alike Host.asked := by
  refine PollSource.timeless_of_agree (fun now h h' fetch halike => ?_)
    fun now h h' job halike => ?_
  · cases fetch with
    | task state =>
        exact (d.poll_agree halike now state).map
          (Progress.mapPoll Fetching.task fun assignment => Working.task (.assigned assignment))
    | decision state => exact halike.stay _
  · cases job with
    | task state => exact (d.process_agree halike now state).map (Progress.map Working.task)
    | decision state => exact halike.stay _

end TaskDuty

/-! ### Errands that come to an end -/

/-- Changing the states of a poll changes the one with which it goes on. -/
theorem Progress.exists_of_next?_mapPoll {S T A B : Type} {f : S → T} {g : A → B}
    {progress : Progress S (Except Error (Option A))} {state : T}
    (h : (progress.mapPoll f g).next? = some state) :
    ∃ state', progress.next? = some state' ∧ state = f state' := by
  cases progress with
  | wait ms state' | yield state' =>
      cases h
      exact ⟨state', rfl, rfl⟩
  | done | crash | never => cases h

section Settles

variable {Env Fetch Job : Type} {src : PollSource Env Fetch Job}

namespace PollSource

/-- An errand leads somewhere if it does so after its next step. -/
theorem exists_pursues {env : Env} {errand : Errand Fetch Job}
    (h : ∀ env₁ errand₁, src.pursue 0 env errand = (env₁, .goes errand₁) →
      ∃ env' turnout, src.Pursues env₁ errand₁ env' turnout) :
    ∃ env' turnout, src.Pursues env errand env' turnout := by
  rcases hstep : src.pursue 0 env errand with ⟨env₁, turnout⟩
  cases turnout with
  | goes errand₁ =>
      obtain ⟨env', turnout, hrest⟩ := h env₁ errand₁ hstep
      exact ⟨env', turnout, .goes hstep hrest⟩
  | ends => exact ⟨env₁, .ends, .ends hstep⟩
  | stuck => exact ⟨env₁, .stuck, .stuck hstep⟩

/-- After a step of a unit comes its next one. -/
theorem next_of_processing {env env₁ : Env} {job : Job} {errand : Errand Fetch Job}
    (hstep : src.pursue 0 env (.processing job) = (env₁, .goes errand)) :
    ∃ next, errand = .processing next ∧ src.Next next job := by
  simp only [pursue, Prod.mk.injEq] at hstep
  obtain ⟨-, hturnout⟩ := hstep
  cases hprogress : (src.process 0 env job).progress with
  | wait ms next | yield next =>
      rw [hprogress] at hturnout
      cases hturnout
      exact ⟨next, rfl, 0, env, by rw [hprogress]; rfl⟩
  | done | crash | never =>
      rw [hprogress] at hturnout
      cases hturnout

/-- After a step of a poll comes its next one, or a unit. -/
theorem next_of_polling {env env₁ : Env} {fetch : Fetch} {left : Option Nat}
    {errand : Errand Fetch Job}
    (hstep : src.pursue 0 env (.polling fetch left) = (env₁, .goes errand)) :
    (∃ job, errand = .processing job) ∨ ∃ next left', errand = .polling next left' ∧
      env₁ = (src.poll 0 env fetch).1 ∧ (src.poll 0 env fetch).2.next? = some next := by
  rcases hpoll : src.poll 0 env fetch with ⟨env₂, progress⟩
  simp only [pursue, hpoll, Prod.mk.injEq] at hstep
  obtain ⟨rfl, hturnout⟩ := hstep
  cases progress with
  | done answer =>
      rcases answer with e | _ | job
      · cases hturnout
      · cases hturnout
      · cases hturnout
        exact .inl ⟨job, rfl⟩
  | crash => cases hturnout
  | yield next =>
      cases hturnout
      exact .inr ⟨next, left, rfl, rfl, rfl⟩
  | wait ms next =>
      dsimp only at hturnout
      split at hturnout
      · cases hturnout
        exact .inr ⟨next, _, rfl, rfl, rfl⟩
      · cases hturnout
  | never =>
      dsimp only at hturnout
      split at hturnout <;> cases hturnout

/-- Errands lead somewhere if units come to an end, and polls come closer to theirs with each
step. -/
theorem settles_of_measure (hends : src.Ends) (measure : Env → Fetch → Nat)
    (hpolls : ∀ env fetch next, (src.poll 0 env fetch).2.next? = some next →
      measure (src.poll 0 env fetch).1 next < measure env fetch) : src.Settles := by
  have hunits (env : Env) (job : Job) :
      ∃ env' turnout, src.Pursues env (.processing job) env' turnout := by
    induction job using hends.induction generalizing env with
    | _ job ih =>
        refine exists_pursues fun env₁ errand₁ hstep => ?_
        obtain ⟨next, rfl, hnext⟩ := next_of_processing hstep
        exact ih next hnext env₁
  have hfetches (n : Nat) (env : Env) (fetch : Fetch) (left : Option Nat)
      (hn : measure env fetch = n) :
      ∃ env' turnout, src.Pursues env (.polling fetch left) env' turnout := by
    induction n using Nat.strongRecOn generalizing env fetch left with
    | _ n ih =>
        refine exists_pursues fun env₁ errand₁ hstep => ?_
        rcases next_of_polling hstep with ⟨job, rfl⟩ | ⟨next, left', rfl, rfl, hnext⟩
        · exact hunits env₁ job
        · exact ih _ (hn ▸ hpolls env fetch next hnext) _ next left' rfl
  intro env errand
  cases errand with
  | polling fetch left => exact hfetches _ env fetch left rfl
  | processing job => exact hunits env job

end PollSource

end Settles

/-! ### Scripts -/

namespace Script

/-- How many further pages a script has yet to hand out. -/
def pagesLeft : List (String × List (Cue (Option HistoryPage))) → Nat
  | [] => 0
  | (_, cues) :: rest => cues.length + pagesLeft rest

/-- A page is taken from those that are left, or refused. -/
theorem takePage_pagesLeft (token : String)
    (pages : List (String × List (Cue (Option HistoryPage)))) :
    pagesLeft (takePage token pages).1 < pagesLeft pages ∨
      takePage token pages = (pages, .after 0 (.given (.error (unknownToken token)))) := by
  induction pages with
  | nil => exact .inr rfl
  | cons entry rest ih =>
      obtain ⟨t, cues⟩ := entry
      unfold takePage
      split
      · cases cues with
        | nil => exact .inr rfl
        | cons cue left =>
            refine .inl ?_
            simp [pagesLeft]
      · rcases ih with hless | hsame
        · refine .inl ?_
          simpa [pagesLeft] using hless
        · rw [hsame]
          exact .inr rfl

end Script

/-- How many steps a poll for a decision task may still have to make. -/
def Collection.measure (script : Script) : Collection → Nat
  | .start => Script.pagesLeft script.pages + 2
  | .first (.given (.ok (some _))) | .further _ _ (.given (.ok (some _))) =>
    Script.pagesLeft script.pages + 1
  | .first _ | .further _ _ _ => 0

/-- How many steps a poll may still have to make. -/
def Fetching.measure (script : Script) : Fetching → Nat
  | .decision state => state.measure script
  | .task .start => 1
  | .task (.answered _) => 0

theorem Collection.measure_le (script : Script) (answer : Answer (Remote (Option HistoryPage))) :
    (Collection.first answer).measure script ≤ Script.pagesLeft script.pages + 1 ∧
      ∀ task token, (Collection.further task token answer).measure script
        ≤ Script.pagesLeft script.pages + 1 := by
  rcases answer with (e | _ | page) | message <;>
    exact ⟨by simp [measure], fun _ _ => by simp [measure]⟩

namespace DecisionDuty

variable {d : DecisionDuty Script}

/-- Asking for a further page leaves fewer pages, or gives none. -/
theorem ask_measure (hservice : d.service = Script.service) (h : Host Script) (task : DecisionTask)
    (token : String) {next : Collection}
    (hnext : ((d.ask 0 (some token) h).2.progress (.further task token) :
      Progress Collection (Except Error (Option DecisionTask))).next? = some next) :
    next.measure (d.ask 0 (some token) h).1.service < Script.pagesLeft h.service.pages + 1 := by
  obtain ⟨answer, rfl⟩ := Reply.exists_of_next? hnext
  have hpages : (d.ask 0 (some token) h).1.service.pages
      = (Script.takePage token h.service.pages).1 := by
    rw [ask, hservice]
    rfl
  rcases Script.takePage_pagesLeft token h.service.pages with hless | hrefused
  · refine (Collection.measure_le _ answer).2 task token |>.trans_lt ?_
    rw [hpages]
    exact Nat.succ_lt_succ hless
  · have hreply : (d.ask 0 (some token) h).2
        = .after 0 (.given (.error (Script.unknownToken token))) := by
      rw [ask, hservice]
      exact congrArg Prod.snd hrefused
    rw [hreply] at hnext
    cases hnext
    exact Nat.succ_pos _

/-- A decision task is collected from a script in finitely many steps. -/
theorem poll_measure (hservice : d.service = Script.service) (h : Host Script)
    {state next : Collection} (hnext : (d.poll 0 h state).2.next? = some next) :
    next.measure (d.poll 0 h state).1.service < state.measure h.service := by
  have hcollect (task : DecisionTask) (token : Option String) {next : Collection}
      (hnext : (d.collect 0 h task token).2.next? = some next) :
      next.measure (d.collect 0 h task token).1.service
        < Script.pagesLeft h.service.pages + 1 := by
    cases token with
    | none => cases hnext
    | some token => exact d.ask_measure hservice h task token hnext
  cases state with
  | start =>
      obtain ⟨answer, rfl⟩ := Reply.exists_of_next? hnext
      have hpages : (d.poll 0 h .start).1.service.pages = h.service.pages := by
        rw [poll, ask, hservice]
        rfl
      refine (Collection.measure_le _ answer).1.trans_lt ?_
      rw [hpages]
      exact Nat.lt_succ_self _
  | first answer =>
      rcases answer with (e | _ | page) | message
      · cases hnext
      · cases hnext
      · exact hcollect _ _ hnext
      · cases hnext
  | further task token answer =>
      rcases answer with (e | _ | page) | message
      · cases hnext
      · cases hnext
      · exact hcollect _ _ hnext
      · cases hnext

/-- A decision task is decided, and then answered. -/
theorem ends {State : Type} (d : DecisionDuty State) : d.source.Ends := by
  have hsubmitted (answer : Answer (Remote PUnit)) :
      Acc d.source.Next (.decision (.submitted answer)) := by
    refine ⟨_, fun next ⟨now, h, hnext⟩ => ?_⟩
    obtain ⟨state, hstate, -⟩ := exists_of_source_next? hnext
    cases (d.process_submitted now h answer).2.symm.trans hstate
  refine ⟨fun job => ?_⟩
  rcases job with (task | answer) | state
  · refine ⟨_, fun next ⟨now, h, hnext⟩ => ?_⟩
    obtain ⟨state, hstate, rfl⟩ := exists_of_source_next? hnext
    obtain ⟨answer, rfl⟩ := exists_of_process_collected hstate
    exact hsubmitted answer
  · exact hsubmitted answer
  · refine ⟨_, fun next ⟨now, h, hnext⟩ => ?_⟩
    cases hnext

/-- Decision tasks from a script lead somewhere. -/
theorem settles (hservice : d.service = Script.service) : d.source.Settles := by
  refine PollSource.settles_of_measure d.ends (fun h fetch => fetch.measure h.service)
    fun h fetch next hnext => ?_
  cases fetch with
  | decision state =>
      obtain ⟨state', hstate, rfl⟩ := Progress.exists_of_next?_mapPoll hnext
      exact d.poll_measure hservice h hstate
  | task state => cases hnext

end DecisionDuty

/-- Tasks lead somewhere, whatever the service is. -/
theorem TaskDuty.settles {State : Type} (d : TaskDuty State) : d.source.Settles := by
  -- The script does not matter: a poll for a task makes two steps.
  refine PollSource.settles_of_measure d.ends (fun _ fetch => fetch.measure .empty)
    fun h fetch next hnext => ?_
  cases fetch with
  | task state =>
      obtain ⟨state', hstate, rfl⟩ := Progress.exists_of_next?_mapPoll hnext
      cases state with
      | start =>
          obtain ⟨answer, rfl⟩ := Reply.exists_of_next? hstate
          exact Nat.zero_lt_one
      | answered answer => rcases answer with (e | assignment) | message <;> cases hstate
  | decision state => cases hnext

/-! ### The loop and single polls -/

/-- The sources of workers whose service follows a script. -/
inductive Scripted : PollSource (Host Script) Fetching Working → Prop
  | decision (registry : Registry) (request : PollRequest) :
      Scripted (DecisionDuty.source ⟨Script.service, registry, request⟩)
  | task (registry : TaskRegistry) (request : PollRequest) :
      Scripted (TaskDuty.source ⟨Script.service, registry, request⟩)

/-- **Running and polling again and again do the same work.**  Up to any moment at which it has not
been asked to stop, the loop of a poller with one slot has made calls with which those begin that
single polls make, one after the other, of the same script: the same calls with the same arguments,
in the same order. -/
theorem Scripted.asked_prefix_polledOnce {src : PollSource (Host Script) Fetching Working}
    (hsrc : Scripted src) {s : PollerSettings} (hslots : s.concurrency ≤ 1) (script : Script)
    (fresh : FreshTexts) {w : World (Host Script) Fetching Working}
    (hrun : World.Unfolds (.start script fresh) [(src, s)] w) :
    ∃ w' again, World.PolledOnce src s (.start script fresh) w' again ∧
      w.env.asked <+: w'.env.asked := by
  have htimeless : src.Timeless Host.Alike Host.asked := by
    cases hsrc with
    | decision registry request => exact DecisionDuty.timeless _
    | task registry request => exact TaskDuty.timeless _
  have hsettles : src.Settles := by
    cases hsrc with
    | decision registry request => exact DecisionDuty.settles rfl
    | task registry request => exact TaskDuty.settles _
  obtain ⟨p, host, round, hlockstep⟩ := hrun.exists_lockstep htimeless (.refl _) hslots
  obtain ⟨w', again, hpolled, hasked⟩ :=
    hlockstep.sequence.exists_polledOnce htimeless (.refl _) hsettles
  exact ⟨w', again, hpolled, hlockstep.same.asked ▸ hasked⟩

/-- A worker whose executor gives a sign of life, and a service with one task, which then fails. -/
theorem Scripted.asked_prefix_polledOnce_oneTask :
    let registry : TaskRegistry := ⟨[(⟨"charge", "1"⟩, fun _ _ =>
      .sleep 500 (.heartbeat (some "half") fun _ => .finish (.completed (some "7"))))]⟩
    let request : PollRequest := ⟨"default", "default", "worker-1"⟩
    let task : TaskAssignment := ⟨"token-1", "charge-1", ⟨"charge", "1"⟩, none, ⟨"", ""⟩, 0⟩
    let src := TaskDuty.source ⟨Script.service, registry, request⟩
    let script : Script := { Script.empty with
      taskPolls := [⟨20, .given (some task)⟩, ⟨0, .refused (.transient "busy")⟩] }
    let settings := PollerSettings.standard
    ∃ w w' again,
      (World.start (.start script ⟨toString, 0⟩) [(src, settings)]).runTo 2000 50 = some w ∧
      w.env.asked = [.pollTask request, .heartbeat "token-1" (some "half"),
        .report "token-1" (.completed (some "7")), .pollTask request, .pollTask request] ∧
      World.PolledOnce src settings (.start script ⟨toString, 0⟩) w' again ∧
      w.env.asked <+: w'.env.asked := by
  intro registry request task src script settings
  have hasked : ((World.start (.start script ⟨toString, 0⟩) [(src, settings)]).runTo 2000 50).map
      (·.env.asked) = some [.pollTask request, .heartbeat "token-1" (some "half"),
        .report "token-1" (.completed (some "7")), .pollTask request, .pollTask request] := by
    decide +kernel
  obtain ⟨w, hrun, hcalls⟩ := Option.map_eq_some_iff.mp hasked
  have hsrc : Scripted src := .task registry request
  have hslots : settings.concurrency ≤ 1 := Nat.le_refl 1
  obtain ⟨w', again, hpolled, hinitial⟩ :=
    hsrc.asked_prefix_polledOnce hslots script ⟨toString, 0⟩ (World.Unfolds.start.runTo hrun).1
  exact ⟨w, w', again, hrun, hcalls, hpolled, hinitial⟩

end DurableWorkflow
