import DurableWorkflow.Proofs.History.Recorder
import DurableWorkflow.Service.Script
import DurableWorkflow.Worker.Decision

/-!
# Deliveries

A decision task may come in any number of pages, its events in any order and repeatedly.  What is
decided does not depend on it.

## Main Definitions

* `DecisionDuty.collectAll`: a poll from one answer of the service to the next.
* `Announced`, `Delivers`: the pages that a service hands out one after the other.
* `HistoryPage.heading`: what the first page says besides its events.

## Main Statements

* `Delivers.collectAll`: a poll of a service that delivers pages gives the task of all pages.
* `Delivers.same_decision`: two deliveries of one complete history lead to the same log, the same
  cycle and the same submission.

## Design Notes

Services are arbitrary and may have states of different types.  Of a delivery only what the worker
asks for is described: the answers to the poll and to the requests for the announced pages.
-/

namespace DurableWorkflow

/-- What a page says besides its events and the page that follows. -/
def HistoryPage.heading (page : HistoryPage) : HistoryPage :=
  { page with events := [], nextPageToken := none }

/-- The task with the events of further pages. -/
def DecisionTask.extendAll (task : DecisionTask) (pages : List HistoryPage) : DecisionTask :=
  pages.foldl extend task

/-- The log of a task. -/
def DecisionTask.log (task : DecisionTask) : Except Error EventLog :=
  EventLog.assemble task.events task.previousStartedEventId

theorem DecisionTask.extendAll_eq (task : DecisionTask) (pages : List HistoryPage) :
    task.extendAll pages = { task with events := task.events ++ pages.flatMap (·.events) } := by
  induction pages generalizing task with
  | nil => simp [extendAll]
  | cons page pages ih =>
      have hstep := ih (task.extend page)
      simp only [extendAll, List.foldl_cons, List.flatMap_cons] at hstep ⊢
      rw [hstep]
      simp [extend, List.append_assoc]

/-! ### Polls -/

namespace DecisionDuty

variable {State : Type} (d : DecisionDuty State)

/-- A poll up to its end: each step goes on when the answer to the one before has come.  A poll that
has not ended after as many steps as are given gives nothing. -/
def collectAll : Nat → Time → Host State → Collection →
    Option (Host State × Except Error (Option DecisionTask))
  | 0, _, _, _ => none
  | steps + 1, now, h, state =>
    match d.poll now h state with
    | (h, .done result) => some (h, result)
    | (h, .wait ms next) => collectAll steps (now + ms) h next
    | (h, .yield next) => collectAll steps now h next
    | (_, .crash _) | (_, .never) => none

end DecisionDuty

variable {State : Type} {d : DecisionDuty State}

/-- The pages that a service hands out from one that has announced the next. -/
inductive Announced (d : DecisionDuty State) :
    State → Option String → List HistoryPage → State → Prop
  | last {service : State} : Announced d service none [] service
  | page {service service₁ service₂ : State} {token : String} {ms : Nat} {page : HistoryPage}
      {rest : List HistoryPage}
      (hanswer : d.service.pollDecision d.request (some token) service
        = (service₁, .after ms (.given (.ok (some page)))))
      (hrest : Announced d service₁ page.nextPageToken rest service₂) :
      Announced d service (some token) (page :: rest) service₂

/-- The pages of a decision task that a service hands out. -/
structure Delivers (d : DecisionDuty State) (service : State) (first : HistoryPage)
    (rest : List HistoryPage) (service' : State) : Prop where
  exists_answer : ∃ service₁ ms, d.service.pollDecision d.request none service
      = (service₁, .after ms (.given (.ok (some first)))) ∧
    Announced d service₁ first.nextPageToken rest service'

/-- A poll that goes on with a task collects the pages that are announced. -/
theorem Announced.collectAll {service service' : State} {token : Option String}
    {rest : List HistoryPage} (hrest : Announced d service token rest service') {now : Time}
    {h : Host State} (hservice : h.service = service) {state : Collection} {task : DecisionTask}
    (hpoll : d.poll now h state = d.collect now h task token) :
    ∃ h', d.collectAll (rest.length + 1) now h state = some (h', .ok (some (task.extendAll rest))) ∧
      h'.service = service' ∧ h'.fresh = h.fresh ∧ h'.handled = h.handled := by
  induction hrest generalizing now h state task with
  | last =>
      refine ⟨h, ?_, hservice, rfl, rfl⟩
      rw [DecisionDuty.collectAll, hpoll]
      rfl
  | @page service service₁ service₂ token ms page rest hanswer hrest ih =>
      let asked : Host State :=
        { h with
          service := service₁, calls := h.calls ++ [(now, .pollDecision d.request (some token))] }
      have hstep : d.poll now h state
          = (asked, .wait ms (.further task token (.given (.ok (some page))))) := by
        rw [hpoll, DecisionDuty.collect, DecisionDuty.ask, Host.call, hservice, hanswer]
        rfl
      have hnext : d.poll (now + ms) asked (.further task token (.given (.ok (some page))))
          = d.collect (now + ms) asked (task.extend page) page.nextPageToken := rfl
      obtain ⟨h', hrun, hservice', hfresh, hhandled⟩ := ih (h := asked) rfl hnext
      refine ⟨h', ?_, hservice', hfresh, hhandled⟩
      rw [List.length_cons, DecisionDuty.collectAll, hstep]
      exact hrun

/-- **A poll of a service that delivers pages gives the task of all pages.** -/
theorem Delivers.collectAll {service' : State} {first : HistoryPage} {rest : List HistoryPage}
    {h : Host State} (hdelivers : Delivers d h.service first rest service') (now : Time) :
    ∃ h', d.collectAll (rest.length + 2) now h .start
        = some (h', .ok (some ((DecisionTask.ofFirstPage d.request.domain first).extendAll rest))) ∧
      h'.service = service' ∧ h'.fresh = h.fresh ∧ h'.handled = h.handled := by
  obtain ⟨service₁, ms, hanswer, hrest⟩ := hdelivers.exists_answer
  let asked : Host State :=
    { h with service := service₁, calls := h.calls ++ [(now, .pollDecision d.request none)] }
  have hstep : d.poll now h .start = (asked, .wait ms (.first (.given (.ok (some first))))) := by
    rw [DecisionDuty.poll, DecisionDuty.ask, Host.call, hanswer]
    rfl
  have hnext : d.poll (now + ms) asked (.first (.given (.ok (some first))))
      = d.collect (now + ms) asked (.ofFirstPage d.request.domain first) first.nextPageToken := rfl
  obtain ⟨h', hrun, hservice', hfresh, hhandled⟩ := hrest.collectAll (h := asked) rfl hnext
  refine ⟨h', ?_, hservice', hfresh, hhandled⟩
  rw [DecisionDuty.collectAll, hstep]
  exact hrun

/-! ### Two deliveries -/

namespace DecisionDuty

/-- The log of a delivered task is the history, in whatever order it has come. -/
theorem log_of_delivered {first : HistoryPage} {rest : List HistoryPage} {history : List Event}
    (hhistory : Numbered history) (domain : String)
    (hmem : ∀ e, e ∈ (first :: rest).flatMap (·.events) ↔ e ∈ history) :
    ((DecisionTask.ofFirstPage domain first).extendAll rest).log
      = if history = [] then .error .emptyHistory
        else .ok ⟨history, first.previousStartedEventId⟩ := by
  rw [DecisionTask.extendAll_eq, DecisionTask.log]
  simp only [DecisionTask.ofFirstPage]
  rw [List.flatMap_cons] at hmem
  split
  · next hempty =>
      have hnone : first.events ++ rest.flatMap (·.events) = [] := by
        refine List.eq_nil_iff_forall_not_mem.mpr fun e he => ?_
        rw [hmem, hempty] at he
        simp at he
      rw [hnone]
      rfl
  · next hne => exact EventLog.assemble_of_mem_iff hhistory hne hmem _

variable {State₁ State₂ : Type}

/-- Two duties with one registry decide a task alike if its log is the same. -/
theorem decide_eq {d₁ : DecisionDuty State₁} {d₂ : DecisionDuty State₂} {h₁ : Host State₁}
    {h₂ : Host State₂} {task₁ task₂ : DecisionTask} (hregistry : d₁.registry = d₂.registry)
    (hfresh : h₁.fresh = h₂.fresh) (hlog : task₁.log = task₂.log)
    (hworkflow : task₁.workflow = task₂.workflow) :
    d₁.decide h₁ task₁ = d₂.decide h₂ task₂ := by
  simp only [DecisionTask.log] at hlog
  simp only [decide, hregistry, hfresh, hlog, hworkflow]

/-- Two first steps of one task, as far as they do not depend on the answer to the submission: the
calls that are made, the contexts that handlers see, the fresh texts that are left, what the pollers
are seen to do, and the end of a task that is not submitted. -/
structure SameStep (h₁ : Host State₁) (h₂ : Host State₂) (step₁ : UnitStep (Host State₁) Deciding)
    (step₂ : UnitStep (Host State₂) Deciding) : Prop where
  calls : ∃ made, step₁.env.calls = h₁.calls ++ made ∧ step₂.env.calls = h₂.calls ++ made
  handled : ∃ seen, step₁.env.handled = h₁.handled ++ seen ∧ step₂.env.handled = h₂.handled ++ seen
  fresh : step₁.env.fresh = step₂.env.fresh
  entered : step₁.entered = step₂.entered
  notices : step₁.notices = step₂.notices
  progress : step₁.env.calls = h₁.calls → step₁.progress = step₂.progress

variable {d₁ : DecisionDuty State₁} {d₂ : DecisionDuty State₂} {h₁ : Host State₁} {h₂ : Host State₂}
  {task₁ task₂ : DecisionTask}

/-- A task that is decided alike is submitted alike. -/
theorem process_same (now : Time) (hfresh : h₁.fresh = h₂.fresh)
    (htoken : task₁.taskToken = task₂.taskToken)
    (hdecide : d₁.decide h₁ task₁ = d₂.decide h₂ task₂) :
    SameStep h₁ h₂ (d₁.process now h₁ (.collected task₁))
      (d₂.process now h₂ (.collected task₂)) := by
  cases hcycle : d₂.decide h₂ task₂ with
  | error e =>
      rw [hcycle] at hdecide
      simp only [process, hdecide, hcycle]
      exact ⟨⟨[], by simp, by simp⟩, ⟨[], by simp, by simp⟩, hfresh, rfl, rfl, fun _ => rfl⟩
  | ok cycle =>
      rw [hcycle] at hdecide
      simp only [process, hdecide, hcycle]
      cases cycle.ending with
      | failed | crashed =>
          exact ⟨⟨[], by simp, by simp⟩, ⟨cycle.handled, rfl, rfl⟩, rfl, rfl, rfl, fun _ => rfl⟩
      | decided batch =>
          refine ⟨⟨[(now, .submit task₁.taskToken batch)], rfl, by rw [htoken]; rfl⟩,
            ⟨cycle.handled, rfl, rfl⟩, rfl, rfl, rfl, fun hnone => ?_⟩
          simp [Host.call] at hnone

/-- A task is submitted with the decisions of its cycle. -/
theorem process_submits {d : DecisionDuty State} {h : Host State} {task : DecisionTask}
    {cycle : Cycle} {batch : DecisionBatch} (now : Time) (hcycle : d.decide h task = .ok cycle)
    (hbatch : cycle.ending = .decided batch) :
    (d.process now h (.collected task)).env.calls
      = h.calls ++ [(now, .submit task.taskToken batch)] := by
  simp only [process, hcycle, hbatch]
  rfl

end DecisionDuty

/-- **What is decided does not depend on how a history was delivered.**  Two workers with one
registry and one supply of fresh texts collect the same complete history, each from its own service,
in pages, order and repetitions of its own.  Then both polls end with a task, both tasks have the
same log, cycles over it end alike, and what is submitted is the same. -/
theorem Delivers.same_decision {State₁ State₂ : Type} {d₁ : DecisionDuty State₁}
    {d₂ : DecisionDuty State₂} (hregistry : d₁.registry = d₂.registry)
    (hdomain : d₁.request.domain = d₂.request.domain) {h₁ : Host State₁} {h₂ : Host State₂}
    (hfresh : h₁.fresh = h₂.fresh) {first₁ first₂ : HistoryPage} {rest₁ rest₂ : List HistoryPage}
    {service₁ : State₁} {service₂ : State₂}
    (hdelivers₁ : Delivers d₁ h₁.service first₁ rest₁ service₁)
    (hdelivers₂ : Delivers d₂ h₂.service first₂ rest₂ service₂)
    (hheading : first₁.heading = first₂.heading) {history : List Event}
    (hhistory : Numbered history)
    (hmem₁ : ∀ e, e ∈ (first₁ :: rest₁).flatMap (·.events) ↔ e ∈ history)
    (hmem₂ : ∀ e, e ∈ (first₂ :: rest₂).flatMap (·.events) ↔ e ∈ history)
    (start₁ start₂ now : Time) :
    ∃ host₁ host₂ task₁ task₂,
      d₁.collectAll (rest₁.length + 2) start₁ h₁ .start = some (host₁, .ok (some task₁)) ∧
      d₂.collectAll (rest₂.length + 2) start₂ h₂ .start = some (host₂, .ok (some task₂)) ∧
      (history ≠ [] → ∃ log, task₁.log = .ok log ∧ task₂.log = .ok log ∧ log.events = history) ∧
      (history = [] → task₁.log = .error .emptyHistory ∧ task₂.log = .error .emptyHistory) ∧
      d₁.decide host₁ task₁ = d₂.decide host₂ task₂ ∧
      (∀ cycle batch, d₁.decide host₁ task₁ = .ok cycle → cycle.ending = .decided batch →
        (d₁.process now host₁ (.collected task₁)).env.calls
            = host₁.calls ++ [(now, .submit first₁.taskToken batch)] ∧
          (d₂.process now host₂ (.collected task₂)).env.calls
            = host₂.calls ++ [(now, .submit first₁.taskToken batch)]) ∧
      DecisionDuty.SameStep host₁ host₂ (d₁.process now host₁ (.collected task₁))
        (d₂.process now host₂ (.collected task₂)) := by
  obtain ⟨host₁, hrun₁, -, hfresh₁, -⟩ := hdelivers₁.collectAll start₁
  obtain ⟨host₂, hrun₂, -, hfresh₂, -⟩ := hdelivers₂.collectAll start₂
  have hlog₁ := DecisionDuty.log_of_delivered hhistory d₁.request.domain hmem₁
  have hlog₂ := DecisionDuty.log_of_delivered hhistory d₂.request.domain hmem₂
  simp only [HistoryPage.heading, HistoryPage.mk.injEq, and_true] at hheading
  obtain ⟨htoken, hexecution, htype, hprevious, hstarted⟩ := hheading
  have hsame : host₁.fresh = host₂.fresh := by rw [hfresh₁, hfresh₂, hfresh]
  -- What is decided depends on the events through the log alone, and both logs are the history.
  have hdecide := DecisionDuty.decide_eq hregistry hsame (hlog₁.trans (by rw [hlog₂, hprevious]))
    (by simp [DecisionTask.extendAll_eq, DecisionTask.ofFirstPage, hdomain, hexecution, htype,
      hstarted])
  have htokens : ((DecisionTask.ofFirstPage d₁.request.domain first₁).extendAll rest₁).taskToken
      = ((DecisionTask.ofFirstPage d₂.request.domain first₂).extendAll rest₂).taskToken := by
    simp [DecisionTask.extendAll_eq, DecisionTask.ofFirstPage, htoken]
  refine ⟨host₁, host₂, _, _, hrun₁, hrun₂, ?_, ?_, hdecide, ?_,
    DecisionDuty.process_same now hsame htokens hdecide⟩
  · intro hne
    rw [if_neg hne] at hlog₁ hlog₂
    exact ⟨_, hlog₁, hprevious ▸ hlog₂, rfl⟩
  · intro hempty
    rw [if_pos hempty] at hlog₁ hlog₂
    exact ⟨hlog₁, hlog₂⟩
  · intro cycle batch hcycle hbatch
    have hsubmits₁ := DecisionDuty.process_submits now hcycle hbatch
    have hsubmits₂ := DecisionDuty.process_submits now (hdecide ▸ hcycle) hbatch
    rw [← htokens] at hsubmits₂
    simp only [DecisionTask.extendAll_eq, DecisionTask.ofFirstPage] at hsubmits₁ hsubmits₂ ⊢
    exact ⟨hsubmits₁, hsubmits₂⟩

/-! ### A delivery that repeats everything -/

/-- A worker without handlers. -/
def DecisionDuty.idle : DecisionDuty Script :=
  ⟨Script.service, .empty, ⟨"test-domain", "list", "w"⟩⟩

/-- A page of the first decision task of a run. -/
def HistoryPage.ofFirstTask (events : List Event) (nextPageToken : Option String) : HistoryPage :=
  ⟨"token", ⟨"wf-1", "run-1"⟩, ⟨"order", "1"⟩, 0, 3, events, nextPageToken⟩

/-- A service that hands out a first page, and further ones by their tokens. -/
def Script.ofPages (first : HistoryPage) (rest : List (String × HistoryPage)) : Script :=
  { empty with
    decisionPolls := [⟨0, .given (some first)⟩]
    pages := rest.map fun entry => (entry.1, [⟨0, .given (some entry.2)⟩]) }

/-- The history of a run that has just been started, on one page, or with the oldest events first
and then all of it again. -/
theorem Delivers.same_decision_repeated :
    let history := (Recorder.start ⟨"order", "1"⟩ none).events
    let fresh : FreshTexts := ⟨toString, 0⟩
    ∃ host₁ host₂ task₁ task₂,
      DecisionDuty.idle.collectAll 2 0
          (.start (.ofPages (.ofFirstTask history none) []) fresh) .start
        = some (host₁, .ok (some task₁)) ∧
      DecisionDuty.idle.collectAll 3 0
          (.start (.ofPages (.ofFirstTask history.reverse (some "next"))
            [("next", .ofFirstTask history none)]) fresh) .start
        = some (host₂, .ok (some task₂)) ∧
      DecisionDuty.idle.decide host₁ task₁ = DecisionDuty.idle.decide host₂ task₂ := by
  intro history fresh
  have hhistory : Numbered history := ⟨rfl, rfl, rfl, trivial⟩
  obtain ⟨host₁, host₂, task₁, task₂, hrun₁, hrun₂, -, -, hdecide, -⟩ :=
    @Delivers.same_decision Script Script .idle .idle rfl rfl
      (.start (.ofPages (.ofFirstTask history none) []) fresh)
      (.start (.ofPages (.ofFirstTask history.reverse (some "next"))
        [("next", .ofFirstTask history none)]) fresh) rfl _ _ _ _ _ _
      ⟨⟨_, 0, rfl, .last⟩⟩ ⟨⟨_, 0, rfl, .page rfl .last⟩⟩ rfl history hhistory
      (by simp [HistoryPage.ofFirstTask]) (by simp [HistoryPage.ofFirstTask]) 0 0 0
  exact ⟨host₁, host₂, task₁, task₂, hrun₁, hrun₂, hdecide⟩

end DurableWorkflow
