import DurableWorkflow.Proofs.Polling.Settlement

/-!
# What a poller is seen to do

A poller that processes one unit at a time shows its activities in a fixed order, although its loop
and its unit show them independently of each other: while a unit is in flight no poll is started,
and the slot of the unit is given back only after the unit has shown its last activity.

## Main Definitions

* `Activity.next`: the activities that follow on one another as a rule.
* `Activity.IsCourse`: what may be shown in turn, with the one exception to the rule.
* `PollSource.Guides`: the units of a source show activities in that order.
* `Poller.Course`: what a poller has been seen to do, and how it came to its end.

## Main Statements

* `Poller.Run.course`: what every run of a poller is seen to do.

## Design Notes

A poller starts idle, so its course starts with an activity that has not been shown.  A unit that
breaks off leaves its last activity standing.  If that stops the poller, the order is kept.  A task
does not stop its poller, and breaks off only with its report: the loop then polls again from a
report.  Courses allow for this step after such a unit only, which is why they are told together
with what had been shown when units had broken off.
-/

namespace DurableWorkflow

/-- What a poller is for. -/
inductive Duty where
  | deciding
  | executing
  deriving DecidableEq, Repr

namespace Activity

/-- What a poller is seen to do next, unless it stops or its unit has broken off. -/
def next (duty : Duty) : Activity → List Activity
  | .idle => [.polling]
  | .polling =>
    match duty with
    | .deciding => [.idle, .dispatching]
    | .executing => [.idle, .executing]
  | .dispatching => [.reporting, .idle]
  | .executing => [.reporting]
  | .reporting => [.idle]
  | .stopped => []

/-- A unit is seen to be in flight. -/
def isWorking : Activity → Bool
  | .dispatching | .executing | .reporting => true
  | .idle | .polling | .stopped => false

/-- The last of the activities that have been shown, the latest first. -/
def current (shown : List Activity) : Activity := shown.headD .idle

/-- What a poller may be seen to do after the activities that it has shown, the latest first.  There
is one exception to the rule: a poller for tasks whose unit has broken off with its report polls
again, without having been idle. -/
inductive Follows (duty : Duty) (broken : List Activity → Prop) (shown : List Activity) :
    Activity → Prop
  | next {a : Activity} (hnext : a ∈ (current shown).next duty) : Follows duty broken shown a
  | again (hduty : duty = .executing) (hshows : current shown = .reporting)
      (hbroken : broken shown) : Follows duty broken shown .polling

/-- Each of the activities that have been shown, the latest first, may follow on those before it. -/
inductive IsCourse (duty : Duty) (broken : List Activity → Prop) : List Activity → Prop
  | nil : IsCourse duty broken []
  | cons {a : Activity} {shown : List Activity} (hshown : IsCourse duty broken shown)
      (ha : Follows duty broken shown a) : IsCourse duty broken (a :: shown)

variable {duty : Duty} {broken : List Activity → Prop} {shown : List Activity}

theorem stopped_notMem_next (duty : Duty) (a : Activity) : .stopped ∉ a.next duty := by
  cases a <;> cases duty <;> decide

theorem current_append (entered shown : List Activity) :
    current (entered.reverse ++ shown) = entered.getLastD (current shown) := by
  rcases List.eq_nil_or_concat entered with rfl | ⟨front, last, rfl⟩ <;> simp [current]

namespace IsCourse

/-- Activities that follow on one another as a rule are shown in turn. -/
theorem append (h : IsCourse duty broken shown) {entered : List Activity}
    (hentered : List.IsChain (fun a b => b ∈ a.next duty) (current shown :: entered)) :
    IsCourse duty broken (entered.reverse ++ shown) := by
  induction entered generalizing shown with
  | nil => exact h
  | cons a entered ih =>
      obtain ⟨ha, hrest⟩ := List.isChain_cons_cons.mp hentered
      have hshown : IsCourse duty broken (a :: shown) := h.cons (.next ha)
      rw [List.reverse_cons, List.append_assoc]
      exact ih hshown hrest

/-- No stop follows on anything, so none is among the activities of a course. -/
theorem stopped_notMem (h : IsCourse duty broken shown) : .stopped ∉ shown := by
  induction h with
  | nil => exact List.not_mem_nil
  | cons hshown ha ih =>
      intro hmem
      rcases List.mem_cons.mp hmem with rfl | hmem
      · cases ha with
        | next hnext => exact stopped_notMem_next duty _ hnext
      · exact ih hmem

end IsCourse

end Activity

variable {Env Fetch Job : Type}

/-- The units of a source show activities in order.  A unit starts where its poll has been seen; its
steps show what may follow on the state that they start from, and lead to the state that they have
shown; it comes to its end where a poller may be idle; and if it breaks off, it stops the poller, or
it is a task that is being reported. -/
structure PollSource.Guides (src : PollSource Env Fetch Job) (duty : Duty)
    (shows : Job → Activity) : Prop where
  starts : ∀ now env fetch job, (src.poll now env fetch).2 = .done (.ok (some job)) →
    shows job = .polling
  enters : ∀ now env job, List.IsChain (fun a b => b ∈ a.next duty)
    (shows job :: (src.process now env job).entered)
  goesOn : ∀ now env job state, (src.process now env job).progress.next? = some state →
    shows state = (src.process now env job).entered.getLastD (shows job)
  ends : ∀ now env job result, (src.process now env job).progress = .done result →
    .idle ∈ ((src.process now env job).entered.getLastD (shows job)).next duty
  breaks : ∀ now env job message, (src.process now env job).progress = .crash message →
    src.isFatal (.unitPanicked src.kind message) = true ∨
      duty = .executing ∧ (src.process now env job).entered.getLastD (shows job) = .reporting

namespace Poller

open Activity (IsCourse current)

/-- The last unit has broken off. -/
def Panicked (src : PollSource Env Fetch Job) (deeds : List (Deed Env Fetch Job)) : Prop :=
  ∃ n job message, n + 1 = (polled src deeds).length ∧ (polled src deeds)[n]? = some job ∧
    src.Works job (strides n deeds) (.crash message)

/-- The poller had shown these activities when its last unit had broken off. -/
def BrokenOff (src : PollSource Env Fetch Job) (s : PollerSettings)
    (deeds : List (Deed Env Fetch Job)) (shown : List Activity) : Prop :=
  ∃ front p, front <+: deeds ∧ Run src s front p ∧ p.shown = shown ∧ Panicked src front

/-- The last unit has been aborted after the loop has waited for it. -/
def Aborted (src : PollSource Env Fetch Job) (s : PollerSettings)
    (deeds : List (Deed Env Fetch Job)) : Prop :=
  ∃ n, n + 1 = (polled src deeds).length ∧ n ∈ abandoned deeds ∧ Expired s deeds

/-- What a poller has been seen to do: activities that may follow on one another and, once its loop
has come to its end, a stop after all of them.  The stop follows on work only if the unit in flight
has broken off or has been aborted. -/
def Course (src : PollSource Env Fetch Job) (duty : Duty) (s : PollerSettings)
    (deeds : List (Deed Env Fetch Job)) (p : Poller Fetch Job) : Prop :=
  match p.stage with
  | .starting | .seeking | .polling .. | .pausing _ | .draining .. | .crashed _ =>
    IsCourse duty (BrokenOff src s deeds) p.shown ∧ .stopped ∉ p.shown
  | .ended _ => ∃ shown, p.shown = .stopped :: shown ∧
    IsCourse duty (BrokenOff src s deeds) shown ∧ .stopped ∉ shown ∧
    ((current shown).isWorking → Panicked src deeds ∨ Aborted src s deeds)

/-- The loop is left, or is going to be left with the error of its last unit. -/
def Leaving (src : PollSource Env Fetch Job) (p : Poller Fetch Job) : Prop :=
  p.IsDraining ∨ ∃ e, p.finished = [.error e] ∧ src.isFatal e = true

/-- Where the unit is that a poller may have in flight. -/
inductive InFlight (src : PollSource Env Fetch Job) (duty : Duty) (shows : Job → Activity)
    (deeds : List (Deed Env Fetch Job)) (p : Poller Fetch Job) : Prop
  /-- There is none. -/
  | idle (hrunning : p.running = []) (hshows : current p.shown = .idle)
  /-- It is the last one, and shows what it does as long as it goes on. -/
  | working {n : Nat} {job : Job} (hrunning : p.running = [(n, job)]) (hfinished : p.finished = [])
      (hlast : n + 1 = p.taken) (hshows : Alive deeds n → current p.shown = shows job)
  /-- It has broken off, and the poller does not go on, or shows a report when it does. -/
  | panicked (hrunning : p.running = []) (hpanicked : Panicked src deeds)
      (hleft : Leaving src p ∨ duty = .executing ∧ current p.shown = .reporting)

/-- What a poller that processes one unit at a time has shown at each stage of its loop. -/
def Orderly (src : PollSource Env Fetch Job) (duty : Duty) (broken : List Activity → Prop)
    (shows : Job → Activity) (s : PollerSettings) (deeds : List (Deed Env Fetch Job))
    (p : Poller Fetch Job) : Prop :=
  match p.stage with
  | .starting | .pausing _ =>
    IsCourse duty broken p.shown ∧ p.running = [] ∧ p.finished = [] ∧ current p.shown = .idle
  | .polling .. =>
    IsCourse duty broken p.shown ∧ p.running = [] ∧ p.finished = [] ∧ current p.shown = .polling
  | .seeking | .draining .. => IsCourse duty broken p.shown ∧ InFlight src duty shows deeds p
  | .ended _ => ∃ shown, p.shown = .stopped :: shown ∧ IsCourse duty broken shown ∧
    ((current shown).isWorking → (Panicked src deeds ∧ p.strays = []) ∨ Aborted src s deeds)
  | .crashed _ => IsCourse duty broken p.shown

variable {src : PollSource Env Fetch Job} {duty : Duty} {broken : List Activity → Prop}
  {shows : Job → Activity} {s : PollerSettings} {deeds : List (Deed Env Fetch Job)}
  {deed : Deed Env Fetch Job} {p p' : Poller Fetch Job}

/-! ### What stays -/

theorem Panicked.concat (h : Panicked src deeds) (hpolled : deed.polled? src = none)
    (hstride : ∀ n, deed.stride? n = none) : Panicked src (deeds ++ [deed]) := by
  obtain ⟨n, job, message, hlast, hjob, hworks⟩ := h
  have hpolls : polled src (deeds ++ [deed]) = polled src deeds := polled_concat_of_none hpolled
  refine ⟨n, job, message, hpolls ▸ hlast, hpolls ▸ hjob, ?_⟩
  rw [strides_concat_of_none (hstride n)]
  exact hworks

theorem Aborted.concat (h : Aborted src s deeds) (hpolled : deed.polled? src = none) :
    Aborted src s (deeds ++ [deed]) := by
  obtain ⟨n, hlast, habandoned, hexpired⟩ := h
  refine ⟨n, ?_, ?_, hexpired.concat deed⟩
  · rwa [polled_concat_of_none hpolled]
  · rw [abandoned_concat]
    exact List.mem_append_left _ habandoned

/-- What does not concern the unit in flight. -/
theorem InFlight.keep (h : InFlight src duty shows deeds p) (hpolled : deed.polled? src = none)
    (hstride : ∀ n, deed.stride? n = none) (hrunning : p'.running = p.running)
    (htaken : p'.taken = p.taken) (hshown : p'.shown = p.shown)
    (hfinished : p.finished = [] → p'.finished = [])
    (hleaving : Leaving src p → Leaving src p') :
    InFlight src duty shows (deeds ++ [deed]) p' := by
  cases h with
  | idle hnone hshows => exact .idle (hrunning.trans hnone) (hshown ▸ hshows)
  | working hone hempty hlast hshows =>
      refine .working (hrunning.trans hone) (hfinished hempty) (htaken ▸ hlast) fun halive => ?_
      rw [hshown]
      exact hshows halive.of_concat
  | panicked hnone hpanicked hleft =>
      refine .panicked (hrunning.trans hnone) (hpanicked.concat hpolled hstride) ?_
      rw [hshown]
      exact hleft.imp_left hleaving

/-- While a unit may be in flight, no poll is pending. -/
theorem not_isPolling (hstage : p.stage = .seeking ∨ p.IsDraining) : ¬ p.IsPolling := by
  rcases hstage with hstage | ⟨_, _, hstage⟩ <;> simp [IsPolling, hstage]

theorem polled?_eq_none {now : Time} {env : Env} (hstage : ¬ p.IsPolling) :
    p.polled? src now env = none := by
  unfold polled?
  split
  · next hpolling _ _ => exact absurd ⟨_, _, _, hpolling⟩ hstage
  · rfl

/-- What does not concern what is shown. -/
theorem Orderly.keep (h : Orderly src duty broken shows s deeds p)
    (hpolled : ¬ p.IsPolling → deed.polled? src = none) (hstride : ∀ n, deed.stride? n = none)
    (hstage : p'.stage = p.stage) (hrunning : p'.running = p.running)
    (hfinished : p'.finished = p.finished) (hstrays : p'.strays = p.strays)
    (htaken : p'.taken = p.taken) (hshown : p'.shown = p.shown) :
    Orderly src duty broken shows s (deeds ++ [deed]) p' := by
  have hquiet (hne : ¬ p.IsPolling) (hflight : InFlight src duty shows deeds p) :
      InFlight src duty shows (deeds ++ [deed]) p' := by
    refine hflight.keep (hpolled hne) hstride hrunning htaken hshown
      (fun hempty => hfinished.trans hempty) fun hleaving => ?_
    rwa [Leaving, IsDraining, hstage, hfinished]
  cases hcase : p.stage with
  | starting | pausing | polling | crashed =>
      simp only [Orderly, hcase] at h
      simpa only [Orderly, hstage, hcase, hrunning, hfinished, hshown] using h
  | seeking | draining =>
      simp only [Orderly, hcase] at h
      simp only [Orderly, hstage, hcase, hshown]
      exact ⟨h.1, hquiet (by simp [IsPolling, hcase]) h.2⟩
  | ended =>
      have hnone := hpolled (by simp [IsPolling, hcase])
      simp only [Orderly, hcase] at h
      simp only [Orderly, hstage, hcase, hshown, hstrays]
      obtain ⟨shown, hshows, hcourse, hworking⟩ := h
      refine ⟨shown, hshows, hcourse, fun hwork => (hworking hwork).imp ?_ ?_⟩
      · exact fun ⟨hpanicked, hgone⟩ => ⟨hpanicked.concat hnone hstride, hgone⟩
      · exact fun haborted => haborted.concat hnone

/-! ### Turns of the loop -/

/-- While a unit may be in flight, the poller shows what the unit does. -/
theorem Orderly.inFlight (h : Orderly src duty broken shows s deeds p)
    (hstage : p.stage = .seeking ∨ p.IsDraining) :
    IsCourse duty broken p.shown ∧ InFlight src duty shows deeds p := by
  rcases hstage with hstage | ⟨_, _, hstage⟩ <;> simpa only [Orderly, hstage] using h

/-- What is said of the unit in flight is all that is said while there may be one. -/
theorem InFlight.orderly (h : InFlight src duty shows deeds p)
    (hcourse : IsCourse duty broken p.shown) (hstage : p.stage = .seeking ∨ p.IsDraining) :
    Orderly src duty broken shows s deeds p := by
  rcases hstage with hstage | ⟨_, _, hstage⟩ <;> simpa only [Orderly, hstage] using ⟨hcourse, h⟩

/-- While a poll is pending, no unit is in flight. -/
theorem Orderly.polling (h : Orderly src duty broken shows s deeds p) (hstage : p.IsPolling) :
    IsCourse duty broken p.shown ∧ p.running = [] ∧ p.finished = [] ∧
      current p.shown = .polling := by
  obtain ⟨_, _, _, hstage⟩ := hstage
  simpa only [Orderly, hstage] using h

/-- After a poll that gives nothing, the poller may be idle. -/
theorem Orderly.polling_idle (h : Orderly src duty broken shows s deeds p) (hstage : p.IsPolling) :
    IsCourse duty broken (.idle :: p.shown) := by
  obtain ⟨hcourse, -, -, hshows⟩ := h.polling hstage
  refine hcourse.cons (.next ?_)
  rw [hshows]
  cases duty <;> exact List.mem_cons_self

/-- A loop that settles a result and goes on settles the result of a unit that has broken off only
if it shows a report. -/
theorem InFlight.settles {result : UnitResult} {rest : List UnitResult} {notices : List Notice}
    (h : InFlight src duty shows deeds p) (hpolled : deed.polled? src = none)
    (hstride : ∀ n, deed.stride? n = none) (hstage : p.stage = .seeking)
    (hfinished : p.finished = result :: rest) (hdismisses : Dismisses src p result notices) :
    InFlight src duty shows (deeds ++ [deed]) { p with finished := rest } := by
  cases h with
  | idle hnone hshows => exact .idle hnone hshows
  | working _ hempty => cases hfinished.symm.trans hempty
  | panicked hnone hpanicked hleft =>
      rcases hleft with (⟨_, _, hdraining⟩ | ⟨e, hresult, hfatal⟩) | hreporting
      · cases hstage.symm.trans hdraining
      · cases hfinished.symm.trans hresult
        cases hdismisses with
        | failure hpassing => cases hfatal.symm.trans hpassing
        | late hdraining =>
            obtain ⟨_, _, hdraining⟩ := hdraining
            cases hstage.symm.trans hdraining
      · exact .panicked hnone (hpanicked.concat hpolled hstride) (.inr hreporting)

/-- Work is shown without a unit in flight only if the last one has broken off. -/
theorem InFlight.panicked_of_isWorking (h : InFlight src duty shows deeds p)
    (hrunning : p.running = []) (hwork : (current p.shown).isWorking = true) :
    Panicked src deeds := by
  cases h with
  | idle _ hshows =>
      rw [hshows] at hwork
      cases hwork
  | working hone => cases hone.symm.trans hrunning
  | panicked _ hpanicked => exact hpanicked

/-- When the loop is left, it seeks a slot while its unit may be in flight, or all is done. -/
theorem Orderly.leaves (h : Orderly src duty broken shows s deeds p) {now : Time} {env : Env}
    {result : UnitResult} {shown : List Activity} {finished : List UnitResult}
    (hleaves : Leaves src s now env p result shown finished) :
    IsCourse duty broken shown ∧
      ((p.stage = .seeking ∧ InFlight src duty shows deeds p ∧ shown = p.shown ∧
          (p.finished = [] → finished = [])) ∨
        (p.running = [] ∧ finished = [] ∧ (current shown).isWorking = false)) := by
  cases hleaves with
  | stop hstage =>
      rcases hstage with hstage | hstage | ⟨_, hstage⟩
      · obtain ⟨hcourse, hflight⟩ := h.inFlight (.inl hstage)
        exact ⟨hcourse, .inl ⟨hstage, hflight, rfl, id⟩⟩
      · obtain ⟨hcourse, hrunning, hfinished, hshows⟩ := h.polling hstage
        exact ⟨hcourse, .inr ⟨hrunning, hfinished, hshows ▸ rfl⟩⟩
      · simp only [Orderly, hstage] at h
        obtain ⟨hcourse, hrunning, hfinished, hshows⟩ := h
        exact ⟨hcourse, .inr ⟨hrunning, hfinished, hshows ▸ rfl⟩⟩
  | unit hstage hfinished =>
      rcases hstage with hstage | hstage
      · obtain ⟨hcourse, hflight⟩ := h.inFlight (.inl hstage)
        refine ⟨hcourse, .inl ⟨hstage, hflight, rfl, fun hempty => ?_⟩⟩
        cases hfinished.symm.trans hempty
      · obtain ⟨-, -, hempty, -⟩ := h.polling hstage
        cases hfinished.symm.trans hempty
  | nothing hstage hfinished | failure hstage hfinished =>
      exact ⟨h.polling_idle hstage, .inr ⟨(h.polling hstage).2.1, hfinished, rfl⟩⟩

theorem Balanced.draining {lost : List Nat} (h : Balanced s lost p) (hstage : p.IsDraining) :
    lost = [] := by
  obtain ⟨_, _, hstage⟩ := hstage
  simp only [Balanced, hstage] at h
  exact h.2

/-- Nothing is left of aborted units while the loop goes on, or waits. -/
theorem Run.strays_eq_nil (h : Run src s deeds p) (hstage : p.stage = .seeking ∨ p.IsDraining) :
    p.strays = [] := by
  have hlost : abandoned deeds = [] := by
    rcases hstage with hstage | hstage
    · exact (h.balanced.looping (.inl hstage)).2
    · exact h.balanced.draining hstage
  refine List.eq_nil_iff_forall_not_mem.mpr fun x hx => ?_
  have hmem := h.ledger.strays x hx
  rw [hlost] at hmem
  cases hmem

/-- **A turn of the loop keeps the order**, whichever move it makes.  The slot is free when the loop
polls, so no unit is in flight then; and the unit in flight when the loop ends has been waited for,
unless it has broken off or is aborted. -/
theorem Orderly.turn (h : Orderly src duty broken shows s deeds p) (hguides : src.Guides duty shows)
    (hone : s.concurrency ≤ 1) (hrun : Run src s deeds p)
    (hbroken : Panicked src deeds → broken p.shown) (now : Time) (env : Env) :
    Orderly src duty broken shows s (deeds ++ [.turned now env p (p.turn src s now env)])
      (p.turn src s now env).poller := by
  have hmove := turn_move src s now env p
  generalize p.turn src s now env = t at hmove ⊢
  rcases t with ⟨env', p', alarms, spawned, notices, again⟩
  dsimp only at hmove ⊢
  generalize hdeed : Deed.turned now env p ⟨env', p', alarms, spawned, notices, again⟩ = deed
  have hstride (n : Nat) : deed.stride? n = none := hdeed ▸ rfl
  have hpolled (hne : ¬ p.IsPolling) : deed.polled? src = none := hdeed ▸ polled?_eq_none hne
  have hquiet (hstage : p.stage = .seeking ∨ p.IsDraining) : deed.polled? src = none :=
    hpolled (not_isPolling hstage)
  cases hmove with
  | waits => exact h.keep hpolled hstride rfl rfl rfl rfl rfl rfl
  | opens hstage =>
      simp only [Orderly, hstage] at h
      obtain ⟨hcourse, hrunning, hfinished, hshows⟩ := h
      exact ⟨hcourse, .idle hrunning hshows⟩
  | breaks hcause =>
      rcases hcause with ⟨hstage, -⟩ | ⟨_, _, hstage, -⟩ <;> simp only [Orderly, hstage] at h <;>
        exact h.1
  | asks hstage hfinished hfree =>
      obtain ⟨hcourse, hflight⟩ := h.inFlight (.inl hstage)
      -- The slot is free, so no unit is in flight, and one that has broken off was being reported.
      have hrunning : p.running = [] := by
        obtain ⟨hslots, -⟩ := hrun.balanced.looping (.inl hstage)
        exact List.eq_nil_of_length_eq_zero (by omega)
      cases hflight with
      | idle _ hshows =>
          have hidle : .polling ∈ (current p.shown).next duty := by
            rw [hshows]
            exact List.mem_cons_self
          exact ⟨hcourse.cons (.next hidle), hrunning, hfinished, rfl⟩
      | working hbusy => cases hbusy.symm.trans hrunning
      | panicked _ hpanicked hleft =>
          rcases hleft with (⟨_, _, hdraining⟩ | ⟨e, hresult, -⟩) | ⟨hduty, hshows⟩
          · cases hstage.symm.trans hdraining
          · cases hfinished.symm.trans hresult
          · have hagain := hcourse.cons (.again hduty hshows (hbroken hpanicked))
            exact ⟨hagain, hrunning, hfinished, rfl⟩
  | polls hstage => exact h.polling hstage
  | releases hstage hfinished hnext =>
      have hidle := h.polling_idle hstage
      obtain ⟨-, hrunning, -, -⟩ := h.polling hstage
      rcases hnext with rfl | ⟨_, rfl⟩
      · exact ⟨hidle, .idle hrunning rfl⟩
      · exact ⟨hidle, hrunning, hfinished, rfl⟩
  | @takesUp fetch limit job hstage hfinished hpoll =>
      obtain ⟨hcourse, hrunning, -, hshows⟩ := h.polling ⟨fetch, true, limit, hstage⟩
      have hnew : p.running ++ [(p.taken, job)] = [(p.taken, job)] := by
        rw [hrunning, List.nil_append]
      exact ⟨hcourse, .working hnew hfinished rfl fun _ =>
        hshows.trans (hguides.starts _ _ _ _ hpoll).symm⟩
  | resumes hstage =>
      simp only [Orderly, hstage] at h
      obtain ⟨hcourse, hrunning, -, hshows⟩ := h
      exact ⟨hcourse, .idle hrunning hshows⟩
  | @settles result rest notices hstage hfinished hdismisses =>
      rcases hstage with hstage | hstage | hstage
      · obtain ⟨hcourse, hflight⟩ := h.inFlight (.inl hstage)
        have hlater : InFlight src duty shows (deeds ++ [deed]) { p with finished := rest } :=
          hflight.settles (hquiet (.inl hstage)) hstride hstage hfinished hdismisses
        exact hlater.orderly hcourse (.inl hstage)
      · obtain ⟨-, -, hempty, -⟩ := h.polling hstage
        cases hfinished.symm.trans hempty
      · obtain ⟨hcourse, hflight⟩ := h.inFlight (.inr hstage)
        have hlater : InFlight src duty shows (deeds ++ [deed]) { p with finished := rest } :=
          hflight.keep (hquiet (.inr hstage)) hstride rfl rfl rfl
            (fun hempty => nomatch hfinished.symm.trans hempty) fun _ => .inl hstage
        exact hlater.orderly hcourse (.inr hstage)
  | leaves hleaves hbusy =>
      obtain ⟨hcourse, ⟨hstage, hflight, hshown, hempty⟩ | ⟨hrunning, hfinished, -⟩⟩ :=
        h.leaves hleaves
      · exact ⟨hcourse, hflight.keep (hquiet (.inl hstage)) hstride rfl rfl hshown hempty
          fun _ => .inl ⟨_, _, rfl⟩⟩
      · rcases hbusy with hbusy | hbusy
        · exact absurd hrunning hbusy
        · exact absurd hfinished hbusy
  | ends hleaves hrunning hfinished =>
      obtain ⟨hcourse, hends⟩ := h.leaves hleaves
      refine ⟨_, rfl, hcourse, fun hwork => ?_⟩
      rcases hends with ⟨hstage, hflight, rfl, -⟩ | ⟨-, -, hquiet⟩
      · have hpanicked := hflight.panicked_of_isWorking hrunning hwork
        exact .inl ⟨hpanicked.concat (hquiet (.inl hstage)) hstride,
          hrun.strays_eq_nil (.inl hstage)⟩
      · cases hwork.symm.trans hquiet
  | drains hstage hrunning hfinished =>
      have hdraining : p.IsDraining := ⟨_, _, hstage⟩
      obtain ⟨hcourse, hflight⟩ := h.inFlight (.inr hdraining)
      refine ⟨p.shown, rfl, hcourse, fun hwork => .inl ⟨?_, hrun.strays_eq_nil (.inr hdraining)⟩⟩
      exact (hflight.panicked_of_isWorking hrunning hwork).concat (hquiet (.inr hdraining)) hstride
  | givesUp hstage hfinished hlimit =>
      have hdraining : p.IsDraining := ⟨_, _, hstage⟩
      obtain ⟨hcourse, hflight⟩ := h.inFlight (.inr hdraining)
      refine ⟨p.shown, rfl, hcourse, fun hwork => ?_⟩
      cases hflight with
      | idle hnone hshows =>
          rw [hshows] at hwork
          cases hwork
      | panicked hnone hpanicked =>
          refine .inl ⟨hpanicked.concat (hquiet (.inr hdraining)) hstride, ?_⟩
          simp [Poller.abort, hrun.strays_eq_nil (.inr hdraining), hnone]
      | @working n job hbusy hempty hlast hshows =>
          refine .inr ⟨n, ?_, ?_, ?_⟩
          · rw [polled_concat_of_none (hquiet (.inr hdraining)), ← hrun.tracks.taken, hlast]
          · rw [← hdeed, abandoned_concat_of_eq_nil rfl, hbusy]
            exact List.mem_concat_self
          · rcases hlimit with rfl | hzero
            · exact (hrun.patient.expired _ hstage).concat deed
            · exact .inl hzero
  | limits hstage =>
      have hdraining : p.IsDraining := ⟨_, _, hstage⟩
      obtain ⟨hcourse, hflight⟩ := h.inFlight (.inr hdraining)
      exact ⟨hcourse, hflight.keep (hquiet (.inr hdraining)) hstride rfl rfl rfl id
        fun _ => .inl ⟨_, _, rfl⟩⟩

/-! ### Steps of units -/

/-- A unit in flight is the last one, and shows what it does. -/
theorem Orderly.working (h : Orderly src duty broken shows s deeds p) (hrun : Run src s deeds p)
    {n : Nat} {job : Job} (hjob : (n, job) ∈ p.running) :
    (p.stage = .seeking ∨ p.IsDraining) ∧ IsCourse duty broken p.shown ∧ p.running = [(n, job)] ∧
      p.finished = [] ∧ n + 1 = p.taken ∧ (Alive deeds n → current p.shown = shows job) := by
  have hbusy : p.running ≠ [] := List.ne_nil_of_mem hjob
  have hflying (hstage : p.stage = .seeking ∨ p.IsDraining) :
      IsCourse duty broken p.shown ∧ p.running = [(n, job)] ∧
        p.finished = [] ∧ n + 1 = p.taken ∧ (Alive deeds n → current p.shown = shows job) := by
    obtain ⟨hcourse, hflight⟩ := h.inFlight hstage
    cases hflight with
    | idle hnone | panicked hnone => exact absurd hnone hbusy
    | working hone hfinished hlast hshows =>
        rw [hone, List.mem_singleton] at hjob
        cases hjob
        exact ⟨hcourse, hone, hfinished, hlast, hshows⟩
  have hbalanced := hrun.balanced
  cases hstage : p.stage with
  | starting | pausing | polling =>
      simp only [Orderly, hstage] at h
      exact absurd h.2.1 hbusy
  | seeking => exact ⟨.inl rfl, hflying (.inl hstage)⟩
  | draining result limit =>
      have hdraining : p.IsDraining := ⟨result, limit, hstage⟩
      exact ⟨.inr hdraining, hflying (.inr hdraining)⟩
  | ended | crashed =>
      simp only [Balanced, hstage] at hbalanced
      exact absurd hbalanced.1 hbusy

/-- **A step of a unit keeps the order.**  The unit goes on from what it has shown; when it comes to
its end, the poller is idle; and when it breaks off, it leaves what it has shown. -/
theorem Orderly.work (h : Orderly src duty broken shows s deeds p) (hguides : src.Guides duty shows)
    (hrun : Run src s deeds p) {now : Time} {env : Env} {n : Nat} {turn : UnitTurn Env Fetch Job}
    (halive : Alive deeds n) (hturn : p.stepUnit? src now env n = some turn) :
    Orderly src duty broken shows s (deeds ++ [.worked now env n turn]) turn.poller := by
  obtain ⟨unit, hmem, hafter, -, -, -⟩ := stepUnit_effect hrun.tracks.numbered hturn
  obtain ⟨first, hfirst, hworks⟩ := hrun.tracks.works_step halive hmem hafter
  have hmove := stepUnit_move hturn
  rcases turn with ⟨env', p', notices, next⟩
  dsimp only at hmove ⊢
  generalize hdeed : Deed.worked now env n ⟨env', p', notices, next⟩ = deed
    at hfirst hworks ⊢
  have hpolled : deed.polled? src = none := hdeed ▸ rfl
  -- What the unit has shown so far goes on with what it shows in this step.
  have hshown {job : Job} (hjob : (n, job) ∈ p.running) :
      IsCourse duty broken ((src.process now env job).entered.reverse ++ p.shown) ∧
        current ((src.process now env job).entered.reverse ++ p.shown)
          = (src.process now env job).entered.getLastD (shows job) := by
    obtain ⟨-, hcourse, -, -, -, hshows⟩ := h.working hrun hjob
    refine ⟨hcourse.append ?_, ?_⟩
    · rw [hshows halive]
      exact hguides.enters now env job
    · rw [Activity.current_append, hshows halive]
  have hgone {job : Job} (hjob : (n, job) ∈ p.running) : p.running.filter (·.1 ≠ n) = [] := by
    obtain ⟨-, -, hone, -⟩ := h.working hrun hjob
    simp [hone]
  cases hmove with
  | @done job result hjob hdone =>
      obtain ⟨hstage, -⟩ := h.working hrun hjob
      obtain ⟨hcourse, hcurrent⟩ := hshown hjob
      refine InFlight.orderly (.idle (hgone hjob) rfl) (hcourse.cons (.next ?_)) hstage
      rw [hcurrent]
      exact hguides.ends now env job result hdone
  | @crashes job message hjob hcrash =>
      obtain ⟨hstage, -, -, hfinished, hlast, -⟩ := h.working hrun hjob
      obtain ⟨hcourse, hcurrent⟩ := hshown hjob
      refine InFlight.orderly (.panicked (hgone hjob) ?_ ?_) hcourse hstage
      · obtain rfl := hrun.tracks.numbered.unique (mem_units.mpr (.inl hjob)) hmem
        rw [hcrash] at hworks
        refine ⟨n, first, message, ?_, hfirst, hworks⟩
        rw [polled_concat_of_none hpolled, ← hrun.tracks.taken, hlast]
      · rcases hguides.breaks now env job message hcrash with hfatal | ⟨hduty, hreporting⟩
        · exact .inl (.inr ⟨_, by rw [hfinished, List.nil_append], hfatal⟩)
        · exact .inr ⟨hduty, hcurrent.trans hreporting⟩
  | @goesOn job state next hjob hstate hnext =>
      obtain ⟨hstage, -, hone, hfinished, hlast, -⟩ := h.working hrun hjob
      obtain ⟨hcourse, hcurrent⟩ := hshown hjob
      have hnew : replaceJob n state p.running = [(n, state)] := by simp [replaceJob, hone]
      refine InFlight.orderly (.working hnew hfinished hlast fun _ => ?_) hcourse hstage
      rw [hcurrent, hguides.goesOn now env job state hstate]
  | @stops job hjob =>
      obtain ⟨hstage, -, hone, hfinished, hlast, -⟩ := h.working hrun hjob
      obtain ⟨hcourse, -⟩ := hshown hjob
      refine InFlight.orderly (.working hone hfinished hlast fun halive' => ?_) hcourse hstage
      subst hdeed
      exact absurd rfl (halive' now env _ List.mem_concat_self)
  | strays hjob =>
      have hleft : p.strays ≠ [] := List.ne_nil_of_mem hjob
      cases hstage : p.stage with
      | starting | pausing | polling | crashed =>
          simpa only [Orderly, hstage] using h
      | seeking => exact absurd (hrun.strays_eq_nil (.inl hstage)) hleft
      | draining => exact absurd (hrun.strays_eq_nil (.inr ⟨_, _, hstage⟩)) hleft
      | ended =>
          simp only [Orderly, hstage] at h ⊢
          obtain ⟨shown, hshows, hcourse, hwork⟩ := h
          refine ⟨shown, hshows, hcourse, fun hworking => ?_⟩
          rcases hwork hworking with ⟨-, hnone⟩ | haborted
          · exact absurd hnone hleft
          · exact .inr (haborted.concat hpolled)

/-! ### Alarms, and what a run shows -/

/-- An alarm keeps the order: it changes neither the unit in flight nor what is shown. -/
theorem Orderly.ring (h : Orderly src duty broken shows s deeds p) {alarm : Alarm}
    (hring : RingMove p alarm p') :
    Orderly src duty broken shows s (deeds ++ [.rang alarm]) p' := by
  cases hring with
  | polls hstage => exact h.polling hstage
  | pauses hstage =>
      simp only [Orderly, hstage] at h
      exact h
  | expires hstage =>
      obtain ⟨hcourse, hflight⟩ := h.inFlight (.inr ⟨_, _, hstage⟩)
      exact ⟨hcourse, hflight.keep rfl (fun _ => rfl) rfl rfl rfl id fun _ => .inl ⟨_, _, rfl⟩⟩

/-- At every moment of a run the poller has kept the order, whatever is said of the activities that
it had shown when a unit had broken off. -/
theorem Run.orderly (h : Run src s deeds p) (hguides : src.Guides duty shows)
    (hone : s.concurrency ≤ 1)
    (hbroken : ∀ front q, front <+: deeds → Run src s front q → Panicked src front →
      broken q.shown) :
    Orderly src duty broken shows s deeds p := by
  -- What is said of a run is said of the run up to any of its deeds.
  have hearlier {deeds : List (Deed Env Fetch Job)} {deed : Deed Env Fetch Job}
      (hbroken : ∀ front q, front <+: deeds ++ [deed] → Run src s front q → Panicked src front →
        broken q.shown) :
      ∀ front q, front <+: deeds → Run src s front q → Panicked src front → broken q.shown :=
    fun front q hfront => hbroken front q (hfront.trans (List.prefix_append deeds [deed]))
  induction h with
  | start => exact ⟨.nil, rfl, rfl, rfl⟩
  | turn hrun now env ih =>
      have hbefore := hearlier hbroken
      exact (ih hbefore).turn hguides hone hrun (hbefore _ _ List.prefix_rfl hrun) now env
  | work hrun halive hturn ih => exact (ih (hearlier hbroken)).work hguides hrun halive hturn
  | ring hrun hring ih => exact (ih (hearlier hbroken)).ring (ring_move hring)
  | ask hrun ih =>
      exact (ih (hearlier hbroken)).keep (fun _ => rfl) (fun _ => rfl) rfl rfl rfl rfl rfl rfl

theorem Orderly.course (h : Orderly src duty (BrokenOff src s deeds) shows s deeds p) :
    Course src duty s deeds p := by
  cases hstage : p.stage with
  | starting | pausing | polling | seeking | draining =>
      simp only [Orderly, hstage] at h
      simp only [Course, hstage]
      exact ⟨h.1, h.1.stopped_notMem⟩
  | crashed =>
      simp only [Orderly, hstage] at h
      simp only [Course, hstage]
      exact ⟨h, h.stopped_notMem⟩
  | ended =>
      simp only [Orderly, hstage] at h
      simp only [Course, hstage]
      obtain ⟨shown, hshown, hcourse, hwork⟩ := h
      exact ⟨shown, hshown, hcourse, hcourse.stopped_notMem,
        fun hworking => (hwork hworking).imp_left And.left⟩

/-- **What a poller that processes one unit at a time is seen to do.** -/
theorem Run.course (h : Run src s deeds p) (hguides : src.Guides duty shows)
    (hone : s.concurrency ≤ 1) : Course src duty s deeds p := by
  refine (h.orderly hguides hone fun front q hfront hrun hpanicked => ?_).course
  exact ⟨front, q, hfront, hrun, rfl, hpanicked⟩

end Poller

end DurableWorkflow
