import DurableWorkflow.Dispatch.Cycle
import DurableWorkflow.Proofs.Decision.Plan
import DurableWorkflow.Proofs.Dispatch.Recovery
import DurableWorkflow.Proofs.History.Log
import DurableWorkflow.Proofs.Retry.Control
import DurableWorkflow.Proofs.Retry.Verdict

/-!
# Cycles event by event

A cycle that comes to decisions has visited all new events, and each visit has changed the draft in
one of five ways.

## Main Definitions

* `CycleState.visited`, `Registry.visited`: the events that a cycle visits.
* `Registry.Effect`: what one visit does to the draft.
* `Decision.touchesRetries`, `Decision.schedulesTask`: what decisions are about.
* `Registry.Completes`, `Registry.LeavesRetries`: what can be asked of handlers.

## Main Statements

* `CycleState.outcome_of_visit`: what a visit comes down to.
* `CycleState.visit_effect`: every visit that does not end the cycle has such an effect.
* `Registry.visited_of_decided`: a cycle that decides visits all new events.
* `Registry.cycle_induction`: what every effect keeps holds of the decisions of a cycle.

## Design Notes

The number of the last event visited serves as the clock of a cycle, so the induction over a cycle
is one over numbers.
-/

namespace DurableWorkflow

/-! ### What is asked of handlers -/

/-- Whether a decision has to do with retries by its name. -/
def Decision.touchesRetries : Decision → Bool
  | .startTimer timerId .. => isRetryTimer timerId
  | .recordMarker markerName _ => isRetryMarker markerName
  | _ => false

/-- Whether a decision schedules a task. -/
def Decision.schedulesTask : Decision → Bool
  | .scheduleTask .. => true
  | _ => false

/-- What closes a run has nothing to do with tasks. -/
theorem CloseControl.leaves (control : CloseControl) :
    ∀ x ∈ [.recordMarker closeMarkerName (some control.encode), control.decision],
      Decision.touchesRetries x = false ∧ Decision.schedulesTask x = false := by
  intro x hx
  rcases List.mem_cons.mp hx with rfl | hx
  · exact ⟨isRetryMarker_closeMarkerName, rfl⟩
  · rw [List.mem_singleton.mp hx]
    cases control <;> exact ⟨rfl, rfl⟩

/-- Neither has what cancels a timer. -/
theorem Draft.cancelling_leaves (d : Draft) (timerId : String) (force : Bool) :
    ∀ x ∈ d.cancelling timerId force, x.touchesRetries = false ∧ x.schedulesTask = false := by
  intro x hx
  rcases List.mem_cons.mp hx with rfl | hx
  · exact ⟨rfl, rfl⟩
  · split at hx
    · rw [List.mem_singleton.mp hx]
      exact ⟨isRetryTimer_forced _, rfl⟩
    · cases hx

namespace Registry

/-- No handler gives up or breaks off. -/
def Completes (r : Registry) : Prop :=
  ∀ entry ∈ r.handlers, ∀ ctx d, ((entry.2 ctx).run d).1 = .done

/-- No handler starts a timer or records a marker under a name that belongs to retries. -/
def LeavesRetries (r : Registry) : Prop :=
  ∀ entry ∈ r.handlers, ∀ ctx d, ∀ x ∈ (entry.2 ctx).added d, x.touchesRetries = false

/-! ### Effects of single events -/

/-- What a visit does to the draft. -/
inductive Effect (r : Registry) (ctx : EventContext) (d : Draft) : Draft → Prop
  | wait {timerId : String} {delay : Duration} {control : RetryControl}
      (hjudged : r.policies.Judged ctx (.wait timerId delay control)) :
      Effect r ctx d (d.startTimer timerId delay (some control.encode))
  | again {schedule : Decision} {markerName : String} {count : RetryCount}
      (hjudged : r.policies.Judged ctx (.again schedule markerName count)) :
      Effect r ctx d ((d.append [schedule]).recordMarker markerName (some count.encode))
  | close (hquiet : r.policies.Quiet ctx) (control : CloseControl) :
      Effect r ctx d (d.close control)
  | handle (hquiet : r.policies.Quiet ctx) {key : HandlerKey} {handler : Handler} {d' : Draft}
      (hmem : (key, handler) ∈ r.handlers) (hrun : (handler ctx).run d = (.done, d')) :
      Effect r ctx d d'
  | skip (hquiet : r.policies.Quiet ctx) : Effect r ctx d d

/-- No effect puts texts back into the supply. -/
theorem Effect.later {r : Registry} {ctx : EventContext} {d d' : Draft} (h : r.Effect ctx d d') :
    d.fresh.Later d'.fresh := by
  cases h with
  | wait | again | close | skip => exact .refl _
  | @handle _ _ handler _ _ hrun =>
      have hlater := (handler ctx).run_later d
      rwa [hrun] at hlater

theorem mem_of_handler? {r : Registry} {k : HandlerKey} {handler : Handler}
    (h : r.handler? k = some handler) : (k, handler) ∈ r.handlers := by
  obtain ⟨⟨key, found⟩, hfind, hfound⟩ := Option.map_eq_some_iff.mp h
  have hkey : key = k := by simpa using List.find?_some hfind
  cases hfound
  exact hkey ▸ List.mem_of_find?_eq_some hfind

/-- Nothing is done for retries about an event that a close decision is made again for. -/
theorem quiet_of_recovery? {p : RetryPolicies} {ctx : EventContext} {recovery : Recovery}
    (h : ctx.recovery? = some recovery) : p.Quiet ctx :=
  RetryPolicies.quiet_of_rejected (EventContext.reissues_of_recovery? h).rejected

end Registry

namespace CycleState

variable {r : Registry} {log : EventLog} {workflow : WorkflowInfo} {s s' : CycleState} {e : Event}

theorem call_effect {ctx : EventContext} {key : HandlerKey} {handler : Handler}
    (hquiet : r.policies.Quiet ctx) (hmem : (key, handler) ∈ r.handlers)
    (h : s.call ctx (handler ctx) = (s', none)) : r.Effect ctx s.draft s'.draft := by
  unfold call at h
  cases hrun : (handler ctx).run s.draft with
  | mk ending d =>
      cases ending with
      | done =>
          simp only [hrun, Prod.mk.injEq, and_true] at h
          cases h
          exact .handle hquiet hmem hrun
      | failed | crashed => simp [hrun] at h

theorem follow_forward_effect {ctx : EventContext} (exhausted : Bool)
    (hquiet : r.policies.Quiet ctx) (h : s.follow ctx (r.routeForward ctx exhausted) = (s', none)) :
    r.Effect ctx s.draft s'.draft := by
  unfold Registry.routeForward at h
  split at h
  · next handler hhandler => exact call_effect hquiet (Registry.mem_of_handler? hhandler) h
  · split at h
    · cases h
      exact .close hquiet _
    · cases h
      exact .skip hquiet

theorem follow_after_effect {ctx : EventContext} {verdict : RetryVerdict}
    (hjudged : r.policies.Judged ctx verdict)
    (h : s.follow ctx (r.routeAfter ctx verdict) = (s', none)) :
    r.Effect ctx s.draft s'.draft := by
  cases verdict with
  | wait timerId delay control =>
      cases h
      exact .wait hjudged
  | again schedule markerName count =>
      cases h
      exact .again hjudged
  | pass =>
      cases hjudged with
      | pass hquiet => exact follow_forward_effect false hquiet h
  | passOrphan =>
      cases hjudged with
      | passOrphan hquiet => exact follow_forward_effect false hquiet h
  | exhausted =>
      cases hjudged with
      | exhausted hquiet => exact follow_forward_effect true hquiet h

/-- What a visit comes down to. -/
inductive Outcome (r : Registry) (log : EventLog) (workflow : WorkflowInfo) (s : CycleState)
    (e : Event) : CycleState → Option Interruption → Prop
  | unreadable {error : Error} (hctx : EventContext.extract e log workflow = .error error) :
      Outcome r log workflow s e s (some (.failed error))
  | recovered {ctx : EventContext} {recovery : Recovery}
      (hctx : EventContext.extract e log workflow = .ok ctx)
      (hrecovery : ctx.recovery? = some recovery) :
      Outcome r log workflow s e
        { s with
          draft := s.draft.close recovery.control
          notices := s.notices ++ recovery.notices }
        none
  | refused {ctx : EventContext} {error : Error}
      (hctx : EventContext.extract e log workflow = .ok ctx) (hrecovery : ctx.recovery? = none)
      (hjudge : r.policies.judge ctx = .error error) :
      Outcome r log workflow s e s (some (.failed error))
  | judged {ctx : EventContext} {verdict : RetryVerdict} {s' : CycleState}
      {stop : Option Interruption}
      (hctx : EventContext.extract e log workflow = .ok ctx) (hrecovery : ctx.recovery? = none)
      (hjudge : r.policies.judge ctx = .ok verdict)
      (hfollow : follow { s with notices := s.notices ++ verdict.notices } ctx
        (r.routeAfter ctx verdict) = (s', stop)) :
      Outcome r log workflow s e s' stop

theorem outcome_of_visit {stop : Option Interruption} (h : s.visit r log workflow e = (s', stop)) :
    Outcome r log workflow s e s' stop := by
  unfold visit at h
  split at h
  · next error hctx =>
      cases h
      exact .unreadable hctx
  · next ctx hctx =>
      unfold Registry.route at h
      cases hrecovery : ctx.recovery? with
      | some recovery =>
          simp only [hrecovery] at h
          cases h
          exact .recovered hctx hrecovery
      | none =>
          cases hjudge : r.policies.judge ctx with
          | error error =>
              simp only [hrecovery, hjudge, Except.map] at h
              cases h
              exact .refused hctx hrecovery hjudge
          | ok verdict =>
              simp only [hrecovery, hjudge, Except.map] at h
              exact .judged hctx hrecovery hjudge h

/-- Every visit that does not end the cycle has one of the five effects. -/
theorem visit_effect (h : s.visit r log workflow e = (s', none)) :
    ∃ ctx, EventContext.extract e log workflow = .ok ctx ∧ r.Effect ctx s.draft s'.draft := by
  cases outcome_of_visit h with
  | recovered hctx hrecovery => exact ⟨_, hctx, .close (Registry.quiet_of_recovery? hrecovery) _⟩
  | @judged _ verdict _ _ hctx _ hjudge hfollow =>
      exact ⟨_, hctx, follow_after_effect (s := { s with notices := s.notices ++ verdict.notices })
        (RetryPolicies.judged_of_judge hjudge) hfollow⟩

/-! ### Events of a cycle -/

/-- The events that are visited, the one that ends the cycle included. -/
def visited (r : Registry) (log : EventLog) (workflow : WorkflowInfo) :
    CycleState → List Event → List Event
  | _, [] => []
  | s, e :: rest =>
    match s.visit r log workflow e with
    | (s', none) => e :: visited r log workflow s' rest
    | (_, some _) => [e]

theorem visited_of_visitAll {events : List Event}
    (h : visitAll r log workflow s events = (s', none)) :
    visited r log workflow s events = events := by
  induction events generalizing s with
  | nil => rfl
  | cons e rest ih =>
      cases hvisit : s.visit r log workflow e with
      | mk s₁ stop =>
          simp only [visitAll, hvisit] at h
          cases stop with
          | none => simp only [visited, hvisit, ih h]
          | some stop => cases h

/-- What every effect keeps while the clock runs from event to event holds after all events. -/
theorem visitAll_induction {motive : Int → Draft → Prop} {events : List Event} {n : Int}
    (step : ∀ e ∈ events, ∀ n d d' ctx, e.id = n + 1 →
      EventContext.extract e log workflow = .ok ctx → r.Effect ctx d d' → motive n d →
        motive (n + 1) d')
    (hevents : Following n events) (hstart : motive n s.draft)
    (h : visitAll r log workflow s events = (s', none)) :
    motive (n + events.length) s'.draft := by
  induction events generalizing s n with
  | nil =>
      cases h
      simpa using hstart
  | cons e rest ih =>
      unfold visitAll at h
      split at h
      · next s₁ hvisit =>
          obtain ⟨hid, hrest⟩ := hevents
          obtain ⟨ctx, hctx, heffect⟩ := visit_effect hvisit
          have hone := step e (by simp) n _ _ ctx hid hctx heffect hstart
          have hall := ih (fun x hx => step x (by simp [hx])) hrest hone h
          have hcount : n + 1 + rest.length = n + (e :: rest).length := by
            rw [List.length_cons]
            omega
          rwa [hcount] at hall
      · cases h

/-! ### Fresh texts -/

theorem follow_later (s : CycleState) (ctx : EventContext) (route : Route) :
    s.draft.fresh.Later (s.follow ctx route).1.draft.fresh := by
  cases route with
  | reissue | wait | again | giveUp | skip => exact .refl _
  | handle handler =>
      have hrun := (handler ctx).run_later s.draft
      simp only [follow, call]
      cases hending : ((handler ctx).run s.draft).1 <;> exact hrun

/-- Every visit, be it the last one, takes texts from the supply in order. -/
theorem visit_later {stop : Option Interruption} (h : s.visit r log workflow e = (s', stop)) :
    s.draft.fresh.Later s'.draft.fresh := by
  cases outcome_of_visit h with
  | unreadable | recovered | refused => exact .refl _
  | @judged ctx verdict _ _ _ _ _ hfollow =>
      have hlater := follow_later { s with notices := s.notices ++ verdict.notices } ctx
        (r.routeAfter ctx verdict)
      rwa [hfollow] at hlater

theorem visitAll_later (r : Registry) (log : EventLog) (workflow : WorkflowInfo) (s : CycleState)
    (events : List Event) :
    s.draft.fresh.Later (visitAll r log workflow s events).1.draft.fresh := by
  induction events generalizing s with
  | nil => exact .refl _
  | cons e rest ih =>
      unfold visitAll
      split
      · next s₁ hvisit => exact (visit_later hvisit).trans (ih s₁)
      · next s₁ stop hvisit => exact visit_later hvisit

end CycleState

namespace Registry

variable {r : Registry} {log : EventLog} {workflow : WorkflowInfo} {fresh : FreshTexts}
  {batch : DecisionBatch}

/-- A cycle takes texts from the supply in order, whether it decides or not. -/
theorem cycle_later (r : Registry) (log : EventLog) (workflow : WorkflowInfo) (fresh : FreshTexts) :
    fresh.Later (r.cycle log workflow fresh).fresh :=
  CycleState.visitAll_later r log workflow (.start (r.draft fresh)) log.newEvents

/-- The events that a cycle visits. -/
def visited (r : Registry) (log : EventLog) (workflow : WorkflowInfo) (fresh : FreshTexts) :
    List Event :=
  CycleState.visited r log workflow (.start (r.draft fresh)) log.newEvents

/-- A cycle that decides has come to the end of the new events. -/
theorem exists_of_decided (h : (r.cycle log workflow fresh).ending = .decided batch) :
    ∃ s, CycleState.visitAll r log workflow (.start (r.draft fresh)) log.newEvents = (s, none) ∧
      s.draft.decisions = batch ∧ (r.cycle log workflow fresh).fresh = s.draft.fresh := by
  unfold cycle Cycle.ofState at h ⊢
  generalize CycleState.visitAll r log workflow (.start (r.draft fresh)) log.newEvents = ended
    at h ⊢
  obtain ⟨s, stop⟩ := ended
  cases stop with
  | none => exact ⟨s, rfl, by simpa using h, rfl⟩
  | some stop => cases stop <;> simp at h

/-- **A cycle that decides visits all new events.** -/
theorem visited_of_decided (h : (r.cycle log workflow fresh).ending = .decided batch) :
    r.visited log workflow fresh = log.newEvents := by
  obtain ⟨s, hs, -⟩ := exists_of_decided h
  exact CycleState.visited_of_visitAll hs

/-- **What every effect keeps holds of the decisions of a cycle**, from the number up to which the
history has been decided on to the number of the newest event. -/
theorem cycle_induction {motive : Int → Draft → Prop}
    (h : (r.cycle log workflow fresh).ending = .decided batch) (hlog : Numbered log.events)
    (hlow : 0 ≤ log.previousStartedEventId) (hhigh : log.previousStartedEventId ≤ log.events.length)
    (step : ∀ e ∈ log.events, ∀ n d d' ctx, log.previousStartedEventId ≤ n → e.id = n + 1 →
      EventContext.extract e log workflow = .ok ctx → r.Effect ctx d d' → motive n d →
      motive (n + 1) d')
    (hstart : motive log.previousStartedEventId (r.draft fresh)) :
    ∃ d, d.decisions = batch ∧ (r.cycle log workflow fresh).fresh = d.fresh ∧
      motive log.events.length d := by
  obtain ⟨s, hs, hbatch, hfresh⟩ := exists_of_decided h
  refine ⟨s.draft, hbatch, hfresh, ?_⟩
  obtain ⟨hfollowing, hlength⟩ := EventLog.after_following hlog hlow hhigh
  have hmem : ∀ e ∈ log.newEvents, e ∈ log.events ∧ log.previousStartedEventId < e.id :=
    fun _ => (EventLog.mem_newEvents hlog.descending).mp
  have hall := CycleState.visitAll_induction (motive := motive)
    (fun e he n d d' ctx hid => step e (hmem e he).1 n d d' ctx
      (by have := (hmem e he).2; omega) hid) hfollowing hstart hs
  rw [EventLog.newEvents, hlength] at hall
  rwa [show log.previousStartedEventId + (log.events.length - log.previousStartedEventId)
    = (log.events.length : Int) by omega] at hall

end Registry

end DurableWorkflow
