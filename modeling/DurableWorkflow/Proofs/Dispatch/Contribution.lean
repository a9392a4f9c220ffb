import DurableWorkflow.Proofs.Dispatch.Routing

/-!
# What each event contributes

The decisions of a cycle are what its events add, one after the other.

## Main Definitions

* `CycleState.added`: what one event adds.
* `Registry.contributions`: the events that a cycle visits, each with what it adds.

## Main Statements

* `Registry.Visits.decisions_isPrefix`: no visit takes anything back.
* `Registry.map_contributions`: the contributions are those of the events visited.
* `Registry.eq_flatten_contributions`: they make up the decisions of a cycle.
* `Registry.exists_of_not_decided`: which event has ended a cycle without decisions.
-/

namespace DurableWorkflow

theorem Plan.decisions_isPrefix_of_run {p : Plan} {d d' : Draft} {ending : Plan.Ending}
    (h : p.run d = (ending, d')) : d.decisions <+: d'.decisions := by
  have hprefix := p.decisions_prefix_run d
  rwa [h] at hprefix

namespace Registry

variable {r : Registry} {log : EventLog} {workflow : WorkflowInfo} {ctx : EventContext}
  {d d' : Draft} {e : Event} {calls : List EventContext}

theorem Goes.decisions_isPrefix {way : Way} (h : r.Goes ctx d way d' calls) :
    d.decisions <+: d'.decisions := by
  cases h with
  | reissue | wait | again | giveUp => exact List.prefix_append ..
  | handle _ hrun => exact Plan.decisions_isPrefix_of_run hrun
  | skip => exact List.prefix_rfl

/-- No visit takes anything back, be it the one that ends the cycle. -/
theorem Visits.decisions_isPrefix {stop : Option Interruption}
    (h : r.Visits log workflow d e d' calls stop) : d.decisions <+: d'.decisions := by
  cases h with
  | goes _ hway =>
      obtain ⟨way, ⟨-, hgoes⟩, -⟩ := hway
      exact hgoes.decisions_isPrefix
  | unreadable | refused => exact List.prefix_rfl
  | failed _ _ _ hrun | crashed _ _ _ hrun => exact Plan.decisions_isPrefix_of_run hrun

end Registry

namespace CycleState

variable (r : Registry) (log : EventLog) (workflow : WorkflowInfo)

/-- What one event adds to the decisions. -/
def added (s : CycleState) (e : Event) : DecisionBatch :=
  (s.visit r log workflow e).1.draft.decisions.drop s.draft.decisions.length

/-- The events that are visited, each with what it adds. -/
def contributions : CycleState → List Event → List (Event × DecisionBatch)
  | _, [] => []
  | s, e :: rest =>
    (e, s.added r log workflow e) ::
      match s.visit r log workflow e with
      | (s', none) => contributions s' rest
      | (_, some _) => []

/-- What an event contributes is appended to the decisions. -/
theorem visit_decisions (s : CycleState) (e : Event) :
    (s.visit r log workflow e).1.draft.decisions
      = s.draft.decisions ++ s.added r log workflow e := by
  cases hvisit : s.visit r log workflow e with
  | mk s' stop =>
      obtain ⟨calls, hvisits, -⟩ := sees_visit hvisit
      rw [added, hvisit]
      exact (List.prefix_iff_eq_append.mp hvisits.decisions_isPrefix).symm

/-- The decisions of a cycle are what its events contribute, one after the other. -/
theorem visitAll_decisions (s : CycleState) (events : List Event) :
    (visitAll r log workflow s events).1.draft.decisions
      = s.draft.decisions ++ ((contributions r log workflow s events).map Prod.snd).flatten := by
  induction events generalizing s with
  | nil => exact (List.append_nil _).symm
  | cons e rest ih =>
      have hone := visit_decisions r log workflow s e
      cases hvisit : s.visit r log workflow e with
      | mk s' stop =>
          simp only [hvisit] at hone
          simp only [visitAll, contributions, hvisit, List.map_cons, List.flatten_cons]
          rw [← List.append_assoc, ← hone]
          cases stop with
          | none => exact ih s'
          | some stop => exact (List.append_nil _).symm

/-- What an event contributes is what it adds to some draft. -/
theorem exists_of_mem_contributions {s : CycleState} {events : List Event}
    {p : Event × DecisionBatch} (h : p ∈ contributions r log workflow s events) :
    ∃ t : CycleState, p.2 = t.added r log workflow p.1 := by
  induction events generalizing s with
  | nil => cases h
  | cons e rest ih =>
      cases hvisit : s.visit r log workflow e with
      | mk s' stop =>
          simp only [contributions, hvisit] at h
          rcases List.mem_cons.mp h with rfl | h
          · exact ⟨s, rfl⟩
          · cases stop with
            | none => exact ih h
            | some stop => cases h

/-- The events that contribute are those that are visited. -/
theorem map_contributions (s : CycleState) (events : List Event) :
    (contributions r log workflow s events).map Prod.fst
      = visited r log workflow s events := by
  induction events generalizing s with
  | nil => rfl
  | cons e rest ih =>
      cases hvisit : s.visit r log workflow e with
      | mk s' stop =>
          simp only [contributions, visited, hvisit, List.map_cons]
          cases stop with
          | none => exact congrArg _ (ih s')
          | some stop => rfl

/-- The last event visited is the one that ends the cycle. -/
theorem exists_of_stopped {s s' : CycleState} {events : List Event} {stop : Interruption}
    (h : visitAll r log workflow s events = (s', some stop)) :
    ∃ e ∈ events, (visited r log workflow s events).getLast? = some e ∧
      ∃ t : CycleState, t.visit r log workflow e = (s', some stop) := by
  induction events generalizing s with
  | nil => cases h
  | cons e rest ih =>
      cases hvisit : s.visit r log workflow e with
      | mk s₁ stop₁ =>
          simp only [visitAll, hvisit] at h
          cases stop₁ with
          | none =>
              obtain ⟨last, hmem, hlast, hstop⟩ := ih h
              refine ⟨last, List.mem_cons_of_mem _ hmem, ?_, hstop⟩
              simp only [visited, hvisit, List.getLast?_cons, hlast, Option.getD_some]
          | some stop₁ =>
              cases h
              refine ⟨e, List.mem_cons_self .., ?_, s, hvisit⟩
              simp only [visited, hvisit, List.getLast?_singleton]

end CycleState

namespace Registry

variable (r : Registry) (log : EventLog) (workflow : WorkflowInfo) (fresh : FreshTexts)

/-- The events that a cycle visits, each with what it adds to the decisions. -/
def contributions : List (Event × DecisionBatch) :=
  CycleState.contributions r log workflow (.start (r.draft fresh)) log.newEvents

theorem map_contributions :
    (r.contributions log workflow fresh).map Prod.fst = r.visited log workflow fresh :=
  CycleState.map_contributions ..

variable {r log workflow fresh}

/-- A cycle that does not decide has been ended by the last event that it visits. -/
theorem exists_of_not_decided (h : (r.cycle log workflow fresh).batch? = none) :
    ∃ e ∈ log.newEvents, (r.visited log workflow fresh).getLast? = some e ∧
      ∃ t : CycleState, (t.visit r log workflow e).2.isSome = true := by
  unfold cycle at h
  cases hall : CycleState.visitAll r log workflow (.start (r.draft fresh)) log.newEvents with
  | mk s stop =>
      cases stop with
      | none =>
          rw [hall] at h
          cases h
      | some stop =>
          obtain ⟨e, he, hlast, t, hvisit⟩ := CycleState.exists_of_stopped r log workflow hall
          exact ⟨e, he, hlast, t, by rw [hvisit]; rfl⟩

/-- **The decisions of a cycle are what its events add, one after the other.** -/
theorem eq_flatten_contributions {batch : DecisionBatch}
    (h : (r.cycle log workflow fresh).ending = .decided batch) :
    batch = ((r.contributions log workflow fresh).map Prod.snd).flatten := by
  obtain ⟨s, hs, rfl, -⟩ := exists_of_decided h
  have hall := CycleState.visitAll_decisions r log workflow (.start (r.draft fresh)) log.newEvents
  rw [hs] at hall
  exact hall

end Registry

end DurableWorkflow
