import DurableWorkflow.Proofs.Run.Basic

/-!
# Every event is decided on once

The cycles of a run that come to decisions divide its history among them: each takes up where the
one before it left off, whatever happened to the cycles that failed in between.

## Main Definitions

* `Run.cycles`: the successful cycles, the oldest first.
* `Run.boundary`: the number up to which the first cycles have decided.
* `DecidedOnce`: a history is divided among cycles.

## Main Statements

* `Reaches.decidedOnce`: this is so in every state of every run.

## Design Notes

The division is stated for a list of events and a list of cycles, so that the two ways in which it
changes, by a longer history and by one more cycle, are lemmas about lists (`DecidedOnce.grow`,
`DecidedOnce.append`).
-/

namespace DurableWorkflow

/-- The number up to which the first `i` cycles have decided: the start of the last of them. -/
def boundary (cycles : List Run.Success) : Nat → Int
  | 0 => 0
  | i + 1 => (cycles[i]?.map (·.startedEventId)).getD 0

theorem boundary_append_of_le {cycles : List Run.Success} (c : Run.Success) {i : Nat}
    (h : i ≤ cycles.length) : boundary (cycles ++ [c]) i = boundary cycles i := by
  cases i with
  | zero => rfl
  | succ i => rw [boundary, boundary, List.getElem?_append_left h]

/-- The last boundary is the start of the last decision task. -/
@[simp]
theorem boundary_append_last (cycles : List Run.Success) (c : Run.Success) :
    boundary (cycles ++ [c]) (cycles.length + 1) = c.startedEventId := by
  simp [boundary]

/-- A history is divided among cycles, the oldest first. -/
structure DecidedOnce (events : List Event) (cycles : List Run.Success) : Prop where
  /-- Every cycle moves the boundary on. -/
  ascending : ∀ i < cycles.length, boundary cycles i < boundary cycles (i + 1)
  /-- The boundaries are starts of decision tasks. -/
  started : ∀ c ∈ cycles, ∃ e ∈ events, e.id = c.startedEventId ∧ e.type = .decisionTaskStarted
  /-- A cycle visits the events between its boundaries. -/
  visited : ∀ i c, cycles[i]? = some c → ∀ e, e ∈ c.visited ↔
    e ∈ events ∧ boundary cycles i < e.id ∧ e.id ≤ boundary cycles (i + 1)
  /-- It does so in the order of their numbers. -/
  sorted : ∀ c ∈ cycles, c.visited.Pairwise fun a b => a.id < b.id
  /-- An event up to the last boundary is visited by one cycle and by no other. -/
  unique : ∀ e ∈ events, e.id ≤ boundary cycles cycles.length →
    ∃ (i : Nat) (c : Run.Success), cycles[i]? = some c ∧ e ∈ c.visited ∧
      ∀ (j : Nat) (d : Run.Success), cycles[j]? = some d → e ∈ d.visited → j = i
  /-- Together the cycles visit 1, 2, and so on up to the last boundary. -/
  all : (cycles.flatMap (·.visited)).map (·.id)
    = (List.range (boundary cycles cycles.length).toNat).map fun (k : Nat) => (k : Int) + 1

/-! ### Events that follow each other -/

namespace Following

variable {events : List Event}

theorem map_id {n : Nat} (h : Following n events) :
    events.map (·.id) = (List.range' n events.length).map fun (k : Nat) => (k : Int) + 1 := by
  induction events generalizing n with
  | nil => rfl
  | cons e rest ih =>
      obtain ⟨he, hrest⟩ := h
      have hnext : (n : Int) + 1 = (n + 1 : Nat) := by omega
      rw [hnext] at hrest
      rw [List.map_cons, List.length_cons, List.range'_succ, List.map_cons, ih hrest, he]

theorem lt_id {n : Int} (h : Following n events) : ∀ e ∈ events, n < e.id := by
  induction events generalizing n with
  | nil => simp
  | cons x rest ih =>
      obtain ⟨hx, hrest⟩ := h
      intro e he
      rcases List.mem_cons.mp he with rfl | he
      · omega
      · have := ih hrest e he
        omega

theorem sorted {n : Int} (h : Following n events) : events.Pairwise fun a b => a.id < b.id := by
  induction events generalizing n with
  | nil => exact List.Pairwise.nil
  | cons x rest ih =>
      obtain ⟨hx, hrest⟩ := h
      refine List.pairwise_cons.mpr ⟨fun e he => ?_, ih hrest⟩
      have := hrest.lt_id e he
      omega

end Following

namespace DecidedOnce

variable {events : List Event} {cycles : List Run.Success}

theorem nil (events : List Event) (hpositive : ∀ e ∈ events, 1 ≤ e.id) : DecidedOnce events [] where
  ascending := fun i hi => by simp at hi
  started := fun c hc => by simp at hc
  visited := fun i c hc => by simp at hc
  sorted := fun c hc => by simp at hc
  unique := fun e he hid => by
    have := hpositive e he
    simp only [boundary, List.length_nil] at hid
    omega
  all := rfl

/-- The boundaries are not below the first one. -/
theorem boundary_nonneg (h : DecidedOnce events cycles) :
    ∀ i ≤ cycles.length, 0 ≤ boundary cycles i := by
  intro i
  induction i with
  | zero => exact fun _ => Int.le_refl 0
  | succ i ih =>
      intro hi
      have := ih (by omega)
      have := h.ascending i hi
      omega

/-- No boundary lies beyond the last one. -/
theorem boundary_le_last (h : DecidedOnce events cycles) {i : Nat} (hi : i ≤ cycles.length) :
    boundary cycles i ≤ boundary cycles cycles.length := by
  induction hn : cycles.length - i generalizing i with
  | zero =>
      obtain rfl : i = cycles.length := by omega
      exact Int.le_refl _
  | succ n ih =>
      have hnext := ih (i := i + 1) (by omega) (by omega)
      have := h.ascending i (by omega)
      omega

/-- The division stays as it is while the history grows. -/
theorem grow {older : List Event} (h : DecidedOnce older cycles) (hevents : Numbered events)
    (hsuffix : older <:+ events) (hlast : boundary cycles cycles.length ≤ older.length) :
    DecidedOnce events cycles where
  ascending := h.ascending
  started := fun c hc => by
    obtain ⟨e, he, hid⟩ := h.started c hc
    exact ⟨e, hsuffix.subset he, hid⟩
  visited := fun i c hc e => by
    rw [h.visited i c hc e]
    refine ⟨fun ⟨he, hrange⟩ => ⟨hsuffix.subset he, hrange⟩, fun ⟨he, hrange⟩ => ⟨?_, hrange⟩⟩
    have hi : i < cycles.length := (List.getElem?_eq_some_iff.mp hc).1
    have : boundary cycles (i + 1) ≤ _ := h.boundary_le_last hi
    exact hevents.mem_of_suffix hsuffix he (by omega)
  sorted := h.sorted
  unique := fun e he hid =>
    h.unique e (hevents.mem_of_suffix hsuffix he (by omega)) hid
  all := h.all

/-- The numbers go on without a gap where the next cycle takes up. -/
theorem all_append (h : DecidedOnce events cycles) {c : Run.Success}
    (hfollowing : Following (boundary cycles cycles.length) c.visited)
    (hlast : c.startedEventId = boundary cycles cycles.length + c.visited.length) :
    ((cycles ++ [c]).flatMap (·.visited)).map (·.id)
      = (List.range c.startedEventId.toNat).map fun (k : Nat) => (k : Int) + 1 := by
  have hnonneg := h.boundary_nonneg _ (Nat.le_refl _)
  have hnat : ((boundary cycles cycles.length).toNat : Int) = boundary cycles cycles.length :=
    Int.toNat_of_nonneg hnonneg
  have hcount : c.startedEventId.toNat
      = (boundary cycles cycles.length).toNat + c.visited.length := by omega
  rw [← hnat] at hfollowing
  rw [List.flatMap_append, List.map_append, h.all, List.flatMap_singleton, hfollowing.map_id,
    ← List.map_append, hcount, List.range_eq_range', List.range_eq_range', ← List.range'_append_1,
    Nat.zero_add]

/-- A cycle is one of those before, or the last one. -/
theorem eq_or_last {c d : Run.Success} {i : Nat} (hd : (cycles ++ [c])[i]? = some d) :
    (i < cycles.length ∧ cycles[i]? = some d) ∨ (i = cycles.length ∧ d = c) := by
  rcases Nat.lt_or_ge i cycles.length with hi | hi
  · rw [List.getElem?_append_left hi] at hd
    exact .inl ⟨hi, hd⟩
  · rw [List.getElem?_append_right hi, List.getElem?_singleton] at hd
    split at hd
    · cases hd
      exact .inr ⟨by omega, rfl⟩
    · cases hd

/-- One more cycle takes what lies beyond the last boundary. -/
theorem append (h : DecidedOnce events cycles) (hevents : Numbered events) {c : Run.Success}
    (hstarted : ∃ e ∈ events, e.id = c.startedEventId ∧ e.type = .decisionTaskStarted)
    (hfollowing : Following (boundary cycles cycles.length) c.visited)
    (hmem : ∀ e, e ∈ c.visited ↔ e ∈ events ∧ boundary cycles cycles.length < e.id)
    (hlength : c.visited.length = events.length - boundary cycles cycles.length)
    (hlast : c.startedEventId = events.length)
    (hlt : boundary cycles cycles.length < c.startedEventId) :
    DecidedOnce events (cycles ++ [c]) := by
  refine ⟨?_, ?_, ?_, ?_, ?_, ?_⟩
  · intro i hi
    rw [List.length_append, List.length_singleton] at hi
    rcases Nat.lt_or_ge i cycles.length with hlow | hhigh
    · rw [boundary_append_of_le c (by omega), boundary_append_of_le c hlow]
      exact h.ascending i hlow
    · rw [show i = cycles.length by omega, boundary_append_of_le c (Nat.le_refl _),
        boundary_append_last]
      exact hlt
  · intro d hd
    rcases List.mem_append.mp hd with hd | hd
    · exact h.started d hd
    · rw [List.mem_singleton.mp hd]
      exact hstarted
  · intro i d hd e
    rcases eq_or_last hd with ⟨hi, hd⟩ | ⟨rfl, rfl⟩
    · rw [boundary_append_of_le c (by omega), boundary_append_of_le c hi]
      exact h.visited i d hd e
    · rw [boundary_append_of_le d (Nat.le_refl _), boundary_append_last, hmem]
      refine ⟨fun ⟨he, hid⟩ => ⟨he, hid, ?_⟩, fun ⟨he, hid, _⟩ => ⟨he, hid⟩⟩
      have := (hevents.id_bounds e he).2
      omega
  · intro d hd
    rcases List.mem_append.mp hd with hd | hd
    · exact h.sorted d hd
    · rw [List.mem_singleton.mp hd]
      exact hfollowing.sorted
  -- An event beyond the old boundary belongs to the new cycle, all others to a cycle they had.
  · intro e he hid
    rcases Int.lt_or_le (boundary cycles cycles.length) e.id with hnew | hold
    · refine ⟨cycles.length, c, by simp, (hmem e).mpr ⟨he, hnew⟩, fun j d hd hvisited => ?_⟩
      rcases eq_or_last hd with ⟨hj, hd⟩ | ⟨hj, -⟩
      · have := ((h.visited j d hd e).mp hvisited).2.2
        have : boundary cycles (j + 1) ≤ _ := h.boundary_le_last hj
        omega
      · exact hj
    · obtain ⟨i, d, hd, hvisited, hunique⟩ := h.unique e he hold
      have hi : i < cycles.length := (List.getElem?_eq_some_iff.mp hd).1
      refine ⟨i, d, by rw [List.getElem?_append_left hi, hd], hvisited, fun j d' hd' hin => ?_⟩
      rcases eq_or_last hd' with ⟨-, hd'⟩ | ⟨-, rfl⟩
      · exact hunique j d' hd' hin
      · have := ((hmem e).mp hin).2
        omega
  · rw [List.length_append, List.length_singleton, boundary_append_last]
    exact h.all_append hfollowing (by omega)

end DecidedOnce

/-! ### Runs -/

namespace Run

/-- The successful cycles, the oldest first. -/
def cycles (s : Run) : List Success := s.successes.reverse

/-- The history of a run is divided among its successful cycles. -/
structure Covered (s : Run) : Prop where
  orderly : s.Orderly
  decided : DecidedOnce s.recorder.events s.cycles
  last : boundary s.cycles s.cycles.length = s.horizon

theorem covered_start (workflowType : WorkflowType) (input : Option String) (fresh : FreshTexts) :
    Covered (start workflowType input fresh) where
  orderly := orderly_start workflowType input fresh
  decided := .nil _ fun e he =>
    ((orderly_start workflowType input fresh).numbered.id_bounds e he).1
  last := rfl

variable {reg : Registry} {s t : Run} {a : Action}

/-- A longer history with the same horizon is divided in the same way. -/
theorem Covered.grow (h : Covered s) (ht : t.Orderly)
    (hsuffix : s.recorder.events <:+ t.recorder.events) (hcycles : t.cycles = s.cycles)
    (hhorizon : t.horizon = s.horizon) : Covered t where
  orderly := ht
  decided := by
    rw [hcycles]
    refine h.decided.grow ht.numbered hsuffix ?_
    rw [h.last]
    exact h.orderly.horizon_le
  last := by rw [hcycles, hhorizon, h.last]

/-- A step leaves the history divided among the successful cycles. -/
theorem Covered.step (h : Covered s) (hstep : Step reg s a t) (hfits : t.fits) : Covered t := by
  have ht := h.orderly.step hstep hfits
  have hsuffix := hstep.events_suffix h.orderly
  cases hstep with
  | occur hphase hrecord =>
      obtain ⟨a, rfl⟩ := Occurrence.record_ok hrecord
      exact h.grow ht hsuffix rfl rfl
  | begin hphase => exact h.grow ht hsuffix rfl (by simp [horizon, hphase])
  | decide hphase hlog hcycle =>
      obtain ⟨hstarted, hnew⟩ := h.orderly.started_eq hphase
      obtain rfl := Recorder.log_ok h.orderly.numbered hlog
      -- What the log takes for its boundary is where the last successful cycle ended.
      have hlast : boundary s.cycles s.cycles.length = s.recorder.previousStartedEventId := by
        rw [h.last, horizon, hphase]
      have hnumbered : Numbered
          (EventLog.mk s.recorder.events s.recorder.previousStartedEventId).events :=
        h.orderly.numbered
      obtain ⟨hfollowing, hlength⟩ :=
        EventLog.after_following hnumbered h.orderly.previous_nonneg (Int.le_of_lt hnew)
      refine ⟨ht, ?_, ?_⟩
      · rw [cycles, List.reverse_cons]
        change DecidedOnce _ (s.cycles ++ [_])
        refine h.decided.append h.orderly.numbered (h.orderly.started_event hphase) ?_ ?_ ?_
          hstarted ?_ <;> rw [hlast]
        · exact hfollowing
        · exact fun _ => EventLog.mem_newEvents hnumbered.descending
        · exact hlength
        · rw [hstarted]
          exact hnew
      · simp [cycles, boundary, horizon]
  | giveUp hphase hfresh => exact h.grow ht hsuffix rfl (by simp [horizon, hphase])
  | apply hphase happly =>
      obtain ⟨-, -, -, hprevious, -⟩ := Recorder.apply_frame happly h.orderly.numbered
      exact h.grow ht hsuffix rfl (by simp [horizon, hphase, hprevious])

end Run

/-- **Every event is decided on once.**  Whatever occurs in a run and whatever cycles fail, the
successful cycles divide the history among them. -/
theorem Reaches.decidedOnce {reg : Registry} {workflowType : WorkflowType} {input : Option String}
    {fresh : FreshTexts} {t : Run}
    (h : Reaches reg (fun _ _ => True) (.start workflowType input fresh) t) :
    DecidedOnce t.recorder.events t.cycles :=
  (h.induction (motive := Run.Covered)
    (fun _ _ _ _ hstep hfits hcovered => hcovered.step hstep hfits)
    (Run.covered_start workflowType input fresh)).decided

/-- The three cycles of a run with one retry, the first of which a signal overtakes. -/
theorem Reaches.decidedOnce_oneRetry :
    ∃ t, Run.oneTask.steps? .oneTask (fun _ _ => True) Run.oneRetry = some t ∧
      t.cycles.map (·.startedEventId) = [3, 9, 14] ∧ DecidedOnce t.recorder.events t.cycles := by
  have hrun : (Run.oneTask.steps? .oneTask (fun _ _ => True) Run.oneRetry).any
      (fun t => t.cycles.map (·.startedEventId) = [3, 9, 14]) = true := by decide +kernel
  obtain ⟨t, ht, hcycles⟩ := (Option.any_eq_true ..).mp hrun
  exact ⟨t, ht, of_decide_eq_true hcycles, Reaches.decidedOnce (Reaches.iff_steps?.mpr ⟨_, ht⟩)⟩

end DurableWorkflow
