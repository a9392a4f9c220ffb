import DurableWorkflow.Polling.Script
import DurableWorkflow.Proofs.Polling.Ledger

/-!
# Slots

A poller has as many slots as it may process units at once.  The pending poll holds one, each unit
in flight holds one, and all others are free.

## Main Definitions

* `Poller.unfinished`: the units that have been handed over and have not come to their end.
* `Poller.Balanced`: where the slots are, at each stage of the loop.

## Main Statements

* `Poller.Run.slots_eq`: while the loop goes on, no slot is lost or made up.
* `Poller.Run.inFlight_le`: the units that are not finished and the pending poll fit into the slots,
  whatever has happened.

## Design Notes

A unit that has been aborted counts as unfinished, so the bound holds of what the loop leaves behind
as well.
-/

namespace DurableWorkflow

variable {Env Fetch Job : Type}

namespace Poller

/-- How many polls are pending. -/
def pendingPolls (p : Poller Fetch Job) : Nat :=
  match p.stage with
  | .polling .. => 1
  | .starting | .seeking | .pausing _ | .draining .. | .ended _ | .crashed _ => 0

/-- The units that have been handed over and have not come to their end. -/
def unfinished (deeds : List (Deed Env Fetch Job)) : List (Nat × Job) :=
  (handed deeds).filter fun x => x.1 ∉ (endings deeds).map (·.1)

variable {src : PollSource Env Fetch Job} {s : PollerSettings} {deeds : List (Deed Env Fetch Job)}
  {p p' : Poller Fetch Job}

/-! ### Unfinished units -/

/-- A unit that has not come to its end has been abandoned or is in flight. -/
theorem Run.unfinished_perm (h : Run src s deeds p) :
    ((unfinished deeds).map (·.1)).Perm (abandoned deeds ++ p.running.map (·.1)) := by
  have hnumbers : (handed deeds).map (·.1) = List.range p.taken := by
    rw [h.handed_eq, h.tracks.taken]
    exact List.ext_getElem (by simp) (by simp)
  have hnodup := h.ledger.nodup
  have hunfinished : (unfinished deeds).map (·.1)
      = (List.range p.taken).filter (· ∉ (endings deeds).map (·.1)) := by
    rw [← hnumbers, List.filter_map]
    rfl
  rw [hunfinished]
  refine (h.ledger.numbers.filter _).trans (List.Perm.of_eq ?_)
  -- Of the ended units none is left, and of the others all are.
  rw [List.filter_append, List.filter_eq_nil_iff.mpr, List.filter_eq_self.mpr, List.nil_append]
  · intro n hn
    exact decide_eq_true fun hending => (List.nodup_append.mp hnodup).2.2 n hending n hn rfl
  · intro n hn
    simpa using hn

theorem Run.length_unfinished (h : Run src s deeds p) :
    (unfinished deeds).length = (abandoned deeds).length + p.running.length := by
  simpa using h.unfinished_perm.length_eq

/-! ### Where the slots are -/

/-- Where the slots are at each stage of the loop, given the units that have been abandoned. -/
def Balanced (s : PollerSettings) (lost : List Nat) (p : Poller Fetch Job) : Prop :=
  match p.stage with
  | .starting => p.running = [] ∧ lost = []
  | .seeking | .pausing _ | .polling .. =>
    p.free + p.running.length + p.pendingPolls = max 1 s.concurrency ∧ lost = []
  | .draining .. => p.running.length ≤ max 1 s.concurrency ∧ lost = []
  | .ended _ | .crashed _ => p.running = [] ∧ lost.length ≤ max 1 s.concurrency

/-- The loop goes on: it has started and has not been left. -/
def IsLooping (p : Poller Fetch Job) : Prop :=
  p.stage = .seeking ∨ p.IsPolling ∨ ∃ elapsed, p.stage = .pausing elapsed

theorem Leaves.looping {now : Time} {env : Env} {result : UnitResult} {shown : List Activity}
    {finished : List UnitResult} (h : Leaves src s now env p result shown finished) :
    p.IsLooping := by
  cases h with
  | stop hstage => exact hstage
  | unit hstage => exact hstage.imp_right .inl
  | nothing hstage | failure hstage => exact .inr (.inl hstage)

namespace Balanced

variable {lost : List Nat}

theorem looping (h : Balanced s lost p) (hloop : p.IsLooping) :
    p.free + p.running.length + p.pendingPolls = max 1 s.concurrency ∧ lost = [] := by
  rcases hloop with hstage | ⟨_, _, _, hstage⟩ | ⟨_, hstage⟩ <;> simpa [Balanced, hstage] using h

/-- The pending poll holds a slot. -/
theorem polling (h : Balanced s lost p) (hstage : p.IsPolling) :
    p.free + 1 + p.running.length = max 1 s.concurrency ∧ lost = [] := by
  obtain ⟨hslots, hlost⟩ := h.looping (.inr (.inl hstage))
  obtain ⟨_, _, _, hpolling⟩ := hstage
  simp only [pendingPolls, hpolling] at hslots
  exact ⟨by omega, hlost⟩

/-- At no stage are there more units than slots. -/
theorem le (h : Balanced s lost p) :
    lost.length + p.running.length + p.pendingPolls ≤ max 1 s.concurrency := by
  cases hstage : p.stage with
  | starting | ended | crashed =>
      simp only [Balanced, hstage] at h
      simp only [h, pendingPolls, hstage, List.length_nil]
      omega
  | seeking | polling | pausing =>
      simp only [Balanced, hstage] at h
      simp only [h.2, List.length_nil]
      omega
  | draining =>
      simp only [Balanced, hstage] at h
      simp only [h.2, pendingPolls, hstage, List.length_nil]
      omega

/-- Outside of the loop, units are only dropped or come to their end. -/
theorem left (h : Balanced s lost p) (hloop : p.IsLooping) {p' : Poller Fetch Job}
    {result : UnitResult} {limit : TimeLimit} (hstage : p'.stage = .draining result limit)
    (hrunning : p'.running = p.running) : Balanced s lost p' := by
  obtain ⟨hslots, hlost⟩ := h.looping hloop
  simp only [Balanced, hstage, hrunning]
  exact ⟨by omega, hlost⟩

/-- A move of the loop either keeps the units in flight and loses none, or drops all of them. -/
theorem move (h : Balanced s lost p) {now : Time} {env : Env} {p' : Poller Fetch Job}
    {alarms : List (Alarm × Nat)} {notices : List Notice}
    (hmove : Move src s now env p p' alarms notices) :
    (p.running ⊆ p'.running ∧ Balanced s lost p') ∨
      (p'.running = [] ∧ Balanced s (lost ++ p.running.map (·.1)) p') := by
  have hsame : p.running ⊆ p.running := List.Subset.refl _
  have hle : (lost ++ p.running.map (·.1)).length ≤ max 1 s.concurrency := by
    have hslots := h.le
    simp only [List.length_append, List.length_map]
    omega
  cases hmove with
  | waits => exact .inl ⟨hsame, h⟩
  | settles => exact .inl ⟨hsame, h⟩
  | opens hstage =>
      simp only [Balanced, hstage] at h
      exact .inl ⟨hsame, by simp [h.1, pendingPolls], h.2⟩
  | breaks hcause => exact .inr ⟨rfl, rfl, hle⟩
  | asks hstage hfinished hfree =>
      obtain ⟨hslots, hlost⟩ := h.looping (.inl hstage)
      simp only [pendingPolls, hstage] at hslots
      exact .inl ⟨hsame, by simp only [pendingPolls]; omega, hlost⟩
  | polls hstage =>
      obtain ⟨hslots, hlost⟩ := h.polling hstage
      exact .inl ⟨hsame, by simp only [pendingPolls]; omega, hlost⟩
  | releases hstage hfinished hnext =>
      obtain ⟨hslots, hlost⟩ := h.polling hstage
      rcases hnext with rfl | ⟨elapsed, rfl⟩ <;>
        exact .inl ⟨hsame, hslots, hlost⟩
  | takesUp hstage =>
      obtain ⟨hslots, hlost⟩ := h.polling ⟨_, _, _, hstage⟩
      refine .inl ⟨List.subset_append_left _ _, ?_, hlost⟩
      simp only [pendingPolls, List.length_append, List.length_singleton]
      omega
  | resumes hstage =>
      obtain ⟨hslots, hlost⟩ := h.looping (.inr (.inr ⟨_, hstage⟩))
      simp only [pendingPolls, hstage] at hslots
      exact .inl ⟨hsame, hslots, hlost⟩
  | leaves hleaves => exact .inl ⟨hsame, h.left hleaves.looping rfl rfl⟩
  | ends hleaves hrunning =>
      obtain ⟨-, hlost⟩ := h.looping hleaves.looping
      exact .inl ⟨hsame, hrunning, by simp [hlost]⟩
  | drains hstage hrunning =>
      simp only [Balanced, hstage] at h
      exact .inl ⟨hsame, hrunning, by simp [h.2]⟩
  | givesUp => exact .inr ⟨rfl, rfl, hle⟩
  | limits hstage =>
      simp only [Balanced, hstage] at h
      exact .inl ⟨hsame, h⟩

/-- A unit that comes to its end gives its slot back. -/
theorem unitOver (h : Balanced s lost p) (hstage : p'.stage = p.stage)
    (hfree : p'.free = p.free + 1) (hlength : p.running.length = p'.running.length + 1) :
    Balanced s lost p' := by
  have hbusy : p.running ≠ [] := by
    intro hnil
    simp [hnil] at hlength
  cases hcase : p.stage with
  | starting | ended | crashed =>
      simp only [Balanced, hcase] at h
      exact absurd h.1 hbusy
  | seeking | polling | pausing =>
      simp only [Balanced, pendingPolls, hcase] at h
      simp only [Balanced, pendingPolls, hstage, hcase, hfree]
      exact ⟨by omega, h.2⟩
  | draining =>
      simp only [Balanced, hcase] at h
      simp only [Balanced, hstage, hcase]
      exact ⟨by omega, h.2⟩

/-- A unit that does not come to its end keeps its slot. -/
theorem keep (h : Balanced s lost p) (hstage : p'.stage = p.stage) (hfree : p'.free = p.free)
    (hlength : p'.running.length = p.running.length) : Balanced s lost p' := by
  have hnil : p'.running = [] ↔ p.running = [] := by
    rw [← List.length_eq_zero_iff, ← List.length_eq_zero_iff, hlength]
  unfold Balanced pendingPolls at h ⊢
  rwa [hstage, hfree, hlength, hnil]

theorem unitMove (h : Balanced s lost p) {now : Time} {env : Env} {n : Nat} {next : UnitNext}
    (hnodup : (p.running.map (·.1)).Nodup) (hmove : UnitMove src now env p n p' next) :
    Balanced s lost p' := by
  have hothers {job : Job} (hjob : (n, job) ∈ p.running) :
      p.running.length = (p.running.filter (·.1 ≠ n)).length + 1 := by
    simpa using (perm_cons_filter hnodup hjob).length_eq
  cases hmove with
  | done hjob | crashes hjob => exact h.unitOver rfl rfl (hothers hjob)
  | goesOn => exact h.keep rfl rfl (List.length_map _)
  | stops | strays => exact h.keep rfl rfl rfl

theorem ring (h : Balanced s lost p) {alarm : Alarm} (hring : RingMove p alarm p') :
    Balanced s lost p' := by
  cases hring with
  | polls hstage =>
      obtain ⟨hslots, hlost⟩ := h.polling hstage
      exact ⟨by simp only [pendingPolls]; omega, hlost⟩
  | pauses hstage =>
      simp only [Balanced, pendingPolls, hstage] at h
      exact h
  | expires hstage =>
      simp only [Balanced, hstage] at h
      exact h

end Balanced

theorem Run.balanced (h : Run src s deeds p) : Balanced s (abandoned deeds) p := by
  induction h with
  | start => exact ⟨rfl, rfl⟩
  | @turn deeds p hrun now env ih =>
      rcases ih.move (turn_move src s now env p) with ⟨hkept, hafter⟩ | ⟨hnone, hafter⟩
      · rwa [abandoned_concat_of_subset hkept]
      · rwa [abandoned_concat_of_eq_nil hnone]
  | work hrun halive hturn ih =>
      rw [abandoned_concat, Deed.abandoned, List.append_nil]
      exact ih.unitMove hrun.ledger.nodup_running (stepUnit_move hturn)
  | ring hrun hring ih =>
      rw [abandoned_concat, Deed.abandoned, List.append_nil]
      exact ih.ring (ring_move hring)
  | ask hrun ih =>
      rw [abandoned_concat, Deed.abandoned, List.append_nil]
      exact ih.keep rfl rfl rfl

/-- **No slot is lost or made up while the loop goes on.** -/
theorem Run.slots_eq (h : Run src s deeds p) (hloop : p.IsLooping) :
    p.free + (unfinished deeds).length + p.pendingPolls = max 1 s.concurrency := by
  obtain ⟨hslots, hlost⟩ := h.balanced.looping hloop
  rw [h.length_unfinished, hlost, List.length_nil, Nat.zero_add]
  exact hslots

/-- A turn that starts a poll takes a slot for it. -/
theorem free_ne_zero_of_polls_lt {now : Time} {env : Env}
    (h : p.polls < (p.turn src s now env).poller.polls) : p.stage = .seeking ∧ p.free ≠ 0 := by
  have hmove := turn_move src s now env p
  generalize p.turn src s now env = t at h hmove
  rcases t with ⟨env', p', alarms, spawned, notices, again⟩
  cases hmove with
  | asks hstage hfinished hfree => exact ⟨hstage, hfree⟩
  | waits | opens | breaks | polls | releases | takesUp | resumes | settles | leaves | ends | drains
  | givesUp | limits => exact absurd h (Nat.lt_irrefl _)

/-- **Work in flight is bounded.**  In every state of every run, the units that have been handed
over and are not finished are, together with the pending poll, no more than the units that may be
processed at once.  If that is one, no unit is being processed while a poll is pending, or when a
poll is started. -/
theorem Run.inFlight_le (h : Run src s deeds p) :
    (unfinished deeds).length + p.pendingPolls ≤ max 1 s.concurrency ∧
      (s.concurrency ≤ 1 →
        (p.IsPolling → unfinished deeds = []) ∧
        ∀ now env, p.polls < (p.turn src s now env).poller.polls → unfinished deeds = []) := by
  have hbound := h.length_unfinished ▸ h.balanced.le
  refine ⟨hbound, fun hone => ⟨fun hpolling => ?_, fun now env hasks => ?_⟩⟩
  · have hslots := h.slots_eq (.inr (.inl hpolling))
    obtain ⟨_, _, _, hstage⟩ := hpolling
    simp only [pendingPolls, hstage] at hslots
    exact List.eq_nil_of_length_eq_zero (by omega)
  · obtain ⟨hstage, hfree⟩ := free_ne_zero_of_polls_lt hasks
    have hslots := h.slots_eq (.inl hstage)
    exact List.eq_nil_of_length_eq_zero (by omega)

/-- With two slots, a unit is in flight while the next poll is pending. -/
theorem inFlight_le_twoSlots :
    ∃ deeds p, Run (Rehearsal.source "test" Error.isFatal)
      { PollerSettings.standard with concurrency := 2 } deeds p ∧
        (unfinished deeds).length = 1 ∧ p.pendingPolls = 1 ∧ 1 + 1 ≤ 2 := by
  let source := Rehearsal.source "test" Error.isFatal
  let s : PollerSettings := { PollerSettings.standard with concurrency := 2 }
  let unit : WorkItem := ⟨"unit", 5, .given ⟨⟩⟩
  let env : Rehearsal := ⟨[⟨0, .given (some unit)⟩], []⟩
  -- The loop starts, asks, is answered with a unit, takes it up, and asks again.
  have hstart : Run source s [] .fresh := .start
  have hasked : Run source s _
      ⟨.polling .start true .unset, false, 1, 1, 0, [], [], [], [.polling]⟩ :=
    (hstart.turn 0 env).turn 0 env
  have htaken : Run source s _
      ⟨.seeking, false, 1, 1, 1, [(0, .start unit)], [], [], [.polling]⟩ :=
    (hasked.turn 0 env).turn 0 env
  have hrun := htaken.turn 0 env
  exact ⟨_, _, hrun, rfl, rfl, hrun.inFlight_le.1⟩

end Poller

end DurableWorkflow
