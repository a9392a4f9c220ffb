import DurableWorkflow.Proofs.Polling.Cause
import DurableWorkflow.Proofs.Polling.Passage
import DurableWorkflow.Service.Script
import DurableWorkflow.Worker.Pool

/-!
# Why a worker ends

A worker watches over its pollers until it is asked to stop or sees that one of them has ended.
Then it asks all pollers to stop, and returns.  A poller ends well only if it has been asked to
stop; so the first end that the worker sees is a failure, and the worker returns with it.

## Main Definitions

* `Sighting`: what a worker sees.
* `Supervised`: the worlds over which a worker watches, with what it has seen and come to.
* `EndsForReason`: why a worker returns.

## Main Statements

* `World.Reached.fails_unasked`: a poller that has not been asked to stop does not end well.
* `Supervised.endsForReason`: a worker returns for a reason.
* `Pool.supervised_of_run`: a run of a worker is one in which it watches over its pollers.
* `Pool.ends_for_reason`: both together.

## Design Notes

The request to stop may come at any time, and be seen at any time after that; and the worker may see
the ends of its pollers in any order and at any time.  Nothing is said of how long it waits for the
pollers that it has asked to stop.
-/

namespace DurableWorkflow

variable {Env Fetch Job : Type}

/-! ### What a worker sees -/

/-- The failure that a worker takes the end of a loop for, if it is none that it has asked for. -/
def failureOf : Except String UnitResult → Option Error
  | .ok (.ok _) => none
  | .ok (.error e) => some e
  | .error message => some (.unitPanicked "poller" message)

/-- What a worker sees. -/
inductive Sighting where
  | shutdown
  | ended (lane : Nat) (ending : Except String UnitResult)

/-- What a worker is about. -/
inductive Supervision where
  | watching
  /-- It has asked all pollers to stop. -/
  | stopping (result : UnitResult)
  | returned (result : UnitResult)

/-- Requests all loops to stop. -/
def World.requestAll (w : World Env Fetch Job) : World Env Fetch Job :=
  (List.range w.lanes.length).foldl (fun w i => w.requestStop i) w

/-- The worlds over which a worker watches, whether it has been asked to stop, what it has seen, and
what it is about. -/
inductive Supervised (env : Env) (lanes : List (PollSource Env Fetch Job × PollerSettings)) :
    World Env Fetch Job → Bool → List Sighting → Supervision → Prop
  | start : Supervised env lanes (.start env lanes) false [] .watching
  | step {w w' : World Env Fetch Job} {asked : Bool} {seen : List Sighting} {about : Supervision}
      (h : Supervised env lanes w asked seen about) (hstep : w.step? = some w') :
      Supervised env lanes w' asked seen about
  | advance {w : World Env Fetch Job} {asked : Bool} {seen : List Sighting} {about : Supervision}
      (h : Supervised env lanes w asked seen about) (t : Time) :
      Supervised env lanes (w.advance t) asked seen about
  | note {w : World Env Fetch Job} {asked : Bool} {seen : List Sighting} {about : Supervision}
      (h : Supervised env lanes w asked seen about) (notices : List Notice) :
      Supervised env lanes { w with notices := w.notices ++ notices } asked seen about
  /-- The worker is asked to stop. -/
  | ask {w : World Env Fetch Job} {asked : Bool} {seen : List Sighting} {about : Supervision}
      (h : Supervised env lanes w asked seen about) : Supervised env lanes w true seen about
  /-- The worker sees that it has been asked to stop. -/
  | obeys {w : World Env Fetch Job} {seen : List Sighting}
      (h : Supervised env lanes w true seen .watching) :
      Supervised env lanes w.requestAll true (seen ++ [.shutdown]) (.stopping (.ok ⟨⟩))
  /-- The worker sees that a loop has ended well, and watches on. -/
  | passes {w : World Env Fetch Job} {asked : Bool} {seen : List Sighting} {i : Nat}
      {ending : Except String UnitResult} (h : Supervised env lanes w asked seen .watching)
      (hending : w.ending? i = some ending) (hwell : failureOf ending = none) :
      Supervised env lanes w asked (seen ++ [.ended i ending]) .watching
  /-- The worker sees that a loop has failed. -/
  | fails {w : World Env Fetch Job} {asked : Bool} {seen : List Sighting} {i : Nat}
      {ending : Except String UnitResult} {e : Error}
      (h : Supervised env lanes w asked seen .watching) (hending : w.ending? i = some ending)
      (hfails : failureOf ending = some e) :
      Supervised env lanes w.requestAll asked (seen ++ [.ended i ending]) (.stopping (.error e))
  /-- The worker has seen all loops end. -/
  | gone {w : World Env Fetch Job} {asked : Bool} {seen : List Sighting}
      (h : Supervised env lanes w asked seen .watching)
      (hall : ∀ i < w.lanes.length, ∃ ending, .ended i ending ∈ seen) :
      Supervised env lanes w.requestAll asked seen (.stopping (.ok ⟨⟩))
  /-- The worker sees how a loop has ended that it has asked to stop. -/
  | sees {w : World Env Fetch Job} {asked : Bool} {seen : List Sighting} {result : UnitResult}
      {i : Nat} {ending : Except String UnitResult}
      (h : Supervised env lanes w asked seen (.stopping result))
      (hending : w.ending? i = some ending) :
      Supervised env lanes w asked (seen ++ [.ended i ending]) (.stopping result)
  | returns {w : World Env Fetch Job} {asked : Bool} {seen : List Sighting} {result : UnitResult}
      (h : Supervised env lanes w asked seen (.stopping result)) :
      Supervised env lanes w asked seen (.returned result)

/-- A loop has come to an end without having been asked to stop. -/
def EndsUnasked (lanes : List (PollSource Env Fetch Job × PollerSettings)) (i : Nat)
    (ending : Except String UnitResult) : Prop :=
  ∃ src s deeds p, lanes[i]? = some (src, s) ∧ Poller.Run src s deeds p ∧ .asked ∉ deeds ∧
    p.ending? = some ending

/-- Why a worker returns: well only if it has been asked to, and has seen that first; and with an
error only if the first thing that it has seen is the end of a loop with this error that it has not
asked for.  Before that, it has asked all loops to stop. -/
structure EndsForReason (lanes : List (PollSource Env Fetch Job × PollerSettings))
    (w : World Env Fetch Job) (asked : Bool) (seen : List Sighting) (result : UnitResult) :
    Prop where
  ok : result = .ok ⟨⟩ → asked = true ∧ seen.head? = some .shutdown
  error : ∀ e, result = .error e → ∃ i ending, seen.head? = some (.ended i ending) ∧
    failureOf ending = some e ∧ EndsUnasked lanes i ending
  stops : ∀ lane ∈ w.lanes, lane.poller.stopping = true

/-! ### Requests to all loops -/

namespace World

variable {w : World Env Fetch Job}

theorem requestStop_frame (w : World Env Fetch Job) (i : Nat) :
    (w.requestStop i).lanes
        = w.lanes.modify i (fun lane => { lane with poller := lane.poller.requestStop }) ∧
      (w.requestStop i).now = w.now := by
  rw [requestStop]
  split
  · next hnone =>
    have hle : w.lanes.length ≤ i := List.getElem?_eq_none_iff.mp hnone
    rw [List.modify_eq_self hle]
    exact ⟨rfl, rfl⟩
  · next lane hlane =>
    have hset : (w.setPoller i lane.poller.requestStop).lanes
        = w.lanes.modify i (fun lane => { lane with poller := lane.poller.requestStop }) := by
      refine List.ext_getElem? fun j => ?_
      rw [setPoller, List.getElem?_modify, List.getElem?_modify]
      split
      · next heq =>
        subst heq
        rw [hlane]
        rfl
      · rfl
    dsimp only
    split
    · exact ⟨hset, rfl⟩
    · exact ⟨(wake_lanes _ _).trans hset, wake_now _ _⟩

/-- Requests to some loops leave all others as they are. -/
theorem requestStops_frame (is : List Nat) (w : World Env Fetch Job) :
    let w' := is.foldl (fun w i => w.requestStop i) w
    w'.now = w.now ∧ w'.lanes.length = w.lanes.length ∧
      ∀ j lane, w'.lanes[j]? = some lane → (j ∈ is → lane.poller.stopping = true) ∧
        ∃ old, w.lanes[j]? = some old ∧
          (old.poller.stopping = true → lane.poller.stopping = true) := by
  induction is generalizing w with
  | nil => exact ⟨rfl, rfl, fun j lane hlane => ⟨nofun, lane, hlane, id⟩⟩
  | cons i is ih =>
      obtain ⟨hlanes, hnow⟩ := w.requestStop_frame i
      obtain ⟨hnow', hlength, hall⟩ := ih (w.requestStop i)
      refine ⟨hnow'.trans hnow, hlength.trans (by rw [hlanes, List.length_modify]), ?_⟩
      intro j lane hlane
      obtain ⟨hstops, old, hold, hkept⟩ := hall j lane hlane
      rw [hlanes, List.getElem?_modify] at hold
      obtain ⟨first, hfirst, rfl⟩ := Option.map_eq_some_iff.mp hold
      refine ⟨fun hj => ?_, first, hfirst, fun hstopping => hkept ?_⟩
      · rcases List.mem_cons.mp hj with rfl | hj
        · exact hkept (by simp [Poller.requestStop])
        · exact hstops hj
      · split <;> simp [Poller.requestStop, hstopping]

theorem requestAll_frame (w : World Env Fetch Job) :
    w.requestAll.now = w.now ∧ ∀ lane ∈ w.requestAll.lanes, lane.poller.stopping = true := by
  obtain ⟨hnow, hlength, hall⟩ := requestStops_frame (List.range w.lanes.length) w
  refine ⟨hnow, fun lane hlane => ?_⟩
  obtain ⟨j, hj⟩ := List.mem_iff_getElem?.mp hlane
  obtain ⟨hlt, -⟩ := List.getElem?_eq_some_iff.mp hj
  exact (hall j lane hj).1 (List.mem_range.mpr (hlength ▸ hlt))

variable {env : Env} {lanes : List (PollSource Env Fetch Job × PollerSettings)}

theorem Reached.requestAll (h : Reached env lanes w) : Reached env lanes w.requestAll := by
  have hall (is : List Nat) (w : World Env Fetch Job) (h : Reached env lanes w) :
      Reached env lanes (is.foldl (fun w i => w.requestStop i) w) := by
    induction is generalizing w with
    | nil => exact h
    | cons i is ih => exact ih _ (h.requestStop i)
  exact hall _ w h

/-- What is asked of the loops is kept until they are asked to stop. -/
theorem kept_stopping (stopping : Bool) :
    Kept fun w : World Env Fetch Job => ∀ lane ∈ w.lanes, lane.poller.stopping = stopping :=
  kept_pollers (fun src s now env p h => (Poller.turn_stopping src s now env p).trans h)
    (fun _ _ _ _ _ _ h ht => (Poller.stepUnit?_stopping ht).trans h)
    fun _ _ _ h hring => (Poller.ring_stopping hring).trans h

/-- **A loop that has not been asked to stop does not end well.** -/
theorem Reached.fails_unasked (h : Reached env lanes w)
    (hunasked : ∀ lane ∈ w.lanes, lane.poller.stopping = false) {i : Nat}
    {ending : Except String UnitResult} (hending : w.ending? i = some ending) :
    EndsUnasked lanes i ending ∧ (failureOf ending).isSome := by
  obtain ⟨trace, -, hsources, hruns, -⟩ := h.exists_trace
  obtain ⟨p, hp, hover⟩ := Option.bind_eq_some_iff.mp hending
  obtain ⟨lane, hlane, rfl⟩ := Option.map_eq_some_iff.mp hp
  have hrun := hruns i lane hlane
  have hasked : .asked ∉ ofLane i trace := by
    intro hasked
    have hstopping := hrun.stopping_of_asked hasked
    rw [hunasked lane (List.mem_of_getElem? hlane)] at hstopping
    cases hstopping
  refine ⟨⟨lane.source, lane.settings, _, lane.poller, ?_, hrun, hasked, hover⟩, ?_⟩
  · rw [← hsources, List.getElem?_map, hlane]
    rfl
  · rcases ending with message | e | ⟨⟩
    · rfl
    · rfl
    · -- The loop would have been asked to stop.
      have hresult : lane.poller.result? = some (.ok ⟨⟩) := by
        cases hstage : lane.poller.stage with
        | ended result =>
            simp only [Poller.ending?, hstage, Option.some.injEq, Except.ok.injEq] at hover
            simp only [Poller.result?, hstage, hover]
        | starting | seeking | polling | pausing | draining | crashed =>
            simp [Poller.ending?, hstage] at hover
      cases hrun.cause hresult with
      | stop hstop => exact absurd hstop hasked

end World

/-! ### What a worker comes to -/

namespace Supervised

variable {env : Env} {lanes : List (PollSource Env Fetch Job × PollerSettings)}
  {w : World Env Fetch Job} {asked : Bool} {seen : List Sighting} {about : Supervision}

theorem reached (h : Supervised env lanes w asked seen about) : w.Reached env lanes := by
  induction h with
  | start => exact .start
  | step h hstep ih => exact ih.step hstep
  | advance h t ih => exact ih.advance t
  | note h notices ih => exact ih.note notices
  | ask h ih | passes h hending hwell ih | sees h hending ih | returns h ih => exact ih
  | obeys h ih | fails h hending hfails ih | gone h hall ih => exact ih.requestAll

/-- What holds of a worker at each point: as long as it watches, no loop has been asked to stop and
nothing has been seen; after that it has a reason. -/
def Holds (lanes : List (PollSource Env Fetch Job × PollerSettings)) (w : World Env Fetch Job)
    (asked : Bool) (seen : List Sighting) : Supervision → Prop
  | .watching => (∀ lane ∈ w.lanes, lane.poller.stopping = false) ∧ seen = []
  | .stopping result | .returned result => EndsForReason lanes w asked seen result

/-- Whatever passes, the worker has the same reason. -/
theorem Holds.keep (h : Holds lanes w asked seen about) {w' : World Env Fetch Job}
    (hkeep : ∀ stopping, (∀ lane ∈ w.lanes, lane.poller.stopping = stopping) →
      ∀ lane ∈ w'.lanes, lane.poller.stopping = stopping) : Holds lanes w' asked seen about := by
  cases about with
  | watching => exact ⟨hkeep false h.1, h.2⟩
  | stopping | returned => exact ⟨h.ok, h.error, hkeep true h.stops⟩

theorem length_lanes (h : w.Reached env lanes) : w.lanes.length = lanes.length := by
  obtain ⟨trace, -, hsources, -⟩ := h.exists_trace
  rw [← hsources, List.length_map]

theorem holds (hlanes : lanes ≠ []) (h : Supervised env lanes w asked seen about) :
    Holds lanes w asked seen about := by
  induction h with
  | start =>
      refine ⟨fun lane hlane => ?_, rfl⟩
      obtain ⟨x, -, rfl⟩ := List.mem_map.mp hlane
      rfl
  | step h hstep ih =>
      exact ih.keep fun stopping hall => (World.kept_stopping stopping).step _ _ hall hstep
  | advance h t ih =>
      exact ih.keep fun stopping hall => (World.kept_stopping stopping).advance _ t hall
  | note h notices ih => exact ih.keep fun stopping hall => hall
  | @ask w asked seen about h ih =>
      cases about with
      | watching => exact ih
      | stopping | returned => exact ⟨fun hok => ⟨rfl, (ih.ok hok).2⟩, ih.error, ih.stops⟩
  | obeys h ih =>
      obtain ⟨-, rfl⟩ := ih
      refine ⟨fun _ => ⟨rfl, rfl⟩, fun e he => ?_, (World.requestAll_frame _).2⟩
      cases he
  | passes h hending hwell ih =>
      -- No loop ends well before it has been asked to stop.
      obtain ⟨-, hfails⟩ := h.reached.fails_unasked ih.1 hending
      simp [hwell] at hfails
  | fails h hending hfails ih =>
      obtain ⟨hunasked, rfl⟩ := ih
      obtain ⟨hends, -⟩ := h.reached.fails_unasked hunasked hending
      refine ⟨fun hok => ?_, fun e he => ?_, (World.requestAll_frame _).2⟩
      · cases hok
      · cases he
        exact ⟨_, _, rfl, hfails, hends⟩
  | gone h hall ih =>
      -- There is a loop, and nothing has been seen of it.
      obtain ⟨-, rfl⟩ := ih
      have hpos : 0 < lanes.length := List.length_pos_iff.mpr hlanes
      obtain ⟨ending, hseen⟩ := hall 0 (length_lanes h.reached ▸ hpos)
      cases hseen
  | @sees w asked seen result i ending h hending ih =>
      have hhead {x : Sighting} (hx : seen.head? = some x) :
          (seen ++ [Sighting.ended i ending]).head? = some x := by
        rw [List.head?_append, hx, Option.some_or]
      refine ⟨fun hok => ⟨(ih.ok hok).1, hhead (ih.ok hok).2⟩, fun e he => ?_, ih.stops⟩
      obtain ⟨j, first, hfirst, hreason⟩ := ih.error e he
      exact ⟨j, first, hhead hfirst, hreason⟩
  | returns h ih => exact ih

theorem unasked (h : Supervised env lanes w asked seen .watching) :
    ∀ lane ∈ w.lanes, lane.poller.stopping = false := by
  by_cases hlanes : lanes = []
  · have hnone := length_lanes h.reached
    rw [hlanes, List.length_nil] at hnone
    rw [List.length_eq_zero_iff.mp hnone]
    exact fun _ hlane => nomatch hlane
  · exact (h.holds hlanes).1

/-- **A worker returns for a reason.** -/
theorem endsForReason (hlanes : lanes ≠ []) {result : UnitResult}
    (h : Supervised env lanes w asked seen (.returned result)) :
    EndsForReason lanes w asked seen result := h.holds hlanes

theorem kept (env : Env) (lanes : List (PollSource Env Fetch Job × PollerSettings)) (asked : Bool)
    (seen : List Sighting) (about : Supervision) :
    World.Kept fun w : World Env Fetch Job => Supervised env lanes w asked seen about :=
  ⟨fun _ _ => .step, fun _ t h => h.advance t⟩

end Supervised

/-! ### Runs of a worker -/

namespace Pool

variable {State : Type} (pool : Pool State)

theorem ending?_eq (w : Shared State) (i : Nat) :
    w.ending? i = (w.lanes[i]?).bind fun lane => lane.poller.ending? := by
  rw [World.ending?, World.poller?, Option.bind_map]
  rfl

/-- A failure is that of a loop that has ended. -/
theorem exists_of_firstFailure? {w : Shared State} {is : List Nat} {e : Error} {notice : Notice}
    (h : firstFailure? w is = some (e, notice)) :
    ∃ i ending, w.ending? i = some ending ∧ failureOf ending = some e := by
  induction is with
  | nil => cases h
  | cons i is ih =>
      rw [firstFailure?, ← ending?_eq] at h
      split at h
      · next e' hending =>
        cases h
        exact ⟨i, _, hending, rfl⟩
      · next message hending =>
        cases h
        exact ⟨i, _, hending, rfl⟩
      · exact ih h

/-- Without a failure, the loops that have ended have ended well. -/
theorem failureOf_of_firstFailure? {w : Shared State} {is : List Nat}
    (h : firstFailure? w is = none) :
    ∀ i ∈ is, ∀ ending, w.ending? i = some ending → failureOf ending = none := by
  induction is with
  | nil => exact fun _ hi => nomatch hi
  | cons i is ih =>
      rw [firstFailure?, ← ending?_eq] at h
      intro j hj ending hending
      split at h
      · cases h
      · cases h
      · next hother hpanic =>
        rcases List.mem_cons.mp hj with rfl | hj
        · rcases ending with message | e | ⟨⟩
          · exact absurd hending (hpanic message)
          · exact absurd hending (hother e)
          · rfl
        · exact ih h j hj ending hending

variable {host : Host State} {w w' : Shared State} {asked : Bool} {seen : List Sighting}
  {result : UnitResult} {report : PoolReport}

/-- A worker that has asked its pollers to stop returns with the result that it had then. -/
theorem supervised_of_shutdown {fuel : Nat}
    (h : Supervised host pool.lanes w.requestAll asked seen (.stopping result))
    (hshutdown : pool.shutdown fuel w result = some (w', report)) :
    Supervised host pool.lanes w' asked seen (.returned report.result) ∧
      w.now ≤ report.endedAt := by
  have hnow : w.now ≤ w.requestAll.now := Nat.le_of_eq w.requestAll_frame.1.symm
  rw [shutdown, ← World.requestAll] at hshutdown
  dsimp only at hshutdown
  generalize w.requestAll = stopped at h hnow hshutdown
  split at hshutdown
  · cases hshutdown
    exact ⟨h.returns, hnow⟩
  · obtain ⟨w₁, hwaited, hreport⟩ := Option.map_eq_some_iff.mp hshutdown
    -- Until the worker waits no longer, its pollers go on.
    have hw₁ : Supervised host pool.lanes w₁ asked seen (.stopping result) ∧ w.now ≤ w₁.now := by
      split at hwaited
      · cases hwaited
        exact ⟨h, hnow⟩
      · exact ⟨(Supervised.kept _ _ _ _ _).runOut h hwaited,
          (World.kept_now w.now).runOut hnow hwaited⟩
    split at hreport
    · cases hreport
      exact ⟨hw₁.1.returns, hw₁.2⟩
    · cases hreport
      exact ⟨((hw₁.1.advance _).note _).returns, (World.kept_now w.now).advance _ _ hw₁.2⟩

/-- A worker that watches comes to its end as one that watches over its pollers. -/
theorem supervised_of_watch {stopAt : Time} {fuel : Nat}
    (h : Supervised host pool.lanes w false [] .watching)
    (hended : ∀ i ∈ w.ended, (w.ending? i).isSome)
    (hwatch : pool.watch stopAt fuel w = some (w', report)) :
    ∃ asked seen, Supervised host pool.lanes w' asked seen (.returned report.result) ∧
      (asked = true → stopAt ≤ report.endedAt) := by
  induction fuel generalizing w with
  | zero => cases hwatch
  | succ fuel ih =>
      obtain ⟨w₁, hsettle, hrest⟩ := Option.bind_eq_some_iff.mp hwatch
      have hsettled := (Supervised.kept _ _ _ _ _).settle h hsettle
      have hended₁ := World.kept_ended.settle hended hsettle
      -- The worker is asked to stop at a moment, and sees it at once.
      have hstop (hshutdown : pool.shutdown fuel (w₁.advance stopAt) (.ok ⟨⟩) = some (w', report)) :
          ∃ asked seen, Supervised host pool.lanes w' asked seen (.returned report.result) ∧
            (asked = true → stopAt ≤ report.endedAt) := by
        obtain ⟨hreturned, hnow⟩ :=
          pool.supervised_of_shutdown (hsettled.advance stopAt).ask.obeys hshutdown
        have hpassed : stopAt ≤ (w₁.advance stopAt).now := by
          rw [World.advance_now]
          exact Nat.le_max_right _ _
        exact ⟨_, _, hreturned, fun _ => Nat.le_trans hpassed hnow⟩
      split at hrest
      · next e notice hfailure =>
        obtain ⟨i, ending, hending, hfails⟩ := exists_of_firstFailure? hfailure
        obtain ⟨hreturned, -⟩ :=
          pool.supervised_of_shutdown ((hsettled.note _).fails hending hfails) hrest
        exact ⟨_, _, hreturned, nofun⟩
      · next hnone =>
        split at hrest
        · next hall =>
          -- All loops would have ended well, so there is none.
          have hempty : w₁.ended = [] := by
            refine List.eq_nil_iff_forall_not_mem.mpr fun i hi => ?_
            obtain ⟨ending, hending⟩ := Option.isSome_iff_exists.mp (hended₁ i hi)
            obtain ⟨-, hfails⟩ := hsettled.reached.fails_unasked hsettled.unasked hending
            simp [failureOf_of_firstFailure? hnone i hi ending hending] at hfails
          rw [hempty, List.length_nil] at hall
          have hgone := hsettled.gone fun i hi => absurd hi (hall ▸ Nat.not_lt_zero i)
          obtain ⟨hreturned, -⟩ := pool.supervised_of_shutdown hgone hrest
          exact ⟨_, _, hreturned, nofun⟩
        · split at hrest
          · next next hnext =>
            split at hrest
            · exact ih (hsettled.advance next) (World.kept_ended.advance _ next hended₁) hrest
            · exact hstop hrest
          · exact hstop hrest

/-- **A run of a worker is one in which it watches over its pollers**, and is asked to stop at the
given moment at the earliest. -/
theorem supervised_of_run {stopAt : Time} {fuel : Nat}
    (hrun : pool.run stopAt fuel host = some (w', report)) :
    ∃ asked seen, Supervised host pool.lanes w' asked seen (.returned report.result) ∧
      (asked = true → stopAt ≤ report.endedAt) := by
  rw [run] at hrun
  split at hrun
  · next hnow =>
    obtain ⟨hreturned, -⟩ := pool.supervised_of_shutdown Supervised.start.ask.obeys hrun
    exact ⟨_, _, hreturned, fun _ => hnow ▸ Nat.zero_le _⟩
  · exact pool.supervised_of_watch .start (fun _ hi => nomatch hi) hrun

/-- **A worker ends for the right reason.**  In whatever order it is asked to stop, its pollers come
to their ends and it sees so: a worker with pollers returns well only if it has been asked to stop;
it returns with an error only if the first thing that it has seen, before any request to stop, is
that a poller has ended with this error or has broken off, of which no one has asked it; and before
it returns, it has asked all pollers to stop.  The runs of a worker are among these. -/
theorem ends_for_reason :
    (∀ {Env Fetch Job : Type} (env : Env)
      (lanes : List (PollSource Env Fetch Job × PollerSettings)) (w : World Env Fetch Job)
      (asked : Bool) (seen : List Sighting) (result : UnitResult), lanes ≠ [] →
        Supervised env lanes w asked seen (.returned result) →
          EndsForReason lanes w asked seen result) ∧
    ∀ {State : Type} (pool : Pool State) (host : Host State) (stopAt : Time) (fuel : Nat)
      (w : Shared State) (report : PoolReport), pool.run stopAt fuel host = some (w, report) →
        ∃ asked seen, Supervised host pool.lanes w asked seen (.returned report.result) ∧
          (asked = true → stopAt ≤ report.endedAt) := by
  constructor
  · intro Env Fetch Job env lanes w asked seen result hlanes hsupervised
    exact hsupervised.endsForReason hlanes
  · intro State pool host stopAt fuel w report hrun
    exact pool.supervised_of_run hrun

/-- A worker with one poller, which fails fast, and nothing to do. -/
theorem ends_for_reason_nothing :
    let poller : PollerSettings := { PollerSettings.standard with mode := .failFast }
    let pool : Pool Script :=
      ⟨Script.service, none, ⟨[(⟨"charge", "1"⟩, fun _ _ => .finish (.completed none))]⟩,
        { WorkerSettings.standard with poller := poller }, "worker-1"⟩
    let host : Host Script :=
      .start { Script.empty with taskPolls := [⟨0, .given none⟩] } ⟨toString, 0⟩
    ∃ w report asked seen, pool.run 5 50 host = some (w, report) ∧
      report.result = .error (.noUnitAvailable "task") ∧
        EndsForReason pool.lanes w asked seen report.result := by
  intro poller pool host
  obtain ⟨hreason, hruns⟩ := ends_for_reason
  have hresult : (pool.run 5 50 host).map (fun x => x.2.result)
      = some (.error (.noUnitAvailable "task")) := by decide +kernel
  obtain ⟨⟨w, report⟩, hrun, hreport⟩ := Option.map_eq_some_iff.mp hresult
  obtain ⟨asked, seen, hsupervised, -⟩ := hruns pool host 5 50 w report hrun
  have hlanes : pool.lanes ≠ [] := List.cons_ne_nil _ _
  have hends := hreason host pool.lanes w asked seen report.result hlanes hsupervised
  exact ⟨w, report, asked, seen, hrun, hreport, hends⟩

end Pool

end DurableWorkflow
