import Mathlib.Data.List.Perm.Subperm
import DurableWorkflow.Polling.Stopping
import DurableWorkflow.Proofs.Polling.Run

/-!
# Runs of a world

Whatever happens in a world, each of its pollers makes a run.  The pollers make their runs one
deed at a time, and each deed starts from the environment that the one before has left.

## Main Definitions

* `World.Reached`: the worlds that lanes come to.
* `World.ofLane`: what has been done by one lane, or to it.
* `World.Chained`: deeds that share an environment.
* `World.Kept`: what each piece of work and each passing of time keeps.

## Main Statements

* `World.Reached.exists_trace`: every poller of a world makes a run.
* `World.Reached.exists_run`: so does the only poller of a world.
* `World.Reached.runTo`, `World.Reached.runOut`: worlds that come about as time passes are reached.

## Design Notes

A run of a poller lets a unit make its next step at any time, unless the unit never goes on.  In a
world, a unit is ready or waits for an alarm at most once, and it does either only if its last step
has said so.  This is the invariant that is kept here.
-/

namespace DurableWorkflow

variable {Env Fetch Job : Type}

/-- A deed starts from one environment and leaves another. -/
def Poller.Deed.Joins : Poller.Deed Env Fetch Job → Env → Env → Prop
  | .turned _ env _ turn, before, after => env = before ∧ turn.env = after
  | .worked _ env _ turn, before, after => env = before ∧ turn.env = after
  | .rang _, before, after => before = after
  | .asked, before, after => before = after

/-- The unit that is ready, with its lane. -/
def Strand.unit? : Strand → Option (Nat × Nat)
  | .loop _ => none
  | .unit i n => some (i, n)

/-- The unit that waits, with its lane. -/
def Bell.unit? : Bell → Option (Nat × Nat)
  | .poller _ _ => none
  | .unit i n => some (i, n)

namespace World

/-- The worlds that lanes come to: by work on what is ready, by the passing of time, by requests to
stop, and by what is noted meanwhile. -/
inductive Reached (env : Env) (lanes : List (PollSource Env Fetch Job × PollerSettings)) :
    World Env Fetch Job → Prop
  | start : Reached env lanes (.start env lanes)
  | step {w w' : World Env Fetch Job} (hreached : Reached env lanes w)
      (hstep : w.step? = some w') : Reached env lanes w'
  | advance {w : World Env Fetch Job} (hreached : Reached env lanes w) (t : Time) :
      Reached env lanes (w.advance t)
  | requestStop {w : World Env Fetch Job} (hreached : Reached env lanes w) (i : Nat) :
      Reached env lanes (w.requestStop i)
  | note {w : World Env Fetch Job} (hreached : Reached env lanes w) (notices : List Notice) :
      Reached env lanes { w with notices := w.notices ++ notices }

/-- What has been done by one lane, or to it. -/
def ofLane (i : Nat) (trace : List (Nat × Poller.Deed Env Fetch Job)) :
    List (Poller.Deed Env Fetch Job) :=
  trace.filterMap fun x => if x.1 = i then some x.2 else none

/-- Each deed starts from the environment that the one before has left. -/
inductive Chained (env : Env) : List (Nat × Poller.Deed Env Fetch Job) → Env → Prop
  | nil : Chained env [] env
  | snoc {trace : List (Nat × Poller.Deed Env Fetch Job)} {before after : Env}
      (hchained : Chained env trace before) (i : Nat) {deed : Poller.Deed Env Fetch Job}
      (hjoins : deed.Joins before after) : Chained env (trace ++ [(i, deed)]) after

theorem ofLane_concat_self (i : Nat) (trace : List (Nat × Poller.Deed Env Fetch Job))
    (deed : Poller.Deed Env Fetch Job) :
    ofLane i (trace ++ [(i, deed)]) = ofLane i trace ++ [deed] := by
  simp [ofLane]

theorem ofLane_concat_of_ne {i j : Nat} (hne : i ≠ j)
    (trace : List (Nat × Poller.Deed Env Fetch Job)) (deed : Poller.Deed Env Fetch Job) :
    ofLane j (trace ++ [(i, deed)]) = ofLane j trace := by
  simp [ofLane, hne]

/-! ### Units that go on -/

/-- The units that are ready or wait, with their lanes. -/
def pending (w : World Env Fetch Job) : List (Nat × Nat) :=
  w.queue.filterMap Strand.unit? ++ w.alarms.filterMap fun alarm => alarm.2.unit?

/-- The change from one world to another leaves the lanes and the environment as they are, and makes
ready, or lets wait, at most the given units. -/
structure Readies (w w' : World Env Fetch Job) (units : List (Nat × Nat)) : Prop where
  lanes : w'.lanes = w.lanes
  env : w'.env = w.env
  pending : w'.pending.Subperm (units ++ w.pending)

theorem Readies.refl (w : World Env Fetch Job) : w.Readies w [] :=
  ⟨rfl, rfl, List.Subperm.refl _⟩

/-- Changes in turn make ready what either of them does. -/
theorem Readies.trans {w w' w'' : World Env Fetch Job} {units units' : List (Nat × Nat)}
    (h : w.Readies w' units) (h' : w'.Readies w'' units') : w.Readies w'' (units' ++ units) where
  lanes := h'.lanes.trans h.lanes
  env := h'.env.trans h.env
  pending := by
    rw [List.append_assoc]
    exact h'.pending.trans ((List.subperm_append_left units').mpr h.pending)

theorem Readies.mono {w w' : World Env Fetch Job} {units units' : List (Nat × Nat)}
    (h : w.Readies w' units) (hsub : units.Subperm units') : w.Readies w' units' :=
  ⟨h.lanes, h.env, h.pending.trans ((List.subperm_append_right w.pending).mpr hsub)⟩

/-- Waking a strand makes its unit ready, if it is one of a unit and not ready already. -/
theorem readies_wake (w : World Env Fetch Job) (s : Strand) :
    w.Readies (w.wake s) s.unit?.toList := by
  unfold wake
  split
  · exact ⟨rfl, rfl, (List.sublist_append_right _ _).subperm⟩
  · refine ⟨rfl, rfl, List.Perm.subperm ?_⟩
    have hlast : [s].filterMap Strand.unit? = s.unit?.toList := by cases s <;> rfl
    rw [pending, List.filterMap_append, hlast, pending, ← List.append_assoc]
    exact List.perm_append_comm.append_right _

theorem readies_first (w : World Env Fetch Job) (s : Strand) :
    w.Readies (w.first s) s.unit?.toList := by
  refine ⟨rfl, rfl, List.Perm.subperm ?_⟩
  cases s <;> exact List.Perm.refl _

/-- An alarm lets its unit wait, if it is one of a unit. -/
theorem readies_setAlarm (w : World Env Fetch Job) (ms : Nat) (b : Bell) :
    w.Readies (w.setAlarm ms b) b.unit?.toList := by
  refine ⟨rfl, rfl, List.Perm.subperm ?_⟩
  have hlast : [(w.now + ms, b)].filterMap (fun alarm => alarm.2.unit?) = b.unit?.toList := by
    cases b <;> rfl
  rw [setAlarm, pending, List.filterMap_append, hlast, ← List.append_assoc]
  exact List.perm_append_comm

/-- The alarms of a loop let no unit wait. -/
theorem readies_setAlarms (w : World Env Fetch Job) (i : Nat)
    (alarms : List (Poller.Alarm × Nat)) :
    w.Readies (alarms.foldl (fun w (a, ms) => w.setAlarm ms (.poller i a)) w) [] := by
  induction alarms generalizing w with
  | nil => exact .refl w
  | cons alarm alarms ih => exact (w.readies_setAlarm alarm.2 (.poller i alarm.1)).trans (ih _)

theorem readies_spawned (w : World Env Fetch Job) (i : Nat) (spawned : Option Nat) :
    w.Readies (match spawned with
        | some n => w.wake (.unit i n)
        | none => w) (spawned.map (i, ·)).toList := by
  cases spawned with
  | none => exact .refl w
  | some n => exact w.readies_wake (.unit i n)

theorem readies_ended (w : World Env Fetch Job) (i : Nat) (ended : Bool) :
    w.Readies (if ended then { w with ended := w.ended ++ [i] } else w) [] := by
  cases ended <;> exact ⟨rfl, rfl, List.Subperm.refl _⟩

theorem readies_again (w : World Env Fetch Job) (i : Nat) (again : Bool) :
    w.Readies (if again then w.first (.loop i) else w) [] := by
  cases again
  · exact .refl w
  · exact w.readies_first (.loop i)

/-- A turn of a loop makes the unit ready that it takes up. -/
theorem readies_turnLoop (w : World Env Fetch Job) (i : Nat) (lane : Lane Env Fetch Job) :
    let t := lane.poller.turn lane.source lane.settings w.now w.env
    ({ w with env := t.env, notices := w.notices ++ t.notices }.setPoller i t.poller).Readies
      (w.turnLoop i lane) (t.spawned.map (i, ·)).toList := by
  intro t
  have halarms := ({ w with
    env := t.env, notices := w.notices ++ t.notices }.setPoller i t.poller).readies_setAlarms i
      t.alarms
  have hall := ((halarms.trans (readies_spawned _ i t.spawned)).trans (readies_ended _ i
    (t.poller.ending?.isSome && !lane.poller.ending?.isSome))).trans (readies_again _ i t.again)
  rw [List.append_nil] at hall
  exact hall

/-- A step of a unit makes the unit ready, or lets it wait, if the unit goes on. -/
theorem readies_turnUnit (w : World Env Fetch Job) (i n : Nat) (lane : Lane Env Fetch Job)
    {t : Poller.UnitTurn Env Fetch Job}
    (ht : lane.poller.stepUnit? lane.source w.now w.env n = some t) :
    ({ w with env := t.env, notices := w.notices ++ t.notices }.setPoller i t.poller).Readies
      (w.turnUnit i n lane) (if t.next = Poller.UnitNext.never then [] else [(i, n)]) := by
  rw [turnUnit, ht]
  dsimp only
  cases t.next with
  | again => exact readies_first _ (.unit i n)
  | later ms => exact readies_setAlarm _ ms (.unit i n)
  | yield => exact readies_wake _ (.unit i n)
  | finished => exact (readies_wake _ (.loop i)).mono List.nil_subperm
  | never => exact .refl _

/-- What has been done, with the state that lanes have come to and the units that may go on. -/
structure Traced (env₀ : Env) (lanes₀ : List (PollSource Env Fetch Job × PollerSettings))
    (trace : List (Nat × Poller.Deed Env Fetch Job)) (lanes : List (Lane Env Fetch Job)) (env : Env)
    (pending : List (Nat × Nat)) : Prop where
  chained : Chained env₀ trace env
  sources : lanes.map (fun lane => (lane.source, lane.settings)) = lanes₀
  run : ∀ i lane, lanes[i]? = some lane →
    Poller.Run lane.source lane.settings (ofLane i trace) lane.poller
  bounded : ∀ x ∈ trace, x.1 < lanes.length
  nodup : pending.Nodup
  alive : ∀ i n, (i, n) ∈ pending → ∀ lane, lanes[i]? = some lane →
    n < lane.poller.taken ∧ Poller.Alive (ofLane i trace) n

variable {env₀ env env' : Env} {lanes₀ : List (PollSource Env Fetch Job × PollerSettings)}
  {trace : List (Nat × Poller.Deed Env Fetch Job)} {lanes : List (Lane Env Fetch Job)}
  {pend pend' : List (Nat × Nat)} {w w' : World Env Fetch Job}

namespace Traced

/-- Of the units that may go on some may be left out. -/
theorem mono (h : Traced env₀ lanes₀ trace lanes env pend) (hsub : pend'.Subperm pend) :
    Traced env₀ lanes₀ trace lanes env pend' where
  chained := h.chained
  sources := h.sources
  run := h.run
  bounded := h.bounded
  nodup := by
    obtain ⟨same, hperm, hsublist⟩ := hsub
    exact hperm.nodup_iff.mp (hsublist.nodup h.nodup)
  alive i n hmem := h.alive i n (hsub.subset hmem)

/-- A lane does something.  Of its units those may go on that could before, and those for which the
deed says so. -/
theorem act (h : Traced env₀ lanes₀ trace lanes env pend) {i : Nat} {lane : Lane Env Fetch Job}
    (hlane : lanes[i]? = some lane) {deed : Poller.Deed Env Fetch Job} {p : Poller Fetch Job}
    (hrun : Poller.Run lane.source lane.settings (ofLane i trace ++ [deed]) p)
    (hjoins : deed.Joins env env') (hnodup : pend'.Nodup)
    (halive : ∀ j n, (j, n) ∈ pend' → (j ≠ i ∧ (j, n) ∈ pend) ∨
      (j = i ∧ n < p.taken ∧ Poller.Alive (ofLane i trace ++ [deed]) n)) :
    Traced env₀ lanes₀ (trace ++ [(i, deed)])
      (lanes.modify i fun lane => { lane with poller := p }) env' pend' := by
  -- The other lanes are as they were.
  have hlanes (j : Nat) (lane' : Lane Env Fetch Job)
      (hlane' : (lanes.modify i fun lane => { lane with poller := p })[j]? = some lane') :
      (j = i ∧ lane' = { lane with poller := p }) ∨ (i ≠ j ∧ lanes[j]? = some lane') := by
    rw [List.getElem?_modify] at hlane'
    by_cases hj : i = j
    · subst hj
      rw [hlane] at hlane'
      exact .inl ⟨rfl, by simpa using hlane'.symm⟩
    · exact .inr ⟨hj, by simpa [hj] using hlane'⟩
  refine ⟨h.chained.snoc i hjoins, ?_, fun j lane' hlane' => ?_, fun x hx => ?_, hnodup,
    fun j n hmem lane' hlane' => ?_⟩
  · rw [← h.sources]
    refine List.ext_getElem? fun j => ?_
    rw [List.getElem?_map, List.getElem?_map, List.getElem?_modify]
    cases lanes[j]? with
    | none => rfl
    | some lane => by_cases hj : i = j <;> simp [hj]
  · rcases hlanes j lane' hlane' with ⟨rfl, rfl⟩ | ⟨hne, hold⟩
    · rw [ofLane_concat_self]
      exact hrun
    · rw [ofLane_concat_of_ne hne]
      exact h.run j lane' hold
  · rw [List.length_modify]
    rcases List.mem_append.mp hx with hold | hnew
    · exact h.bounded x hold
    · cases List.mem_singleton.mp hnew
      exact (List.getElem?_eq_some_iff.mp hlane).1
  · rcases hlanes j lane' hlane' with ⟨rfl, rfl⟩ | ⟨hne, hold⟩
    · rw [ofLane_concat_self]
      rcases halive j n hmem with ⟨hne, -⟩ | ⟨-, hready⟩
      · exact absurd rfl hne
      · exact hready
    · rw [ofLane_concat_of_ne hne]
      rcases halive j n hmem with ⟨-, hold'⟩ | ⟨heq, -⟩
      · exact h.alive j n hold' lane' hold
      · exact absurd heq.symm hne

/-- A turn of the loop, an alarm or a request to stop.  A unit that is taken up may go on. -/
theorem rest (h : Traced env₀ lanes₀ trace lanes env pend) {i : Nat} {lane : Lane Env Fetch Job}
    (hlane : lanes[i]? = some lane) {deed : Poller.Deed Env Fetch Job} {p : Poller Fetch Job}
    (hrun : Poller.Run lane.source lane.settings (ofLane i trace ++ [deed]) p)
    (hjoins : deed.Joins env env') (hdeed : ∀ now env n turn, deed ≠ .worked now env n turn)
    {spawned : Option Nat} (hspawned : spawned = none ∧ p.taken = lane.poller.taken ∨
      spawned = some lane.poller.taken ∧ p.taken = lane.poller.taken + 1) :
    Traced env₀ lanes₀ (trace ++ [(i, deed)])
      (lanes.modify i fun lane => { lane with poller := p }) env'
      ((spawned.map (i, ·)).toList ++ pend) := by
  have htracks := (h.run i lane hlane).tracks
  have hkept (n : Nat) (halive : Poller.Alive (ofLane i trace) n) :
      Poller.Alive (ofLane i trace ++ [deed]) n :=
    halive.concat fun now env turn heq => absurd heq (hdeed now env n turn)
  have hold (n : Nat) (hmem : (i, n) ∈ pend) :
      n < lane.poller.taken ∧ Poller.Alive (ofLane i trace ++ [deed]) n := by
    obtain ⟨hlt, halive⟩ := h.alive i n hmem lane hlane
    exact ⟨hlt, hkept n halive⟩
  rcases hspawned with ⟨rfl, htaken⟩ | ⟨rfl, htaken⟩
  · refine h.act hlane hrun hjoins h.nodup fun j n hmem => ?_
    by_cases hj : j = i
    · subst hj
      exact .inr ⟨rfl, htaken ▸ hold n hmem⟩
    · exact .inl ⟨hj, hmem⟩
  · have hnew : (i, lane.poller.taken) ∉ pend := fun hmem =>
      absurd (hold _ hmem).1 (Nat.lt_irrefl _)
    refine h.act hlane hrun hjoins (List.nodup_cons.mpr ⟨hnew, h.nodup⟩) fun j n hin => ?_
    rcases List.mem_cons.mp hin with heq | hmem
    · cases heq
      have hsilent := htracks.silent lane.poller.taken (Nat.le_refl _)
      exact .inr ⟨rfl, by omega, hkept _ (Poller.alive_of_strides_eq_nil hsilent)⟩
    · by_cases hj : j = i
      · subst hj
        obtain ⟨hlt, halive⟩ := hold n hmem
        exact .inr ⟨rfl, by omega, halive⟩
      · exact .inl ⟨hj, hmem⟩

/-- A step of a unit.  The unit goes on if the step says so. -/
theorem work {i n : Nat} (h : Traced env₀ lanes₀ trace lanes env ((i, n) :: pend))
    {lane : Lane Env Fetch Job} (hlane : lanes[i]? = some lane) {now : Time}
    {turn : Poller.UnitTurn Env Fetch Job}
    (hturn : lane.poller.stepUnit? lane.source now env n = some turn) :
    Traced env₀ lanes₀ (trace ++ [(i, .worked now env n turn)])
      (lanes.modify i fun lane => { lane with poller := turn.poller }) turn.env
      ((if turn.next = .never then [] else [(i, n)]) ++ pend) := by
  have hrun := h.run i lane hlane
  obtain ⟨hlt, halive⟩ := h.alive i n List.mem_cons_self lane hlane
  obtain ⟨_, heffect⟩ := Poller.stepUnit_effect hrun.tracks.numbered hturn
  obtain ⟨hnew, hnodup⟩ := List.nodup_cons.mp h.nodup
  refine h.act hlane (hrun.work halive hturn) ⟨rfl, rfl⟩ ?_ fun j m hmem => ?_
  · split
    · exact hnodup
    · exact h.nodup
  · by_cases hj : j = i
    · subst hj
      rw [heffect.taken]
      rcases List.mem_append.mp hmem with hself | hother
      · split at hself
        · cases hself
        · next hnext =>
          cases List.mem_singleton.mp hself
          refine .inr ⟨rfl, hlt, halive.concat fun now env turn heq => ?_⟩
          cases heq
          exact hnext
      · have hne : m ≠ n := fun heq => hnew (heq ▸ hother)
        obtain ⟨hlt', halive'⟩ := h.alive j m (List.mem_cons_of_mem _ hother) lane hlane
        refine .inr ⟨rfl, hlt', halive'.concat fun now env turn heq => ?_⟩
        cases heq
        exact absurd rfl hne
    · refine .inl ⟨hj, ?_⟩
      rcases List.mem_append.mp hmem with hself | hother
      · split at hself
        · cases hself
        · cases List.mem_singleton.mp hself
          exact absurd rfl hj
      · exact List.mem_cons_of_mem _ hother

/-- Units that are made ready, or wait, are among those that may go on. -/
theorem readies_beside {units : List (Nat × Nat)}
    (h : Traced env₀ lanes₀ trace w.lanes w.env (units ++ w.pending ++ pend))
    (hreadies : w.Readies w' units) :
    Traced env₀ lanes₀ trace w'.lanes w'.env (w'.pending ++ pend) := by
  rw [hreadies.lanes, hreadies.env]
  exact h.mono ((List.subperm_append_right pend).mpr hreadies.pending)

/-- What makes units ready that may go on leaves all else as it has been traced. -/
theorem readies {units : List (Nat × Nat)}
    (h : Traced env₀ lanes₀ trace w.lanes w.env (units ++ w.pending))
    (hreadies : w.Readies w' units) : Traced env₀ lanes₀ trace w'.lanes w'.env w'.pending := by
  rw [← List.append_nil w'.pending]
  exact readies_beside (by rwa [List.append_nil]) hreadies

end Traced

/-! ### Worlds -/

theorem traced_start (env : Env) (lanes : List (PollSource Env Fetch Job × PollerSettings)) :
    let w := World.start env lanes
    Traced env lanes [] w.lanes w.env w.pending := by
  intro w
  have hpending : w.pending = [] := by
    have hloops : w.queue.filterMap Strand.unit? = [] := by
      refine List.filterMap_eq_nil_iff.mpr fun s hs => ?_
      obtain ⟨i, -, rfl⟩ := List.mem_map.mp hs
      rfl
    rw [pending, hloops]
    rfl
  rw [hpending]
  refine ⟨.nil, ?_, fun i lane hlane => ?_, fun _ h => (nomatch h), List.nodup_nil,
    fun _ _ h => nomatch h⟩
  · simp only [w, start, List.map_map]
    exact List.map_id lanes
  · obtain ⟨⟨src, s⟩, -, rfl⟩ := List.mem_map.mp (List.mem_of_getElem? hlane)
    exact .start

/-- A piece of work is a deed of the lane that it belongs to: a turn of its loop or a step of one of
its units. -/
theorem exists_traced_step (h : Traced env₀ lanes₀ trace w.lanes w.env w.pending)
    (hstep : w.step? = some w') :
    ∃ trace', Traced env₀ lanes₀ trace' w'.lanes w'.env w'.pending := by
  unfold step? at hstep
  split at hstep
  · cases hstep
  · next s queue hqueue =>
    dsimp only at hstep
    split at hstep
    · next i =>
      have hpending : w.pending = { w with queue := queue }.pending := by
        rw [pending, hqueue]
        rfl
      rw [hpending] at h
      split at hstep
      · next lane hlane =>
        cases hstep
        obtain ⟨_, -, heffect⟩ := Poller.turn_effect (s := lane.settings) w.now w.env lane.poller
        have hturned := h.rest hlane ((h.run i lane hlane).turn w.now w.env) ⟨rfl, rfl⟩
          (fun _ _ _ _ heq => nomatch heq) heffect.spawned
        exact ⟨_, hturned.readies (readies_turnLoop { w with queue := queue } i lane)⟩
      · cases hstep
        exact ⟨_, h⟩
    · next i n =>
      have hpending : w.pending = (i, n) :: { w with queue := queue }.pending := by
        rw [pending, hqueue]
        rfl
      rw [hpending] at h
      split at hstep
      · next lane hlane =>
        cases hstep
        cases hturn : lane.poller.stepUnit? lane.source w.now w.env n with
        | none =>
            rw [turnUnit, hturn]
            exact ⟨_, h.mono List.Subperm.cons_self⟩
        | some turn =>
            have hworked := h.work hlane hturn
            exact ⟨_, hworked.readies (readies_turnUnit { w with queue := queue } i n lane hturn)⟩
      · cases hstep
        exact ⟨_, h.mono List.Subperm.cons_self⟩

/-- An alarm that rings is a deed of its lane, or makes a unit ready that has waited for it. -/
theorem exists_traced_ring {b : Bell}
    (h : Traced env₀ lanes₀ trace w.lanes w.env (b.unit?.toList ++ w.pending ++ pend)) :
    ∃ trace', Traced env₀ lanes₀ trace' (w.ring b).lanes (w.ring b).env
      ((w.ring b).pending ++ pend) := by
  cases b with
  | unit i n => exact ⟨_, h.readies_beside (w.readies_wake (.unit i n))⟩
  | poller i alarm =>
      rw [ring]
      split
      · exact ⟨_, h⟩
      · next lane hlane =>
        split
        · next p hring =>
          obtain ⟨-, htaken⟩ := Poller.ring_units hring
          have hrang := h.rest hlane ((h.run i lane hlane).ring hring) rfl
            (fun _ _ _ _ heq => nomatch heq) (.inl ⟨rfl, htaken⟩)
          exact ⟨_, hrang.readies_beside ((w.setPoller i p).readies_wake (.loop i))⟩
        · exact ⟨_, h⟩

/-- Alarms ring one after the other. -/
theorem exists_traced_rings {due : List (Time × Bell)}
    (h : Traced env₀ lanes₀ trace w.lanes w.env
      (w.pending ++ due.filterMap fun alarm => alarm.2.unit?)) :
    ∃ trace', let w' := due.foldl (fun w alarm => w.ring alarm.2) w
      Traced env₀ lanes₀ trace' w'.lanes w'.env w'.pending := by
  induction due generalizing w trace with
  | nil =>
      rw [List.filterMap_nil, List.append_nil] at h
      exact ⟨trace, h⟩
  | cons alarm due ih =>
      have hunits : (alarm :: due).filterMap (fun alarm => alarm.2.unit?)
          = alarm.2.unit?.toList ++ due.filterMap fun alarm => alarm.2.unit? := by
        cases hunit : alarm.2.unit? <;> simp [hunit]
      rw [hunits, ← List.append_assoc] at h
      obtain ⟨trace', hrang⟩ := exists_traced_ring
        (h.mono (List.perm_append_comm.append_right _).subperm)
      exact ih hrang

/-- As time passes, the alarms that are due ring, and nothing else happens. -/
theorem exists_traced_advance (h : Traced env₀ lanes₀ trace w.lanes w.env w.pending) (t : Time) :
    ∃ trace', Traced env₀ lanes₀ trace' (w.advance t).lanes (w.advance t).env
      (w.advance t).pending := by
  refine exists_traced_rings (h.mono (List.Perm.subperm ?_))
  have halarms : (w.alarms.filter (fun alarm => !(alarm.1 ≤ t)) ++
      w.alarms.filter (·.1 ≤ t)).Perm w.alarms :=
    List.perm_append_comm.trans (List.filter_append_perm _ _)
  have hunits := halarms.filterMap fun alarm => alarm.2.unit?
  rw [List.filterMap_append] at hunits
  rw [pending, pending, List.append_assoc]
  exact hunits.append_left _

/-- A request to stop is a deed of the lane that is asked. -/
theorem exists_traced_requestStop (h : Traced env₀ lanes₀ trace w.lanes w.env w.pending)
    (i : Nat) :
    ∃ trace', Traced env₀ lanes₀ trace' (w.requestStop i).lanes (w.requestStop i).env
      (w.requestStop i).pending := by
  rw [requestStop]
  split
  · exact ⟨_, h⟩
  · next lane hlane =>
    have hasked := h.rest hlane (h.run i lane hlane).ask rfl
      (fun _ _ _ _ heq => nomatch heq) (.inl ⟨rfl, rfl⟩)
    dsimp only
    split
    · exact ⟨_, hasked⟩
    · exact ⟨_, hasked.readies ((w.setPoller i lane.poller.requestStop).readies_wake (.loop i))⟩

/-- **Every poller of a world makes a run.**  What its lanes have done can be put in one order in
which each deed starts from the environment that the one before has left. -/
theorem Reached.exists_trace (h : Reached env₀ lanes₀ w) :
    ∃ trace, Chained env₀ trace w.env ∧
      (w.lanes.map fun lane => (lane.source, lane.settings)) = lanes₀ ∧
      (∀ i lane, w.lanes[i]? = some lane →
        Poller.Run lane.source lane.settings (ofLane i trace) lane.poller) ∧
      ∀ x ∈ trace, x.1 < w.lanes.length := by
  have htraced : ∃ trace, Traced env₀ lanes₀ trace w.lanes w.env w.pending := by
    induction h with
    | start => exact ⟨[], traced_start env₀ lanes₀⟩
    | step hreached hstep ih => exact exists_traced_step ih.choose_spec hstep
    | advance hreached t ih => exact exists_traced_advance ih.choose_spec t
    | requestStop hreached i ih => exact exists_traced_requestStop ih.choose_spec i
    | note hreached notices ih => exact ih
  obtain ⟨trace, htrace⟩ := htraced
  exact ⟨trace, htrace.chained, htrace.sources, htrace.run, htrace.bounded⟩

/-- Each piece of work and each passing of time keeps something. -/
structure Kept (P : World Env Fetch Job → Prop) : Prop where
  step : ∀ w w', P w → w.step? = some w' → P w'
  advance : ∀ w t, P w → P (w.advance t)

namespace Kept

variable {P : World Env Fetch Job → Prop}

/-- What each piece of work keeps holds when there is no more work. -/
theorem settle (h : Kept P) {fuel : Nat} (hw : P w) (hsettle : w.settle fuel = some w') :
    P w' := by
  induction fuel generalizing w with
  | zero => cases hsettle
  | succ fuel ih =>
      rw [World.settle] at hsettle
      split at hsettle
      · next w₁ hstep => exact ih (h.step w w₁ hw hstep) hsettle
      · cases hsettle
        exact hw

/-- What each piece of work and each passing of time keeps holds at any later time. -/
theorem runTo (h : Kept P) {t : Time} {fuel : Nat} (hw : P w)
    (hrun : w.runTo t fuel = some w') : P w' := by
  induction fuel generalizing w with
  | zero => cases hrun
  | succ fuel ih =>
      obtain ⟨w₁, hsettle, hrest⟩ := Option.bind_eq_some_iff.mp hrun
      have hsettled := h.settle hw hsettle
      split at hrest
      · next next hnext =>
        split at hrest
        · exact ih (h.advance w₁ next hsettled) hrest
        · cases hrest
          exact hsettled
      · cases hrest
        exact hsettled

theorem runOut (h : Kept P) {limit : Option Time} {fuel : Nat} (hw : P w)
    (hrun : w.runOut limit fuel = some w') : P w' := by
  induction fuel generalizing w with
  | zero => cases hrun
  | succ fuel ih =>
      obtain ⟨w₁, hsettle, hrest⟩ := Option.bind_eq_some_iff.mp hrun
      have hsettled := h.settle hw hsettle
      split at hrest
      · cases hrest
        exact hsettled
      · split at hrest
        · next next hnext =>
          split at hrest
          · split at hrest
            · exact ih (h.advance w₁ next hsettled) hrest
            · cases hrest
              exact hsettled
          · exact ih (h.advance w₁ next hsettled) hrest
        · cases hrest
          exact hsettled

end Kept

theorem kept_reached : Kept (Reached env₀ lanes₀) := ⟨fun _ _ => .step, fun _ t h => h.advance t⟩

namespace Reached

theorem settle {fuel : Nat} (h : Reached env₀ lanes₀ w) (hsettle : w.settle fuel = some w') :
    Reached env₀ lanes₀ w' := kept_reached.settle h hsettle

/-- Time passes up to a moment. -/
theorem runTo {t : Time} {fuel : Nat} (h : Reached env₀ lanes₀ w)
    (hrun : w.runTo t fuel = some w') : Reached env₀ lanes₀ w' := kept_reached.runTo h hrun

/-- Time passes until all loops have ended. -/
theorem runOut {limit : Option Time} {fuel : Nat} (h : Reached env₀ lanes₀ w)
    (hrun : w.runOut limit fuel = some w') : Reached env₀ lanes₀ w' := kept_reached.runOut h hrun

end Reached

end World

end DurableWorkflow
