import DurableWorkflow.Polling.Stopping
import DurableWorkflow.Proofs.Polling.Settlement
import DurableWorkflow.Proofs.Polling.World

/-!
# What passes in a world

A piece of work is a turn of one loop or a step of one unit.  It leaves the clock and the other
lanes alone; an alarm reaches one lane; and no loop that has ended goes on.

## Main Statements

* `World.step?_cases`: what a piece of work is.
* `World.kept_pollers`: what turns, steps and alarms keep of a poller is kept of all pollers.
* `World.kept_ended`: the loops that count as ended have ended.
* `World.kept_now`: the clock does not go back.
-/

namespace DurableWorkflow

variable {Env Fetch Job : Type}

namespace Poller

variable {src : PollSource Env Fetch Job} {s : PollerSettings} {p p' : Poller Fetch Job}

/-! ### Pollers that have come to their end -/

/-- A loop that has come to its end does nothing. -/
theorem turn_of_over (hover : p.ending?.isSome) (now : Time) (env : Env) :
    p.turn src s now env = .of env p false := by
  cases hstage : p.stage with
  | ended | crashed => simp only [turn, hstage]
  | starting | seeking | polling | pausing | draining => simp [ending?, hstage] at hover

/-- A loop that has come to its end hears no alarm. -/
theorem ring_of_over (hover : p.ending?.isSome) (alarm : Alarm) : p.ring alarm = none := by
  cases hstage : p.stage with
  | ended | crashed => cases alarm <;> simp only [ring, hstage]
  | starting | seeking | polling | pausing | draining => simp [ending?, hstage] at hover

/-- No step of a unit ends the loop. -/
theorem stepUnit?_ending? {now : Time} {env : Env} {n : Nat} {t : UnitTurn Env Fetch Job}
    (ht : p.stepUnit? src now env n = some t) : t.poller.ending? = p.ending? := by
  rw [ending?, ending?, (stepUnit_move ht).stage]

/-! ### Requests to stop -/

/-- A loop does not forget that it has been asked to stop, and does not ask itself. -/
theorem turn_stopping (src : PollSource Env Fetch Job) (s : PollerSettings) (now : Time) (env : Env)
    (p : Poller Fetch Job) : (p.turn src s now env).poller.stopping = p.stopping := by
  have hmove := turn_move src s now env p
  generalize p.turn src s now env = t at hmove ⊢
  rcases t with ⟨env', q, alarms, spawned, notices, again⟩
  cases hmove <;> rfl

theorem stepUnit?_stopping {now : Time} {env : Env} {n : Nat} {t : UnitTurn Env Fetch Job}
    (ht : p.stepUnit? src now env n = some t) : t.poller.stopping = p.stopping := by
  have hmove := stepUnit_move ht
  rcases t with ⟨env', q, notices, next⟩
  cases hmove <;> rfl

theorem ring_stopping {alarm : Alarm} (hring : p.ring alarm = some p') :
    p'.stopping = p.stopping := by
  cases ring_move hring <;> rfl

/-- A poller that has been asked to stop is to stop. -/
theorem Run.stopping_of_asked {deeds : List (Deed Env Fetch Job)} (h : Run src s deeds p)
    (hasked : .asked ∈ deeds) : p.stopping = true := by
  -- Each deed leaves it to the earlier ones whether the poller is to stop, unless it asks for it.
  induction h with
  | start => cases hasked
  | turn hrun now env ih =>
      rw [turn_stopping]
      rcases List.mem_append.mp hasked with hold | hnew
      · exact ih hold
      · cases List.mem_singleton.mp hnew
  | work hrun halive hturn ih =>
      rw [stepUnit?_stopping hturn]
      rcases List.mem_append.mp hasked with hold | hnew
      · exact ih hold
      · cases List.mem_singleton.mp hnew
  | ring hrun hring ih =>
      rw [ring_stopping hring]
      rcases List.mem_append.mp hasked with hold | hnew
      · exact ih hold
      · cases List.mem_singleton.mp hnew
  | ask => rfl

end Poller

namespace World

variable {w w' : World Env Fetch Job}

/-! ### What is ready and what is to ring -/

@[simp] theorem wake_lanes (w : World Env Fetch Job) (s : Strand) : (w.wake s).lanes = w.lanes := by
  unfold wake
  split <;> rfl

@[simp] theorem wake_env (w : World Env Fetch Job) (s : Strand) : (w.wake s).env = w.env := by
  unfold wake
  split <;> rfl

@[simp] theorem wake_alarms (w : World Env Fetch Job) (s : Strand) :
    (w.wake s).alarms = w.alarms := by
  unfold wake
  split <;> rfl

@[simp] theorem wake_now (w : World Env Fetch Job) (s : Strand) : (w.wake s).now = w.now := by
  unfold wake
  split <;> rfl

@[simp] theorem wake_ended (w : World Env Fetch Job) (s : Strand) : (w.wake s).ended = w.ended := by
  unfold wake
  split <;> rfl

theorem setAlarms_eq (w : World Env Fetch Job) (i : Nat) (alarms : List (Poller.Alarm × Nat)) :
    alarms.foldl (fun w (a, ms) => w.setAlarm ms (.poller i a)) w
      = { w with alarms := w.alarms ++ alarms.map fun (a, ms) => (w.now + ms, .poller i a) } := by
  induction alarms generalizing w with
  | nil => simp
  | cons alarm alarms ih =>
      rw [List.foldl_cons, ih]
      simp [setAlarm]

/-! ### Pieces of work -/

/-- What a turn of a loop changes: the poller of its lane, and whether the loop counts as ended. -/
theorem turnLoop_frame (w : World Env Fetch Job) (i : Nat) (lane : Lane Env Fetch Job) :
    let t := lane.poller.turn lane.source lane.settings w.now w.env
    (w.turnLoop i lane).lanes = (w.setPoller i t.poller).lanes ∧ (w.turnLoop i lane).now = w.now ∧
      (w.turnLoop i lane).ended = w.ended ++
        if t.poller.ending?.isSome && !lane.poller.ending?.isSome then [i] else [] := by
  intro t
  refine ⟨(readies_turnLoop w i lane).lanes, ?_⟩
  simp only [turnLoop, setAlarms_eq, setPoller]
  -- Neither the unit that is taken up nor the next turn concerns the clock or the ended loops.
  constructor
  · split <;> split <;> split <;> simp [first]
  · split <;> split <;> split <;> simp [first, *]

/-- What a step of a unit changes: the poller of its lane. -/
theorem turnUnit_frame (w : World Env Fetch Job) (i n : Nat) (lane : Lane Env Fetch Job)
    {t : Poller.UnitTurn Env Fetch Job}
    (ht : lane.poller.stepUnit? lane.source w.now w.env n = some t) :
    (w.turnUnit i n lane).lanes = (w.setPoller i t.poller).lanes ∧
      (w.turnUnit i n lane).now = w.now ∧ (w.turnUnit i n lane).ended = w.ended := by
  refine ⟨(readies_turnUnit w i n lane ht).lanes, ?_⟩
  rw [turnUnit, ht]
  dsimp only
  cases t.next with
  | again | later | never => exact ⟨rfl, rfl⟩
  | yield | finished => exact ⟨wake_now _ _, wake_ended _ _⟩

/-- **A piece of work** is a turn of a loop, a step of a unit, or nothing. -/
theorem step?_cases (h : w.step? = some w') :
    (w'.lanes = w.lanes ∧ w'.now = w.now ∧ w'.ended = w.ended) ∨
      (∃ i lane, w.lanes[i]? = some lane ∧
        let t := lane.poller.turn lane.source lane.settings w.now w.env
        w'.lanes = (w.setPoller i t.poller).lanes ∧ w'.now = w.now ∧
          w'.ended = w.ended ++
            if t.poller.ending?.isSome && !lane.poller.ending?.isSome then [i] else []) ∨
      ∃ i n lane t, w.lanes[i]? = some lane ∧
        lane.poller.stepUnit? lane.source w.now w.env n = some t ∧
          w'.lanes = (w.setPoller i t.poller).lanes ∧ w'.now = w.now ∧ w'.ended = w.ended := by
  unfold step? at h
  split at h
  · cases h
  · next s queue hqueue =>
    let rest : World Env Fetch Job := { w with queue := queue }
    dsimp only at h
    split at h
    · next i =>
      split at h
      · next lane hlane =>
        cases h
        exact .inr (.inl ⟨i, lane, hlane, rest.turnLoop_frame i lane⟩)
      · cases h
        exact .inl ⟨rfl, rfl, rfl⟩
    · next i n =>
      split at h
      · next lane hlane =>
        cases h
        cases hturn : lane.poller.stepUnit? lane.source w.now w.env n with
        | none =>
            refine .inl ?_
            rw [turnUnit, hturn]
            exact ⟨rfl, rfl, rfl⟩
        | some t =>
            exact .inr (.inr ⟨i, n, lane, t, hlane, hturn, rest.turnUnit_frame i n lane hturn⟩)
      · cases h
        exact .inl ⟨rfl, rfl, rfl⟩

/-- An alarm reaches the poller of a lane, or nothing. -/
theorem ring_cases (w : World Env Fetch Job) (b : Bell) :
    (w.ring b).now = w.now ∧ (w.ring b).ended = w.ended ∧
      ((w.ring b).lanes = w.lanes ∨ ∃ i lane alarm p, w.lanes[i]? = some lane ∧
        lane.poller.ring alarm = some p ∧ (w.ring b).lanes = (w.setPoller i p).lanes) := by
  cases b with
  | unit i n => exact ⟨w.wake_now _, w.wake_ended _, .inl (w.wake_lanes _)⟩
  | poller i alarm =>
      rw [ring]
      split
      · exact ⟨rfl, rfl, .inl rfl⟩
      · next lane hlane =>
        split
        · next p hring =>
          exact ⟨wake_now _ _, wake_ended _ _,
            .inr ⟨i, lane, alarm, p, hlane, hring, wake_lanes _ _⟩⟩
        · exact ⟨rfl, rfl, .inl rfl⟩

/-! ### What is kept -/

/-- What each piece of work and each alarm keeps, if the clock and what is to ring do not matter to
it, is kept. -/
theorem kept_of_ring {P : World Env Fetch Job → Prop}
    (hstep : ∀ w w', P w → w.step? = some w' → P w') (hring : ∀ w b, P w → P (w.ring b))
    (hclock : ∀ w t alarms, P w → P { w with now := max w.now t, alarms := alarms }) : Kept P where
  step := hstep
  advance w t hw := by
    have hrings (due : List (Time × Bell)) (w : World Env Fetch Job) (hw : P w) :
        P (due.foldl (fun w a => w.ring a.2) w) := by
      induction due generalizing w with
      | nil => exact hw
      | cons alarm due ih => exact ih _ (hring w alarm.2 hw)
    exact hrings _ _ (hclock w t _ hw)

/-- What holds of each poller and is kept by turns, by steps of units and by alarms is kept. -/
theorem kept_pollers {P : Poller Fetch Job → Prop}
    (hturn : ∀ (src : PollSource Env Fetch Job) s now env p, P p →
      P (p.turn src s now env).poller)
    (hwork : ∀ (src : PollSource Env Fetch Job) now env p n t, P p →
      p.stepUnit? src now env n = some t → P t.poller)
    (hring : ∀ p alarm p', P p → p.ring alarm = some p' → P p') :
    Kept fun w : World Env Fetch Job => ∀ lane ∈ w.lanes, P lane.poller := by
  have hset (w : World Env Fetch Job) (i : Nat) (p : Poller Fetch Job)
      (hw : ∀ lane ∈ w.lanes, P lane.poller) (hp : P p) :
      ∀ lane ∈ (w.setPoller i p).lanes, P lane.poller := by
    intro lane hlane
    obtain ⟨j, hj⟩ := List.mem_iff_getElem?.mp hlane
    rw [setPoller, List.getElem?_modify] at hj
    obtain ⟨old, hold, rfl⟩ := Option.map_eq_some_iff.mp hj
    split
    · exact hp
    · exact hw old (List.mem_of_getElem? hold)
  refine kept_of_ring (fun w w' hw hstep => ?_) (fun w b hw => ?_) fun w t alarms hw => hw
  · rcases step?_cases hstep with ⟨hlanes, -⟩ | ⟨i, lane, hlane, hlanes, -⟩ |
      ⟨i, n, lane, t, hlane, ht, hlanes, -⟩
    · exact hlanes ▸ hw
    · exact hlanes ▸ hset w i _ hw (hturn _ _ _ _ _ (hw lane (List.mem_of_getElem? hlane)))
    · exact hlanes ▸ hset w i _ hw (hwork _ _ _ _ _ _ (hw lane (List.mem_of_getElem? hlane)) ht)
  · obtain ⟨-, -, hlanes | ⟨i, lane, alarm, p, hlane, hp, hlanes⟩⟩ := w.ring_cases b
    · exact hlanes ▸ hw
    · exact hlanes ▸ hset w i _ hw (hring _ _ _ (hw lane (List.mem_of_getElem? hlane)) hp)

/-- Whether a loop has come to its end is said by its lane. -/
theorem ending?_congr (hlanes : w'.lanes = w.lanes) (i : Nat) : w'.ending? i = w.ending? i := by
  rw [ending?, ending?, poller?, poller?, hlanes]

/-- A change of one lane says nothing of the others. -/
theorem ending?_setPoller (w : World Env Fetch Job) {i : Nat} {lane : Lane Env Fetch Job}
    (hlane : w.lanes[i]? = some lane) (p : Poller Fetch Job) (j : Nat) :
    (w.setPoller i p).ending? j = if i = j then p.ending? else w.ending? j := by
  rw [ending?, poller?, setPoller, List.getElem?_modify]
  split
  · next heq =>
    subst heq
    rw [hlane]
    rfl
  · rw [ending?, poller?, id_map']

/-- The loops that count as ended have ended. -/
theorem kept_ended : Kept fun w : World Env Fetch Job => ∀ i ∈ w.ended, (w.ending? i).isSome := by
  have hset {w : World Env Fetch Job} {i : Nat} {lane : Lane Env Fetch Job}
      (hlane : w.lanes[i]? = some lane) {p : Poller Fetch Job}
      (hover : lane.poller.ending?.isSome → p.ending?.isSome) {j : Nat}
      (hj : (w.ending? j).isSome) : ((w.setPoller i p).ending? j).isSome := by
    rw [ending?_setPoller w hlane]
    split
    · next heq =>
      subst heq
      rw [ending?, poller?, hlane] at hj
      exact hover hj
    · exact hj
  refine kept_of_ring (fun w w' hw hstep => ?_) (fun w b hw => ?_) fun w t alarms hw => hw
  · rcases step?_cases hstep with ⟨hlanes, -, hended⟩ | ⟨i, lane, hlane, hlanes, -, hended⟩ |
      ⟨i, n, lane, t, hlane, ht, hlanes, -, hended⟩
    · intro j hj
      rw [ending?_congr hlanes]
      exact hw j (hended ▸ hj)
    · intro j hj
      rw [ending?_congr hlanes]
      rw [hended, List.mem_append] at hj
      rcases hj with hold | hnew
      · refine hset hlane (fun hover => ?_) (hw j hold)
        rw [Poller.turn_of_over hover]
        exact hover
      · split at hnew
        · next hends =>
          rw [ending?_setPoller w hlane, if_pos (List.mem_singleton.mp hnew).symm]
          exact (Bool.and_eq_true_iff.mp hends).1
        · cases hnew
    · intro j hj
      rw [ending?_congr hlanes]
      exact hset hlane (fun hover => Poller.stepUnit?_ending? ht ▸ hover) (hw j (hended ▸ hj))
  · obtain ⟨-, hended, hlanes | ⟨i, lane, alarm, p, hlane, hp, hlanes⟩⟩ := w.ring_cases b
    · intro j hj
      rw [ending?_congr hlanes]
      exact hw j (hended ▸ hj)
    · intro j hj
      rw [ending?_congr hlanes]
      refine hset hlane (fun hover => ?_) (hw j (hended ▸ hj))
      cases (Poller.ring_of_over hover alarm).symm.trans hp

theorem advance_now (w : World Env Fetch Job) (t : Time) : (w.advance t).now = max w.now t := by
  have hrings (due : List (Time × Bell)) (w : World Env Fetch Job) :
      (due.foldl (fun w a => w.ring a.2) w).now = w.now := by
    induction due generalizing w with
    | nil => rfl
    | cons alarm due ih => exact (ih _).trans (w.ring_cases alarm.2).1
  exact hrings _ _

/-- The clock does not go back. -/
theorem kept_now (t : Time) : Kept fun w : World Env Fetch Job => t ≤ w.now := by
  refine kept_of_ring (fun w w' hw hstep => ?_) (fun w b hw => ?_) fun w t' alarms hw => ?_
  · rcases step?_cases hstep with ⟨-, hnow, -⟩ | ⟨_, _, -, -, hnow, -⟩ |
      ⟨_, _, _, _, -, -, -, hnow, -⟩
    · exact hnow ▸ hw
    · exact hnow ▸ hw
    · exact hnow ▸ hw
  · exact (w.ring_cases b).1 ▸ hw
  · exact Nat.le_trans hw (Nat.le_max_left _ _)

end World

end DurableWorkflow
