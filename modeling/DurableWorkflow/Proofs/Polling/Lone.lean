import DurableWorkflow.Polling.Single
import DurableWorkflow.Proofs.Polling.Passage

/-!
# Worlds with one poller

What is ready, and what is to ring, in a world with one poller concerns the loop or the units of
that poller.

## Main Definitions

* `World.Unfolds`: the worlds that lanes come to by themselves.
* `Bell.Late`: alarms that come too late for a poll.

## Main Statements

* `World.Unfolds.runTo`: worlds come about by themselves as time passes.
* `World.step?_loop`, `World.step?_unit`: the pieces of work of a world with one poller.
* `World.advance_polling`, `World.advance_pausing`, `World.advance_sleeping`: what alarms do to it.

## Design Notes

The alarms for the answer to a poll and for its time limit may ring at the same moment, in any
order.  Both have then rung when the loop takes its next turn.
-/

namespace DurableWorkflow

variable {Env Fetch Job : Type}

/-- An alarm of a poll before the one with a number, or of a pause. -/
def Poller.Alarm.Late (n : Nat) : Poller.Alarm → Prop
  | .answer m | .limit m => m < n
  | .pause => True
  | .shutdown => False

/-- Such an alarm of the only poller. -/
def Bell.Late (n : Nat) (b : Bell) : Prop :=
  ∃ alarm : Poller.Alarm, b = .poller 0 alarm ∧ alarm.Late n

theorem Bell.Late.mono {m n : Nat} (hle : m ≤ n) {b : Bell} (h : b.Late m) : b.Late n := by
  obtain ⟨alarm, rfl, hlate⟩ := h
  refine ⟨alarm, rfl, ?_⟩
  cases alarm with
  | answer k | limit k => exact Nat.lt_of_lt_of_le hlate hle
  | pause => trivial
  | shutdown => exact hlate

theorem Bell.Late.ne {n : Nat} {b : Bell} (h : b.Late n) :
    b ≠ .poller 0 (.answer n) ∧ b ≠ .poller 0 (.limit n) := by
  obtain ⟨alarm, rfl, hlate⟩ := h
  constructor
  · rintro ⟨⟩
    exact Nat.lt_irrefl _ hlate
  · rintro ⟨⟩
    exact Nat.lt_irrefl _ hlate

namespace Poller

/-- What a turn of the loop of the only poller makes ready, in front of what is ready already and
behind it. -/
def Turn.readies (t : Turn Env Fetch Job) (rest : List Strand) : List Strand :=
  (if t.again then [.loop 0] else []) ++
    match t.spawned with
    | some n => if rest.contains (.unit 0 n) then rest else rest ++ [.unit 0 n]
    | none => rest

/-- The alarms that a turn of the loop of the only poller sets. -/
def Turn.bells (now : Time) (t : Turn Env Fetch Job) : List (Time × Bell) :=
  t.alarms.map fun (a, ms) => (now + ms, .poller 0 a)

/-- What a step of the unit with a number makes ready. -/
def UnitNext.readies (n : Nat) : UnitNext → List Strand
  | .again | .yield => [.unit 0 n]
  | .finished => [.loop 0]
  | .later _ | .never => []

/-- The alarm that a step of the unit with a number sets. -/
def UnitNext.bells (now : Time) (n : Nat) : UnitNext → List (Time × Bell)
  | .later ms => [(now + ms, .unit 0 n)]
  | .again | .yield | .finished | .never => []

variable {p : Poller Fetch Job}

/-- The next step of the only unit in flight. -/
theorem stepUnit?_of_running {n : Nat} {job : Job} (hunits : p.running = [(n, job)])
    (src : PollSource Env Fetch Job) (now : Time) (env : Env) :
    p.stepUnit? src now env n = some (p.stepRunning src now env n job) := by
  simp [stepUnit?, hunits]

/-- Late alarms do not reach a poll. -/
theorem ring_of_polling {fetch : Fetch} {due : Bool} {limit : TimeLimit}
    (hstage : p.stage = .polling fetch due limit) {alarm : Alarm} (hlate : alarm.Late p.polls) :
    p.ring alarm = none := by
  cases alarm with
  | answer k => cases due <;> simp [ring, hstage, Nat.ne_of_lt hlate]
  | limit k => cases limit <;> simp [ring, hstage, Nat.ne_of_lt hlate]
  | pause => simp [ring, hstage]
  | shutdown => cases hlate

/-- Alarms do not reach a poller that waits for a slot. -/
theorem ring_of_seeking (hstage : p.stage = .seeking) (alarm : Alarm) : p.ring alarm = none := by
  cases alarm <;> simp only [ring, hstage]

end Poller

namespace World

/-! ### Worlds that come about by themselves -/

/-- The worlds that lanes come to by themselves: by work on what is ready and, when nothing is, by
the passing of time, up to the next alarm at most. -/
inductive Unfolds (env : Env) (lanes : List (PollSource Env Fetch Job × PollerSettings)) :
    World Env Fetch Job → Prop
  | start : Unfolds env lanes (.start env lanes)
  | step {w w' : World Env Fetch Job} (h : Unfolds env lanes w) (hstep : w.step? = some w') :
      Unfolds env lanes w'
  | advance {w : World Env Fetch Job} (h : Unfolds env lanes w) (hidle : w.queue = []) {t : Time}
      (hnext : ∀ alarm ∈ w.alarms, t ≤ alarm.1) : Unfolds env lanes (w.advance t)

section Unfolds

variable {env : Env} {lanes : List (PollSource Env Fetch Job × PollerSettings)}
  {w w' : World Env Fetch Job}

theorem queue_of_step?_eq_none (h : w.step? = none) : w.queue = [] := by
  unfold step? at h
  split at h
  · next hqueue => exact hqueue
  · next s rest hqueue =>
    cases s with
    | loop i | unit i => dsimp only at h; split at h <;> cases h

theorem Unfolds.settle (h : Unfolds env lanes w) {fuel : Nat} (hsettle : w.settle fuel = some w') :
    Unfolds env lanes w' ∧ w'.queue = [] := by
  induction fuel generalizing w with
  | zero => cases hsettle
  | succ fuel ih =>
      rw [World.settle] at hsettle
      split at hsettle
      · next w₁ hstep => exact ih (h.step hstep) hsettle
      · next hnone =>
        cases hsettle
        exact ⟨h, queue_of_step?_eq_none hnone⟩

/-- No alarm rings before the next one. -/
theorem le_of_nextAlarm? {t : Time} (h : w.nextAlarm? = some t) : ∀ alarm ∈ w.alarms, t ≤ alarm.1 :=
  fun _ halarm => (List.min?_eq_some_iff.mp h).2 _ (List.mem_map_of_mem halarm)

/-- What runs up to a moment has nothing left to do before it. -/
theorem Unfolds.runTo (h : Unfolds env lanes w) {t : Time} {fuel : Nat}
    (hrun : w.runTo t fuel = some w') :
    Unfolds env lanes w' ∧ w'.queue = [] ∧ ∀ alarm ∈ w'.alarms, t ≤ alarm.1 := by
  induction fuel generalizing w with
  | zero => cases hrun
  | succ fuel ih =>
      rw [World.runTo] at hrun
      obtain ⟨w₁, hsettle, hrest⟩ := Option.bind_eq_some_iff.mp hrun
      obtain ⟨hunfolds, hidle⟩ := h.settle hsettle
      split at hrest
      · next next hnext =>
        split at hrest
        · exact ih (hunfolds.advance hidle (le_of_nextAlarm? hnext)) hrest
        · next hlate =>
          cases hrest
          have hle := le_of_nextAlarm? hnext
          exact ⟨hunfolds, hidle,
            fun alarm halarm => Nat.le_trans (Nat.not_lt.mp hlate) (hle alarm halarm)⟩
      · next hnone =>
        cases hrest
        have hquiet : w'.alarms = [] := List.map_eq_nil_iff.mp (List.min?_eq_none_iff.mp hnone)
        exact ⟨hunfolds, hidle, fun alarm halarm => absurd (hquiet ▸ halarm) List.not_mem_nil⟩

end Unfolds

/-! ### Pieces of work -/

section Lone

variable {src : PollSource Env Fetch Job} {s : PollerSettings} {p : Poller Fetch Job}
  {w w' : World Env Fetch Job}

/-- A turn of the loop of the only poller. -/
theorem step?_loop {rest : List Strand} (hlanes : w.lanes = [⟨src, s, p⟩])
    (hqueue : w.queue = .loop 0 :: rest) (hstep : w.step? = some w') :
    let t := p.turn src s w.now w.env
    w'.lanes = [⟨src, s, t.poller⟩] ∧ w'.now = w.now ∧ w'.env = t.env ∧
      w'.alarms = w.alarms ++ t.bells w.now ∧ w'.queue = t.readies rest := by
  intro t
  have hlane : w.lanes[0]? = some ⟨src, s, p⟩ := by rw [hlanes]; rfl
  rw [step?, hqueue] at hstep
  dsimp only at hstep
  rw [hlane] at hstep
  cases hstep
  simp only [turnLoop, setAlarms_eq, setPoller, hlanes]
  -- The spawned unit, the end of the loop and the next turn are told apart.
  refine ⟨?_, ?_, ?_, ?_, ?_⟩
  · split <;> split <;> split <;> simp [first, t]
  · split <;> split <;> split <;> simp [first]
  · split <;> split <;> split <;> simp [first, t]
  · split <;> split <;> split <;> simp [first, t, Poller.Turn.bells]
  · split <;> split <;> split <;> simp [first, t, wake, Poller.Turn.readies, *] <;> split <;> rfl

/-- A step of the only unit of the only poller. -/
theorem step?_unit {n : Nat} {job : Job} (hlanes : w.lanes = [⟨src, s, p⟩])
    (hqueue : w.queue = [.unit 0 n]) (hunits : p.running = [(n, job)])
    (hstep : w.step? = some w') :
    let t := p.stepRunning src w.now w.env n job
    w'.lanes = [⟨src, s, t.poller⟩] ∧ w'.now = w.now ∧ w'.env = t.env ∧
      w'.alarms = w.alarms ++ t.next.bells w.now n ∧ w'.queue = t.next.readies n := by
  intro t
  have hlane : w.lanes[0]? = some ⟨src, s, p⟩ := by rw [hlanes]; rfl
  have hunit : p.stepUnit? src w.now w.env n = some t :=
    Poller.stepUnit?_of_running hunits src w.now w.env
  rw [step?, hqueue] at hstep
  dsimp only at hstep
  rw [hlane] at hstep
  cases hstep
  rw [turnUnit, hunit]
  simp only [setPoller, hlanes]
  cases t.next with
  | again | later | never | yield | finished =>
      simp [first, setAlarm, wake, Poller.UnitNext.readies, Poller.UnitNext.bells]

/-- The world at a later time, before the alarms ring that are due. -/
def clocked (w : World Env Fetch Job) (t : Time) : World Env Fetch Job :=
  { w with now := max w.now t, alarms := w.alarms.filter fun a => !(a.1 ≤ t) }

theorem mem_clocked_iff {t : Time} {alarm : Time × Bell} :
    alarm ∈ (w.clocked t).alarms ↔ alarm ∈ w.alarms ∧ t < alarm.1 := by
  simp [clocked]

/-- What the passing of time and each alarm that rings meanwhile keep holds afterwards. -/
theorem advance_keeps {P : World Env Fetch Job → Prop} {t : Time}
    (hclock : P (w.clocked t))
    (hring : ∀ alarm ∈ w.alarms, alarm.1 ≤ t → ∀ w', P w' → P (w'.ring alarm.2)) :
    P (w.advance t) := by
  have hrings (due : List (Time × Bell)) (hdue : ∀ alarm ∈ due, alarm ∈ w.alarms ∧ alarm.1 ≤ t)
      (w₁ : World Env Fetch Job) (hw₁ : P w₁) : P (due.foldl (fun w a => w.ring a.2) w₁) := by
    induction due generalizing w₁ with
    | nil => exact hw₁
    | cons alarm due ih =>
        obtain ⟨hmem, hle⟩ := hdue alarm List.mem_cons_self
        exact ih (fun alarm halarm => hdue alarm (List.mem_cons_of_mem _ halarm)) _
          (hring alarm hmem hle w₁ hw₁)
  refine hrings _ (fun alarm halarm => ?_) _ hclock
  obtain ⟨hmem, hle⟩ := List.mem_filter.mp halarm
  exact ⟨hmem, of_decide_eq_true hle⟩

/-! ### Alarms -/

/-- An alarm that does not reach the only poller changes nothing. -/
theorem ring_of_deaf (w : World Env Fetch Job) (hlanes : w.lanes = [⟨src, s, p⟩])
    {alarm : Poller.Alarm} (hdeaf : p.ring alarm = none) : w.ring (.poller 0 alarm) = w := by
  simp [ring, hlanes, hdeaf]

/-- The world in which the poll of the only poller has been told that it can go on, or that it has
taken too long. -/
def told (w : World Env Fetch Job) (src : PollSource Env Fetch Job) (s : PollerSettings)
    (p : Poller Fetch Job) (fetch : Fetch) (limit : TimeLimit) (due reached : Bool) :
    World Env Fetch Job :=
  { w with
    lanes :=
      [⟨src, s, { p with stage := .polling fetch due (if reached then .reached else limit) }⟩]
    queue := if due || reached then [.loop 0] else [] }

theorem told_ring_answer (fetch : Fetch) (limit : TimeLimit) (due reached : Bool) :
    (w.told src s p fetch limit due reached).ring (.poller 0 (.answer p.polls))
      = w.told src s p fetch limit true reached := by
  cases due <;> cases reached <;> simp [told, ring, Poller.ring, setPoller, wake]

theorem told_ring_limit (fetch : Fetch) (due reached : Bool) :
    (w.told src s p fetch .running due reached).ring (.poller 0 (.limit p.polls))
      = w.told src s p fetch .running due true := by
  cases due <;> cases reached <;> simp [told, ring, Poller.ring, setPoller, wake]

theorem told_ring_late (fetch : Fetch) (limit : TimeLimit) (due reached : Bool) {b : Bell}
    (hlate : b.Late p.polls) :
    (w.told src s p fetch limit due reached).ring b = w.told src s p fetch limit due reached := by
  obtain ⟨alarm, rfl, hlate⟩ := hlate
  let q : Poller Fetch Job :=
    { p with stage := .polling fetch due (if reached then .reached else limit) }
  have hdeaf : q.ring alarm = none := Poller.ring_of_polling rfl hlate
  exact ring_of_deaf _ rfl hdeaf

/-- Where no alarm reaches the only poller, only time passes. -/
theorem advance_deaf {t : Time} (hlanes : w.lanes = [⟨src, s, p⟩])
    (hdeaf : ∀ alarm ∈ w.alarms, ∃ a, alarm.2 = .poller 0 a ∧ p.ring a = none) :
    w.advance t = w.clocked t := by
  refine advance_keeps (P := (· = w.clocked t)) rfl fun alarm hmem _ w' hw' => ?_
  obtain ⟨a, hbell, hring⟩ := hdeaf alarm hmem
  rw [hw', hbell]
  exact ring_of_deaf (w.clocked t) hlanes hring

/-- A unit that waits is made ready by its alarm. -/
theorem advance_sleeping {n : Nat} {t u : Time} (hlanes : w.lanes = [⟨src, s, p⟩])
    (hidle : w.queue = [])
    (halarms : ∀ alarm ∈ w.alarms,
      alarm = (u, .unit 0 n) ∨ ∃ a, alarm.2 = .poller 0 a ∧ p.ring a = none) :
    w.advance t = w.clocked t ∨
      u ≤ t ∧ w.advance t = { w.clocked t with queue := [.unit 0 n] } := by
  refine advance_keeps
    (P := fun w' => w' = w.clocked t ∨ u ≤ t ∧ w' = { w.clocked t with queue := [.unit 0 n] })
    (.inl rfl) fun alarm hmem hdue w' hw' => ?_
  rcases halarms alarm hmem with rfl | ⟨a, hbell, hring⟩
  · refine .inr ⟨hdue, ?_⟩
    rcases hw' with rfl | ⟨-, rfl⟩
    · simp [ring, wake, clocked, hidle]
    · simp [ring, wake]
  · rcases hw' with rfl | ⟨hle, rfl⟩
    · exact .inl (hbell ▸ ring_of_deaf (w.clocked t) hlanes hring)
    · exact .inr ⟨hle, hbell ▸ ring_of_deaf { w.clocked t with queue := _ } hlanes hring⟩

/-- The world in which the pause of the only poller may have come to its end. -/
def paused (w : World Env Fetch Job) (src : PollSource Env Fetch Job) (s : PollerSettings)
    (p : Poller Fetch Job) (elapsed : Bool) : World Env Fetch Job :=
  { w with
    lanes := [⟨src, s, { p with stage := .pausing elapsed }⟩]
    queue := if elapsed then [.loop 0] else [] }

/-- A pause comes to its end by an alarm. -/
theorem advance_pausing {n : Nat} {t : Time} (hlanes : w.lanes = [⟨src, s, p⟩])
    (hidle : w.queue = []) (hstage : p.stage = .pausing false)
    (halarms : ∀ alarm ∈ w.alarms, alarm.2.Late n) :
    ∃ elapsed, w.advance t = (w.clocked t).paused src s p elapsed := by
  refine advance_keeps (P := fun w' => ∃ elapsed, w' = (w.clocked t).paused src s p elapsed)
    ⟨false, ?_⟩ fun alarm hmem _ w' hw' => ?_
  · rcases p with ⟨stage, _⟩
    cases hstage
    simp [paused, clocked, hlanes, hidle]
  · obtain ⟨elapsed, rfl⟩ := hw'
    obtain ⟨a, hbell, hlate⟩ := halarms alarm hmem
    rw [hbell]
    cases a with
    | answer | limit => exact ⟨elapsed, ring_of_deaf _ rfl rfl⟩
    | pause =>
        refine ⟨true, ?_⟩
        cases elapsed <;> simp [paused, ring, Poller.ring, setPoller, wake]
    | shutdown => cases hlate

/-- Bells tell a poll, one after the other, what they have to tell. -/
theorem told_rings (fetch : Fetch) (limit : TimeLimit) (bells : List (Time × Bell))
    (hbells : ∀ alarm ∈ bells, alarm.2.Late p.polls ∨ alarm.2 = .poller 0 (.answer p.polls) ∨
      alarm.2 = .poller 0 (.limit p.polls) ∧ limit = .running) (due reached : Bool) :
    bells.foldl (fun w a => w.ring a.2) (w.told src s p fetch limit due reached)
      = w.told src s p fetch limit (due || bells.any (·.2 = .poller 0 (.answer p.polls)))
        (reached || bells.any (·.2 = .poller 0 (.limit p.polls))) := by
  induction bells generalizing due reached with
  | nil => simp
  | cons alarm bells ih =>
      have hrest := ih fun alarm halarm => hbells alarm (List.mem_cons_of_mem _ halarm)
      rw [List.foldl_cons]
      rcases hbells alarm List.mem_cons_self with hlate | hanswer | ⟨hlimit, rfl⟩
      · obtain ⟨hanswer, hlimit⟩ := hlate.ne
        rw [told_ring_late _ _ _ _ hlate, hrest]
        simp [hanswer, hlimit]
      · rw [hanswer, told_ring_answer, hrest]
        simp [hanswer]
      · rw [hlimit, told_ring_limit, hrest]
        simp [hlimit]

/-- Whether a bell rings up to a time. -/
def rung (w : World Env Fetch Job) (t : Time) (b : Bell) : Bool :=
  w.alarms.any fun alarm => alarm.1 ≤ t ∧ alarm.2 = b

theorem rung_iff {t : Time} {b : Bell} :
    w.rung t b = true ↔ ∃ alarm ∈ w.alarms, alarm.1 ≤ t ∧ alarm.2 = b := by
  simp only [rung, List.any_eq_true, decide_eq_true_eq]

theorem rung_eq_false_iff {t : Time} {b : Bell} :
    w.rung t b = false ↔ ∀ alarm ∈ w.alarms, alarm.2 = b → t < alarm.1 := by
  rw [← Bool.not_eq_true, rung_iff]
  constructor
  · intro hquiet alarm hmem hbell
    exact Nat.not_le.mp fun hle => hquiet ⟨alarm, hmem, hle, hbell⟩
  · rintro hlater ⟨alarm, hmem, hle, hbell⟩
    exact Nat.not_le.mpr (hlater alarm hmem hbell) hle

/-- **What a poll is told while time passes.** -/
theorem advance_polling {fetch : Fetch} {limit : TimeLimit} {t : Time}
    (hlanes : w.lanes = [⟨src, s, p⟩]) (hstage : p.stage = .polling fetch false limit)
    (hidle : w.queue = [])
    (halarms : ∀ alarm ∈ w.alarms, alarm.1 ≤ t → alarm.2.Late p.polls ∨
      alarm.2 = .poller 0 (.answer p.polls) ∨
        alarm.2 = .poller 0 (.limit p.polls) ∧ limit = .running) :
    w.advance t = (w.clocked t).told src s p fetch limit (w.rung t (.poller 0 (.answer p.polls)))
      (w.rung t (.poller 0 (.limit p.polls))) := by
  have hstart : w.clocked t = (w.clocked t).told src s p fetch limit false false := by
    rcases p with ⟨stage, _⟩
    cases hstage
    simp [told, clocked, hlanes, hidle]
  change (w.alarms.filter (·.1 ≤ t)).foldl (fun w a => w.ring a.2) (w.clocked t) = _
  rw [hstart, told_rings]
  · simp only [rung, List.any_filter, Bool.false_or, Bool.decide_and]
    rfl
  · intro alarm halarm
    obtain ⟨hmem, hle⟩ := List.mem_filter.mp halarm
    exact halarms alarm hmem (of_decide_eq_true hle)

end Lone

end World

end DurableWorkflow
