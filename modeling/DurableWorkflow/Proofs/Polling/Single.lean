import DurableWorkflow.Proofs.Polling.Sequence

/-!
# Single polls

A single poll runs one errand: the poll, and the processing of its unit.  Where nothing else happens
it leads to where the errand leads, and the caller has only to be patient enough.

## Main Definitions

* `World.Quiet`: nothing else happens.
* `World.PolledOnce`: worlds that come of single polls, one after the other.

## Main Statements

* `PollSource.Pursues.leads`: a single poll leads to where its errand leads.
* `PollSource.Sequence.exists_polledOnce`: what errands have done one after the other is what single
  polls begin with.

## Design Notes

That a single poll has to be awaited for long enough, and given enough steps, is part of the
statements: each poll comes with its own patience and its own bound on the steps.
-/

namespace DurableWorkflow

variable {Env Fetch Job α : Type}

namespace World

/-- Nothing is ready or to ring in a world with one poller. -/
structure Quiet (src : PollSource Env Fetch Job) (s : PollerSettings) (w : World Env Fetch Job) :
    Prop where
  lanes : ∃ p, w.lanes = [⟨src, s, p⟩]
  queue : w.queue = []
  alarms : w.alarms = []

namespace Quiet

variable {src : PollSource Env Fetch Job} {s : PollerSettings} {w : World Env Fetch Job}

theorem settle (h : Quiet src s w) (fuel : Nat) : w.settle (fuel + 1) = some w := by
  rw [World.settle, step?, h.queue]

/-- Time passes, and nothing happens. -/
theorem passTo (h : Quiet src s w) (t : Time) (fuel : Nat) :
    w.passTo t (fuel + 2) = some { w with now := max w.now t } := by
  rw [World.passTo, runTo, h.settle, Option.bind_some, nextAlarm?, h.alarms]
  simp [advance, h.alarms]

theorem present (h : Quiet src s w) (as : List Activity) : Quiet src s (w.present 0 as) := by
  obtain ⟨p, hlanes⟩ := h.lanes
  refine ⟨⟨p.enterAll as, ?_⟩, h.queue, h.alarms⟩
  rw [World.present, hlanes]
  rfl

/-- Neither the clock nor the environment nor what is noted concerns the quiet. -/
theorem congr (h : Quiet src s w) {w' : World Env Fetch Job} (hlanes : w'.lanes = w.lanes)
    (hqueue : w'.queue = w.queue) (halarms : w'.alarms = w.alarms) : Quiet src s w' :=
  ⟨hlanes ▸ h.lanes, hqueue ▸ h.queue, halarms ▸ h.alarms⟩

end Quiet

end World

/-- Whether a single poll has come to an end of its own. -/
def SinglePoll.isEnd : SinglePoll → Bool
  | .returned _ | .crashed _ => true
  | .givenUp => false

/-- Where a single poll stands that runs an errand. -/
def Errand.stage (now : Time) : Errand Fetch Job → SinglePoll.Stage Fetch Job
  | .polling fetch left => .polling fetch (left.map (now + ·))
  | .processing job => .processing job

namespace World

variable {src : PollSource Env Fetch Job} {s : PollerSettings} {Same : Env → Env → Prop}
  {w : World Env Fetch Job} {env env' : Env} {turnout : Errand.Turnout Fetch Job}

/-- A single poll that runs an errand leads to an environment, if its caller is patient enough; it
comes to an end of its own if the errand is over. -/
def Leads (src : PollSource Env Fetch Job) (s : PollerSettings) (Same : Env → Env → Prop)
    (w : World Env Fetch Job) (errand : Errand Fetch Job) (env' : Env)
    (turnout : Errand.Turnout Fetch Job) : Prop :=
  ∃ patience steps, ∀ cap fuel, w.now + patience ≤ cap → steps ≤ fuel → ∃ w' ending,
    w.runSingle 0 src s cap fuel (errand.stage w.now) = some (w', ending) ∧ Quiet src s w' ∧
      Same w'.env env' ∧ (turnout = .ends → ending.isEnd = true)

/-- The end of an errand is the end of its poll. -/
theorem Leads.of_end {errand : Errand Fetch Job} (patience : Nat)
    (h : ∀ cap fuel, w.now + patience ≤ cap → ∃ w' ending,
      runSingle 0 src s cap (fuel + 3) w (errand.stage w.now) = some (w', ending) ∧
        Quiet src s w' ∧ Same w'.env env' ∧ (turnout = .ends → ending.isEnd = true)) :
    Leads src s Same w errand env' turnout := by
  refine ⟨patience, 3, fun cap fuel hcap hfuel => ?_⟩
  obtain ⟨more, rfl⟩ := Nat.exists_eq_add_of_le' hfuel
  exact h cap more hcap

/-- An errand that goes on after a time leads to where it leads from there. -/
theorem Leads.of_step {w₁ : World Env Fetch Job} {errand errand₁ : Errand Fetch Job}
    (h : Leads src s Same w₁ errand₁ env' turnout) (ms : Nat) (hnow : w₁.now = w.now + ms)
    (hstep : ∀ cap fuel, w.now + ms ≤ cap →
      runSingle 0 src s cap (fuel + 3) w (errand.stage w.now)
        = runSingle 0 src s cap (fuel + 2) w₁ (errand₁.stage w₁.now)) :
    Leads src s Same w errand env' turnout := by
  obtain ⟨patience, steps, hleads⟩ := h
  refine ⟨ms + patience, steps + 3, fun cap fuel hcap hfuel => ?_⟩
  obtain ⟨more, rfl⟩ : ∃ more, fuel = more + 3 := ⟨fuel - 3, by omega⟩
  rw [← Nat.add_assoc] at hcap
  rw [hstep cap more ((Nat.le_add_right _ _).trans hcap)]
  exact hleads cap (more + 2) (hnow ▸ hcap) (by omega)

/-- The world in which a poll has left an environment. -/
def leaving (w : World Env Fetch Job) (env : Env) : World Env Fetch Job := { w with env := env }

/-- The world in which a unit has made a step. -/
def stepped (w : World Env Fetch Job) (step : UnitStep Env Job) : World Env Fetch Job :=
  { w with env := step.env, notices := w.notices ++ step.notices }.present 0 step.entered

/-- The world after a number of milliseconds in which nothing happens. -/
def later (w : World Env Fetch Job) (ms : Nat) : World Env Fetch Job := { w with now := w.now + ms }

theorem Quiet.leaving (h : Quiet src s w) (env : Env) : Quiet src s (w.leaving env) :=
  h.congr rfl rfl rfl

theorem Quiet.stepped (h : Quiet src s w) (step : UnitStep Env Job) :
    Quiet src s (w.stepped step) :=
  have hcongr : Quiet src s { w with env := step.env, notices := w.notices ++ step.notices } :=
    h.congr rfl rfl rfl
  hcongr.present step.entered

theorem Quiet.later (h : Quiet src s w) (ms : Nat) : Quiet src s (w.later ms) :=
  h.congr rfl rfl rfl

theorem Quiet.passTo_later (h : Quiet src s w) (ms fuel : Nat) :
    w.passTo (w.now + ms) (fuel + 2) = some (w.later ms) := by
  rw [h.passTo, Nat.max_eq_right (Nat.le_add_right _ _)]
  rfl

/-- A wait that a poll has time for does not change the time up to which it may take. -/
theorem stage_later {left : Option Nat} {ms : Nat} (hfits : left.all (ms ≤ ·)) (now : Time)
    (next : Fetch) :
    (.polling next (left.map (· - ms)) : Errand Fetch Job).stage (now + ms)
      = .polling next (left.map (now + ·)) := by
  cases left with
  | none => rfl
  | some left =>
      have hle : ms ≤ left := of_decide_eq_true hfits
      have hlimit : now + ms + (left - ms) = now + left := by
        rw [Nat.add_assoc, Nat.add_sub_cancel' hle]
      exact congrArg (SinglePoll.Stage.polling next <| some ·) hlimit

/-- A poll that has time for a wait goes on after it. -/
theorem Quiet.leads_of_wait (hquiet : Quiet src s w) {fetch next : Fetch} {left : Option Nat}
    {ms : Nat} (hpoll : src.poll w.now w.env fetch = (env, .wait ms next))
    (hfits : left.all (ms ≤ ·)) (hrest : Leads src s Same ((w.leaving env).later ms)
      (.polling next (left.map (· - ms))) env' turnout) :
    Leads src s Same w (.polling fetch left) env' turnout := by
  refine .of_step hrest ms rfl fun cap fuel hcap => ?_
  change _ = runSingle 0 src s cap (fuel + 2) _ (Errand.stage (w.now + ms) _)
  rw [stage_later hfits, Errand.stage, runSingle, hpoll]
  cases ms with
  | zero => rfl
  | succ ms =>
      have hbound : w.now + (ms + 1) ≤ ((left.map (w.now + ·)).map (min cap)).getD cap := by
        cases left with
        | none => exact hcap
        | some left =>
            have hle : ms + 1 ≤ left := of_decide_eq_true hfits
            exact Nat.le_min.mpr ⟨hcap, Nat.add_le_add_left hle _⟩
      change (if w.now + (ms + 1) ≤ _ then _ else _) = _
      rw [if_pos hbound]
      change ((w.leaving env).passTo ((w.leaving env).now + (ms + 1)) _).bind _ = _
      rw [(hquiet.leaving env).passTo_later]
      rfl

/-- **An errand leads to where it leads after its next step.** -/
theorem Quiet.leads_of_goes (hquiet : Quiet src s w) {errand errand₁ : Errand Fetch Job}
    (hstep : src.pursue w.now w.env errand = (env, .goes errand₁))
    (hrest : ∀ w₁, Quiet src s w₁ → w₁.env = env → Leads src s Same w₁ errand₁ env' turnout) :
    Leads src s Same w errand env' turnout := by
  cases errand with
  | polling fetch left =>
      rcases hpoll : src.poll w.now w.env fetch with ⟨env₁, progress⟩
      simp only [PollSource.pursue, hpoll, Prod.mk.injEq] at hstep
      obtain ⟨rfl, hturnout⟩ := hstep
      have hleft := hquiet.leaving env₁
      cases progress with
      | done result =>
          rcases result with e | _ | job
          · cases hturnout
          · cases hturnout
          · cases hturnout
            refine .of_step (hrest _ hleft rfl) 0 rfl fun cap fuel _ => ?_
            rw [Errand.stage, runSingle, hpoll]
            rfl
      | crash message => cases hturnout
      | yield next =>
          cases hturnout
          refine .of_step (hrest _ hleft rfl) 0 rfl fun cap fuel _ => ?_
          rw [Errand.stage, runSingle, hpoll]
          rfl
      | wait ms next =>
          dsimp only at hturnout
          split at hturnout
          · next hfits =>
            cases hturnout
            exact hquiet.leads_of_wait hpoll hfits (hrest _ (hleft.later ms) rfl)
          · cases hturnout
      | never =>
          dsimp only at hturnout
          split at hturnout <;> cases hturnout
  | processing job =>
      rcases hprocess : src.process w.now w.env job with ⟨env₁, entered, notices, progress⟩
      simp only [PollSource.pursue, hprocess, Prod.mk.injEq] at hstep
      obtain ⟨rfl, hturnout⟩ := hstep
      have hleft := hquiet.stepped ⟨env₁, entered, notices, progress⟩
      cases progress with
      | done | crash | never => cases hturnout
      | yield next =>
          cases hturnout
          refine .of_step (hrest _ hleft rfl) 0 rfl fun cap fuel _ => ?_
          rw [Errand.stage, runSingle, hprocess]
          change ((w.stepped _).settle _).bind _ = _
          rw [hleft.settle]
          rfl
      | wait ms next =>
          cases hturnout
          refine .of_step (hrest _ (hleft.later ms) rfl) ms rfl fun cap fuel hcap => ?_
          rw [Errand.stage, runSingle, hprocess]
          cases ms with
          | zero => rfl
          | succ ms =>
              change (if w.now + (ms + 1) ≤ cap then _ else _) = _
              rw [if_pos hcap]
              change ((w.stepped _).passTo ((w.stepped _).now + (ms + 1)) _).bind _ = _
              rw [hleft.passTo_later]
              rfl

theorem onNothing_isEnd (src : PollSource Env Fetch Job) (s : PollerSettings) :
    (onNothing src s).isEnd = true := by
  unfold onNothing
  split <;> rfl

/-- A poll that takes too long ends when its time has passed. -/
theorem Quiet.leads_of_expiry (hquiet : Quiet src s w) {fetch : Fetch} {left : Nat}
    (hsame : Same env env')
    (hsingle : ∀ cap fuel, runSingle 0 src s cap (fuel + 3) w
        (Errand.stage w.now (.polling fetch (some left)))
      = ((w.leaving env).passTo (min cap (w.now + left)) (fuel + 2)).map fun w' =>
          if some (w.now + left) = some (min cap (w.now + left)) then
            (w'.present 0 [.idle], onNothing src s)
          else (w', .givenUp)) :
    Leads src s Same w (.polling fetch (some left)) env' .ends := by
  have hlater := (hquiet.leaving env).later left
  refine .of_end left fun cap fuel hcap => ⟨_, onNothing src s, ?_, hlater.present [.idle], hsame,
    fun _ => onNothing_isEnd src s⟩
  have hpass :
      (w.leaving env).passTo (w.now + left) (fuel + 2) = some ((w.leaving env).later left) :=
    (hquiet.leaving env).passTo_later left fuel
  rw [hsingle, Nat.min_eq_right hcap, hpass, Option.map_some, if_pos rfl]

/-- **The end of an errand is the end of its poll.** -/
theorem Quiet.leads_of_ends (hquiet : Quiet src s w) {errand : Errand Fetch Job}
    (hstep : src.pursue w.now w.env errand = (env, .ends)) (hsame : Same env env') :
    Leads src s Same w errand env' .ends := by
  cases errand with
  | polling fetch left =>
      rcases hpoll : src.poll w.now w.env fetch with ⟨env₁, progress⟩
      simp only [PollSource.pursue, hpoll, Prod.mk.injEq] at hstep
      obtain ⟨rfl, hturnout⟩ := hstep
      have hleft := hquiet.leaving env₁
      cases progress with
      | done result =>
          rcases result with e | _ | job
          · refine .of_end 0 fun cap fuel _ => ⟨_, .returned (.error e), ?_, hleft.present [.idle],
              hsame, fun _ => rfl⟩
            rw [Errand.stage, runSingle, hpoll]
            rfl
          · refine .of_end 0 fun cap fuel _ => ⟨_, onNothing src s, ?_, hleft.present [.idle],
              hsame, fun _ => onNothing_isEnd src s⟩
            rw [Errand.stage, runSingle, hpoll]
            rfl
          · cases hturnout
      | crash message =>
          refine .of_end 0 fun cap fuel _ => ⟨_, .crashed message, ?_, hleft, hsame, fun _ => rfl⟩
          rw [Errand.stage, runSingle, hpoll]
          rfl
      | yield next => cases hturnout
      | wait ms next =>
          dsimp only at hturnout
          split at hturnout
          · cases hturnout
          · next hlong =>
            cases left with
            | none => exact absurd rfl hlong
            | some left =>
                -- A wait of no time is never too long.
                cases ms with
                | zero => exact absurd (decide_eq_true (Nat.zero_le left)) hlong
                | succ ms =>
                    have htoo : ¬ms + 1 ≤ left := fun hle => hlong (decide_eq_true hle)
                    refine hquiet.leads_of_expiry hsame fun cap fuel => ?_
                    rw [Errand.stage, runSingle, hpoll]
                    have hbound : ¬w.now + (ms + 1) ≤ min cap (w.now + left) := fun hle =>
                      htoo (Nat.le_of_add_le_add_left (Nat.le_min.mp hle).2)
                    change (if w.now + (ms + 1) ≤ min cap (w.now + left) then _ else _) = _
                    rw [if_neg hbound]
                    rfl
      | never =>
          cases left with
          | none => cases hturnout
          | some left =>
              refine hquiet.leads_of_expiry hsame fun cap fuel => ?_
              rw [Errand.stage, runSingle, hpoll]
              rfl
  | processing job =>
      rcases hprocess : src.process w.now w.env job with ⟨env₁, entered, notices, progress⟩
      simp only [PollSource.pursue, hprocess, Prod.mk.injEq] at hstep
      obtain ⟨rfl, hturnout⟩ := hstep
      have hleft := hquiet.stepped ⟨env₁, entered, notices, progress⟩
      cases progress with
      | done result =>
          refine .of_end 0 fun cap fuel _ => ⟨_, .returned (result.map fun _ => true), ?_,
            hleft.present [.idle], hsame, fun _ => rfl⟩
          rw [Errand.stage, runSingle, hprocess]
          rfl
      | crash message =>
          refine .of_end 0 fun cap fuel _ => ⟨_, .crashed message, ?_, hleft, hsame, fun _ => rfl⟩
          rw [Errand.stage, runSingle, hprocess]
          rfl
      | wait | yield | never => cases hturnout

/-- **An errand that never goes on leaves its poll to its caller.** -/
theorem Quiet.leads_of_stuck (hquiet : Quiet src s w) {errand : Errand Fetch Job}
    (hstep : src.pursue w.now w.env errand = (env, .stuck)) (hsame : Same env env') :
    Leads src s Same w errand env' .stuck := by
  cases errand with
  | polling fetch left =>
      rcases hpoll : src.poll w.now w.env fetch with ⟨env₁, progress⟩
      simp only [PollSource.pursue, hpoll, Prod.mk.injEq] at hstep
      obtain ⟨rfl, hturnout⟩ := hstep
      have hleft := hquiet.leaving env₁
      cases progress with
      | done result => rcases result with e | _ | job <;> cases hturnout
      | crash | yield => cases hturnout
      | wait ms next =>
          dsimp only at hturnout
          split at hturnout <;> cases hturnout
      | never =>
          cases left with
          | some left => cases hturnout
          | none =>
              refine .of_end 0 fun cap fuel _ => ⟨{ w.leaving env₁ with now := max w.now cap },
                .givenUp, ?_, hleft.congr rfl rfl rfl, hsame, fun hends => by cases hends⟩
              rw [Errand.stage, runSingle, hpoll]
              change (((w.leaving env₁).passTo cap _).map _) = _
              rw [hleft.passTo]
              rfl
  | processing job =>
      rcases hprocess : src.process w.now w.env job with ⟨env₁, entered, notices, progress⟩
      simp only [PollSource.pursue, hprocess, Prod.mk.injEq] at hstep
      obtain ⟨rfl, hturnout⟩ := hstep
      have hleft := hquiet.stepped ⟨env₁, entered, notices, progress⟩
      cases progress with
      | done | crash | wait | yield => cases hturnout
      | never =>
          refine .of_end 0 fun cap fuel _ => ⟨{ w.stepped _ with now := max w.now cap }, .givenUp,
            ?_, hleft.congr rfl rfl rfl, hsame, fun hends => by cases hends⟩
          rw [Errand.stage, runSingle, hprocess]
          change (((w.stepped _).passTo cap _).map _) = _
          rw [hleft.passTo]
          rfl

/-! ### One poll after the other -/

/-- Worlds that come of single polls, one after the other.  Another poll is made only if the last
one has come to an end of its own. -/
inductive PolledOnce (src : PollSource Env Fetch Job) (s : PollerSettings) (env : Env) :
    World Env Fetch Job → Bool → Prop
  | start : PolledOnce src s env (.still env [(src, s)]) true
  | poll {w w' : World Env Fetch Job} {ending : SinglePoll} (h : PolledOnce src s env w true)
      (patience fuel : Nat) (hpoll : w.pollOnce patience fuel 0 = some (w', ending)) :
      PolledOnce src s env w' ending.isEnd

theorem quiet_still (src : PollSource Env Fetch Job) (s : PollerSettings) (env : Env) :
    Quiet src s (.still env [(src, s)]) :=
  ⟨⟨.fresh, rfl⟩, rfl, rfl⟩

/-- A single poll leads to where its errand leads. -/
theorem Quiet.exists_pollOnce (hquiet : Quiet src s w)
    (h : ∀ as, Leads src s Same (w.present 0 as) (src.errand s) env' turnout) :
    ∃ patience fuel w' ending, w.pollOnce patience fuel 0 = some (w', ending) ∧ Quiet src s w' ∧
      Same w'.env env' ∧ (turnout = .ends → ending.isEnd = true) := by
  obtain ⟨p, hlanes⟩ := hquiet.lanes
  obtain ⟨patience, steps, hleads⟩ := h [.polling]
  obtain ⟨w', ending, hsingle, hends⟩ :=
    hleads (w.now + patience) steps (Nat.le_refl _) (Nat.le_refl _)
  refine ⟨patience, steps, w', ending, ?_, hends⟩
  have hlimit : s.pollTimeout.map (fun d => w.now + d.ceilMillis)
      = (s.pollTimeout.map Duration.ceilMillis).map (w.now + ·) := by
    rw [Option.map_map]
    rfl
  rw [pollOnce, hlanes]
  change runSingle 0 src s _ _ _ (.polling src.start (s.pollTimeout.map _)) = _
  rw [hlimit]
  exact hsingle

end World

namespace PollSource

variable {src : PollSource Env Fetch Job} {s : PollerSettings} {Same : Env → Env → Prop}
  {done : Env → List α} {env₀ env env' : Env}

/-- **A single poll leads to where its errand leads.** -/
theorem Pursues.leads (htimeless : src.Timeless Same done) {errand : Errand Fetch Job}
    {turnout : Errand.Turnout Fetch Job} (h : src.Pursues env errand env' turnout)
    {w : World Env Fetch Job} (hquiet : w.Quiet src s) (hsame : Same w.env env) :
    w.Leads src s Same errand env' turnout := by
  -- The induction is on the errand; its steps lead to the same at the time of the world.
  induction h generalizing w with
  | @ends env env' errand hstep =>
      obtain ⟨hafter, hturnout⟩ := htimeless.pursue w.now errand hsame
      rw [hstep] at hafter hturnout
      exact hquiet.leads_of_ends (Prod.ext rfl hturnout) hafter
  | @stuck env env' errand hstep =>
      obtain ⟨hafter, hturnout⟩ := htimeless.pursue w.now errand hsame
      rw [hstep] at hafter hturnout
      exact hquiet.leads_of_stuck (Prod.ext rfl hturnout) hafter
  | @goes env env₁ env' errand errand₁ turnout hstep hrest ih =>
      obtain ⟨hafter, hturnout⟩ := htimeless.pursue w.now errand hsame
      rw [hstep] at hafter hturnout
      refine hquiet.leads_of_goes (Prod.ext rfl hturnout) fun w₁ hquiet₁ henv => ?_
      exact ih hquiet₁ (henv ▸ hafter)

/-- A single poll that is patient enough leads to where its errand leads. -/
theorem Pursues.exists_pollOnce (htimeless : src.Timeless Same done)
    {turnout : Errand.Turnout Fetch Job} (h : src.Pursues env (src.errand s) env' turnout)
    {w : World Env Fetch Job} (hquiet : w.Quiet src s) (hsame : Same w.env env) :
    ∃ patience fuel w' ending, w.pollOnce patience fuel 0 = some (w', ending) ∧
      w'.Quiet src s ∧ Same w'.env env' ∧ (turnout = .ends → ending.isEnd = true) :=
  hquiet.exists_pollOnce fun as => h.leads htimeless (hquiet.present as) hsame

/-- Where single polls stand while errands are run one after the other: an errand that is being run
is the one of the next poll. -/
def Caught (src : PollSource Env Fetch Job) (s : PollerSettings) (Same : Env → Env → Prop)
    (env₀ env : Env) : Round Fetch Job → Prop
  | .resting => ∃ w, World.PolledOnce src s env₀ w true ∧ w.Quiet src s ∧ Same w.env env
  | .busy errand => ∃ w before, World.PolledOnce src s env₀ w true ∧ w.Quiet src s ∧
      Same w.env before ∧ ∀ env' turnout, src.Pursues env errand env' turnout →
        src.Pursues before (src.errand s) env' turnout
  | .stuck => ∃ w again, World.PolledOnce src s env₀ w again ∧ Same w.env env

/-- Errands one after the other are single polls one after the other. -/
theorem Sequence.caught (htimeless : src.Timeless Same done) (hrefl : Same env₀ env₀)
    {round : Round Fetch Job} (h : src.Sequence s env₀ env round) :
    src.Caught s Same env₀ env round := by
  induction h with
  | start => exact ⟨_, .start, World.quiet_still src s env₀, hrefl⟩
  | @opens env h ih =>
      obtain ⟨w, hpolled, hquiet, hsame⟩ := ih
      exact ⟨w, env, hpolled, hquiet, hsame, fun _ _ hpursues => hpursues⟩
  | goes h hstep ih =>
      obtain ⟨w, before, hpolled, hquiet, hsame, hopened⟩ := ih
      exact ⟨w, before, hpolled, hquiet, hsame, fun _ _ hrest => hopened _ _ (.goes hstep hrest)⟩
  | ends h hstep ih =>
      obtain ⟨w, before, hpolled, hquiet, hsame, hopened⟩ := ih
      obtain ⟨patience, fuel, w', ending, hpoll, hquiet', hsame', hends⟩ :=
        (hopened _ _ (.ends hstep)).exists_pollOnce htimeless hquiet hsame
      exact ⟨w', hends rfl ▸ hpolled.poll patience fuel hpoll, hquiet', hsame'⟩
  | stuck h hstep ih =>
      obtain ⟨w, before, hpolled, hquiet, hsame, hopened⟩ := ih
      obtain ⟨patience, fuel, w', ending, hpoll, -, hsame', -⟩ :=
        (hopened _ _ (.stuck hstep)).exists_pollOnce htimeless hquiet hsame
      exact ⟨w', _, hpolled.poll patience fuel hpoll, hsame'⟩

/-- **What errands have done one after the other is what single polls begin with.** -/
theorem Sequence.exists_polledOnce (htimeless : src.Timeless Same done) (hrefl : Same env₀ env₀)
    (hsettles : src.Settles) {round : Round Fetch Job} (h : src.Sequence s env₀ env round) :
    ∃ w again, World.PolledOnce src s env₀ w again ∧ done env <+: done w.env := by
  have hcaught := h.caught htimeless hrefl
  cases round with
  | resting =>
      obtain ⟨w, hpolled, -, hsame⟩ := hcaught
      exact ⟨w, true, hpolled, (htimeless.same hsame) ▸ List.prefix_rfl⟩
  | stuck =>
      obtain ⟨w, again, hpolled, hsame⟩ := hcaught
      exact ⟨w, again, hpolled, (htimeless.same hsame) ▸ List.prefix_rfl⟩
  | busy errand =>
      -- The poll that is going on is let go to its end.
      obtain ⟨w, before, hpolled, hquiet, hsame, hopened⟩ := hcaught
      obtain ⟨env', turnout, hpursues⟩ := hsettles env errand
      obtain ⟨patience, fuel, w', ending, hpoll, -, hsame', -⟩ :=
        (hopened _ _ hpursues).exists_pollOnce htimeless hquiet hsame
      refine ⟨w', _, hpolled.poll patience fuel hpoll, ?_⟩
      rw [htimeless.same hsame']
      exact hpursues.grows htimeless

end PollSource

end DurableWorkflow
