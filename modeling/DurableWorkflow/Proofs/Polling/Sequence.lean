import Mathlib.Data.List.Infix
import DurableWorkflow.Polling.Single

/-!
# One thing after the other

A poll and the processing of the unit that it gives are an errand.  Errands can be run one after the
other, without a loop, an alarm or a clock: all that matters of the time is how long a poll may
still take.

## Main Definitions

* `Errand`, `PollSource.pursue`: an errand, and its next step.
* `PollSource.Pursues`: an errand from its start to where it leads.
* `PollSource.Sequence`: errands one after the other.
* `PollSource.Timeless`: a source for which the time does not matter.

## Main Statements

* `PollSource.Pursues.grows`: an errand adds to what has been done.
* `PollSource.Timeless.pursue`: its steps lead to the same at all times.

## Design Notes

A source may note down the time, but may not depend on it.  So errands are run as if they all took
place at the start.
-/

namespace DurableWorkflow

variable {Env Fetch Job α : Type}

/-- A poll and the processing of the unit that it gives. -/
inductive Errand (Fetch Job : Type) where
  /-- The poll may take `left` more milliseconds, if that is bounded. -/
  | polling (fetch : Fetch) (left : Option Nat)
  | processing (job : Job)

/-- What a step of an errand leads to. -/
inductive Errand.Turnout (Fetch Job : Type) where
  | goes (errand : Errand Fetch Job)
  | ends
  /-- The errand never goes on. -/
  | stuck

/-- What someone is about who runs one errand after the other. -/
inductive Round (Fetch Job : Type) where
  | resting
  | busy (errand : Errand Fetch Job)
  | stuck

/-- What someone is about after a step of an errand. -/
def Errand.Turnout.round : Errand.Turnout Fetch Job → Round Fetch Job
  | .goes errand => .busy errand
  | .ends => .resting
  | .stuck => .stuck

namespace PollSource

/-- A step of an errand. -/
def pursue (src : PollSource Env Fetch Job) (now : Time) (env : Env) :
    Errand Fetch Job → Env × Errand.Turnout Fetch Job
  | .polling fetch left =>
    let (env, progress) := src.poll now env fetch
    (env,
      match progress with
      | .done (.ok (some job)) => .goes (.processing job)
      | .done (.ok none) | .done (.error _) | .crash _ => .ends
      | .yield next => .goes (.polling next left)
      | .wait ms next =>
        if left.all (ms ≤ ·) then .goes (.polling next (left.map (· - ms))) else .ends
      | .never => if left.isSome then .ends else .stuck)
  | .processing job =>
    let step := src.process now env job
    (step.env,
      match step.progress with
      | .done _ | .crash _ => .ends
      | .wait _ next | .yield next => .goes (.processing next)
      | .never => .stuck)

/-- An errand leads from one environment to another, where it is over or stuck. -/
inductive Pursues (src : PollSource Env Fetch Job) :
    Env → Errand Fetch Job → Env → Errand.Turnout Fetch Job → Prop
  | ends {env env' : Env} {errand : Errand Fetch Job}
      (h : src.pursue 0 env errand = (env', .ends)) : Pursues src env errand env' .ends
  | stuck {env env' : Env} {errand : Errand Fetch Job}
      (h : src.pursue 0 env errand = (env', .stuck)) : Pursues src env errand env' .stuck
  | goes {env env₁ env' : Env} {errand errand₁ : Errand Fetch Job}
      {turnout : Errand.Turnout Fetch Job} (h : src.pursue 0 env errand = (env₁, .goes errand₁))
      (hrest : Pursues src env₁ errand₁ env' turnout) : Pursues src env errand env' turnout

/-- Every errand leads somewhere. -/
def Settles (src : PollSource Env Fetch Job) : Prop :=
  ∀ env errand, ∃ env' turnout, src.Pursues env errand env' turnout

/-- An errand before its first step. -/
def errand (src : PollSource Env Fetch Job) (s : PollerSettings) : Errand Fetch Job :=
  .polling src.start (s.pollTimeout.map Duration.ceilMillis)

/-- The time does not matter to a source: environments that are the same but for times lead to such
environments, and all that is done adds to what has been done before. -/
structure Timeless (src : PollSource Env Fetch Job) (Same : Env → Env → Prop)
    (done : Env → List α) : Prop where
  poll : ∀ now {env env' : Env} fetch, Same env env' →
    Same (src.poll now env fetch).1 (src.poll 0 env' fetch).1 ∧
      (src.poll now env fetch).2 = (src.poll 0 env' fetch).2
  process : ∀ now {env env' : Env} job, Same env env' →
    Same (src.process now env job).env (src.process 0 env' job).env ∧
      (src.process now env job).progress = (src.process 0 env' job).progress
  same : ∀ {env env' : Env}, Same env env' → done env = done env'
  poll_grows : ∀ env fetch, done env <+: done (src.poll 0 env fetch).1
  process_grows : ∀ env job, done env <+: done (src.process 0 env job).env

/-- Errands one after the other. -/
inductive Sequence (src : PollSource Env Fetch Job) (s : PollerSettings) (env₀ : Env) :
    Env → Round Fetch Job → Prop
  | start : Sequence src s env₀ env₀ .resting
  | opens {env : Env} (h : Sequence src s env₀ env .resting) :
      Sequence src s env₀ env (.busy (src.errand s))
  | goes {env env' : Env} {errand errand' : Errand Fetch Job}
      (h : Sequence src s env₀ env (.busy errand))
      (hstep : src.pursue 0 env errand = (env', .goes errand')) :
      Sequence src s env₀ env' (.busy errand')
  | ends {env env' : Env} {errand : Errand Fetch Job}
      (h : Sequence src s env₀ env (.busy errand))
      (hstep : src.pursue 0 env errand = (env', .ends)) : Sequence src s env₀ env' .resting
  | stuck {env env' : Env} {errand : Errand Fetch Job}
      (h : Sequence src s env₀ env (.busy errand))
      (hstep : src.pursue 0 env errand = (env', .stuck)) : Sequence src s env₀ env' .stuck

variable {src : PollSource Env Fetch Job} {Same : Env → Env → Prop} {done : Env → List α}

/-- **The steps of an errand lead to the same at all times.** -/
theorem Timeless.pursue (h : src.Timeless Same done) (now : Time) {env env' : Env}
    (errand : Errand Fetch Job) (hsame : Same env env') :
    Same (src.pursue now env errand).1 (src.pursue 0 env' errand).1 ∧
      (src.pursue now env errand).2 = (src.pursue 0 env' errand).2 := by
  cases errand with
  | polling fetch left =>
      obtain ⟨henv, hprogress⟩ := h.poll now fetch hsame
      refine ⟨henv, ?_⟩
      simp only [PollSource.pursue, hprogress]
  | processing job =>
      obtain ⟨henv, hprogress⟩ := h.process now job hsame
      refine ⟨henv, ?_⟩
      simp only [PollSource.pursue, hprogress]

/-- A step of an errand, at any time, is one for someone who runs errands one after the other. -/
theorem Sequence.pursued (htimeless : src.Timeless Same done) {s : PollerSettings}
    {env₀ env env' : Env} {errand : Errand Fetch Job} (h : src.Sequence s env₀ env (.busy errand))
    (now : Time) (hsame : Same env' env) :
    ∃ after, Same (src.pursue now env' errand).1 after ∧
      src.Sequence s env₀ after (src.pursue now env' errand).2.round := by
  obtain ⟨hafter, hturnout⟩ := htimeless.pursue now errand hsame
  refine ⟨_, hafter, ?_⟩
  rw [hturnout]
  rcases hstep : src.pursue 0 env errand with ⟨after, turnout⟩
  cases turnout with
  | goes errand' => exact .goes h hstep
  | ends => exact .ends h hstep
  | stuck => exact .stuck h hstep

theorem Timeless.pursue_grows (h : src.Timeless Same done) (env : Env)
    (errand : Errand Fetch Job) : done env <+: done (src.pursue 0 env errand).1 := by
  cases errand with
  | polling fetch left => exact h.poll_grows env fetch
  | processing job => exact h.process_grows env job

/-- **An errand adds to what has been done.** -/
theorem Pursues.grows (h : src.Timeless Same done) {env env' : Env} {errand : Errand Fetch Job}
    {turnout : Errand.Turnout Fetch Job} (hpursues : src.Pursues env errand env' turnout) :
    done env <+: done env' := by
  induction hpursues with
  | @ends env env' errand hstep | @stuck env env' errand hstep =>
      have hgrows := h.pursue_grows env errand
      rwa [hstep] at hgrows
  | @goes env env₁ env' errand errand₁ turnout hstep hrest ih =>
      have hgrows := h.pursue_grows env errand
      rw [hstep] at hgrows
      exact hgrows.trans ih

end PollSource

end DurableWorkflow
