import DurableWorkflow.Proofs.Polling.Cause
import DurableWorkflow.Proofs.Worker.Delivery
import DurableWorkflow.Worker.Source

/-!
# How the pollers of a worker end

No error of a task stops its poller, and no refused call stops a poller for decision tasks.  So
neither ends for the service, unless it is to fail fast.

## Main Statements

* `Poller.ended_for_cause`: why a poller has ended, and how the pollers of a worker do not end.
-/

namespace DurableWorkflow

namespace Poller

/-- **A poller ends as it says.**  It ends well only if a stop has been requested, for a poll only
if it is to fail fast, and with any other error only if a unit has failed or broken off with it and
it stops the poller.  So, unless it is to fail fast, a poller for tasks never ends with an error,
and a poller for decision tasks never ends with a refused call. -/
theorem ended_for_cause :
    (∀ {Env Fetch Job : Type} (src : PollSource Env Fetch Job) (s : PollerSettings)
      (deeds : List (Deed Env Fetch Job)) (p : Poller Fetch Job) (result : UnitResult),
      Run src s deeds p → p.stage = .ended result → Cause src s deeds result) ∧
    ∀ {State : Type} (s : PollerSettings), s.mode = .repeatedly →
      (∀ (d : TaskDuty State) (deeds : List (Deed (Host State) Fetching Working))
        (p : Poller Fetching Working), Run d.source s deeds p →
          ∀ e, p.stage ≠ .ended (.error e)) ∧
      ∀ (d : DecisionDuty State) (deeds : List (Deed (Host State) Fetching Working))
        (p : Poller Fetching Working), Run d.source s deeds p →
          ∀ e, p.stage ≠ .ended (.error (.remote e)) := by
  have hcause {Env Fetch Job : Type} {src : PollSource Env Fetch Job} {s : PollerSettings}
      {deeds : List (Deed Env Fetch Job)} {p : Poller Fetch Job} {result : UnitResult}
      (hrun : Run src s deeds p) (hended : p.stage = .ended result) : Cause src s deeds result :=
    hrun.cause (by rw [result?, hended])
  refine ⟨fun src s deeds p result => hcause, fun s hmode => ⟨?_, ?_⟩⟩
  · intro d deeds p hrun e hended
    exact Bool.false_ne_true ((hcause hrun hended).isFatal hmode)
  · intro d deeds p hrun e hended
    exact Bool.false_ne_true ((hcause hrun hended).isFatal hmode)

/-- A poller that fails fast ends because its poll gives nothing; a poller for decision tasks that
polls again and again ends because it is asked to stop. -/
theorem ended_for_cause_nothing :
    (∃ deeds p, Run (Rehearsal.source "test" Error.isFatal)
      { PollerSettings.standard with mode := .failFast } deeds p ∧
        p.stage = .ended (.error (.noUnitAvailable "test")) ∧
          Cause (Rehearsal.source "test" Error.isFatal)
            { PollerSettings.standard with mode := .failFast } deeds
              (.error (.noUnitAvailable "test"))) ∧
      ∃ deeds p, Run DecisionDuty.idle.source .standard deeds p ∧ p.stage = .ended (.ok ⟨⟩) ∧
        Cause DecisionDuty.idle.source .standard deeds (.ok ⟨⟩) ∧
          ∀ e, p.stage ≠ .ended (.error (.remote e)) := by
  obtain ⟨hcause, hnever⟩ := ended_for_cause
  let source := Rehearsal.source "test" Error.isFatal
  let s : PollerSettings := { PollerSettings.standard with mode := .failFast }
  let env : Rehearsal := ⟨[⟨0, .given none⟩], []⟩
  let host : Host Script := .start .empty ⟨toString, 0⟩
  have hstart : Run source s [] .fresh := .start
  have hasked : Run source s _
      ⟨.polling .start true .unset, false, 0, 1, 0, [], [], [], [.polling]⟩ :=
    (hstart.turn 0 env).turn 0 env
  have hended := (hasked.turn 0 env).turn 0 env
  have hidle : Run DecisionDuty.idle.source .standard [] .fresh := .start
  have hstopped := (hidle.turn 0 host).ask.turn 0 host
  exact ⟨⟨_, _, hended, rfl, hcause _ _ _ _ _ hended rfl⟩, _, _, hstopped, rfl,
    hcause _ _ _ _ _ hstopped rfl, (hnever .standard rfl).2 _ _ _ hstopped⟩

end Poller

end DurableWorkflow
