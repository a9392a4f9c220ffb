import DurableWorkflow.Proofs.Polling.Settlement

/-!
# Why a loop ends

The loop of a poller is left in one of its turns, for a reason that can be found in the run before
it: a stop has been requested, a unit has failed with an error that stops the poller, or a poll has
given nothing or has failed while the poller is to fail fast.

## Main Definitions

* `Poller.Cause`: why the loop is left with a result.

## Main Statements

* `Poller.Run.exists_leaves`: the turn in which the loop is left.
* `Poller.Run.cause`: the result of the loop has a cause.
-/

namespace DurableWorkflow

variable {Env Fetch Job : Type}

namespace Poller

/-- Why the loop is left with a result. -/
inductive Cause (src : PollSource Env Fetch Job) (s : PollerSettings)
    (deeds : List (Deed Env Fetch Job)) : UnitResult.{0} → Prop
  | stop (hasked : .asked ∈ deeds) : Cause src s deeds (.ok ⟨⟩)
  /-- A poll has given nothing, or has taken too long. -/
  | nothing {now : Time} {env : Env} {p : Poller Fetch Job} {turn : Turn Env Fetch Job}
      (hdeed : .turned now env p turn ∈ deeds) (hmode : s.mode = .failFast)
      (hpoll : p.answer? src now env = some (.ok none) ∨ p.TimedOut s) :
      Cause src s deeds (.error (.noUnitAvailable src.kind))
  /-- A poll has failed. -/
  | failure {now : Time} {env : Env} {p : Poller Fetch Job} {turn : Turn Env Fetch Job} {e : Error}
      (hdeed : .turned now env p turn ∈ deeds) (hmode : s.mode = .failFast)
      (hpoll : p.answer? src now env = some (.error e)) : Cause src s deeds (.error e)
  /-- A unit has failed or has broken off, with an error that stops the poller. -/
  | unit {n : Nat} {job : Job} {progress : Progress Job UnitResult} {e : Error}
      (hjob : (polled src deeds)[n]? = some job) (hworks : src.Works job (strides n deeds) progress)
      (hend : progress = .done (.error e) ∨
        ∃ message, progress = .crash message ∧ e = .unitPanicked src.kind message)
      (hfatal : src.isFatal e = true) : Cause src s deeds (.error e)

variable {src : PollSource Env Fetch Job} {s : PollerSettings} {deeds : List (Deed Env Fetch Job)}
  {p p' : Poller Fetch Job}

/-- A loop that has a result has been left in this turn or before. -/
theorem Move.leaves_of_result? {now : Time} {env : Env} {alarms : List (Alarm × Nat)}
    {notices : List Notice} (hmove : Move src s now env p p' alarms notices) {result : UnitResult}
    (hresult : p'.result? = some result) :
    p.result? = some result ∨ ∃ shown finished, Leaves src s now env p result shown finished := by
  cases hmove with
  | waits | settles => exact .inl hresult
  | leaves hleaves | ends hleaves =>
      cases hresult
      exact .inr ⟨_, _, hleaves⟩
  | drains hstage | givesUp hstage | limits hstage =>
      cases hresult
      exact .inl (by rw [Poller.result?, hstage])
  | releases hstage hfinished hnext => rcases hnext with rfl | ⟨_, rfl⟩ <;> cases hresult
  | opens | breaks | asks | polls | takesUp | resumes => cases hresult

/-- **The turn in which the loop is left.** -/
theorem Run.exists_leaves (h : Run src s deeds p) {result : UnitResult}
    (hresult : p.result? = some result) :
    ∃ before now env q shown finished, Run src s before q ∧
      before ++ [.turned now env q (q.turn src s now env)] <+: deeds ∧
        Leaves src s now env q result shown finished := by
  -- Once the loop has been left, nothing else gives it a result.
  have hearlier {deeds' : List (Deed Env Fetch Job)} {deed : Deed Env Fetch Job}
      (hbefore : ∃ before now env q shown finished, Run src s before q ∧
        before ++ [.turned now env q (q.turn src s now env)] <+: deeds' ∧
          Leaves src s now env q result shown finished) :
      ∃ before now env q shown finished, Run src s before q ∧
        before ++ [.turned now env q (q.turn src s now env)] <+: deeds' ++ [deed] ∧
          Leaves src s now env q result shown finished := by
    obtain ⟨before, now, env, q, shown, finished, hrun, hinitial, hleaves⟩ := hbefore
    exact ⟨before, now, env, q, shown, finished, hrun,
      hinitial.trans (List.prefix_append _ _), hleaves⟩
  induction h with
  | start => cases hresult
  | turn hrun now env ih =>
      rcases (turn_move src s now env _).leaves_of_result? hresult with hold | ⟨_, _, hleaves⟩
      · exact hearlier (ih hold)
      · exact ⟨_, now, env, _, _, _, hrun, List.prefix_refl _, hleaves⟩
  | work hrun halive hturn ih =>
      rw [Poller.result?, (stepUnit_move hturn).stage] at hresult
      exact hearlier (ih hresult)
  | ring hrun hring ih => exact hearlier (ih ((ring_move hring).result? ▸ hresult))
  | ask hrun ih => exact hearlier (ih hresult)

/-- A poller is to stop only if it has been asked to. -/
theorem Run.asked (h : Run src s deeds p) (hstopping : p.stopping = true) : .asked ∈ deeds := by
  induction h with
  | start => cases hstopping
  | @turn deeds p hrun now env ih =>
      have hmove := turn_move src s now env p
      generalize p.turn src s now env = turn at hmove hstopping ⊢
      rcases turn with ⟨env', p', alarms, spawned, notices, again⟩
      refine List.mem_append_left _ (ih ?_)
      cases hmove <;> exact hstopping
  | @work deeds p hrun now env n turn halive hturn ih =>
      have hmove := stepUnit_move hturn
      rcases turn with ⟨env', p', notices, next⟩
      refine List.mem_append_left _ (ih ?_)
      cases hmove <;> exact hstopping
  | ring hrun hring ih =>
      refine List.mem_append_left _ (ih ?_)
      cases ring_move hring <;> exact hstopping
  | ask => exact List.mem_concat_self

/-- A result that waits for the loop is that of a unit. -/
theorem Run.exists_ending (h : Run src s deeds p) {result : UnitResult}
    (hresult : result ∈ p.finished) : ∃ n, (n, result) ∈ endings deeds := by
  have hmem : result ∈ (endings deeds).map (·.2) := by
    rw [h.ledger.results]
    exact List.mem_append_right _ hresult
  obtain ⟨⟨n, r⟩, hending, rfl⟩ := List.mem_map.mp hmem
  exact ⟨n, hending⟩

theorem eq_of_result?_eq_error {kind : String} {progress : Progress Job UnitResult} {e : Error}
    (h : progress.result? kind = some (.error e)) :
    progress = .done (.error e) ∨
      ∃ message, progress = .crash message ∧ e = .unitPanicked kind message := by
  cases progress with
  | done result =>
      cases h
      exact .inl rfl
  | crash message =>
      cases h
      exact .inr ⟨message, rfl, rfl⟩
  | wait | yield | never => cases h

/-- **The result of the loop has a cause.** -/
theorem Run.cause (h : Run src s deeds p) {result : UnitResult}
    (hresult : p.result? = some result) : Cause src s deeds result := by
  obtain ⟨before, now, env, q, shown, finished, hbefore, hinitial, hleaves⟩ :=
    h.exists_leaves hresult
  have hdeed : .turned now env q (q.turn src s now env) ∈ deeds :=
    hinitial.subset List.mem_concat_self
  cases hleaves with
  | stop hstage hstopping =>
      exact .stop (hinitial.subset (List.mem_append_left _ (hbefore.asked hstopping)))
  | nothing hstage hfinished hmode hpoll => exact .nothing hdeed hmode hpoll
  | failure hstage hfinished hmode hpoll => exact .failure hdeed hmode hpoll
  | @unit e rest hstage hfinished hfatal =>
      obtain ⟨n, hending⟩ := hbefore.exists_ending (hfinished ▸ List.mem_cons_self)
      have hlater : (n, .error e) ∈ endings deeds :=
        (((List.prefix_append _ _).trans hinitial).filterMap _).subset hending
      obtain ⟨job, progress, hjob, hworks, hend⟩ := h.ledger.works n _ hlater
      exact .unit hjob hworks (eq_of_result?_eq_error hend) hfatal

/-- A poller that polls again and again is stopped by errors of units only. -/
theorem Cause.isFatal {e : Error} (h : Cause src s deeds (.error e))
    (hmode : s.mode = .repeatedly) : src.isFatal e = true := by
  cases h with
  | unit hjob hworks hend hfatal => exact hfatal
  | nothing hdeed hfails | failure hdeed hfails =>
      rw [hmode] at hfails
      cases hfails

end Poller

end DurableWorkflow
