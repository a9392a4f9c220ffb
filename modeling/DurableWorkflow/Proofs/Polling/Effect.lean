import Mathlib.Data.List.Nodup
import DurableWorkflow.Polling.Poller

/-!
# What a poller does to its units

A turn of the loop takes a unit up if its poll gives one, and aborts the units when it is to wait no
longer; a step of a unit concerns that unit alone.  What else a turn or a step does to a poller is
of no concern to the units.

## Main Definitions

* `Poller.polled?`: the unit that the next turn of the loop takes up.
* `Poller.Effect`, `Poller.UnitEffect`: what a turn and a step of a unit do to the units.
* `Poller.units`: the units in flight and what goes on of aborted ones.
* `Poller.Numbered`: no two of them have one number.

## Main Statements

* `Poller.turn_effect`: what a turn does to the units and to the environment.
* `Poller.stepUnit_effect`: what a step of a unit does to the units and to the environment.
-/

namespace DurableWorkflow

variable {Env Fetch Job : Type}

/-- The state with which a computation goes on. -/
def Progress.next? {State Result : Type} : Progress State Result → Option State
  | .wait _ next | .yield next => some next
  | .done _ | .crash _ | .never => none

namespace Poller

/-- The unit that the next turn of the loop takes up, if its poll gives one. -/
def polled? (src : PollSource Env Fetch Job) (now : Time) (env : Env) (p : Poller Fetch Job) :
    Option Job :=
  match p.stage, p.stopping, p.finished with
  | .polling fetch true _, false, [] =>
    match (src.poll now env fetch).2 with
    | .done (.ok unit) => unit
    | _ => none
  | _, _, _ => none

variable {src : PollSource Env Fetch Job} {s : PollerSettings} {p : Poller Fetch Job}

/-! ### What a turn does to the units -/

namespace Turn

/-- The turn leaves an environment and the units of a poller as they are. -/
def Keeps (env : Env) (p : Poller Fetch Job) (t : Turn Env Fetch Job) : Prop :=
  t.env = env ∧ t.poller.running = p.running ∧ t.poller.strays = p.strays ∧
    t.poller.taken = p.taken ∧ t.spawned = none

/-- The turn leaves an environment as it is and aborts the units of a poller. -/
def Aborts (src : PollSource Env Fetch Job) (env : Env) (p : Poller Fetch Job)
    (t : Turn Env Fetch Job) : Prop :=
  t.env = env ∧ t.poller.running = [] ∧ t.poller.strays = (p.abort src).strays ∧
    t.poller.taken = p.taken ∧ t.spawned = none

/-- The turn leaves an environment as it is and takes up a unit. -/
def TakesUp (env : Env) (p : Poller Fetch Job) (job : Job) (t : Turn Env Fetch Job) : Prop :=
  t.env = env ∧ t.poller.running = p.running ++ [(p.taken, job)] ∧ t.poller.strays = p.strays ∧
    t.poller.taken = p.taken + 1 ∧ t.spawned = some p.taken

end Turn

theorem finish_keeps (env : Env) (p : Poller Fetch Job) (result : UnitResult) :
    (finish env p result).Keeps env p := ⟨rfl, rfl, rfl, rfl, rfl⟩

/-- Leaving the loop does nothing to the units. -/
theorem leave_keeps (env : Env) (p : Poller Fetch Job) (result : UnitResult) :
    (leave env p result).Keeps env p := by
  unfold leave
  split
  · exact ⟨rfl, rfl, rfl, rfl, rfl⟩
  · exact finish_keeps env p result

/-- Looking at a result does nothing to the units. -/
theorem settle_keeps (env : Env) (p : Poller Fetch Job) (result : UnitResult) :
    (settle src env p result).Keeps env p := by
  unfold settle
  split
  · exact ⟨rfl, rfl, rfl, rfl, rfl⟩
  · split
    · exact leave_keeps env p _
    · exact ⟨rfl, rfl, rfl, rfl, rfl⟩

theorem settleLate_keeps (env : Env) (p : Poller Fetch Job) (result : UnitResult) :
    (settleLate src env p result).Keeps env p := by
  unfold settleLate
  split <;> exact ⟨rfl, rfl, rfl, rfl, rfl⟩

/-- A poll that has given nothing does nothing to the units. -/
theorem onNothing_keeps (env : Env) (p : Poller Fetch Job) :
    (onNothing src s env p).Keeps env p := by
  unfold onNothing
  dsimp only
  split
  · exact leave_keeps env _ _
  · exact ⟨rfl, rfl, rfl, rfl, rfl⟩

/-- A poll that has failed does nothing to the units. -/
theorem onFailure_keeps (env : Env) (p : Poller Fetch Job) (e : Error) :
    (onFailure s env p e).Keeps env p := by
  unfold onFailure
  dsimp only
  split
  · exact leave_keeps env _ _
  · split <;> exact ⟨rfl, rfl, rfl, rfl, rfl⟩

theorem onWaiting_keeps (env : Env) (p : Poller Fetch Job) (fetch : Fetch) (limit : TimeLimit) :
    (onWaiting src s env p fetch limit).Keeps env p := by
  unfold onWaiting
  dsimp only
  split
  · exact onNothing_keeps env _
  · split
    · exact onNothing_keeps env _
    · exact ⟨rfl, rfl, rfl, rfl, rfl⟩
  · exact ⟨rfl, rfl, rfl, rfl, rfl⟩

/-- A loop that breaks off aborts all units. -/
theorem breakOff_aborts (env : Env) (p : Poller Fetch Job) (message : String) :
    (breakOff src env p message).Aborts src env p := ⟨rfl, rfl, rfl, rfl, rfl⟩

/-- What a turn does to the units, given the environment that it leaves and the unit that its poll
gives. -/
inductive Effect (src : PollSource Env Fetch Job) (env : Env) (p : Poller Fetch Job) :
    Option Job → Turn Env Fetch Job → Prop
  | keeps {t : Turn Env Fetch Job} (hkeeps : t.Keeps env p) : Effect src env p none t
  | aborts {t : Turn Env Fetch Job} (haborts : t.Aborts src env p) : Effect src env p none t
  | takesUp {t : Turn Env Fetch Job} {job : Job} (htakes : t.TakesUp env p job) :
      Effect src env p (some job) t

theorem Effect.after {env : Env} {job? : Option Job} {t : Turn Env Fetch Job}
    (h : Effect src env p job? t) : t.env = env := by
  cases h with
  | keeps hkeeps => exact hkeeps.1
  | aborts haborts => exact haborts.1
  | takesUp htakes => exact htakes.1

/-- The next number is that of the unit that is taken up. -/
theorem Effect.spawned {env : Env} {job? : Option Job} {t : Turn Env Fetch Job}
    (h : Effect src env p job? t) : t.spawned = none ∧ t.poller.taken = p.taken ∨
      t.spawned = some p.taken ∧ t.poller.taken = p.taken + 1 := by
  cases h with
  | keeps hkeeps =>
      obtain ⟨-, -, -, htaken, hspawned⟩ := hkeeps
      exact .inl ⟨hspawned, htaken⟩
  | aborts haborts =>
      obtain ⟨-, -, -, htaken, hspawned⟩ := haborts
      exact .inl ⟨hspawned, htaken⟩
  | takesUp htakes =>
      obtain ⟨-, -, -, htaken, hspawned⟩ := htakes
      exact .inr ⟨hspawned, htaken⟩

/-- A step of a poll takes up a unit exactly if it gives one. -/
theorem stepPoll_effect (now : Time) (env : Env) (p : Poller Fetch Job) (fetch : Fetch)
    (limit : TimeLimit) :
    Effect src (src.poll now env fetch).1 p
      (match (src.poll now env fetch).2 with
        | .done (.ok unit) => unit
        | _ => none)
      (stepPoll src s now env p fetch limit) := by
  unfold stepPoll
  rcases src.poll now env fetch with ⟨env', progress⟩
  cases progress with
  | done result =>
      cases result with
      | error e => exact .keeps (onFailure_keeps env' p e)
      | ok unit =>
          cases unit with
          | none => exact .keeps (onNothing_keeps env' p)
          | some job => exact .takesUp ⟨rfl, rfl, rfl, rfl, rfl⟩
  | crash message => exact .aborts (breakOff_aborts env' p message)
  | wait ms next =>
      cases ms with
      | zero => exact .keeps ⟨rfl, rfl, rfl, rfl, rfl⟩
      | succ ms => exact .keeps (onWaiting_keeps env' p next limit)
  | yield next => exact .keeps ⟨rfl, rfl, rfl, rfl, rfl⟩
  | never => exact .keeps (onWaiting_keeps env' p fetch limit)

/-- **What a turn does to the units.**  It keeps them, aborts them, or takes up the one that its
poll gives; and only a poll changes the environment. -/
theorem turn_effect (now : Time) (env : Env) (p : Poller Fetch Job) :
    ∃ env', (env' = env ∨ ∃ fetch, env' = (src.poll now env fetch).1) ∧
      Effect src env' p (p.polled? src now env) (p.turn src s now env) := by
  -- Outside of a poll that can go on, no unit is given and the environment stays.
  have hkept {t : Turn Env Fetch Job} (h : t.Keeps env p) :
      ∃ env', (env' = env ∨ ∃ fetch, env' = (src.poll now env fetch).1) ∧
        Effect src env' p none t :=
    ⟨env, .inl rfl, .keeps h⟩
  have haborted {t : Turn Env Fetch Job} (h : t.Aborts src env p) :
      ∃ env', (env' = env ∨ ∃ fetch, env' = (src.poll now env fetch).1) ∧
        Effect src env' p none t :=
    ⟨env, .inl rfl, .aborts h⟩
  cases hstage : p.stage with
  | starting =>
      simp only [turn, polled?, hstage]
      split
      · exact haborted (breakOff_aborts env p _)
      · exact hkept ⟨rfl, rfl, rfl, rfl, rfl⟩
  | seeking =>
      simp only [turn, polled?, hstage]
      split
      · exact hkept (leave_keeps env p _)
      · split
        · exact hkept (settle_keeps env _ _)
        · split <;> exact hkept ⟨rfl, rfl, rfl, rfl, rfl⟩
  | polling fetch due limit =>
      cases hstopping : p.stopping with
      | true =>
          simp only [turn, polled?, hstage, hstopping]
          exact hkept (leave_keeps env p _)
      | false =>
          cases hfinished : p.finished with
          | cons result rest =>
              simp only [turn, polled?, hstage, hstopping, hfinished]
              exact hkept (settle_keeps env _ _)
          | nil =>
              cases due with
              | true =>
                  simp only [turn, polled?, hstage, hstopping, hfinished]
                  exact ⟨_, .inr ⟨fetch, rfl⟩, stepPoll_effect now env p fetch limit⟩
              | false =>
                  simp only [turn, polled?, hstage, hstopping, hfinished, Bool.false_eq_true,
                    if_false]
                  split
                  · exact hkept (onNothing_keeps env p)
                  · exact hkept ⟨rfl, rfl, rfl, rfl, rfl⟩
  | pausing elapsed =>
      simp only [turn, polled?, hstage]
      split
      · exact hkept (leave_keeps env p _)
      · split <;> exact hkept ⟨rfl, rfl, rfl, rfl, rfl⟩
  | draining result limit =>
      simp only [turn, polled?, hstage]
      split
      · exact hkept (settleLate_keeps env _ _)
      · split
        · exact hkept (finish_keeps env p _)
        · split
          · exact haborted ⟨rfl, rfl, rfl, rfl, rfl⟩
          · split <;> exact hkept ⟨rfl, rfl, rfl, rfl, rfl⟩
  | ended result | crashed message =>
      simp only [turn, polled?, hstage]
      exact hkept ⟨rfl, rfl, rfl, rfl, rfl⟩

/-- A unit that is taken up has been given by a poll. -/
theorem exists_of_polled? {now : Time} {env : Env} {job : Job}
    (h : p.polled? src now env = some job) :
    ∃ fetch, (src.poll now env fetch).2 = .done (.ok (some job)) := by
  unfold polled? at h
  split at h
  · next fetch limit hstage hstopping hfinished =>
    split at h
    · next unit hpoll => exact ⟨fetch, h ▸ hpoll⟩
    · cases h
  · cases h

/-! ### What a step does to the units -/

/-- Units among which the one with a number has been removed, or has come to another state. -/
inductive Altered (n : Nat) (jobs : List (Nat × Job)) : Option Job → List (Nat × Job) → Prop
  | removed : Altered n jobs none (jobs.filter (·.1 ≠ n))
  | replaced (job : Job) : Altered n jobs (some job) (replaceJob n job jobs)

theorem map_fst_replaceJob (n : Nat) (job : Job) (jobs : List (Nat × Job)) :
    (replaceJob n job jobs).map (·.1) = jobs.map (·.1) := by
  rw [replaceJob, List.map_map]
  refine List.map_congr_left fun x _ => ?_
  dsimp only [Function.comp]
  split
  · next hx => exact hx.symm
  · rfl

/-- No unit appears among others when one of them is altered. -/
theorem Altered.numbers {n : Nat} {jobs jobs' : List (Nat × Job)} {state : Option Job}
    (h : Altered n jobs state jobs') : (jobs'.map (·.1)).Sublist (jobs.map (·.1)) := by
  cases h with
  | removed => exact List.filter_sublist.map _
  | replaced job => exact map_fst_replaceJob n job jobs ▸ List.Sublist.refl _

/-- A unit that is there after one has been altered is another one, or the altered one in its new
state. -/
theorem Altered.mem {n m : Nat} {jobs jobs' : List (Nat × Job)} {state : Option Job} {job : Job}
    (h : Altered n jobs state jobs') (hmem : (m, job) ∈ jobs') :
    (m ≠ n ∧ (m, job) ∈ jobs) ∨ (m = n ∧ state = some job) := by
  cases h with
  | removed =>
      obtain ⟨hjobs, hne⟩ := List.mem_filter.mp hmem
      exact .inl ⟨of_decide_eq_true hne, hjobs⟩
  | replaced next =>
      obtain ⟨⟨k, x⟩, hx, heq⟩ := List.mem_map.mp hmem
      dsimp only at heq
      split at heq
      · cases heq
        exact .inr ⟨rfl, rfl⟩
      · next hne =>
        cases heq
        exact .inl ⟨hne, hx⟩

theorem enterAll_units (p : Poller Fetch Job) (as : List Activity) :
    (p.enterAll as).running = p.running ∧ (p.enterAll as).strays = p.strays ∧
      (p.enterAll as).taken = p.taken := by
  induction as generalizing p with
  | nil => exact ⟨rfl, rfl, rfl⟩
  | cons a as ih => exact ih (p.enter a)

/-- A unit in flight comes to its next state, is over, or never goes on. -/
theorem stepRunning_effect (src : PollSource Env Fetch Job) (now : Time) (env : Env)
    (p : Poller Fetch Job) (n : Nat) (job : Job) :
    let t := stepRunning src now env p n job
    t.env = (src.process now env job).env ∧ t.poller.taken = p.taken ∧
      t.poller.strays = p.strays ∧
      (Altered n p.running (src.process now env job).progress.next? t.poller.running ∨
        t.next = .never ∧ t.poller.running = p.running) := by
  rcases hstep : src.process now env job with ⟨env', entered, notices, progress⟩
  obtain ⟨hrunning, hstrays, htaken⟩ := p.enterAll_units entered
  have hremoved (result : UnitResult) (q : Poller Fetch Job) (hq : q.running = p.running) :
      Altered n p.running none (q.unitOver n result).running := by
    rw [unitOver, hq]
    exact .removed
  have hreplaced (next : Job) :
      Altered n p.running (some next) (replaceJob n next (p.enterAll entered).running) := by
    rw [hrunning]
    exact .replaced next
  simp only [stepRunning, hstep]
  cases progress with
  | done result => exact ⟨rfl, htaken, hstrays, .inl (hremoved _ _ hrunning)⟩
  | crash message => exact ⟨rfl, htaken, hstrays, .inl (hremoved _ _ hrunning)⟩
  | wait ms next =>
      cases ms with
      | zero => exact ⟨rfl, htaken, hstrays, .inl (hreplaced next)⟩
      | succ ms => exact ⟨rfl, htaken, hstrays, .inl (hreplaced next)⟩
  | yield next => exact ⟨rfl, htaken, hstrays, .inl (hreplaced next)⟩
  | never => exact ⟨rfl, htaken, hstrays, .inr ⟨rfl, hrunning⟩⟩

/-- The poller when an aborted unit has come to a state: what is detached from it goes on. -/
def detaching (p : Poller Fetch Job) (src : PollSource Env Fetch Job) (n : Nat) (state : Job) :
    Poller Fetch Job :=
  match src.detached state with
  | some job => { p with strays := replaceJob n job p.strays }
  | none => { p with strays := p.strays.filter (·.1 ≠ n) }

theorem detaching_effect (p : Poller Fetch Job) (src : PollSource Env Fetch Job) (n : Nat)
    (state : Job) :
    (p.detaching src n state).taken = p.taken ∧ (p.detaching src n state).running = p.running ∧
      Altered n p.strays (src.detached state) (p.detaching src n state).strays := by
  unfold detaching
  cases src.detached state with
  | some job => exact ⟨rfl, rfl, .replaced job⟩
  | none => exact ⟨rfl, rfl, .removed⟩

/-- What goes on of an aborted unit comes to what goes on of its next state, or is over. -/
theorem stepStray_effect (src : PollSource Env Fetch Job) (now : Time) (env : Env)
    (p : Poller Fetch Job) (n : Nat) (job : Job) :
    let t := stepStray src now env p n job
    t.env = (src.process now env job).env ∧ t.poller.taken = p.taken ∧
      t.poller.running = p.running ∧
      Altered n p.strays ((src.process now env job).progress.next?.bind src.detached)
        t.poller.strays := by
  rcases hstep : src.process now env job with ⟨env', entered, notices, progress⟩
  simp only [stepStray, hstep]
  cases progress with
  | done result => exact ⟨rfl, rfl, rfl, .removed⟩
  | crash message => exact ⟨rfl, rfl, rfl, .removed⟩
  | wait ms next =>
      cases ms with
      | zero => exact ⟨rfl, p.detaching_effect src n next⟩
      | succ ms => exact ⟨rfl, p.detaching_effect src n next⟩
  | yield next => exact ⟨rfl, p.detaching_effect src n next⟩
  | never => exact ⟨rfl, rfl, rfl, .removed⟩

/-- The units in flight and what goes on of aborted ones. -/
def units (p : Poller Fetch Job) : List (Nat × Job) := p.running ++ p.strays

theorem mem_units {p : Poller Fetch Job} {x : Nat × Job} :
    x ∈ p.units ↔ x ∈ p.running ∨ x ∈ p.strays := List.mem_append

/-- No two units have one number, and the next number is free. -/
structure Numbered (p : Poller Fetch Job) : Prop where
  nodup : (p.units.map (·.1)).Nodup
  lt : ∀ x ∈ p.units, x.1 < p.taken

/-- A unit in flight and what an aborted one has left are never of one number. -/
theorem Numbered.ne (h : p.Numbered) {x y : Nat × Job} (hx : x ∈ p.running) (hy : y ∈ p.strays) :
    x.1 ≠ y.1 := by
  have hnodup := h.nodup
  rw [units, List.map_append] at hnodup
  exact (List.nodup_append.mp hnodup).2.2 x.1 (List.mem_map_of_mem hx) y.1 (List.mem_map_of_mem hy)

/-- What a step of a unit does to the units: it is a step of the unit with the number, and no other
unit changes. -/
structure UnitEffect (src : PollSource Env Fetch Job) (now : Time) (env : Env)
    (p : Poller Fetch Job) (n : Nat) (job : Job) (t : UnitTurn Env Fetch Job) : Prop where
  mem : (n, job) ∈ p.units
  after : t.env = (src.process now env job).env
  taken : t.poller.taken = p.taken
  numbers : (t.poller.units.map (·.1)).Sublist (p.units.map (·.1))
  units : ∀ m job', (m, job') ∈ t.poller.units → (m ≠ n ∧ (m, job') ∈ p.units) ∨
    (m = n ∧ (t.next = .never ∨ (src.process now env job).progress.next? = some job' ∨
      ∃ state, (src.process now env job).progress.next? = some state ∧
        src.detached state = some job'))

/-- A step of a unit in flight alters that unit, and nothing else. -/
theorem unitEffect_stepRunning (hnumbers : p.Numbered) (now : Time) (env : Env) {n : Nat}
    {job : Job} (hjob : (n, job) ∈ p.running) :
    UnitEffect src now env p n job (stepRunning src now env p n job) := by
  obtain ⟨hafter, htaken, hstrays, hrunning⟩ := stepRunning_effect src now env p n job
  refine ⟨mem_units.mpr (.inl hjob), hafter, htaken, ?_, fun m job' hmem => ?_⟩
  · rw [units, units, hstrays, List.map_append, List.map_append]
    refine List.Sublist.append ?_ (List.Sublist.refl _)
    rcases hrunning with haltered | ⟨-, hsame⟩
    · exact haltered.numbers
    · exact hsame ▸ List.Sublist.refl _
  · rcases mem_units.mp hmem with hrun | hstray
    · rcases hrunning with haltered | ⟨hnever, hsame⟩
      · rcases haltered.mem hrun with ⟨hne, hold⟩ | ⟨heq, hnext⟩
        · exact .inl ⟨hne, mem_units.mpr (.inl hold)⟩
        · exact .inr ⟨heq, .inr (.inl hnext)⟩
      · rw [hsame] at hrun
        by_cases heq : m = n
        · exact .inr ⟨heq, .inl hnever⟩
        · exact .inl ⟨heq, mem_units.mpr (.inl hrun)⟩
    · rw [hstrays] at hstray
      exact .inl ⟨(hnumbers.ne hjob hstray).symm, mem_units.mpr (.inr hstray)⟩

/-- A step of what an aborted unit has left alters that, and nothing else. -/
theorem unitEffect_stepStray (hnumbers : p.Numbered) (now : Time) (env : Env) {n : Nat}
    {job : Job} (hjob : (n, job) ∈ p.strays) :
    UnitEffect src now env p n job (stepStray src now env p n job) := by
  obtain ⟨hafter, htaken, hrunning, hstrays⟩ := stepStray_effect src now env p n job
  refine ⟨mem_units.mpr (.inr hjob), hafter, htaken, ?_, fun m job' hmem => ?_⟩
  · rw [units, units, hrunning, List.map_append, List.map_append]
    exact (List.Sublist.refl _).append hstrays.numbers
  · rcases mem_units.mp hmem with hrun | hstray
    · rw [hrunning] at hrun
      exact .inl ⟨hnumbers.ne hrun hjob, mem_units.mpr (.inl hrun)⟩
    · rcases hstrays.mem hstray with ⟨hne, hold⟩ | ⟨heq, hnext⟩
      · exact .inl ⟨hne, mem_units.mpr (.inr hold)⟩
      · exact .inr ⟨heq, .inr (.inr (Option.bind_eq_some_iff.mp hnext))⟩

/-- **What a step of a unit does to the units**, whether the unit is in flight or has been
aborted. -/
theorem stepUnit_effect {now : Time} {env : Env} {n : Nat} {t : UnitTurn Env Fetch Job}
    (hnumbers : p.Numbered) (ht : p.stepUnit? src now env n = some t) :
    ∃ job, UnitEffect src now env p n job t := by
  rw [stepUnit?] at ht
  split at ht
  · next k job hfound =>
    obtain rfl : k = n := by simpa using List.find?_some hfound
    obtain rfl : stepRunning src now env p k job = t := Option.some.inj ht
    exact ⟨job, unitEffect_stepRunning hnumbers now env (List.mem_of_find?_eq_some hfound)⟩
  · split at ht
    · next k job hfound =>
      obtain rfl : k = n := by simpa using List.find?_some hfound
      obtain rfl : stepStray src now env p k job = t := Option.some.inj ht
      exact ⟨job, unitEffect_stepStray hnumbers now env (List.mem_of_find?_eq_some hfound)⟩
    · cases ht

end Poller

end DurableWorkflow
