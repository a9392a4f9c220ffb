import DurableWorkflow.Proofs.Polling.Effect

/-!
# Moves of a poller

Every turn of the loop is one of a few moves, and so is every step of a unit.  A move says under
which condition it is made and what the poller is afterwards, so that what a run preserves can be
shown move by move.

## Main Definitions

* `Poller.answer?`, `Poller.TimedOut`: what the next turn of the loop learns from its poll.
* `Poller.Leaves`: why the loop is left, and with which result.
* `Poller.Move`, `Poller.UnitMove`: what a turn of the loop and a step of a unit come down to.

## Main Statements

* `Poller.turn_move`: every turn of the loop is a move.
* `Poller.stepUnit_move`: every step of a unit is a move.

## Design Notes

A move is a relation between the poller before and after, the alarms that are asked for, and the
notices.  What it leaves open (the state of a poll, notices about the loop itself) is of no
concern to the units, their results and what the poller is seen to do.
-/

namespace DurableWorkflow

variable {Env Fetch Job : Type}

/-- The result of a unit that has come to its end; a unit that breaks off has failed. -/
def Progress.result? {State : Type} (kind : String) : Progress State UnitResult → Option UnitResult
  | .done result => some result
  | .crash message => some (.error (.unitPanicked kind message))
  | .wait _ _ | .yield _ | .never => none

namespace Poller

/-- A poll is pending. -/
def IsPolling (p : Poller Fetch Job) : Prop := ∃ fetch due limit, p.stage = .polling fetch due limit

/-- The loop has been left, and waits for the units in flight. -/
def IsDraining (p : Poller Fetch Job) : Prop := ∃ result limit, p.stage = .draining result limit

/-! ### What the loop learns from its poll -/

/-- What the poll gives to the next turn of the loop, if that turn takes the poll to its end. -/
def answer? (src : PollSource Env Fetch Job) (now : Time) (env : Env) (p : Poller Fetch Job) :
    Option (Except Error (Option Job)) :=
  match p.stage, p.stopping, p.finished with
  | .polling fetch true _, false, [] =>
    match (src.poll now env fetch).2 with
    | .done answer => some answer
    | .crash _ | .wait _ _ | .yield _ | .never => none
  | _, _, _ => none

/-- The time limit of the poll has been reached: its alarm has rung, or the poll is not given any
time. -/
def TimedOut (s : PollerSettings) (p : Poller Fetch Job) : Prop :=
  ∃ fetch due limit, p.stage = .polling fetch due limit ∧
    (limit = .reached ∨ ∃ d, s.pollTimeout = some d ∧ d.ceilMillis = 0)

/-- The loop breaks off with a message: it is asked for too many slots, or its poll breaks off. -/
def BreaksOff (src : PollSource Env Fetch Job) (s : PollerSettings) (now : Time) (env : Env)
    (p : Poller Fetch Job) (message : String) : Prop :=
  (p.stage = .starting ∧ maxSlots < max 1 s.concurrency ∧ message = tooManySlots) ∨
    ∃ fetch limit, p.stage = .polling fetch true limit ∧
      (src.poll now env fetch).2 = .crash message

/-! ### The moves of the loop -/

/-- Why the loop is left: with its result, what the poller has been seen to do by then, and the
results of units that are yet to be looked at. -/
inductive Leaves (src : PollSource Env Fetch Job) (s : PollerSettings) (now : Time) (env : Env)
    (p : Poller Fetch Job) : UnitResult.{0} → List Activity → List UnitResult → Prop
  | stop (hstage : p.stage = .seeking ∨ p.IsPolling ∨ ∃ elapsed, p.stage = .pausing elapsed)
      (hstopping : p.stopping = true) : Leaves src s now env p (.ok ⟨⟩) p.shown p.finished
  | unit {e : Error} {rest : List UnitResult} (hstage : p.stage = .seeking ∨ p.IsPolling)
      (hfinished : p.finished = .error e :: rest) (hfatal : src.isFatal e = true) :
      Leaves src s now env p (.error e) p.shown rest
  | nothing (hstage : p.IsPolling) (hfinished : p.finished = []) (hmode : s.mode = .failFast)
      (hpoll : p.answer? src now env = some (.ok none) ∨ p.TimedOut s) :
      Leaves src s now env p (.error (.noUnitAvailable src.kind)) (.idle :: p.shown) p.finished
  | failure {e : Error} (hstage : p.IsPolling) (hfinished : p.finished = [])
      (hmode : s.mode = .failFast)
      (hpoll : p.answer? src now env = some (.error e)) :
      Leaves src s now env p (.error e) (.idle :: p.shown) p.finished

/-- What a result of a unit that does not end the loop leads to: nothing if the unit has succeeded,
and a notice if it has failed. -/
inductive Dismisses (src : PollSource Env Fetch Job) (p : Poller Fetch Job) :
    UnitResult.{0} → List Notice → Prop
  | success : Dismisses src p (.ok ⟨⟩) []
  | failure {e : Error} (hpassing : src.isFatal e = false) :
      Dismisses src p (.error e) [.unitFailed]
  | late {e : Error} (hstage : p.IsDraining) (hfatal : src.isFatal e = true) :
      Dismisses src p (.error e) [.unitFailedWhileStopping]

/-- What a turn of the loop comes down to. -/
inductive Move (src : PollSource Env Fetch Job) (s : PollerSettings) (now : Time) (env : Env)
    (p : Poller Fetch Job) : Poller Fetch Job → List (Alarm × Nat) → List Notice → Prop
  /-- The loop waits, or has come to its end. -/
  | waits : Move src s now env p p [] []
  | opens (hstage : p.stage = .starting) :
      Move src s now env p { p with stage := .seeking, free := max 1 s.concurrency } [] []
  | breaks {message : String} (hcause : p.BreaksOff src s now env message) :
      Move src s now env p { p.abort src with stage := .crashed message } [] []
  /-- A poll is started. -/
  | asks (hstage : p.stage = .seeking) (hfinished : p.finished = []) (hfree : p.free ≠ 0) :
      Move src s now env p
        { p with
          free := p.free - 1
          polls := p.polls + 1
          stage := .polling src.start true .unset
          shown := .polling :: p.shown } [] []
  /-- The poll comes to another state, or to wait. -/
  | polls {fetch : Fetch} {due : Bool} {limit : TimeLimit} {alarms : List (Alarm × Nat)}
      (hstage : p.IsPolling) :
      Move src s now env p { p with stage := .polling fetch due limit } alarms []
  /-- The poll has given nothing, and its slot is given back. -/
  | releases {stage : Stage Fetch} {alarms : List (Alarm × Nat)} {notices : List Notice}
      (hstage : p.IsPolling) (hfinished : p.finished = [])
      (hnext : stage = .seeking ∨ ∃ elapsed, stage = .pausing elapsed) :
      Move src s now env p
        { p with shown := .idle :: p.shown, free := p.free + 1, stage := stage } alarms notices
  | takesUp {fetch : Fetch} {limit : TimeLimit} {job : Job}
      (hstage : p.stage = .polling fetch true limit) (hfinished : p.finished = [])
      (hpoll : (src.poll now env fetch).2 = .done (.ok (some job))) :
      Move src s now env p
        { p with
          stage := .seeking
          taken := p.taken + 1
          running := p.running ++ [(p.taken, job)] } [] []
  | resumes {elapsed : Bool} (hstage : p.stage = .pausing elapsed) :
      Move src s now env p { p with stage := .seeking } [] []
  /-- The loop looks at the result of a unit and goes on. -/
  | settles {result : UnitResult} {rest : List UnitResult} {notices : List Notice}
      (hstage : p.stage = .seeking ∨ p.IsPolling ∨ p.IsDraining)
      (hfinished : p.finished = result :: rest) (hdismisses : Dismisses src p result notices) :
      Move src s now env p { p with finished := rest } [] notices
  /-- The loop is left, but units are in flight or their results have not been looked at. -/
  | leaves {result : UnitResult} {shown : List Activity} {finished : List UnitResult}
      {alarms : List (Alarm × Nat)} (hleaves : Leaves src s now env p result shown finished)
      (hbusy : p.running ≠ [] ∨ finished ≠ []) :
      Move src s now env p
        { p with shown := shown, finished := finished, stage := .draining result .unset } alarms []
  /-- The loop is left and comes to its end. -/
  | ends {result : UnitResult} {shown : List Activity} {finished : List UnitResult}
      {alarms : List (Alarm × Nat)} {notices : List Notice}
      (hleaves : Leaves src s now env p result shown finished) (hrunning : p.running = [])
      (hfinished : finished = []) :
      Move src s now env p
        { p with shown := .stopped :: shown, finished := finished, stage := .ended result }
        alarms notices
  /-- All units are done, and the loop comes to its end. -/
  | drains {result : UnitResult} {limit : TimeLimit} {notices : List Notice}
      (hstage : p.stage = .draining result limit) (hrunning : p.running = [])
      (hfinished : p.finished = []) :
      Move src s now env p
        { p with shown := .stopped :: p.shown, stage := .ended result } [] notices
  /-- The units in flight are aborted, and the loop comes to its end. -/
  | givesUp {result : UnitResult} {limit : TimeLimit} {notices : List Notice}
      (hstage : p.stage = .draining result limit) (hfinished : p.finished = [])
      (hlimit : limit = .reached ∨ s.shutdownTimeout.ceilMillis = 0) :
      Move src s now env p
        { p.abort src with shown := .stopped :: p.shown, stage := .ended result } [] notices
  /-- The time is limited for which the loop waits for the units in flight. -/
  | limits {result : UnitResult} (hstage : p.stage = .draining result .unset) :
      Move src s now env p { p with stage := .draining result .running }
        [(.shutdown, s.shutdownTimeout.ceilMillis)] []

/-- What a step of the unit with a number comes down to, and whether another one follows. -/
inductive UnitMove (src : PollSource Env Fetch Job) (now : Time) (env : Env) (p : Poller Fetch Job)
    (n : Nat) : Poller Fetch Job → UnitNext → Prop
  /-- The unit comes to its end. -/
  | done {job : Job} {result : UnitResult} (hjob : (n, job) ∈ p.running)
      (hdone : (src.process now env job).progress = .done result) :
      UnitMove src now env p n
        { p with
          shown := .idle :: ((src.process now env job).entered.reverse ++ p.shown)
          free := p.free + 1
          running := p.running.filter (·.1 ≠ n)
          finished := p.finished ++ [result] } .finished
  | crashes {job : Job} {message : String} (hjob : (n, job) ∈ p.running)
      (hcrash : (src.process now env job).progress = .crash message) :
      UnitMove src now env p n
        { p with
          shown := (src.process now env job).entered.reverse ++ p.shown
          free := p.free + 1
          running := p.running.filter (·.1 ≠ n)
          finished := p.finished ++ [.error (.unitPanicked src.kind message)] } .finished
  | goesOn {job state : Job} {next : UnitNext} (hjob : (n, job) ∈ p.running)
      (hstate : (src.process now env job).progress.next? = some state) (hnext : next ≠ .finished) :
      UnitMove src now env p n
        { p with
          shown := (src.process now env job).entered.reverse ++ p.shown
          running := replaceJob n state p.running } next
  /-- The unit never goes on. -/
  | stops {job : Job} (hjob : (n, job) ∈ p.running) :
      UnitMove src now env p n
        { p with shown := (src.process now env job).entered.reverse ++ p.shown } .never
  /-- What goes on of an aborted unit does its next step. -/
  | strays {job : Job} {strays : List (Nat × Job)} {next : UnitNext} (hjob : (n, job) ∈ p.strays)
      (hstrays : ∀ x ∈ strays, ∃ y ∈ p.strays, y.1 = x.1) (hnext : next ≠ .finished) :
      UnitMove src now env p n { p with strays := strays } next

variable {src : PollSource Env Fetch Job} {s : PollerSettings} {p : Poller Fetch Job} {now : Time}
  {env : Env}

/-- A turn of the loop comes down to a move. -/
abbrev Turn.Makes (src : PollSource Env Fetch Job) (s : PollerSettings) (now : Time) (env : Env)
    (p : Poller Fetch Job) (t : Turn Env Fetch Job) : Prop :=
  Move src s now env p t.poller t.alarms t.notices

/-- Leaving the loop ends it, unless units are in flight or their results wait: then the loop
drains. -/
theorem leave_move {result : UnitResult} {shown : List Activity} {finished : List UnitResult}
    (hleaves : Leaves src s now env p result shown finished) (env' : Env) (stage : Stage Fetch)
    (alarms : List (Alarm × Nat)) :
    let t := leave env' { p with shown := shown, finished := finished, stage := stage } result
    Move src s now env p t.poller alarms t.notices := by
  intro t
  have hbusy : t = if !(p.running.isEmpty && finished.isEmpty) then _ else _ := rfl
  rw [hbusy]
  split
  · next hbusy =>
    refine .leaves hleaves ?_
    simpa [Decidable.imp_iff_not_or] using hbusy
  · next hidle =>
    simp only [Bool.not_eq_true', Bool.not_eq_false, Bool.and_eq_true, List.isEmpty_iff] at hidle
    exact .ends hleaves hidle.1 hidle.2

/-- Looking at a result leaves the loop if the result is a fatal error, and is otherwise no more
than taking it off. -/
theorem settle_makes {result : UnitResult} {rest : List UnitResult}
    (hstage : p.stage = .seeking ∨ p.IsPolling) (hfinished : p.finished = result :: rest) :
    (settle src env { p with finished := rest } result).Makes src s now env p := by
  have hlooks : p.stage = .seeking ∨ p.IsPolling ∨ p.IsDraining := hstage.imp_right .inl
  cases result with
  | ok => exact .settles hlooks hfinished .success
  | error e =>
      cases hfatal : src.isFatal e with
      | true =>
          rw [settle, hfatal]
          exact leave_move (.unit hstage hfinished hfatal) env p.stage _
      | false =>
          rw [settle, hfatal]
          exact .settles hlooks hfinished (.failure hfatal)

/-- While the loop drains, looking at a result is no more than taking it off. -/
theorem settleLate_makes {result : UnitResult} {rest : List UnitResult} (hstage : p.IsDraining)
    (hfinished : p.finished = result :: rest) :
    (settleLate src env { p with finished := rest } result).Makes src s now env p := by
  have hlooks : p.stage = .seeking ∨ p.IsPolling ∨ p.IsDraining := .inr (.inr hstage)
  cases result with
  | ok => exact .settles hlooks hfinished .success
  | error e =>
      cases hfatal : src.isFatal e with
      | true =>
          rw [settleLate, hfatal]
          exact .settles hlooks hfinished (.late hstage hfatal)
      | false =>
          rw [settleLate, hfatal]
          exact .settles hlooks hfinished (.failure hfatal)

/-- A poll that has given nothing leaves the loop if that counts as an end, and otherwise gives its
slot back. -/
theorem onNothing_move (hstage : p.IsPolling) (hfinished : p.finished = [])
    (hpoll : p.answer? src now env = some (.ok none) ∨ p.TimedOut s) (env' : Env)
    (stage : Stage Fetch) (alarms : List (Alarm × Nat)) :
    let t := onNothing src s env' { p with stage := stage }
    Move src s now env p t.poller alarms t.notices := by
  cases hmode : s.mode with
  | failFast =>
      simp only [onNothing, hmode]
      exact leave_move (.nothing hstage hfinished hmode hpoll) env' stage _
  | repeatedly =>
      simp only [onNothing, hmode]
      exact .releases hstage hfinished (.inl rfl)

/-- A poll that has failed leaves the loop if that counts as an end, and otherwise lets it pause. -/
theorem onFailure_makes {e : Error} (hstage : p.IsPolling) (hfinished : p.finished = [])
    (hpoll : p.answer? src now env = some (.error e)) (env' : Env) :
    (onFailure s env' p e).Makes src s now env p := by
  cases hmode : s.mode with
  | failFast =>
      simp only [Turn.Makes, onFailure, hmode]
      exact leave_move (.failure hstage hfinished hmode hpoll) env' p.stage _
  | repeatedly =>
      simp only [Turn.Makes, onFailure, hmode]
      split
      · exact .releases hstage hfinished (.inr ⟨true, rfl⟩)
      · exact .releases hstage hfinished (.inr ⟨false, rfl⟩)

/-- A poll that waits goes on, unless it has run out of time. -/
theorem onWaiting_move {fetch : Fetch} {due : Bool} {limit : TimeLimit}
    (hstage : p.stage = .polling fetch due limit) (hfinished : p.finished = []) (env' : Env)
    (fetch' : Fetch) (alarms : List (Alarm × Nat)) :
    let t := onWaiting src s env' p fetch' limit
    Move src s now env p t.poller alarms t.notices := by
  intro t
  have hpolling : p.IsPolling := ⟨fetch, due, limit, hstage⟩
  have hpolls {due' : Bool} {limit' : TimeLimit} :
      Move src s now env p { p with stage := .polling fetch' due' limit' } alarms [] :=
    .polls hpolling
  have hexpired (htimeout : p.TimedOut s) :
      let t := onNothing src s env' { p with stage := .polling fetch' false limit }
      Move src s now env p t.poller alarms t.notices :=
    onNothing_move hpolling hfinished (.inr htimeout) env' _ alarms
  cases limit with
  | reached => exact hexpired ⟨fetch, due, .reached, hstage, .inl rfl⟩
  | running => exact hpolls
  | unset =>
      cases htimeout : s.pollTimeout with
      | none =>
          simp only [t, onWaiting, htimeout]
          exact hpolls
      | some d =>
          simp only [t, onWaiting, htimeout]
          split
          · next hzero => exact hexpired ⟨fetch, due, .unset, hstage, .inr ⟨d, htimeout, hzero⟩⟩
          · exact hpolls

/-- A step of a poll makes the move that its outcome calls for. -/
theorem stepPoll_makes {fetch : Fetch} {limit : TimeLimit}
    (hstage : p.stage = .polling fetch true limit) (hstopping : p.stopping = false)
    (hfinished : p.finished = []) :
    (stepPoll src s now env p fetch limit).Makes src s now env p := by
  have hpolling : p.IsPolling := ⟨fetch, true, limit, hstage⟩
  have hanswer {answer : Except Error (Option Job)}
      (hpoll : (src.poll now env fetch).2 = .done answer) :
      p.answer? src now env = some answer := by
    simp only [answer?, hstage, hstopping, hfinished, hpoll]
  rcases hpoll : src.poll now env fetch with ⟨env', progress⟩
  have hprogress : (src.poll now env fetch).2 = progress := congrArg Prod.snd hpoll
  simp only [stepPoll, hpoll]
  cases progress with
  | done answer =>
      rcases answer with e | unit?
      · exact onFailure_makes hpolling hfinished (hanswer hprogress) env'
      · cases unit? with
        | none =>
            exact onNothing_move hpolling hfinished (.inl (hanswer hprogress)) env' p.stage _
        | some job => exact .takesUp hstage hfinished hprogress
  | crash message => exact .breaks (.inr ⟨fetch, limit, hstage, hprogress⟩)
  | wait ms next =>
      cases ms with
      | zero => exact .polls hpolling
      | succ ms => exact onWaiting_move hstage hfinished env' next _
  | yield next => exact .polls hpolling
  | never => exact onWaiting_move hstage hfinished env' fetch _

/-- **Every turn of the loop is a move.** -/
theorem turn_move (src : PollSource Env Fetch Job) (s : PollerSettings) (now : Time) (env : Env)
    (p : Poller Fetch Job) : (p.turn src s now env).Makes src s now env p := by
  unfold turn
  split
  · next hstage =>
    dsimp only
    split
    · next hslots => exact .breaks (.inl ⟨hstage, hslots, rfl⟩)
    · exact .opens hstage
  · next hstage =>
    split
    · next hstopping => exact leave_move (.stop (.inl hstage) hstopping) env p.stage _
    · split
      · next hfinished => exact settle_makes (.inl hstage) hfinished
      · next hfinished =>
        split
        · exact .waits
        · next hfree => exact .asks hstage hfinished hfree
  · next fetch due limit hstage =>
    have hpolling : p.IsPolling := ⟨fetch, due, limit, hstage⟩
    split
    · next hstopping => exact leave_move (.stop (.inr (.inl hpolling)) hstopping) env p.stage _
    · next hstopping =>
      split
      · next hfinished => exact settle_makes (.inr hpolling) hfinished
      · next hfinished =>
        split
        · next hdue =>
          subst hdue
          exact stepPoll_makes hstage (Bool.eq_false_iff.mpr hstopping) hfinished
        · split
          · next hlimit =>
            have htimeout : p.TimedOut s := ⟨_, _, _, hstage, .inl hlimit⟩
            exact onNothing_move hpolling hfinished (.inr htimeout) env p.stage _
          · exact .waits
  · next elapsed hstage =>
    split
    · next hstopping =>
      exact leave_move (.stop (.inr (.inr ⟨elapsed, hstage⟩)) hstopping) env p.stage _
    · split
      · exact .resumes hstage
      · exact .waits
  · next result limit hstage =>
    split
    · next hfinished => exact settleLate_makes ⟨result, limit, hstage⟩ hfinished
    · next hfinished =>
      split
      · next hrunning => exact .drains hstage (List.isEmpty_iff.mp hrunning) hfinished
      · dsimp only
        split
        · next hlimit => exact .givesUp hstage hfinished (hlimit.imp_right (·.2))
        · split
          · next hunset =>
            subst hunset
            exact .limits hstage
          · exact .waits
  · exact .waits
  · exact .waits

/-! ### The steps of units -/

theorem enterAll_eq (p : Poller Fetch Job) (as : List Activity) :
    p.enterAll as = { p with shown := as.reverse ++ p.shown } := by
  induction as generalizing p with
  | nil => rfl
  | cons a as ih =>
      rw [List.reverse_cons, List.append_assoc]
      exact ih (p.enter a)

/-- A step of a unit in flight makes the move that its outcome calls for. -/
theorem stepRunning_move {n : Nat} {job : Job} (hjob : (n, job) ∈ p.running) :
    let t := stepRunning src now env p n job
    UnitMove src now env p n t.poller t.next := by
  simp only [stepRunning, enterAll_eq]
  cases hprogress : (src.process now env job).progress with
  | done result => exact .done hjob hprogress
  | crash message => exact .crashes hjob hprogress
  | wait ms state =>
      have hstate : (src.process now env job).progress.next? = some state := by rw [hprogress]; rfl
      cases ms with
      | zero => exact .goesOn hjob hstate (by simp)
      | succ ms => exact .goesOn hjob hstate (by simp)
  | yield state =>
      exact .goesOn hjob (by rw [hprogress]; rfl) (by simp)
  | never => exact .stops hjob

theorem exists_mem_of_mem_replaceJob {n : Nat} {job : Job} {jobs : List (Nat × Job)} :
    ∀ x ∈ replaceJob n job jobs, ∃ y ∈ jobs, y.1 = x.1 := by
  intro x hx
  obtain ⟨y, hy, rfl⟩ := List.mem_map.mp hx
  refine ⟨y, hy, ?_⟩
  split
  · assumption
  · rfl

/-- A step of what an aborted unit has left changes nothing else of the poller. -/
theorem stepStray_move {n : Nat} {job : Job} (hjob : (n, job) ∈ p.strays) :
    let t := stepStray src now env p n job
    UnitMove src now env p n t.poller t.next := by
  have hgone : ∀ x ∈ p.strays.filter (·.1 ≠ n), ∃ y ∈ p.strays, y.1 = x.1 :=
    fun x hx => ⟨x, List.mem_of_mem_filter hx, rfl⟩
  have hput (state : Job) {next : UnitNext} (hnext : next ≠ .finished) :
      UnitMove src now env p n (p.detaching src n state) next := by
    unfold detaching
    cases src.detached state with
    | some job => exact .strays hjob exists_mem_of_mem_replaceJob hnext
    | none => exact .strays hjob hgone hnext
  simp only [stepStray]
  cases (src.process now env job).progress with
  | done | crash | never => exact .strays hjob hgone (by simp)
  | wait ms state =>
      cases ms with
      | zero => exact hput state (by simp)
      | succ ms => exact hput state (by simp)
  | yield state => exact hput state (by simp)

/-- **Every step of a unit is a move.** -/
theorem stepUnit_move {n : Nat} {t : UnitTurn Env Fetch Job}
    (ht : p.stepUnit? src now env n = some t) : UnitMove src now env p n t.poller t.next := by
  rw [stepUnit?] at ht
  split at ht
  · next k job hfound =>
    obtain rfl : k = n := by simpa using List.find?_some hfound
    obtain rfl : stepRunning src now env p k job = t := Option.some.inj ht
    exact stepRunning_move (List.mem_of_find?_eq_some hfound)
  · split at ht
    · next k job hfound =>
      obtain rfl : k = n := by simpa using List.find?_some hfound
      obtain rfl : stepStray src now env p k job = t := Option.some.inj ht
      exact stepStray_move (List.mem_of_find?_eq_some hfound)
    · cases ht

/-! ### Alarms -/

/-- What an alarm does to a poller that waits for it. -/
inductive RingMove (p : Poller Fetch Job) : Alarm → Poller Fetch Job → Prop
  | polls {fetch : Fetch} {due : Bool} {limit : TimeLimit} {alarm : Alarm} (hstage : p.IsPolling) :
      RingMove p alarm { p with stage := .polling fetch due limit }
  | pauses (hstage : p.stage = .pausing false) : RingMove p .pause { p with stage := .pausing true }
  | expires {result : UnitResult} (hstage : p.stage = .draining result .running) :
      RingMove p .shutdown { p with stage := .draining result .reached }

theorem ring_move {alarm : Alarm} {p' : Poller Fetch Job} (h : p.ring alarm = some p') :
    RingMove p alarm p' := by
  unfold ring at h
  split at h
  · next hstage =>
    split at h
    · cases h
      exact .polls ⟨_, _, _, hstage⟩
    · cases h
  · next hstage =>
    split at h
    · cases h
      exact .polls ⟨_, _, _, hstage⟩
    · cases h
  · next hstage =>
    cases h
    exact .pauses hstage
  · next hstage =>
    cases h
    exact .expires hstage
  · cases h

end Poller

end DurableWorkflow
