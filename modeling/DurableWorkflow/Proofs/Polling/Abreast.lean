import DurableWorkflow.Proofs.Polling.Effect
import DurableWorkflow.Proofs.Polling.Lone
import DurableWorkflow.Proofs.Polling.Sequence

/-!
# A poller with one slot

A poller with one slot polls while none of its units is in flight, and has a unit in flight while it
does not poll.  So each turn of its loop and each step of its unit is one of someone who runs
errands one after the other, or none at all.

## Main Definitions

* `Poller.Abreast`: what a poller with one slot is about, and what someone is about who runs
  errands.
* `Poller.Advances`: how someone goes on who runs errands.

## Main Statements

* `Poller.polls_turn`: a turn of the loop takes a poll as far as a step of an errand does.
* `Poller.works_step`: so does a step of a unit.

## Design Notes

Alarms of polls that are over go on to ring.  They do not matter, since they carry the number of
their poll.  That a poll takes too long is decided when it begins to wait: the errand is over then,
although the loop goes on only when its alarm rings.
-/

namespace DurableWorkflow

variable {Env Fetch Job : Type}

namespace Poller

/-! ### What a poller with one slot is about -/

/-- What is left, from a time on, of the time that a poll may take, and when its alarm rings. -/
inductive Allows (s : PollerSettings) (t : Time) : TimeLimit → Option Time → Option Nat → Prop
  | unset : Allows s t .unset none (s.pollTimeout.map Duration.ceilMillis)
  | running {bound : Time} (h : t ≤ bound) : Allows s t .running (some bound) (some (bound - t))
  | reached : Allows s t .reached none (some 0)

theorem Allows.le {s : PollerSettings} {t u : Time} {limit : TimeLimit} {bound : Option Time}
    {left : Option Nat} (h : Allows s t limit bound left) (hbound : bound = some u) : t ≤ u := by
  cases h with
  | running hle => exact Option.some.inj hbound ▸ hle
  | unset | reached => cases hbound

/-- When the time is up, the limit has been reached. -/
theorem Allows.elapsed {s : PollerSettings} {t : Time} {limit : TimeLimit} {bound : Option Time}
    {left : Option Nat} (h : Allows s t limit bound left) (hlimit : limit ≠ .reached) {up : Bool}
    (hup : up = true ↔ bound = some t) :
    Allows s t (if up then .reached else limit) (bound.filter (t < ·)) left := by
  cases h with
  | unset =>
      obtain rfl : up = false := Bool.eq_false_iff.mpr fun hup' => by cases hup.mp hup'
      exact .unset
  | @running u hle =>
      rcases Nat.lt_or_eq_of_le hle with hlt | rfl
      · obtain rfl : up = false := Bool.eq_false_iff.mpr fun hup' =>
          absurd (Option.some.inj (hup.mp hup')) hlt.ne'
        rw [Option.filter_some, if_pos (decide_eq_true hlt)]
        exact .running hle
      · have hnone : (some t).filter (t < ·) = none := by simp
        rw [hup.mpr rfl, if_pos rfl, hnone, Nat.sub_self]
        exact .reached
  | reached => exact absurd rfl hlimit

/-- The alarms that may be set while a poll with a number is going on: those that come too late, its
answer, and its limit. -/
def Expects (n : Nat) (answer bound : Option Time) (alarm : Time × Bell) : Prop :=
  alarm.2.Late n ∨ alarm.2 = .poller 0 (.answer n) ∧ answer = some alarm.1 ∨
    alarm.2 = .poller 0 (.limit n) ∧ bound = some alarm.1

theorem Expects.late {n : Nat} {answer bound : Option Time} {alarm : Time × Bell}
    (h : Expects n answer bound alarm) : alarm.2.Late (n + 1) := by
  rcases h with hlate | ⟨hanswer, -⟩ | ⟨hlimit, -⟩
  · exact hlate.mono (Nat.le_succ n)
  · exact ⟨.answer n, hanswer, Nat.lt_succ_self n⟩
  · exact ⟨.limit n, hlimit, Nat.lt_succ_self n⟩

theorem Expects.bell {n : Nat} {answer bound : Option Time} {alarm : Time × Bell}
    {limit : TimeLimit} (h : Expects n answer bound alarm)
    (hlimit : ∀ t ∈ bound, limit = .running) :
    alarm.2.Late n ∨ alarm.2 = .poller 0 (.answer n) ∨
      alarm.2 = .poller 0 (.limit n) ∧ limit = .running := by
  rcases h with hlate | ⟨hanswer, -⟩ | ⟨hbell, hbound⟩
  · exact .inl hlate
  · exact .inr (.inl hanswer)
  · exact .inr (.inr ⟨hbell, hlimit _ hbound⟩)

/-- The alarm for the answer is set for the time at which it is expected. -/
theorem Expects.of_answer {n : Nat} {answer bound : Option Time} {alarm : Time × Bell}
    (h : Expects n answer bound alarm) (hbell : alarm.2 = .poller 0 (.answer n)) :
    answer = some alarm.1 := by
  rcases h with hlate | ⟨-, hanswer⟩ | ⟨hlimit, -⟩
  · exact absurd hbell hlate.ne.1
  · exact hanswer
  · rw [hlimit] at hbell
    cases hbell

/-- The alarm for the limit is set for the time at which it is expected. -/
theorem Expects.of_limit {n : Nat} {answer bound : Option Time} {alarm : Time × Bell}
    (h : Expects n answer bound alarm) (hbell : alarm.2 = .poller 0 (.limit n)) :
    bound = some alarm.1 := by
  rcases h with hlate | ⟨hanswer, -⟩ | ⟨-, hbound⟩
  · exact absurd hbell hlate.ne.2
  · rw [hanswer] at hbell
    cases hbell
  · exact hbound

/-- What has rung is not expected any more. -/
theorem Expects.later {n : Nat} {answer bound : Option Time} {alarm : Time × Bell} {t : Time}
    (h : Expects n answer bound alarm) (hlater : t < alarm.1) :
    Expects n (answer.filter (t < ·)) (bound.filter (t < ·)) alarm := by
  rcases h with hlate | ⟨hanswer, rfl⟩ | ⟨hlimit, rfl⟩
  · exact .inl hlate
  · exact .inr (.inl ⟨hanswer, by simp [Option.filter, hlater]⟩)
  · exact .inr (.inr ⟨hlimit, by simp [Option.filter, hlater]⟩)

/-- A poll that expects no answer may come to expect one. -/
theorem Expects.answer {n : Nat} {bound : Option Time} {alarm : Time × Bell}
    (h : Expects n none bound alarm) (answer : Option Time) : Expects n answer bound alarm := by
  rcases h with hlate | ⟨-, hnone⟩ | hlimit
  · exact .inl hlate
  · cases hnone
  · exact .inr (.inr hlimit)

/-- A poll that is not limited may come to be. -/
theorem Expects.bound {n : Nat} {answer : Option Time} {alarm : Time × Bell}
    (h : Expects n answer none alarm) (bound : Option Time) : Expects n answer bound alarm := by
  rcases h with hlate | hanswer | ⟨-, hnone⟩
  · exact .inl hlate
  · exact .inr (.inl hanswer)
  · cases hnone

/-- What is in flight at a poller with one slot that has no results to look at, and whether its slot
is free. -/
structure Carries (p : Poller Fetch Job) (units : List (Nat × Job)) (free : Nat) : Prop where
  running : p.running = units
  finished : p.finished = []
  free : p.free = free

/-- The stage of the loop does not concern its units. -/
theorem Carries.staged {p : Poller Fetch Job} {units : List (Nat × Job)} {free : Nat}
    (h : p.Carries units free) (stage : Stage Fetch) :
    Carries { p with stage := stage } units free :=
  ⟨h.running, h.finished, h.free⟩

/-- What a poller with one slot is about, and what someone is about who runs errands. -/
inductive Abreast (s : PollerSettings) (now : Time) (queue : List Strand)
    (alarms : List (Time × Bell)) (p : Poller Fetch Job) : Round Fetch Job → Prop
  | starts (hstage : p.stage = .starting) (hunits : p.running = []) (hresults : p.finished = [])
      (hqueue : queue = [.loop 0]) (halarms : ∀ alarm ∈ alarms, alarm.2.Late (p.polls + 1)) :
      Abreast s now queue alarms p .resting
  | seeks (hstage : p.stage = .seeking) (hunits : p.running = []) (hresults : p.finished.length ≤ 1)
      (hfree : p.free = 1) (hqueue : queue = [.loop 0])
      (halarms : ∀ alarm ∈ alarms, alarm.2.Late (p.polls + 1)) :
      Abreast s now queue alarms p .resting
  | pauses {elapsed : Bool} (hstage : p.stage = .pausing elapsed) (hcarries : p.Carries [] 1)
      (hqueue : queue = if elapsed then [.loop 0] else [])
      (halarms : ∀ alarm ∈ alarms, alarm.2.Late (p.polls + 1)) :
      Abreast s now queue alarms p .resting
  | polls {fetch : Fetch} {limit : TimeLimit} {bound : Option Time} {left : Option Nat}
      (hstage : p.stage = .polling fetch true limit) (hcarries : p.Carries [] 0)
      (hqueue : queue = [.loop 0])
      (hleft : Allows s now limit bound left)
      (hbound : ∀ t ∈ bound, (t, .poller 0 (.limit p.polls)) ∈ alarms)
      (halarms : ∀ alarm ∈ alarms, Expects p.polls none bound alarm) :
      Abreast s now queue alarms p (.busy (.polling fetch left))
  /-- The poll goes on at a time. -/
  | awaits {fetch : Fetch} {limit : TimeLimit} {t : Time} {bound : Option Time} {left : Option Nat}
      (hstage : p.stage = .polling fetch false limit) (hcarries : p.Carries [] 0)
      (hqueue : queue = []) (hnow : now ≤ t) (hleft : Allows s t limit bound left)
      (hlimit : limit ≠ .reached) (hanswer : (t, .poller 0 (.answer p.polls)) ∈ alarms)
      (hbound : ∀ t ∈ bound, (t, .poller 0 (.limit p.polls)) ∈ alarms)
      (halarms : ∀ alarm ∈ alarms, Expects p.polls (some t) bound alarm) :
      Abreast s now queue alarms p (.busy (.polling fetch left))
  /-- The poll takes too long. -/
  | expires {fetch : Fetch} {bound : Time} {answer : Option Time}
      (hstage : p.stage = .polling fetch false .running) (hcarries : p.Carries [] 0)
      (hqueue : queue = [])
      (hlate : ∀ t ∈ answer, bound < t) (hbound : (bound, .poller 0 (.limit p.polls)) ∈ alarms)
      (halarms : ∀ alarm ∈ alarms, Expects p.polls answer (some bound) alarm) :
      Abreast s now queue alarms p .resting
  /-- The poll has taken too long. -/
  | expired {fetch : Fetch} (hstage : p.stage = .polling fetch false .reached)
      (hcarries : p.Carries [] 0) (hqueue : queue = [.loop 0])
      (halarms : ∀ alarm ∈ alarms, alarm.2.Late (p.polls + 1)) :
      Abreast s now queue alarms p .resting
  /-- The poll never goes on. -/
  | hangs {fetch : Fetch} (hstage : p.stage = .polling fetch false .unset)
      (hqueue : queue = []) (halarms : ∀ alarm ∈ alarms, alarm.2.Late p.polls) :
      Abreast s now queue alarms p .stuck
  | works {n : Nat} {job : Job} (hstage : p.stage = .seeking) (hcarries : p.Carries [(n, job)] 0)
      (hqueue : queue = [.loop 0, .unit 0 n] ∨ queue = [.unit 0 n])
      (halarms : ∀ alarm ∈ alarms, alarm.2.Late (p.polls + 1)) :
      Abreast s now queue alarms p (.busy (.processing job))
  /-- The unit goes on at a time. -/
  | sleeps {n : Nat} {job : Job} {t : Time} (hstage : p.stage = .seeking)
      (hcarries : p.Carries [(n, job)] 0) (hqueue : queue = [])
      (halarms : ∀ alarm ∈ alarms, alarm = (t, .unit 0 n) ∨ alarm.2.Late (p.polls + 1)) :
      Abreast s now queue alarms p (.busy (.processing job))
  /-- The unit never goes on. -/
  | idles (hstage : p.stage = .seeking) (hqueue : queue = [])
      (halarms : ∀ alarm ∈ alarms, alarm.2.Late (p.polls + 1)) : Abreast s now queue alarms p .stuck
  /-- The loop has ended. -/
  | leaves {round : Round Fetch Job} (hstage : p.ending?.isSome) (hqueue : queue = [])
      (halarms : ∀ alarm ∈ alarms, alarm.2.Late (p.polls + 1)) : Abreast s now queue alarms p round

/-- How someone who runs errands goes on: not at all, by starting an errand, or by a step of one. -/
inductive Advances (src : PollSource Env Fetch Job) (s : PollerSettings) (now : Time) (env : Env) :
    Round Fetch Job → Env → Round Fetch Job → Prop
  | stays {round : Round Fetch Job} : Advances src s now env round env round
  | opens : Advances src s now env .resting env (.busy (src.errand s))
  | pursues {errand : Errand Fetch Job} :
      Advances src s now env (.busy errand) (src.pursue now env errand).1
        (src.pursue now env errand).2.round

variable {src : PollSource Env Fetch Job} {s : PollerSettings} {now : Time} {env : Env}
  {queue : List Strand} {alarms : List (Time × Bell)} {p : Poller Fetch Job}
  {round : Round Fetch Job}

/-- What a poller and someone who runs errands have come to after a turn. -/
def Turn.Abreast (src : PollSource Env Fetch Job) (s : PollerSettings) (now : Time) (env : Env)
    (rest : List Strand) (alarms : List (Time × Bell)) (round : Round Fetch Job)
    (t : Turn Env Fetch Job) : Prop :=
  ∃ round', Advances src s now env round t.env round' ∧
    Poller.Abreast s now (t.readies rest) (alarms ++ t.bells now) t.poller round'

/-- The loop of a poller without units comes to its end as soon as it is left. -/
theorem leave_abreast (p : Poller Fetch Job) (hunits : p.running = []) (hresults : p.finished = [])
    (halarms : ∀ alarm ∈ alarms, alarm.2.Late (p.polls + 1)) (env : Env) (result : UnitResult) :
    let t := leave env p result
    Abreast s now (t.readies []) (alarms ++ t.bells now) t.poller round := by
  have hleave : leave env p result = finish env p result := by
    rw [leave, isBusy, hunits, hresults]
    rfl
  rw [hleave]
  exact .leaves rfl rfl ((List.append_nil alarms).symm ▸ halarms)

/-! ### Turns of the loop -/

theorem starts_turn (hslots : s.concurrency ≤ 1) (hstage : p.stage = .starting)
    (hunits : p.running = []) (hresults : p.finished = [])
    (halarms : ∀ alarm ∈ alarms, alarm.2.Late (p.polls + 1)) :
    (p.turn src s now env).Abreast src s now env [] alarms .resting := by
  have hone : max 1 s.concurrency = 1 := Nat.max_eq_left hslots
  have hturn : p.turn src s now env = .of env { p with stage := .seeking, free := 1 } true := by
    simp [turn, hstage, hone, maxSlots]
  rw [hturn]
  refine ⟨.resting, .stays, .seeks rfl hunits ?_ rfl rfl ?_⟩
  · exact hresults ▸ Nat.zero_le 1
  · simpa [Turn.bells, Turn.of] using halarms

theorem seeks_turn (hstopping : p.stopping = false) (hstage : p.stage = .seeking)
    (hunits : p.running = []) (hresults : p.finished.length ≤ 1) (hfree : p.free = 1)
    (halarms : ∀ alarm ∈ alarms, alarm.2.Late (p.polls + 1)) :
    (p.turn src s now env).Abreast src s now env [] alarms .resting := by
  cases hfinished : p.finished with
  | nil =>
      have hturn : p.turn src s now env = .of env ({ p with
          free := 0
          polls := p.polls + 1
          stage := .polling src.start true .unset }.enter .polling) true := by
        simp [turn, hstage, hstopping, hfinished, hfree]
      rw [hturn]
      refine ⟨_, .opens, .polls rfl ⟨hunits, hfinished, rfl⟩ rfl .unset (by simp)
        fun alarm halarm => ?_⟩
      rw [Turn.bells, Turn.of, List.map_nil, List.append_nil] at halarm
      exact .inl (halarms alarm halarm)
  | cons result rest =>
      -- At most one unit can have come to its end.
      obtain rfl : rest = [] := by
        rw [hfinished, List.length_cons] at hresults
        exact List.eq_nil_of_length_eq_zero (Nat.le_zero.mp (Nat.le_of_succ_le_succ hresults))
      have hturn : p.turn src s now env = settle src env { p with finished := [] } result := by
        simp only [turn, hstage, hstopping, hfinished, Bool.false_eq_true, if_false]
      have hgoes : Abreast s now [.loop 0] alarms { p with finished := [] } .resting :=
        .seeks hstage hunits (Nat.zero_le 1) hfree rfl halarms
      rw [hturn]
      refine ⟨.resting, ?_, ?_⟩
      · rw [(settle_keeps env _ result).1]
        exact .stays
      · cases result with
        | ok => simpa [settle, Turn.of, Turn.bells, Turn.readies] using hgoes
        | error e =>
            simp only [settle]
            split
            · exact leave_abreast { p with finished := [] } hunits rfl halarms env _
            · simpa [Turn.noting, Turn.of, Turn.bells, Turn.readies] using hgoes

theorem pauses_turn (hstopping : p.stopping = false) (hstage : p.stage = .pausing true)
    (hcarries : p.Carries [] 1)
    (halarms : ∀ alarm ∈ alarms, alarm.2.Late (p.polls + 1)) :
    (p.turn src s now env).Abreast src s now env [] alarms .resting := by
  have hturn : p.turn src s now env = .of env { p with stage := .seeking } true := by
    simp [turn, hstage, hstopping]
  rw [hturn]
  refine ⟨.resting, .stays, .seeks rfl hcarries.running ?_ hcarries.free rfl ?_⟩
  · exact hcarries.finished ▸ Nat.zero_le 1
  · simpa [Turn.bells, Turn.of] using halarms

/-- A poll that has given nothing gives its slot back. -/
theorem onNothing_abreast (hcarries : p.Carries [] 0)
    (halarms : ∀ alarm ∈ alarms, alarm.2.Late (p.polls + 1)) (env : Env) :
    let t := onNothing src s env p
    Abreast s now (t.readies []) (alarms ++ t.bells now) t.poller .resting := by
  cases hmode : s.mode with
  | failFast =>
      simp only [onNothing, hmode]
      exact leave_abreast (p.enter .idle) hcarries.running hcarries.finished halarms env _
  | repeatedly =>
      simp only [onNothing, hmode]
      refine .seeks rfl hcarries.running ?_ (congrArg (· + 1) hcarries.free) rfl ?_
      · exact (congrArg List.length hcarries.finished).trans_le (Nat.zero_le 1)
      · exact (List.append_nil alarms).symm ▸ halarms

theorem expired_turn {fetch : Fetch} (hstopping : p.stopping = false)
    (hstage : p.stage = .polling fetch false .reached) (hcarries : p.Carries [] 0)
    (halarms : ∀ alarm ∈ alarms, alarm.2.Late (p.polls + 1)) :
    (p.turn src s now env).Abreast src s now env [] alarms .resting := by
  have hturn : p.turn src s now env = onNothing src s env p := by
    simp [turn, hstage, hstopping, hcarries.finished]
  rw [hturn]
  refine ⟨.resting, ?_, onNothing_abreast hcarries halarms env⟩
  rw [(onNothing_keeps env p).1]
  exact .stays

/-- A poll that has failed gives its slot back. -/
theorem onFailure_abreast (hcarries : p.Carries [] 0)
    (halarms : ∀ alarm ∈ alarms, alarm.2.Late (p.polls + 1)) (env : Env) (e : Error) :
    let t := onFailure s env p e
    Abreast s now (t.readies []) (alarms ++ t.bells now) t.poller .resting := by
  have hlater {ms : Nat} : ∀ alarm ∈ alarms ++ [(now + ms, .poller 0 .pause)],
      alarm.2.Late (p.polls + 1) := by
    intro alarm halarm
    rcases List.mem_append.mp halarm with hold | hnew
    · exact halarms alarm hold
    · cases List.mem_singleton.mp hnew
      exact ⟨.pause, rfl, trivial⟩
  cases hmode : s.mode with
  | failFast =>
      simp only [onFailure, hmode]
      exact leave_abreast (p.enter .idle) hcarries.running hcarries.finished halarms env _
  | repeatedly =>
      simp only [onFailure, hmode]
      have hfree : p.free + 1 = 1 := congrArg (· + 1) hcarries.free
      split
      · exact .pauses rfl ⟨hcarries.running, hcarries.finished, hfree⟩ rfl
          ((List.append_nil alarms).symm ▸ halarms)
      · exact .pauses rfl ⟨hcarries.running, hcarries.finished, hfree⟩ rfl hlater

/-- A poll with a time limit goes on after a wait if it has time for it. -/
theorem limited_abreast (next : Fetch) {bound : Time} {ms : Nat} (hcarries : p.Carries [] 0)
    (hle : now ≤ bound)
    (hanswer : (now + ms, .poller 0 (.answer p.polls)) ∈ alarms)
    (hbound : (bound, .poller 0 (.limit p.polls)) ∈ alarms)
    (halarms : ∀ alarm ∈ alarms, Expects p.polls (some (now + ms)) (some bound) alarm) :
    Abreast s now [] alarms { p with stage := .polling next false .running }
      (if ms ≤ bound - now then .busy (.polling next (some (bound - now - ms))) else .resting) := by
  split
  · next hfits =>
    have hwithin : now + ms ≤ bound := Nat.add_le_of_le_sub' hle hfits
    rw [Nat.sub_sub]
    exact .awaits rfl (hcarries.staged _) rfl (Nat.le_add_right now ms) (.running hwithin)
      (by decide) hanswer (fun t ht => Option.some.inj ht ▸ hbound) halarms
  · next hlong =>
    have hafter : bound < now + ms := (Nat.sub_lt_iff_lt_add' hle).mp (Nat.not_le.mp hlong)
    exact .expires rfl (hcarries.staged _) rfl (fun t ht => Option.some.inj ht ▸ hafter) hbound
      halarms

/-- The alarms of a poll that sets an alarm for its answer. -/
theorem expects_answer {bound : Option Time} {ms : Nat}
    (halarms : ∀ alarm ∈ alarms, Expects p.polls none bound alarm) :
    ∀ alarm ∈ alarms ++ [(now + ms, .poller 0 (.answer p.polls))],
      Expects p.polls (some (now + ms)) bound alarm := by
  intro alarm halarm
  rcases List.mem_append.mp halarm with hold | hnew
  · exact (halarms alarm hold).answer _
  · cases List.mem_singleton.mp hnew
    exact .inr (.inl ⟨rfl, rfl⟩)

/-- The alarms of a poll that sets an alarm for its limit. -/
theorem expects_limit {answer : Option Time} {ms : Nat}
    (halarms : ∀ alarm ∈ alarms, Expects p.polls answer none alarm) :
    ∀ alarm ∈ alarms ++ [(now + ms, .poller 0 (.limit p.polls))],
      Expects p.polls answer (some (now + ms)) alarm := by
  intro alarm halarm
  rcases List.mem_append.mp halarm with hold | hnew
  · exact (halarms alarm hold).bound _
  · cases List.mem_singleton.mp hnew
    exact .inr (.inr ⟨rfl, rfl⟩)

variable (src) in
/-- A poll that waits for its answer. -/
theorem onWaiting_abreast (next : Fetch) {limit : TimeLimit} {bound : Option Time}
    {left : Option Nat} {ms : Nat} (hms : ms ≠ 0) (hcarries : p.Carries [] 0)
    (hleft : Allows s now limit bound left)
    (hbound : ∀ t ∈ bound, (t, .poller 0 (.limit p.polls)) ∈ alarms)
    (hanswer : (now + ms, .poller 0 (.answer p.polls)) ∈ alarms)
    (halarms : ∀ alarm ∈ alarms, Expects p.polls (some (now + ms)) bound alarm) (env : Env) :
    let t := onWaiting src s env p next limit
    Abreast s now (t.readies []) (alarms ++ t.bells now) t.poller
      (if left.all (ms ≤ ·) then .busy (.polling next (left.map (· - ms))) else .resting) := by
  have hlate : ∀ alarm ∈ alarms, alarm.2.Late (p.polls + 1) :=
    fun alarm halarm => (halarms alarm halarm).late
  cases hleft with
  | reached =>
      rw [if_neg]
      · exact onNothing_abreast (hcarries.staged _) hlate env
      · simpa using hms
  | running hle =>
      simpa [onWaiting, Turn.of, Turn.bells, Turn.readies] using
        limited_abreast (s := s) next hcarries hle hanswer (hbound _ rfl) halarms
  | unset =>
      cases htimeout : s.pollTimeout with
      | none =>
          simp only [onWaiting, htimeout, Option.map_none, Option.all_none, if_true]
          have hunset : Allows s (now + ms) .unset none (s.pollTimeout.map Duration.ceilMillis) :=
            .unset
          rw [htimeout] at hunset
          exact .awaits rfl (hcarries.staged _) rfl (Nat.le_add_right now ms) hunset (by decide)
            (List.mem_append_left _ hanswer) (by simp) ((List.append_nil alarms).symm ▸ halarms)
      | some d =>
          by_cases hzero : d.ceilMillis = 0
          · simp only [onWaiting, htimeout, hzero, if_true, Option.map_some, Option.all_some]
            rw [if_neg]
            · exact onNothing_abreast (hcarries.staged _) hlate env
            · simpa using hms
          · have hstands := limited_abreast (s := s) next hcarries
              (Nat.le_add_right now d.ceilMillis) (List.mem_append_left _ hanswer)
              (List.mem_append_right _ List.mem_cons_self) (expects_limit halarms)
            simpa [onWaiting, htimeout, hzero, Turn.of, Turn.bells, Turn.readies, Turn.waiting]
              using hstands

/-- A poll that is never answered takes too long, or hangs. -/
theorem onWaiting_never_abreast (next : Fetch) {limit : TimeLimit} {bound : Option Time}
    {left : Option Nat} (hcarries : p.Carries [] 0) (hleft : Allows s now limit bound left)
    (hbound : ∀ t ∈ bound, (t, .poller 0 (.limit p.polls)) ∈ alarms)
    (halarms : ∀ alarm ∈ alarms, Expects p.polls none bound alarm) (env : Env) :
    let t := onWaiting src s env p next limit
    Abreast s now (t.readies []) (alarms ++ t.bells now) t.poller
      (if left.isSome then .resting else .stuck) := by
  have hlate : ∀ alarm ∈ alarms, alarm.2.Late (p.polls + 1) :=
    fun alarm halarm => (halarms alarm halarm).late
  have hnever {bound : Time} : ∀ t ∈ (none : Option Time), bound < t := by simp
  cases hleft with
  | reached => exact onNothing_abreast (hcarries.staged _) hlate env
  | running hle =>
      exact .expires rfl (hcarries.staged _) rfl hnever (List.mem_append_left _ (hbound _ rfl))
        ((List.append_nil alarms).symm ▸ halarms)
  | unset =>
      cases htimeout : s.pollTimeout with
      | none =>
          simp only [onWaiting, htimeout]
          refine .hangs rfl rfl fun alarm halarm => ?_
          rw [Turn.bells, Turn.of, List.map_nil, List.append_nil] at halarm
          rcases halarms alarm halarm with hlate | ⟨-, hnone⟩ | ⟨-, hnone⟩
          · exact hlate
          · cases hnone
          · cases hnone
      | some d =>
          by_cases hzero : d.ceilMillis = 0
          · simp only [onWaiting, htimeout, hzero, if_true]
            exact onNothing_abreast (hcarries.staged _) hlate env
          · simp only [onWaiting, htimeout, hzero, if_false]
            exact .expires rfl (hcarries.staged _) rfl hnever
              (List.mem_append_right _ List.mem_cons_self) (expects_limit halarms)

theorem polls_turn {fetch : Fetch} {limit : TimeLimit} {bound : Option Time} {left : Option Nat}
    (hstopping : p.stopping = false) (hstage : p.stage = .polling fetch true limit)
    (hcarries : p.Carries [] 0) (hleft : Allows s now limit bound left)
    (hbound : ∀ t ∈ bound, (t, .poller 0 (.limit p.polls)) ∈ alarms)
    (halarms : ∀ alarm ∈ alarms, Expects p.polls none bound alarm) :
    (p.turn src s now env).Abreast src s now env [] alarms (.busy (.polling fetch left)) := by
  have hlate : ∀ alarm ∈ alarms, alarm.2.Late (p.polls + 1) :=
    fun alarm halarm => (halarms alarm halarm).late
  have hturn : p.turn src s now env = stepPoll src s now env p fetch limit := by
    simp [turn, hstage, hstopping, hcarries.finished]
  rw [hturn]
  refine ⟨(src.pursue now env (.polling fetch left)).2.round, ?_, ?_⟩
  · rw [(stepPoll_effect now env p fetch limit).after]
    exact .pursues
  · rcases hpoll : src.poll now env fetch with ⟨env₁, progress⟩
    simp only [stepPoll, PollSource.pursue, hpoll]
    cases progress with
    | done answer =>
        rcases answer with e | _ | job
        · exact onFailure_abreast hcarries hlate env₁ e
        · exact onNothing_abreast hcarries hlate env₁
        · have hunit : p.running ++ [(p.taken, job)] = [(p.taken, job)] := by
            rw [hcarries.running, List.nil_append]
          exact .works rfl ⟨hunit, hcarries.finished, hcarries.free⟩ (.inl rfl)
            ((List.append_nil alarms).symm ▸ hlate)
    | crash message => exact .leaves rfl rfl ((List.append_nil alarms).symm ▸ hlate)
    | yield next =>
        exact .polls rfl (hcarries.staged _) rfl hleft ((List.append_nil alarms).symm ▸ hbound)
          ((List.append_nil alarms).symm ▸ halarms)
    | wait ms next =>
        cases ms with
        | zero =>
            have hround : (if left.all (0 ≤ ·) then
                Errand.Turnout.goes (.polling next (left.map (· - 0))) else .ends).round
                  = (.busy (.polling next left) : Round Fetch Job) := by
              simp [Errand.Turnout.round]
            rw [hround]
            exact .polls rfl (hcarries.staged _) rfl hleft
              ((List.append_nil alarms).symm ▸ hbound) ((List.append_nil alarms).symm ▸ halarms)
        | succ ms =>
            have hwaits := onWaiting_abreast src next (Nat.succ_ne_zero ms) hcarries
              hleft (fun t ht => List.mem_append_left _ (hbound t ht))
              (List.mem_append_right _ List.mem_cons_self) (expects_answer halarms) env₁
            dsimp only at hwaits
            rw [List.append_assoc] at hwaits
            rw [apply_ite Errand.Turnout.round]
            exact hwaits
    | never =>
        rw [apply_ite Errand.Turnout.round]
        exact onWaiting_never_abreast fetch hcarries hleft hbound halarms env₁

/-- A loop that looks for a slot waits while there is none. -/
theorem works_turn {n : Nat} {job : Job} (hstopping : p.stopping = false)
    (hstage : p.stage = .seeking) (hcarries : p.Carries [(n, job)] 0)
    (halarms : ∀ alarm ∈ alarms, alarm.2.Late (p.polls + 1)) :
    (p.turn src s now env).Abreast src s now env [.unit 0 n] alarms (.busy (.processing job)) := by
  have hturn : p.turn src s now env = .of env p false := by
    simp [turn, hstage, hstopping, hcarries.finished, hcarries.free]
  rw [hturn]
  exact ⟨_, .stays, .works hstage hcarries (.inr rfl) ((List.append_nil alarms).symm ▸ halarms)⟩

/-! ### Steps of units -/

theorem works_step {n : Nat} {job : Job} (hstage : p.stage = .seeking)
    (hcarries : p.Carries [(n, job)] 0)
    (halarms : ∀ alarm ∈ alarms, alarm.2.Late (p.polls + 1)) :
    let t := p.stepRunning src now env n job
    ∃ round, Advances src s now env (.busy (.processing job)) t.env round ∧
      Abreast s now (t.next.readies n) (alarms ++ t.next.bells now n) t.poller round := by
  have hlate := (List.append_nil alarms).symm ▸ halarms
  have hover {result : UnitResult} : (p.finished ++ [result]).length ≤ 1 := by
    rw [hcarries.finished]
    exact Nat.le_refl 1
  have hnone : p.running.filter (·.1 ≠ n) = [] := by simp [hcarries.running]
  have hput (next : Job) : replaceJob n next p.running = [(n, next)] := by
    simp [replaceJob, hcarries.running]
  refine ⟨(src.pursue now env (.processing job)).2.round, ?_, ?_⟩
  · rw [(stepRunning_effect src now env p n job).1]
    exact .pursues
  · simp only [stepRunning, PollSource.pursue, enterAll_eq]
    cases (src.process now env job).progress with
    | done result => exact .seeks hstage hnone hover (congrArg (· + 1) hcarries.free) rfl hlate
    | crash message => exact .seeks hstage hnone hover (congrArg (· + 1) hcarries.free) rfl hlate
    | yield next =>
        exact .works hstage ⟨hput next, hcarries.finished, hcarries.free⟩ (.inr rfl) hlate
    | wait ms next =>
        cases ms with
        | zero => exact .works hstage ⟨hput next, hcarries.finished, hcarries.free⟩ (.inr rfl) hlate
        | succ ms =>
            have hsets : ∀ alarm ∈ alarms ++ [(now + (ms + 1), .unit 0 n)],
                alarm = (now + (ms + 1), .unit 0 n) ∨ alarm.2.Late (p.polls + 1) := by
              intro alarm halarm
              rcases List.mem_append.mp halarm with hold | hnew
              · exact .inr (halarms alarm hold)
              · exact .inl (List.mem_singleton.mp hnew)
            exact .sleeps hstage ⟨hput next, hcarries.finished, hcarries.free⟩ rfl hsets
    | never => exact .idles hstage rfl hlate

end Poller

end DurableWorkflow
