import DurableWorkflow.Proofs.Polling.Abreast

/-!
# A loop does one thing after the other

What the loop of a poller with one slot and its units have done is what errands have done that are
run one after the other.

## Main Definitions

* `World.Lockstep`: a world with one poller and someone who runs errands.

## Main Statements

* `World.Lockstep.step`, `World.Lockstep.advance`: they stay in step, whatever happens next.
* `World.Unfolds.exists_lockstep`: they are in step from the start.
-/

namespace DurableWorkflow

variable {Env Fetch Job α : Type}

namespace World

variable {src : PollSource Env Fetch Job} {s : PollerSettings} {Same : Env → Env → Prop}
  {done : Env → List α} {env₀ env : Env} {w w' : World Env Fetch Job} {p : Poller Fetch Job}
  {round : Round Fetch Job}

/-- A world with one poller stands to someone who runs errands in environments that are the same. -/
structure Lockstep (src : PollSource Env Fetch Job) (s : PollerSettings) (Same : Env → Env → Prop)
    (env₀ : Env) (w : World Env Fetch Job) (p : Poller Fetch Job) (env : Env)
    (round : Round Fetch Job) : Prop where
  lanes : w.lanes = [⟨src, s, p⟩]
  stopping : p.stopping = false
  same : Same w.env env
  sequence : src.Sequence s env₀ env round
  abreast : p.Abreast s w.now w.queue w.alarms round

namespace Lockstep

/-- Someone who runs errands goes on in the same environments. -/
theorem exists_sequence (htimeless : src.Timeless Same done)
    (h : Lockstep src s Same env₀ w p env round) {after : Env} {round' : Round Fetch Job}
    (hadvances : Poller.Advances src s w.now w.env round after round') :
    ∃ env', Same after env' ∧ src.Sequence s env₀ env' round' := by
  cases hadvances with
  | stays => exact ⟨env, h.same, h.sequence⟩
  | opens => exact ⟨env, h.same, h.sequence.opens⟩
  | pursues => exact h.sequence.pursued htimeless w.now h.same

theorem of_turn (htimeless : src.Timeless Same done) (h : Lockstep src s Same env₀ w p env round)
    {rest : List Strand} (hqueue : w.queue = .loop 0 :: rest)
    (hturn : (p.turn src s w.now w.env).Abreast src s w.now w.env rest w.alarms round)
    (hstep : w.step? = some w') :
    ∃ p' env' round', Lockstep src s Same env₀ w' p' env' round' := by
  obtain ⟨hlanes, hnow, henv, halarms, hqueue'⟩ := step?_loop h.lanes hqueue hstep
  obtain ⟨round', hadvances, habreast⟩ := hturn
  obtain ⟨env', hsame, hsequence⟩ := h.exists_sequence htimeless hadvances
  refine ⟨_, env', round', hlanes, ?_, henv ▸ hsame, hsequence, ?_⟩
  · rw [Poller.turn_stopping, h.stopping]
  · rw [hnow, halarms, hqueue']
    exact habreast

theorem of_unit (htimeless : src.Timeless Same done) (h : Lockstep src s Same env₀ w p env round)
    {n : Nat} {job : Job} (hqueue : w.queue = [.unit 0 n]) (hunits : p.running = [(n, job)])
    (hunit : let t := p.stepRunning src w.now w.env n job
      ∃ round', Poller.Advances src s w.now w.env round t.env round' ∧
        t.poller.Abreast s w.now (t.next.readies n) (w.alarms ++ t.next.bells w.now n) round')
    (hstep : w.step? = some w') :
    ∃ p' env' round', Lockstep src s Same env₀ w' p' env' round' := by
  obtain ⟨hlanes, hnow, henv, halarms, hqueue'⟩ := step?_unit h.lanes hqueue hunits hstep
  obtain ⟨round', hadvances, habreast⟩ := hunit
  obtain ⟨env', hsame, hsequence⟩ := h.exists_sequence htimeless hadvances
  refine ⟨_, env', round', hlanes, ?_, henv ▸ hsame, hsequence, ?_⟩
  · exact (Poller.stepUnit?_stopping (Poller.stepUnit?_of_running hunits src w.now w.env)).trans
      h.stopping
  · rw [hnow, halarms, hqueue']
    exact habreast

/-- **They stay in step with each piece of work.** -/
theorem step (htimeless : src.Timeless Same done) (hslots : s.concurrency ≤ 1)
    (h : Lockstep src s Same env₀ w p env round) (hstep : w.step? = some w') :
    ∃ p' env' round', Lockstep src s Same env₀ w' p' env' round' := by
  have hidle (hqueue : w.queue = []) :
      ∃ p' env' round', Lockstep src s Same env₀ w' p' env' round' := by
    rw [step?, hqueue] at hstep
    cases hstep
  cases h.abreast with
  | starts hstage hunits hresults hqueue halarms =>
      exact h.of_turn htimeless hqueue
        (Poller.starts_turn hslots hstage hunits hresults halarms) hstep
  | seeks hstage hunits hresults hfree hqueue halarms =>
      exact h.of_turn htimeless hqueue
        (Poller.seeks_turn h.stopping hstage hunits hresults hfree halarms) hstep
  | @pauses elapsed hstage hcarries hqueue halarms =>
      cases elapsed with
      | false => exact hidle hqueue
      | true =>
          exact h.of_turn htimeless hqueue
            (Poller.pauses_turn h.stopping hstage hcarries halarms) hstep
  | polls hstage hcarries hqueue hleft hbound halarms =>
      exact h.of_turn htimeless hqueue
        (Poller.polls_turn h.stopping hstage hcarries hleft hbound halarms) hstep
  | expired hstage hcarries hqueue halarms =>
      exact h.of_turn htimeless hqueue
        (Poller.expired_turn h.stopping hstage hcarries halarms) hstep
  | works hstage hcarries hqueue halarms =>
      rcases hqueue with hloop | hunit
      · exact h.of_turn htimeless hloop
          (Poller.works_turn h.stopping hstage hcarries halarms) hstep
      · exact h.of_unit htimeless hunit hcarries.running
          (Poller.works_step hstage hcarries halarms) hstep
  | awaits hstage hcarries hqueue => exact hidle hqueue
  | expires hstage hcarries hqueue => exact hidle hqueue
  | hangs hstage hqueue => exact hidle hqueue
  | sleeps hstage hcarries hqueue => exact hidle hqueue
  | idles hstage hqueue => exact hidle hqueue
  | leaves hstage hqueue => exact hidle hqueue

/-- What the passing of time leaves to show. -/
theorem of_advance (h : Lockstep src s Same env₀ w p env round) {p' : Poller Fetch Job}
    (hlanes : w'.lanes = [⟨src, s, p'⟩]) (henv : w'.env = w.env)
    (hstopping : p'.stopping = p.stopping)
    (habreast : p'.Abreast s w'.now w'.queue w'.alarms round) :
    ∃ p', Lockstep src s Same env₀ w' p' env round :=
  ⟨p', hlanes, hstopping.trans h.stopping, henv ▸ h.same, h.sequence,
    habreast⟩

theorem of_deaf (h : Lockstep src s Same env₀ w p env round) {t : Time}
    (hdeaf : ∀ alarm ∈ w.alarms, ∃ a, alarm.2 = .poller 0 a ∧ p.ring a = none)
    (habreast : p.Abreast s (w.clocked t).now w.queue (w.clocked t).alarms round) :
    ∃ p', Lockstep src s Same env₀ (w.advance t) p' env round := by
  rw [advance_deaf h.lanes hdeaf]
  exact h.of_advance h.lanes rfl rfl habreast

/-- A pause may come to its end. -/
theorem advance_pauses (h : Lockstep src s Same env₀ w p env .resting) {t : Time}
    (hstage : p.stage = .pausing false) (hcarries : p.Carries [] 1) (hidle : w.queue = [])
    (halarms : ∀ alarm ∈ w.alarms, alarm.2.Late (p.polls + 1)) :
    ∃ p', Lockstep src s Same env₀ (w.advance t) p' env .resting := by
  obtain ⟨elapsed, hadvance⟩ := advance_pausing h.lanes hidle hstage halarms
  rw [hadvance]
  exact h.of_advance rfl rfl rfl (.pauses rfl (hcarries.staged _) rfl
    fun alarm hmem => halarms alarm (mem_clocked_iff.mp hmem).1)

/-- A poll may go on. -/
theorem advance_awaits {fetch : Fetch} {left : Option Nat}
    (h : Lockstep src s Same env₀ w p env (.busy (.polling fetch left))) {limit : TimeLimit}
    {t u : Time} {bound : Option Time} (hstage : p.stage = .polling fetch false limit)
    (hcarries : p.Carries [] 0) (hidle : w.queue = []) (hnow : w.now ≤ u)
    (hleft : Poller.Allows s u limit bound left) (hlimit : limit ≠ .reached)
    (hanswer : (u, .poller 0 (.answer p.polls)) ∈ w.alarms)
    (hbound : ∀ t ∈ bound, (t, .poller 0 (.limit p.polls)) ∈ w.alarms)
    (halarms : ∀ alarm ∈ w.alarms, Poller.Expects p.polls (some u) bound alarm) (hle : t ≤ u) :
    ∃ p', Lockstep src s Same env₀ (w.advance t) p' env (.busy (.polling fetch left)) := by
  have hrunning : ∀ t ∈ bound, limit = .running := by
    intro t ht
    cases hleft with
    | running => rfl
    | unset | reached => cases ht
  rw [advance_polling h.lanes hstage hidle fun alarm hmem _ => (halarms alarm hmem).bell hrunning]
  refine h.of_advance rfl rfl rfl ?_
  rcases Nat.lt_or_eq_of_le hle with hbefore | rfl
  · -- Neither alarm is due.
    have hquiet : w.rung t (.poller 0 (.answer p.polls)) = false :=
      rung_eq_false_iff.mpr fun alarm hmem hbell =>
        Option.some.inj ((halarms alarm hmem).of_answer hbell) ▸ hbefore
    have hwithin : w.rung t (.poller 0 (.limit p.polls)) = false :=
      rung_eq_false_iff.mpr fun alarm hmem hbell =>
        hbefore.trans_le (hleft.le ((halarms alarm hmem).of_limit hbell))
    have hpresent : (w.clocked t).now ≤ u := Nat.max_le.mpr ⟨hnow, hle⟩
    rw [hquiet, hwithin]
    refine .awaits rfl (hcarries.staged _) rfl hpresent hleft hlimit
      (mem_clocked_iff.mpr ⟨hanswer, hbefore⟩) (fun v hv => ?_)
      fun alarm hmem => halarms alarm (mem_clocked_iff.mp hmem).1
    exact mem_clocked_iff.mpr ⟨hbound v hv, hbefore.trans_le (hleft.le hv)⟩
  · -- The answer is there, and the time may be up as well.
    have hdue : w.rung t (.poller 0 (.answer p.polls)) = true :=
      rung_iff.mpr ⟨_, hanswer, Nat.le_refl t, rfl⟩
    have hup : w.rung t (.poller 0 (.limit p.polls)) = true ↔ bound = some t := by
      refine rung_iff.trans ⟨fun ⟨alarm, hmem, hsoon, hbell⟩ => ?_, fun hup => ?_⟩
      · have hup := (halarms alarm hmem).of_limit hbell
        rw [hup, Nat.le_antisymm hsoon (hleft.le hup)]
      · exact ⟨_, hbound t hup, Nat.le_refl t, rfl⟩
    have hpresent : (w.clocked t).now = t := Nat.max_eq_right hnow
    have hrest : ∀ alarm ∈ (w.clocked t).alarms,
        Poller.Expects p.polls none (bound.filter (t < ·)) alarm := by
      intro alarm hmem
      obtain ⟨hold, hlater⟩ := mem_clocked_iff.mp hmem
      have hexpects := (halarms alarm hold).later hlater
      rwa [Option.filter_some, if_neg (by simp)] at hexpects
    rw [hdue]
    refine .polls rfl (hcarries.staged _) rfl ?_ (fun v hv => ?_) hrest
    · rw [told, hpresent]
      exact hleft.elapsed hlimit hup
    · obtain ⟨hv, hlater⟩ := Option.mem_filter_iff.mp hv
      exact mem_clocked_iff.mpr ⟨hbound v hv, of_decide_eq_true hlater⟩

/-- A poll may have taken too long. -/
theorem advance_expires (h : Lockstep src s Same env₀ w p env .resting) {fetch : Fetch}
    {t bound : Time} {answer : Option Time} (hstage : p.stage = .polling fetch false .running)
    (hcarries : p.Carries [] 0) (hidle : w.queue = []) (hlate : ∀ t ∈ answer, bound < t)
    (hbound : (bound, .poller 0 (.limit p.polls)) ∈ w.alarms)
    (halarms : ∀ alarm ∈ w.alarms, Poller.Expects p.polls answer (some bound) alarm)
    (hle : t ≤ bound) : ∃ p', Lockstep src s Same env₀ (w.advance t) p' env .resting := by
  have hanswer : w.rung t (.poller 0 (.answer p.polls)) = false := by
    refine rung_eq_false_iff.mpr fun alarm hmem hbell => ?_
    exact Nat.lt_of_le_of_lt hle (hlate _ ((halarms alarm hmem).of_answer hbell))
  rw [advance_polling h.lanes hstage hidle fun alarm hmem _ =>
    (halarms alarm hmem).bell fun _ _ => rfl, hanswer]
  refine h.of_advance rfl rfl rfl ?_
  cases hrung : w.rung t (.poller 0 (.limit p.polls)) with
  | false =>
      have hlater := rung_eq_false_iff.mp hrung _ hbound rfl
      exact .expires rfl (hcarries.staged _) rfl hlate (mem_clocked_iff.mpr ⟨hbound, hlater⟩)
        fun alarm hmem => halarms alarm (mem_clocked_iff.mp hmem).1
  | true =>
      exact .expired rfl (hcarries.staged _) rfl
        fun alarm hmem => (halarms alarm (mem_clocked_iff.mp hmem).1).late

/-- A unit may go on. -/
theorem advance_sleeps {job : Job}
    (h : Lockstep src s Same env₀ w p env (.busy (.processing job))) {n : Nat} {t u : Time}
    (hstage : p.stage = .seeking) (hcarries : p.Carries [(n, job)] 0) (hidle : w.queue = [])
    (halarms : ∀ alarm ∈ w.alarms, alarm = (u, .unit 0 n) ∨ alarm.2.Late (p.polls + 1)) :
    ∃ p', Lockstep src s Same env₀ (w.advance t) p' env (.busy (.processing job)) := by
  have hsleeping := advance_sleeping (t := t) h.lanes hidle fun alarm hmem =>
    (halarms alarm hmem).imp_right fun ⟨a, hbell, _⟩ =>
      ⟨a, hbell, Poller.ring_of_seeking hstage a⟩
  rcases hsleeping with hadvance | ⟨hle, hadvance⟩
  · rw [hadvance]
    exact h.of_advance h.lanes rfl rfl (.sleeps hstage hcarries hidle
      fun alarm hmem => halarms alarm (mem_clocked_iff.mp hmem).1)
  · rw [hadvance]
    refine h.of_advance h.lanes rfl rfl (.works hstage hcarries (.inr rfl)
      fun alarm hmem => ?_)
    obtain ⟨hold, hlater⟩ := mem_clocked_iff.mp hmem
    rcases halarms alarm hold with rfl | hlate
    · exact absurd hle (Nat.not_le.mpr hlater)
    · exact hlate

/-- **They stay in step while time passes.** -/
theorem advance (h : Lockstep src s Same env₀ w p env round) (hidle : w.queue = []) {t : Time}
    (hnext : ∀ alarm ∈ w.alarms, t ≤ alarm.1) :
    ∃ p', Lockstep src s Same env₀ (w.advance t) p' env round := by
  have hready {strand : Strand} {rest : List Strand} (hqueue : w.queue = strand :: rest) :
      ∃ p', Lockstep src s Same env₀ (w.advance t) p' env round := by
    rw [hidle] at hqueue
    cases hqueue
  have hlater {n : Nat} (halarms : ∀ alarm ∈ w.alarms, alarm.2.Late n) :
      ∀ alarm ∈ (w.clocked t).alarms, alarm.2.Late n :=
    fun alarm hmem => halarms alarm (mem_clocked_iff.mp hmem).1
  cases h.abreast with
  | starts hstage hunits hresults hqueue => exact hready hqueue
  | seeks hstage hunits hresults hfree hqueue => exact hready hqueue
  | polls hstage hcarries hqueue => exact hready hqueue
  | expired hstage hcarries hqueue => exact hready hqueue
  | works hstage hcarries hqueue =>
      rcases hqueue with hqueue | hqueue
      · exact hready hqueue
      · exact hready hqueue
  | @pauses elapsed hstage hcarries hqueue halarms =>
      cases elapsed with
      | true => exact hready hqueue
      | false => exact h.advance_pauses hstage hcarries hidle halarms
  | awaits hstage hcarries hqueue hnow hleft hlimit hanswer hbound halarms =>
      exact h.advance_awaits hstage hcarries hidle hnow hleft hlimit hanswer hbound
        halarms (hnext _ hanswer)
  | expires hstage hcarries hqueue hlate hbound halarms =>
      exact h.advance_expires hstage hcarries hidle hlate hbound halarms
        (hnext _ hbound)
  | hangs hstage hqueue halarms =>
      refine h.of_deaf (fun alarm hmem => ?_) (.hangs hstage hqueue (hlater halarms))
      obtain ⟨a, hbell, hlate⟩ := halarms alarm hmem
      exact ⟨a, hbell, Poller.ring_of_polling hstage hlate⟩
  | sleeps hstage hcarries hqueue halarms =>
      exact h.advance_sleeps hstage hcarries hidle halarms
  | idles hstage hqueue halarms =>
      refine h.of_deaf (fun alarm hmem => ?_) (.idles hstage hqueue (hlater halarms))
      obtain ⟨a, hbell, -⟩ := halarms alarm hmem
      exact ⟨a, hbell, Poller.ring_of_seeking hstage a⟩
  | leaves hstage hqueue halarms =>
      refine h.of_deaf (fun alarm hmem => ?_) (.leaves hstage hqueue (hlater halarms))
      obtain ⟨a, hbell, -⟩ := halarms alarm hmem
      exact ⟨a, hbell, Poller.ring_of_over hstage a⟩

end Lockstep

/-- **A poller with one slot does what errands do that are run one after the other.** -/
theorem Unfolds.exists_lockstep (htimeless : src.Timeless Same done) (hrefl : Same env₀ env₀)
    (hslots : s.concurrency ≤ 1) (h : Unfolds env₀ [(src, s)] w) :
    ∃ p env round, Lockstep src s Same env₀ w p env round := by
  induction h with
  | start =>
      refine ⟨.fresh, env₀, .resting, rfl, rfl, hrefl, .start, ?_⟩
      exact .starts rfl rfl rfl rfl fun alarm halarm => absurd halarm List.not_mem_nil
  | step h hstep ih =>
      obtain ⟨p, env, round, hlockstep⟩ := ih
      exact hlockstep.step htimeless hslots hstep
  | advance h hidle hnext ih =>
      obtain ⟨p, env, round, hlockstep⟩ := ih
      obtain ⟨p', hlockstep'⟩ := hlockstep.advance hidle hnext
      exact ⟨p', env, round, hlockstep'⟩

end World

end DurableWorkflow
