import DurableWorkflow.Proofs.Polling.Slots

/-!
# Settlement

When the loop of a poller has come to its end, each unit that it has taken up has been settled once,
or has been dropped because the time was over for which the loop waits.

## Main Definitions

* `Poller.result?`: the result with which the loop has been left.
* `Poller.Settles`: how a turn deals with the results of units that it looks at.
* `Poller.Expired`: the time is over for which the loop waits for the units in flight.
* `Poller.Accounted`: what has become of each unit.

## Main Statements

* `Poller.Run.handed_and_accounted`: each unit is handed over once, and is settled once before the
  loop comes to its end.

## Design Notes

How long the loop waits is known from outside: an alarm has been asked for with the time limit, and
has rung since.
-/

namespace DurableWorkflow

variable {Env Fetch Job : Type}

namespace Poller

/-- The result with which the loop has been left. -/
def result? (p : Poller Fetch Job) : Option UnitResult :=
  match p.stage with
  | .draining result _ | .ended result => some result
  | .starting | .seeking | .polling .. | .pausing _ | .crashed _ => none

/-- How a turn deals with the results of units that it looks at, given the result with which the
loop is left.  It looks at one at most. -/
inductive Settles (src : PollSource Env Fetch Job) (result? : Option UnitResult.{0})
    (p : Poller Fetch Job) (turn : Turn Env Fetch Job) : List UnitResult.{0} → Prop
  | nothing : Settles src result? p turn []
  | dismissed {result : UnitResult} (hdismisses : Dismisses src p result turn.notices) :
      Settles src result? p turn [result]
  /-- The loop is left with the failure of a unit. -/
  | returned {e : Error} (hloop : p.IsLooping) (hfatal : src.isFatal e = true)
      (hresult : result? = some (.error e)) : Settles src result? p turn [.error e]

/-- The loop has waited for the units in flight as long as it is to: not at all, or until the alarm
has rung for which it has asked. -/
def Expired (s : PollerSettings) (deeds : List (Deed Env Fetch Job)) : Prop :=
  s.shutdownTimeout.ceilMillis = 0 ∨
    ∃ now env p turn, [Deed.turned now env p turn, .rang .shutdown].Sublist deeds ∧
      turn.alarms = [(.shutdown, s.shutdownTimeout.ceilMillis)]

/-- Units are abandoned only when they have been waited for. -/
def Waited (s : PollerSettings) (deeds : List (Deed Env Fetch Job)) : Prop :=
  ∀ before deed, before ++ [deed] <+: deeds → deed.abandoned ≠ [] → Expired s before

/-- What has become of the units when the loop has come to its end with a result. -/
structure Accounted (src : PollSource Env Fetch Job) (s : PollerSettings)
    (deeds : List (Deed Env Fetch Job)) (result : UnitResult.{0}) : Prop where
  /-- Each unit has come to its end or has been abandoned, and only once. -/
  numbers : (List.range (polled src deeds).length).Perm
    ((endings deeds).map (·.1) ++ abandoned deeds)
  /-- Each result has been looked at, and only once. -/
  results : (endings deeds).map (·.2) = settled deeds
  /-- A result is that of the steps of its unit. -/
  works : ∀ n r, (n, r) ∈ endings deeds → ∃ job progress,
    (polled src deeds)[n]? = some job ∧ src.Works job (strides n deeds) progress ∧
      progress.result? src.kind = some r
  /-- A result that has been looked at has been noted, or is that of the loop. -/
  settles : ∀ now env p turn, Deed.turned now env p turn ∈ deeds →
    Settles src (some result) p turn (Deed.settled (.turned now env p turn))
  /-- Units are abandoned only when they have been waited for. -/
  waited : Waited s deeds

variable {src : PollSource Env Fetch Job} {s : PollerSettings} {deeds : List (Deed Env Fetch Job)}
  {p p' : Poller Fetch Job}

/-! ### The result of the loop -/

theorem IsLooping.result? (h : p.IsLooping) : p.result? = none := by
  rcases h with hstage | ⟨_, _, _, hstage⟩ | ⟨_, hstage⟩ <;> simp only [Poller.result?, hstage]

/-- A loop that has been left keeps the result with which it was left. -/
theorem Move.result? {now : Time} {env : Env} {alarms : List (Alarm × Nat)} {notices : List Notice}
    (hmove : Move src s now env p p' alarms notices) {result : UnitResult}
    (hresult : p.result? = some result) : p'.result? = some result := by
  have hlooping (hloop : p.IsLooping) : p'.result? = some result := by
    rw [hloop.result?] at hresult
    cases hresult
  have hdraining {r : UnitResult} {limit : TimeLimit} (hstage : p.stage = .draining r limit) :
      some r = some result := by
    rw [← hresult, Poller.result?, hstage]
  cases hmove with
  | waits | settles => exact hresult
  | opens hstage =>
      simp only [Poller.result?, hstage] at hresult
      cases hresult
  | breaks hcause =>
      rcases hcause with ⟨hstage, -⟩ | ⟨_, _, hstage, -⟩ <;>
        simp only [Poller.result?, hstage] at hresult <;> cases hresult
  | asks hstage => exact hlooping (.inl hstage)
  | polls hstage | releases hstage => exact hlooping (.inr (.inl hstage))
  | takesUp hstage => exact hlooping (.inr (.inl ⟨_, _, _, hstage⟩))
  | resumes hstage => exact hlooping (.inr (.inr ⟨_, hstage⟩))
  | leaves hleaves | ends hleaves => exact hlooping hleaves.looping
  | drains hstage | givesUp hstage | limits hstage => exact hdraining hstage

theorem UnitMove.stage {now : Time} {env : Env} {n : Nat} {next : UnitNext}
    (hmove : UnitMove src now env p n p' next) : p'.stage = p.stage := by
  cases hmove <;> rfl

theorem RingMove.result? {alarm : Alarm} (hring : RingMove p alarm p') :
    p'.result? = p.result? := by
  cases hring with
  | polls hstage =>
      rw [IsLooping.result? (.inr (.inl hstage))]
      rfl
  | pauses hstage | expires hstage =>
      simp only [Poller.result?, hstage]

/-! ### Results that the loop looks at -/

/-- How a result was settled is not changed by the result with which the loop is left later. -/
theorem Settles.mono {result₁ result₂ : Option UnitResult} {turn : Turn Env Fetch Job}
    {looked : List UnitResult} (h : Settles src result₁ p turn looked)
    (hresult : ∀ result, result₁ = some result → result₂ = some result) :
    Settles src result₂ p turn looked := by
  cases h with
  | nothing => exact .nothing
  | dismissed hdismisses => exact .dismissed hdismisses
  | returned hloop hfatal hreturned => exact .returned hloop hfatal (hresult _ hreturned)

theorem settled_turned_eq_nil {now : Time} {env : Env} {turn : Turn Env Fetch Job}
    (h : turn.poller.finished = p.finished) : Deed.settled (.turned now env p turn) = [] := by
  simp [Deed.settled, h]

theorem settled_turned_eq_singleton {now : Time} {env : Env} {turn : Turn Env Fetch Job}
    {result : UnitResult} (h : p.finished = result :: turn.poller.finished) :
    Deed.settled (.turned now env p turn) = [result] := by
  simp [Deed.settled, h]

/-- **How a turn deals with results of units.** -/
theorem turn_settles (now : Time) (env : Env) (p : Poller Fetch Job) :
    let turn := p.turn src s now env
    Settles src turn.poller.result? p turn (Deed.settled (.turned now env p turn)) := by
  have hmove := turn_move src s now env p
  dsimp only
  generalize p.turn src s now env = turn at hmove ⊢
  have hnothing (hfinished : turn.poller.finished = p.finished) :
      Settles src turn.poller.result? p turn (Deed.settled (.turned now env p turn)) := by
    rw [settled_turned_eq_nil hfinished]
    exact .nothing
  have hleft {result : UnitResult} {shown : List Activity} {finished : List UnitResult}
      (hleaves : Leaves src s now env p result shown finished)
      (hfinished : turn.poller.finished = finished) (hresult : turn.poller.result? = some result) :
      Settles src turn.poller.result? p turn (Deed.settled (.turned now env p turn)) := by
    cases hleaves with
    | unit hstage hcons hfatal =>
        rw [settled_turned_eq_singleton (hfinished ▸ hcons)]
        exact .returned (hstage.imp_right .inl) hfatal hresult
    | stop | nothing | failure => exact hnothing hfinished
  rcases turn with ⟨env', p', alarms, spawned, notices, again⟩
  cases hmove with
  | settles hstage hcons hdismisses =>
      rw [settled_turned_eq_singleton hcons]
      exact .dismissed hdismisses
  | leaves hleaves | ends hleaves => exact hleft hleaves rfl rfl
  | waits | opens | breaks | asks | polls | releases | takesUp | resumes | drains | givesUp
  | limits => exact hnothing rfl

/-- Each turn of a run has settled the results that it has looked at. -/
theorem Run.settles (h : Run src s deeds p) {now : Time} {env : Env} {q : Poller Fetch Job}
    {turn : Turn Env Fetch Job} (hdeed : .turned now env q turn ∈ deeds) :
    Settles src p.result? q turn (Deed.settled (.turned now env q turn)) := by
  induction h with
  | start => cases hdeed
  | turn hrun now' env' ih =>
      rcases List.mem_append.mp hdeed with hold | hnew
      · exact (ih hold).mono fun result => (turn_move src s now' env' _).result?
      · cases List.mem_singleton.mp hnew
        exact turn_settles now env q
  | work hrun halive hturn ih =>
      rcases List.mem_append.mp hdeed with hold | hnew
      · refine (ih hold).mono fun result hresult => ?_
        rw [← hresult, Poller.result?, (stepUnit_move hturn).stage, Poller.result?]
      · cases List.mem_singleton.mp hnew
  | ring hrun hring ih =>
      rcases List.mem_append.mp hdeed with hold | hnew
      · exact (ih hold).mono fun result hresult => (ring_move hring).result?.trans hresult
      · cases List.mem_singleton.mp hnew
  | ask hrun ih =>
      rcases List.mem_append.mp hdeed with hold | hnew
      · exact ih hold
      · cases List.mem_singleton.mp hnew

/-- When the loop has come to its end, it has looked at all results. -/
theorem Run.finished_eq_nil (h : Run src s deeds p) {result : UnitResult}
    (hended : p.stage = .ended result) : p.finished = [] := by
  induction h generalizing result with
  | start => cases hended
  | @turn deeds p hrun now env ih =>
      have hmove := turn_move src s now env p
      generalize p.turn src s now env = turn at hmove hended ⊢
      rcases turn with ⟨env', p', alarms, spawned, notices, again⟩
      cases hmove with
      | waits => exact ih hended
      | settles hstage =>
          rcases hstage with hstage | ⟨_, _, _, hstage⟩ | ⟨_, _, hstage⟩ <;>
            cases hstage.symm.trans hended
      | ends hleaves hrunning hfinished => exact hfinished
      | drains hstage hrunning hfinished => exact hfinished
      | givesUp hstage hfinished => exact hfinished
      | releases hstage hfinished hnext =>
          rcases hnext with rfl | ⟨_, rfl⟩ <;> cases hended
      | opens | breaks | asks | polls | takesUp | resumes | leaves | limits => cases hended
  | @work deeds p hrun now env n turn halive hturn ih =>
      have hmove := stepUnit_move hturn
      rw [hmove.stage] at hended
      have hbalanced := hrun.balanced
      simp only [Balanced, hended] at hbalanced
      rcases turn with ⟨env', p', notices, next⟩
      cases hmove with
      | done hjob | crashes hjob =>
          rw [hbalanced.1] at hjob
          cases hjob
      | goesOn | stops | strays => exact ih hended
  | ring hrun hring ih => cases ring_move hring <;> cases hended
  | ask hrun ih => exact ih hended

/-! ### Waiting for the units in flight -/

theorem Expired.concat (h : Expired s deeds) (deed : Deed Env Fetch Job) :
    Expired s (deeds ++ [deed]) := by
  rcases h with hzero | ⟨now, env, q, turn, hsub, halarm⟩
  · exact .inl hzero
  · exact .inr ⟨now, env, q, turn, hsub.trans (List.sublist_append_left _ _), halarm⟩

/-- The loop asks for the alarm before it waits for it. -/
theorem Move.asks_shutdown {now : Time} {env : Env} {alarms : List (Alarm × Nat)}
    {notices : List Notice} (hmove : Move src s now env p p' alarms notices) {result : UnitResult}
    {limit : TimeLimit} (hstage : p'.stage = .draining result limit) :
    p.stage = .draining result limit ∨ limit = .unset ∨
      (limit = .running ∧ alarms = [(.shutdown, s.shutdownTimeout.ceilMillis)]) := by
  cases hmove with
  | waits | settles => exact .inl hstage
  | leaves =>
      cases hstage
      exact .inr (.inl rfl)
  | limits =>
      cases hstage
      exact .inr (.inr ⟨rfl, rfl⟩)
  | releases hpolling hfinished hnext => rcases hnext with rfl | ⟨_, rfl⟩ <;> cases hstage
  | opens | breaks | asks | polls | takesUp | resumes | ends | drains | givesUp => cases hstage

/-- A turn keeps the units in flight, unless the loop breaks off or has waited long enough. -/
theorem Move.abandons {now : Time} {env : Env} {alarms : List (Alarm × Nat)}
    {notices : List Notice} (hmove : Move src s now env p p' alarms notices) :
    p.running ⊆ p'.running ∨ (∃ message, p'.stage = .crashed message) ∨
      s.shutdownTimeout.ceilMillis = 0 ∨ ∃ result, p.stage = .draining result .reached := by
  cases hmove with
  | breaks => exact .inr (.inl ⟨_, rfl⟩)
  | givesUp hstage hfinished hlimit =>
      rcases hlimit with rfl | hzero
      · exact .inr (.inr (.inr ⟨_, hstage⟩))
      · exact .inr (.inr (.inl hzero))
  | takesUp => exact .inl (List.subset_append_left _ _)
  | waits | opens | asks | polls | releases | resumes | settles | leaves | ends | drains
  | limits => exact .inl (List.Subset.refl _)

/-- A loop that has broken off stays so. -/
theorem turn_crashed {now : Time} {env : Env} {message : String}
    (h : p.stage = .crashed message) : (p.turn src s now env).poller.stage = .crashed message := by
  simp [Poller.turn, h, Turn.of]

/-- Units have been waited for if those have that the last deed abandons. -/
theorem Waited.concat (h : Waited s deeds) {deed : Deed Env Fetch Job}
    (hdeed : deed.abandoned ≠ [] → Expired s deeds) : Waited s (deeds ++ [deed]) := by
  intro before deed' hinitial hne
  rcases List.prefix_concat_iff.mp hinitial with heq | hold
  · obtain ⟨rfl, hlast⟩ := List.append_inj' heq rfl
    cases hlast
    exact hdeed hne
  · exact h before deed' hold hne

/-- The loop waits for the units in flight before it abandons them, unless it breaks off. -/
structure Patient (s : PollerSettings) (deeds : List (Deed Env Fetch Job))
    (p : Poller Fetch Job) : Prop where
  asked : ∀ result, p.stage = .draining result .running → ∃ now env q turn,
    Deed.turned now env q turn ∈ deeds ∧
      turn.alarms = [(.shutdown, s.shutdownTimeout.ceilMillis)]
  expired : ∀ result, p.stage = .draining result .reached → Expired s deeds
  waited : (∃ message, p.stage = .crashed message) ∨ Waited s deeds

namespace Patient

theorem asked_concat (h : Patient s deeds p) (deed : Deed Env Fetch Job) {result : UnitResult}
    (hrunning : p.stage = .draining result .running) :
    ∃ now env q turn, Deed.turned now env q turn ∈ deeds ++ [deed] ∧
      turn.alarms = [(.shutdown, s.shutdownTimeout.ceilMillis)] := by
  obtain ⟨now, env, q, turn, hmem, halarms⟩ := h.asked result hrunning
  exact ⟨now, env, q, turn, List.mem_append_left _ hmem, halarms⟩

/-- What concerns neither the loop nor its alarms. -/
theorem concat (h : Patient s deeds p) {deed : Deed Env Fetch Job} (hstage : p'.stage = p.stage)
    (habandoned : deed.abandoned = []) : Patient s (deeds ++ [deed]) p' where
  asked := fun _ hrunning => h.asked_concat deed (hstage ▸ hrunning)
  expired := fun result hreached => (h.expired result (hstage ▸ hreached)).concat deed
  waited := hstage ▸ h.waited.imp_right (Waited.concat · fun hne => absurd habandoned hne)

/-- A turn of the loop drops units only after it has waited for them, unless it breaks off. -/
theorem turn (h : Patient s deeds p) (now : Time) (env : Env) :
    Patient s (deeds ++ [.turned now env p (p.turn src s now env)])
      (p.turn src s now env).poller := by
  have hmove := turn_move src s now env p
  refine ⟨fun result hrunning => ?_, fun result hreached => ?_, ?_⟩
  · rcases hmove.asks_shutdown hrunning with hold | hunset | ⟨-, halarms⟩
    · exact h.asked_concat _ hold
    · cases hunset
    · exact ⟨now, env, p, _, List.mem_concat_self, halarms⟩
  · rcases hmove.asks_shutdown hreached with hold | hunset | ⟨hlimit, -⟩
    · exact (h.expired result hold).concat _
    · cases hunset
    · cases hlimit
  · rcases h.waited with ⟨message, hcrashed⟩ | hwaited
    · exact .inl ⟨message, turn_crashed hcrashed⟩
    · rcases hmove.abandons with hkept | hcrashed | hzero | ⟨result, hreached⟩
      · exact .inr (hwaited.concat fun hne => absurd (abandoned_turned_of_subset hkept) hne)
      · exact .inl hcrashed
      · exact .inr (hwaited.concat fun _ => .inl hzero)
      · exact .inr (hwaited.concat fun _ => h.expired result hreached)

/-- An alarm rings that the loop has asked for. -/
theorem ring (h : Patient s deeds p) {alarm : Alarm} (hring : RingMove p alarm p') :
    Patient s (deeds ++ [.rang alarm]) p' := by
  have hwaited : (∃ message, p.stage = .crashed message) ∨ Waited s (deeds ++ [.rang alarm]) :=
    h.waited.imp_right (Waited.concat · fun hne => absurd rfl hne)
  cases hring with
  | polls hstage =>
      obtain ⟨_, _, _, hstage⟩ := hstage
      rw [hstage] at hwaited
      exact ⟨fun _ h => (nomatch h), fun _ h => (nomatch h), .inr (hwaited.resolve_left nofun)⟩
  | pauses hstage =>
      rw [hstage] at hwaited
      exact ⟨fun _ h => (nomatch h), fun _ h => (nomatch h), .inr (hwaited.resolve_left nofun)⟩
  | expires hstage =>
      obtain ⟨now, env, q, turn, hmem, halarms⟩ := h.asked _ hstage
      rw [hstage] at hwaited
      refine ⟨fun _ h => (nomatch h), fun _ _ => .inr ⟨now, env, q, turn, ?_, halarms⟩,
        .inr (hwaited.resolve_left nofun)⟩
      exact (List.singleton_sublist.mpr hmem).append_right [_]

end Patient

/-- In every run the loop waits before it drops a unit, unless it breaks off. -/
theorem Run.patient (h : Run src s deeds p) : Patient s deeds p := by
  induction h with
  | start =>
      exact ⟨fun _ h => (nomatch h), fun _ h => (nomatch h),
        .inr fun _ _ hinitial => by simp at hinitial⟩
  | turn hrun now env ih => exact ih.turn now env
  | work hrun halive hturn ih => exact ih.concat (stepUnit_move hturn).stage rfl
  | ring hrun hring ih => exact ih.ring (ring_move hring)
  | ask hrun ih => exact ih.concat rfl rfl

/-- **Each unit is handed over once and settled once.**  The loop hands the units that its polls
give over in order, and each is processed on its own.  When the loop has come to its end, whatever
has ended it, each unit has come to its end and its result has been looked at once, noted or made
the result of the loop; except those for which the loop has waited as long as it is to, all of which
have been aborted. -/
theorem Run.handed_and_accounted (h : Run src s deeds p) :
    handed deeds = (polled src deeds).mapIdx Prod.mk ∧
      (∀ n job, (polled src deeds)[n]? = some job →
        ∃ progress, src.Works job (strides n deeds) progress) ∧
      ∀ result, p.stage = .ended result → p.running = [] ∧ Accounted src s deeds result := by
  refine ⟨h.handed_eq, fun n job => h.works, fun result hended => ?_⟩
  have hrunning : p.running = [] := by
    have hbalanced := h.balanced
    simp only [Balanced, hended] at hbalanced
    exact hbalanced.1
  have hresult : p.result? = some result := by rw [result?, hended]
  refine ⟨hrunning, ⟨?_, ?_, h.ledger.works, fun now env q turn hdeed => ?_, ?_⟩⟩
  · have hnumbers := h.ledger.numbers
    rwa [hrunning, List.map_nil, List.append_nil, h.tracks.taken] at hnumbers
  · rw [h.ledger.results, h.finished_eq_nil hended, List.append_nil]
  · exact hresult ▸ h.settles hdeed
  · refine h.patient.waited.resolve_left ?_
    rintro ⟨message, hcrashed⟩
    cases hended.symm.trans hcrashed

/-- A poller that is asked to stop waits for its unit, and notes the failure of the unit. -/
theorem handed_and_accounted_lateFailure :
    ∃ deeds p, Run (Rehearsal.source "test" Error.isFatal) .standard deeds p ∧
      handed deeds = (polled (Rehearsal.source "test" Error.isFatal) deeds).mapIdx Prod.mk ∧
        p.stage = .ended (.ok ⟨⟩) ∧ endings deeds = [(0, .error .emptyHistory)] ∧
          settled deeds = (endings deeds).map (·.2) := by
  let source := Rehearsal.source "test" Error.isFatal
  let unit : WorkItem := ⟨"unit", 0, .failed .emptyHistory⟩
  let env : Rehearsal := ⟨[⟨0, .given (some unit)⟩], []⟩
  -- A poll gives a unit, and a stop is requested.
  have hstart : Run source .standard [] .fresh := .start
  have hopen : Run source .standard _ ⟨.seeking, false, 1, 0, 0, [], [], [], []⟩ :=
    hstart.turn 0 env
  have hasked : Run source .standard _
      ⟨.polling .start true .unset, false, 0, 1, 0, [], [], [], [.polling]⟩ := hopen.turn 0 env
  have hgiven : Run source .standard _
      ⟨.polling (.answered (.given unit)) true .unset, false, 0, 1, 0, [], [], [], [.polling]⟩ :=
    hasked.turn 0 env
  have htaken : Run source .standard _
      ⟨.seeking, false, 0, 1, 1, [(0, .start unit)], [], [], [.polling]⟩ := hgiven.turn 0 env
  have hstop : Run source .standard _
      ⟨.draining (.ok ⟨⟩) .running, true, 0, 1, 1, [(0, .start unit)], [], [], [.polling]⟩ :=
    (htaken.ask.turn 0 env).turn 0 env
  -- The unit fails, and the loop comes to its end.
  have hbegun : Run source .standard _
      ⟨.draining (.ok ⟨⟩) .running, true, 0, 1, 1, [(0, .worked unit)], [], [],
        [.executing, .polling]⟩ :=
    @Run.work _ _ _ _ _ _ _ hstop 0 env 0 _ (alive_of_strides_eq_nil rfl) rfl
  have hfailed : Run source .standard _
      ⟨.draining (.ok ⟨⟩) .running, true, 1, 1, 1, [], [.error .emptyHistory], [],
        [.idle, .executing, .polling]⟩ :=
    @Run.work _ _ _ _ _ _ _ hbegun 0 env 0 _
      ((alive_of_strides_eq_nil rfl).concat fun _ _ _ heq => by cases heq; nofun) rfl
  have hended := (hfailed.turn 0 env).turn 0 env
  obtain ⟨hhanded, -, haccounted⟩ := hended.handed_and_accounted
  obtain ⟨-, haccounted⟩ := haccounted (.ok ⟨⟩) rfl
  exact ⟨_, _, hended, hhanded, rfl, rfl, haccounted.results.symm⟩

end Poller

end DurableWorkflow
