import DurableWorkflow.Proofs.Polling.Effect

/-!
# Runs of a poller

A run is any sequence of turns of the loop, steps of units, alarms and requests to stop.  Between
them the environment may change in any way, since a poller shares it with others.  Whatever the
order, every unit that the polls of the loop give is processed on its own, from one step to the
next, and nothing else is processed.

## Main Definitions

* `PollSource.Works`: the steps of one unit, one after the other.
* `Poller.Deed`, `Poller.Run`: what a poller does, and runs of it.
* `Poller.polled`: the units that the polls of a run have given to the loop.
* `Poller.strides`: the steps of a run that belong to the unit with a number.

## Main Statements

* `Poller.Run.works`: the steps of every unit are those of the unit that the poll gave.
* `Poller.Run.number_lt`: only such units make steps.

## Design Notes

Units are numbered in the order in which the polls gave them, so the unit with the number `n` is
the one at index `n` of `Poller.polled`.  A unit whose step has said that it never goes on makes no
further step; this is the only restriction on the order of steps.
-/

namespace DurableWorkflow

variable {Env Fetch Job : Type}

/-! ### Units on their own -/

/-- A step as it is seen from outside: when it is made, and the environment before and after. -/
structure Stride (Env : Type) where
  time : Time
  before : Env
  after : Env

/-- The steps of a unit, one after the other, and how far the unit has come.  What goes on by itself
of an aborted unit counts as the unit. -/
inductive PollSource.Works (src : PollSource Env Fetch Job) (job : Job) :
    List (Stride Env) → Progress Job UnitResult → Prop
  | fresh : Works src job [] (.yield job)
  | step {strides : List (Stride Env)} {progress : Progress Job UnitResult} {state : Job}
      (hworks : Works src job strides progress) (hnext : progress.next? = some state)
      (now : Time) (env : Env) :
      Works src job (strides ++ [⟨now, env, (src.process now env state).env⟩])
        (src.process now env state).progress
  | detach {strides : List (Stride Env)} {progress : Progress Job UnitResult} {state rest : Job}
      (hworks : Works src job strides progress) (hnext : progress.next? = some state)
      (hrest : src.detached state = some rest) : Works src job strides (.yield rest)

namespace Poller

/-! ### Runs -/

/-- Something that is done by a poller or to it. -/
inductive Deed (Env Fetch Job : Type) where
  /-- A turn of the loop. -/
  | turned (now : Time) (env : Env) (poller : Poller Fetch Job) (turn : Turn Env Fetch Job)
  /-- A step of the unit with a number. -/
  | worked (now : Time) (env : Env) (number : Nat) (turn : UnitTurn Env Fetch Job)
  | rang (alarm : Alarm)
  /-- A stop has been requested. -/
  | asked

namespace Deed

/-- The unit that is taken up. -/
def polled? (src : PollSource Env Fetch Job) : Deed Env Fetch Job → Option Job
  | .turned now env p _ => p.polled? src now env
  | _ => none

/-- The step that the unit with a number makes. -/
def stride? (n : Nat) : Deed Env Fetch Job → Option (Stride Env)
  | .worked now env m turn => if m = n then some ⟨now, env, turn.env⟩ else none
  | _ => none

end Deed

/-- The units that have been taken up, in order. -/
def polled (src : PollSource Env Fetch Job) (deeds : List (Deed Env Fetch Job)) : List Job :=
  deeds.filterMap (Deed.polled? src)

/-- The steps of the unit with a number. -/
def strides (n : Nat) (deeds : List (Deed Env Fetch Job)) : List (Stride Env) :=
  deeds.filterMap (Deed.stride? n)

/-- No step of the unit with a number has said that the unit never goes on. -/
def Alive (deeds : List (Deed Env Fetch Job)) (n : Nat) : Prop :=
  ∀ now env turn, Deed.worked now env n turn ∈ deeds → turn.next ≠ .never

/-- The runs of a poller, with the state that they lead to. -/
inductive Run (src : PollSource Env Fetch Job) (s : PollerSettings) :
    List (Deed Env Fetch Job) → Poller Fetch Job → Prop
  | start : Run src s [] .fresh
  | turn {deeds : List (Deed Env Fetch Job)} {p : Poller Fetch Job} (hrun : Run src s deeds p)
      (now : Time) (env : Env) :
      Run src s (deeds ++ [.turned now env p (p.turn src s now env)])
        (p.turn src s now env).poller
  | work {deeds : List (Deed Env Fetch Job)} {p : Poller Fetch Job} (hrun : Run src s deeds p)
      {now : Time} {env : Env} {n : Nat} {turn : UnitTurn Env Fetch Job} (halive : Alive deeds n)
      (hturn : p.stepUnit? src now env n = some turn) :
      Run src s (deeds ++ [.worked now env n turn]) turn.poller
  | ring {deeds : List (Deed Env Fetch Job)} {p p' : Poller Fetch Job} (hrun : Run src s deeds p)
      {alarm : Alarm} (hring : p.ring alarm = some p') : Run src s (deeds ++ [.rang alarm]) p'
  | ask {deeds : List (Deed Env Fetch Job)} {p : Poller Fetch Job} (hrun : Run src s deeds p) :
      Run src s (deeds ++ [.asked]) p.requestStop

variable {src : PollSource Env Fetch Job} {s : PollerSettings} {deeds : List (Deed Env Fetch Job)}
  {p : Poller Fetch Job}

/-! ### The units of a run -/

theorem mem_units_takeUp {p' : Poller Fetch Job} {job : Job} {x : Nat × Job}
    (hrunning : p'.running = p.running ++ [(p.taken, job)]) (hstrays : p'.strays = p.strays) :
    x ∈ p'.units ↔ x = (p.taken, job) ∨ x ∈ p.units := by
  rw [mem_units, mem_units, hrunning, hstrays, List.mem_append, List.mem_singleton, or_assoc,
    or_left_comm]

/-- Of an aborted unit goes on what is detached from its state. -/
theorem mem_units_of_abort {p' : Poller Fetch Job} {n : Nat} {state : Job}
    (hrunning : p'.running = []) (hstrays : p'.strays = (p.abort src).strays)
    (h : (n, state) ∈ p'.units) :
    (n, state) ∈ p.units ∨ ∃ job, (n, job) ∈ p.units ∧ src.detached job = some state := by
  rw [mem_units, hrunning, hstrays, Poller.abort, List.mem_append, List.mem_filterMap] at h
  rcases h with h | h | ⟨⟨m, job⟩, hjob, hdetached⟩
  · cases h
  · exact .inl (mem_units.mpr (.inr h))
  · obtain ⟨rest, hrest, heq⟩ := Option.map_eq_some_iff.mp hdetached
    cases heq
    exact .inr ⟨job, mem_units.mpr (.inl hjob), hrest⟩

namespace Numbered

/-- A unit that is taken up gets the next number. -/
theorem takeUp {p' : Poller Fetch Job} {job : Job} (h : p.Numbered)
    (hrunning : p'.running = p.running ++ [(p.taken, job)]) (hstrays : p'.strays = p.strays)
    (htaken : p'.taken = p.taken + 1) : p'.Numbered := by
  have hperm : p'.units.Perm ((p.taken, job) :: p.units) := by
    rw [units, units, hrunning, hstrays, List.append_assoc]
    exact List.perm_middle
  have hnew : p.taken ∉ p.units.map (·.1) := by
    intro hin
    obtain ⟨x, hx, heq⟩ := List.mem_map.mp hin
    exact absurd (h.lt x hx) (heq ▸ Nat.lt_irrefl _)
  refine ⟨(hperm.map _).nodup_iff.mpr (List.nodup_cons.mpr ⟨hnew, h.nodup⟩), fun x hx => ?_⟩
  rw [htaken]
  rcases (mem_units_takeUp hrunning hstrays).mp hx with rfl | hx
  · exact Nat.lt_succ_self _
  · exact Nat.lt_succ_of_lt (h.lt x hx)

/-- Some of the numbers stay, in any order. -/
theorem of_sublist {p' : Poller Fetch Job} {numbers : List Nat} (h : p.Numbered)
    (hperm : numbers.Perm (p.units.map (·.1)))
    (hsub : (p'.units.map (·.1)).Sublist numbers) (htaken : p'.taken = p.taken) :
    p'.Numbered := by
  refine ⟨hsub.nodup (hperm.nodup_iff.mpr h.nodup), fun x hx => ?_⟩
  obtain ⟨y, hy, heq⟩ := List.mem_map.mp
    (hperm.mem_iff.mp (hsub.subset (List.mem_map_of_mem hx)))
  rw [htaken, ← heq]
  exact h.lt y hy

theorem of_units {p' : Poller Fetch Job} (h : p.Numbered) (hunits : p'.units = p.units)
    (htaken : p'.taken = p.taken) : p'.Numbered :=
  h.of_sublist (List.Perm.refl _) (hunits ▸ List.Sublist.refl _) htaken

/-- Units that are aborted keep their numbers. -/
theorem abort {p' : Poller Fetch Job} (h : p.Numbered) (hrunning : p'.running = [])
    (hstrays : p'.strays = (p.abort src).strays) (htaken : p'.taken = p.taken) : p'.Numbered := by
  have hdetached (jobs : List (Nat × Job)) :
      ((jobs.filterMap fun x => (src.detached x.2).map (x.1, ·)).map (·.1)).Sublist
        (jobs.map (·.1)) := by
    induction jobs with
    | nil => exact List.Sublist.refl _
    | cons x jobs ih =>
        cases hx : src.detached x.2 with
        | none => simpa [hx] using ih.cons x.1
        | some rest => simpa [hx] using ih.cons_cons x.1
  have hperm : ((p.strays ++ p.running).map (·.1)).Perm (p.units.map (·.1)) :=
    List.perm_append_comm.map _
  refine h.of_sublist hperm ?_ htaken
  rw [units, hrunning, List.nil_append, hstrays, Poller.abort, List.map_append, List.map_append]
  exact (List.Sublist.refl _).append (hdetached p.running)

/-- No two units have one number. -/
theorem unique (h : p.Numbered) {n : Nat} {a b : Job} (ha : (n, a) ∈ p.units)
    (hb : (n, b) ∈ p.units) : a = b :=
  (Prod.mk.inj (List.inj_on_of_nodup_map h.nodup ha hb rfl)).2

end Numbered

/-- What a run has made of the units that its polls gave. -/
structure Tracks (src : PollSource Env Fetch Job) (deeds : List (Deed Env Fetch Job))
    (p : Poller Fetch Job) : Prop where
  numbered : p.Numbered
  taken : p.taken = (polled src deeds).length
  works : ∀ n job, (polled src deeds)[n]? = some job →
    ∃ progress, src.Works job (strides n deeds) progress ∧
      ∀ state, (n, state) ∈ p.units → Alive deeds n → progress.next? = some state
  silent : ∀ n, p.taken ≤ n → strides n deeds = []

/-- If the state of a unit has been detached from the one with which the unit would have gone on,
the unit has been detached. -/
theorem exists_works {job : Job} {strides : List (Stride Env)} {progress : Progress Job UnitResult}
    {n : Nat} (hnumbered : p.Numbered) (hworks : src.Works job strides progress)
    (hstate : ∀ state, (n, state) ∈ p.units → Alive deeds n → progress.next? = some state ∨
      ∃ job', progress.next? = some job' ∧ src.detached job' = some state) :
    ∃ progress, src.Works job strides progress ∧
      ∀ state, (n, state) ∈ p.units → Alive deeds n → progress.next? = some state := by
  by_cases hin : ∃ state, (n, state) ∈ p.units ∧ Alive deeds n
  · obtain ⟨state, hmem, halive⟩ := hin
    rcases hstate state hmem halive with hnext | ⟨job', hnext, hrest⟩
    · refine ⟨progress, hworks, fun state' hmem' _ => ?_⟩
      rw [← hnumbered.unique hmem hmem', hnext]
    · refine ⟨_, .detach hworks hnext hrest, fun state' hmem' _ => ?_⟩
      rw [← hnumbered.unique hmem hmem']
      rfl
  · exact ⟨progress, hworks, fun state hmem halive => absurd ⟨state, hmem, halive⟩ hin⟩

theorem polled_concat (deeds : List (Deed Env Fetch Job)) (deed : Deed Env Fetch Job) :
    polled src (deeds ++ [deed]) = polled src deeds ++ (deed.polled? src).toList := by
  cases h : deed.polled? src <;> simp [polled, h]

theorem strides_concat (n : Nat) (deeds : List (Deed Env Fetch Job)) (deed : Deed Env Fetch Job) :
    strides n (deeds ++ [deed]) = strides n deeds ++ (deed.stride? n).toList := by
  cases h : deed.stride? n <;> simp [strides, h]

/-- What takes no unit up leaves the units as they are. -/
theorem polled_concat_of_none {deed : Deed Env Fetch Job} (h : deed.polled? src = none) :
    polled src (deeds ++ [deed]) = polled src deeds := by
  rw [polled_concat, h, Option.toList_none, List.append_nil]

/-- What is no step of a unit leaves its steps as they are. -/
theorem strides_concat_of_none {deed : Deed Env Fetch Job} {n : Nat} (h : deed.stride? n = none) :
    strides n (deeds ++ [deed]) = strides n deeds := by
  rw [strides_concat, h, Option.toList_none, List.append_nil]

/-- A unit that goes on has gone on so far. -/
theorem Alive.of_concat {deed : Deed Env Fetch Job} {n : Nat} (h : Alive (deeds ++ [deed]) n) :
    Alive deeds n :=
  fun now env turn hmem => h now env turn (List.mem_append_left _ hmem)

theorem Alive.concat {deed : Deed Env Fetch Job} {n : Nat} (h : Alive deeds n)
    (hdeed : ∀ now env turn, deed = .worked now env n turn → turn.next ≠ .never) :
    Alive (deeds ++ [deed]) n := by
  intro now env turn hmem
  rcases List.mem_append.mp hmem with hold | hnew
  · exact h now env turn hold
  · exact hdeed now env turn (List.mem_singleton.mp hnew).symm

theorem strides_ne_nil {now : Time} {env : Env} {n : Nat} {turn : UnitTurn Env Fetch Job}
    (hdeed : .worked now env n turn ∈ deeds) : strides n deeds ≠ [] :=
  List.ne_nil_of_mem (List.mem_filterMap.mpr ⟨_, hdeed, if_pos rfl⟩)

/-- A unit that has made no step can make one. -/
theorem alive_of_strides_eq_nil {n : Nat} (h : strides n deeds = []) : Alive deeds n :=
  fun _ _ _ hdeed => absurd h (strides_ne_nil hdeed)

namespace Tracks

theorem start : Tracks src ([] : List (Deed Env Fetch Job)) .fresh where
  numbered := ⟨List.nodup_nil, fun _ h => nomatch h⟩
  taken := rfl
  works := fun _ _ h => nomatch h
  silent := fun _ _ => rfl

/-- What is no step of a unit and gives none changes the units only as far as it aborts them. -/
theorem rest {p' : Poller Fetch Job} {deed : Deed Env Fetch Job} (h : Tracks src deeds p)
    (hpolled : deed.polled? src = none) (hstride : ∀ n, deed.stride? n = none)
    (hnumbered : p'.Numbered) (htaken : p'.taken = p.taken)
    (hunits : ∀ n state, (n, state) ∈ p'.units → (n, state) ∈ p.units ∨
      ∃ job, (n, job) ∈ p.units ∧ src.detached job = some state) :
    Tracks src (deeds ++ [deed]) p' := by
  have hpolls : polled src (deeds ++ [deed]) = polled src deeds := polled_concat_of_none hpolled
  have hstrides (n : Nat) : strides n (deeds ++ [deed]) = strides n deeds :=
    strides_concat_of_none (hstride n)
  refine ⟨hnumbered, ?_, fun n job hn => ?_, fun n hn => ?_⟩
  · rw [htaken, hpolls, h.taken]
  · rw [hpolls] at hn
    obtain ⟨progress, hworks, hstate⟩ := h.works n job hn
    rw [hstrides]
    refine exists_works hnumbered hworks fun state hmem halive => ?_
    rcases hunits n state hmem with hold | ⟨job', hold, hrest⟩
    · exact .inl (hstate state hold halive.of_concat)
    · exact .inr ⟨job', hstate job' hold halive.of_concat, hrest⟩
  · rw [hstrides, h.silent n (htaken ▸ hn)]

/-- A unit that is taken up has made no step. -/
theorem takeUp {p' : Poller Fetch Job} {deed : Deed Env Fetch Job} {job : Job}
    (h : Tracks src deeds p) (hpolled : deed.polled? src = some job)
    (hstride : ∀ n, deed.stride? n = none)
    (hrunning : p'.running = p.running ++ [(p.taken, job)]) (hstrays : p'.strays = p.strays)
    (htaken : p'.taken = p.taken + 1) : Tracks src (deeds ++ [deed]) p' := by
  have hpolls : polled src (deeds ++ [deed]) = polled src deeds ++ [job] := by
    rw [polled_concat, hpolled, Option.toList_some]
  have hstrides (n : Nat) : strides n (deeds ++ [deed]) = strides n deeds :=
    strides_concat_of_none (hstride n)
  refine ⟨h.numbered.takeUp hrunning hstrays htaken, ?_, fun n job' hn => ?_, fun n hn => ?_⟩
  · rw [htaken, hpolls, List.length_append, h.taken]
    rfl
  · rw [hstrides]
    rw [hpolls] at hn
    by_cases hlt : n < p.taken
    · rw [List.getElem?_append_left (h.taken ▸ hlt)] at hn
      obtain ⟨progress, hworks, hstate⟩ := h.works n job' hn
      refine ⟨progress, hworks, fun state hin halive => ?_⟩
      rcases (mem_units_takeUp hrunning hstrays).mp hin with heq | hin
      · cases heq
        exact absurd hlt (Nat.lt_irrefl _)
      · exact hstate state hin halive.of_concat
    · have hle := Nat.le_of_not_lt hlt
      rw [List.getElem?_append_right (h.taken ▸ hle), List.getElem?_singleton] at hn
      split at hn
      · next hzero =>
        have hnumber : n = p.taken := by
          have htaken := h.taken
          omega
        cases hn
        rw [h.silent n hle]
        refine ⟨_, .fresh, fun state hin _ => ?_⟩
        rcases (mem_units_takeUp hrunning hstrays).mp hin with heq | hin
        · exact congrArg some (Prod.mk.inj heq).2.symm
        · exact absurd (h.numbered.lt _ hin) hlt
      · cases hn
  · rw [hstrides, h.silent n (by omega)]

/-- A step of a unit continues the steps that the unit has made. -/
theorem work {now : Time} {env : Env} {n : Nat} {turn : UnitTurn Env Fetch Job}
    (h : Tracks src deeds p) (halive : Alive deeds n)
    (hturn : p.stepUnit? src now env n = some turn) :
    Tracks src (deeds ++ [.worked now env n turn]) turn.poller := by
  obtain ⟨job, hjob, hafter, htaken, hnumbers, hunits⟩ := stepUnit_effect h.numbered hturn
  have hpolls : polled src (deeds ++ [.worked now env n turn]) = polled src deeds := by
    rw [polled_concat]
    exact List.append_nil _
  have hstrides (m : Nat) : strides m (deeds ++ [.worked now env n turn])
      = strides m deeds ++ (if n = m then some ⟨now, env, turn.env⟩ else none).toList :=
    strides_concat m deeds _
  have hnumbered := h.numbered.of_sublist (List.Perm.refl _) hnumbers htaken
  refine ⟨hnumbered, by rw [htaken, hpolls, h.taken], fun m job' hm => ?_, fun m hm => ?_⟩
  · rw [hpolls] at hm
    obtain ⟨progress, hworks, hstate⟩ := h.works m job' hm
    rw [hstrides]
    by_cases heq : n = m
    · subst heq
      rw [if_pos rfl, Option.toList_some, hafter]
      have hstep := hworks.step (hstate job hjob halive) now env
      refine exists_works hnumbered hstep fun state hmem halive' => ?_
      rcases hunits n state hmem with ⟨hne, -⟩ | ⟨-, hnever | hnext | hrest⟩
      · exact absurd rfl hne
      · exact absurd hnever (halive' now env turn List.mem_concat_self)
      · exact .inl hnext
      · exact .inr hrest
    · rw [if_neg heq, Option.toList_none, List.append_nil]
      refine ⟨progress, hworks, fun state hin halive' => ?_⟩
      rcases hunits m state hin with ⟨-, hold⟩ | ⟨hm', -⟩
      · exact hstate state hold halive'.of_concat
      · exact absurd hm'.symm heq
  · have hne : n ≠ m := by
      rintro rfl
      exact absurd (h.numbered.lt _ hjob) (Nat.not_lt.mpr (htaken ▸ hm))
    rw [hstrides, if_neg hne, h.silent m (htaken ▸ hm)]
    rfl

/-- A turn of the loop. -/
theorem turn (h : Tracks src deeds p) (now : Time) (env : Env) :
    Tracks src (deeds ++ [.turned now env p (p.turn src s now env)])
      (p.turn src s now env).poller := by
  obtain ⟨env', -, heffect⟩ := turn_effect (s := s) now env p
  cases hjob : p.polled? src now env with
  | none =>
      rw [hjob] at heffect
      cases heffect with
      | keeps hkeeps =>
          obtain ⟨-, hrunning, hstrays, htaken, -⟩ := hkeeps
          have hunits : (p.turn src s now env).poller.units = p.units := by
            rw [units, hrunning, hstrays, units]
          exact h.rest hjob (fun _ => rfl) (h.numbered.of_units hunits htaken) htaken
            fun n state hmem => .inl (hunits ▸ hmem)
      | aborts haborts =>
          obtain ⟨-, hrunning, hstrays, htaken, -⟩ := haborts
          exact h.rest hjob (fun _ => rfl) (h.numbered.abort hrunning hstrays htaken) htaken
            fun n state hmem => mem_units_of_abort hrunning hstrays hmem
  | some job =>
      rw [hjob] at heffect
      cases heffect with
      | takesUp htakes =>
          obtain ⟨-, hrunning, hstrays, htaken, -⟩ := htakes
          exact h.takeUp hjob (fun _ => rfl) hrunning hstrays htaken

end Tracks

/-- Alarms leave the units as they are. -/
theorem ring_units {p' : Poller Fetch Job} {alarm : Alarm} (h : p.ring alarm = some p') :
    p'.units = p.units ∧ p'.taken = p.taken := by
  unfold ring at h
  split at h
  · split at h
    · cases h
      exact ⟨rfl, rfl⟩
    · cases h
  · split at h
    · cases h
      exact ⟨rfl, rfl⟩
    · cases h
  · cases h
    exact ⟨rfl, rfl⟩
  · cases h
    exact ⟨rfl, rfl⟩
  · cases h

/-- At every moment of a run the units are where their own steps have led them. -/
theorem Run.tracks (h : Run src s deeds p) : Tracks src deeds p := by
  induction h with
  | start => exact .start
  | turn hrun now env ih => exact ih.turn now env
  | work hrun halive hturn ih => exact ih.work halive hturn
  | ring hrun hring ih =>
      obtain ⟨hunits, htaken⟩ := ring_units hring
      exact ih.rest rfl (fun _ => rfl) (ih.numbered.of_units hunits htaken) htaken
        fun n state hmem => .inl (hunits ▸ hmem)
  | ask hrun ih =>
      exact ih.rest rfl (fun _ => rfl) (ih.numbered.of_units rfl rfl) rfl
        fun n state hmem => .inl hmem

/-- **The steps of a unit are its own.** -/
theorem Run.works (h : Run src s deeds p) {n : Nat} {job : Job}
    (hjob : (polled src deeds)[n]? = some job) :
    ∃ progress, src.Works job (strides n deeds) progress := by
  obtain ⟨progress, hworks, -⟩ := h.tracks.works n job hjob
  exact ⟨progress, hworks⟩

/-- The turns of a run are turns of the poller. -/
theorem Run.turned (h : Run src s deeds p) {now : Time} {env : Env} {q : Poller Fetch Job}
    {turn : Turn Env Fetch Job} (hdeed : .turned now env q turn ∈ deeds) :
    turn = q.turn src s now env := by
  induction h with
  | start => cases hdeed
  | turn hrun now env ih =>
      rcases List.mem_append.mp hdeed with hold | hnew
      · exact ih hold
      · cases List.mem_singleton.mp hnew
        rfl
  | work hrun halive hturn ih | ring hrun hring ih | ask hrun ih =>
      rcases List.mem_append.mp hdeed with hold | hnew
      · exact ih hold
      · cases List.mem_singleton.mp hnew

end Poller

end DurableWorkflow
