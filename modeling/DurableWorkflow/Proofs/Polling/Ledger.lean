import DurableWorkflow.Proofs.Polling.Move
import DurableWorkflow.Proofs.Polling.Run

/-!
# The books of a run

Every unit that a poll gives to the loop is handed to a computation of its own.  That computation
comes to an end, is in flight, or has been abandoned when the loop came to its end; and the results
of those that have ended are looked at one by one, in the order in which they came.

## Main Definitions

* `Poller.handed`: the units that have been handed over.
* `Poller.endings`: the units that have come to their end, with their results.
* `Poller.settled`: the results that the loop has looked at.
* `Poller.abandoned`: the units that were dropped while in flight.

## Main Statements

* `Poller.Run.handed_eq`: what has been handed over is what the polls have given.
* `Poller.Run.ledger`: the books of every run balance.

## Design Notes

The books are kept from outside, by what can be seen of a poller before and after each deed.  A
result counts as looked at when it is taken off the results that wait for the loop, and a unit as
abandoned when it is in flight before a turn and no longer after it.
-/

namespace DurableWorkflow

variable {Env Fetch Job : Type}

namespace Poller

namespace Deed

/-- The unit that is handed over, with its number. -/
def handed? : Deed Env Fetch Job → Option (Nat × Job)
  | .turned _ _ _ turn => turn.spawned.bind fun n => turn.poller.running.find? (·.1 = n)
  | .worked .. | .rang _ | .asked => none

/-- The unit that comes to its end, with its result. -/
def ending? : Deed Env Fetch Job → Option (Nat × UnitResult)
  | .worked _ _ n turn =>
    if turn.next = .finished then turn.poller.finished.getLast?.map (n, ·) else none
  | .turned .. | .rang _ | .asked => none

/-- The results that the loop looks at. -/
def settled : Deed Env Fetch Job → List UnitResult
  | .turned _ _ p turn => p.finished.take (p.finished.length - turn.poller.finished.length)
  | .worked .. | .rang _ | .asked => []

/-- The units that are dropped while in flight. -/
def abandoned : Deed Env Fetch Job → List Nat
  | .turned _ _ p turn =>
    (p.running.map (·.1)).filter fun n => n ∉ turn.poller.running.map (·.1)
  | .worked .. | .rang _ | .asked => []

end Deed

/-- The units that have been handed over, in order, with their numbers. -/
def handed (deeds : List (Deed Env Fetch Job)) : List (Nat × Job) := deeds.filterMap Deed.handed?

/-- The units that have come to their end, in order, with their results. -/
def endings (deeds : List (Deed Env Fetch Job)) : List (Nat × UnitResult) :=
  deeds.filterMap Deed.ending?

/-- The results that the loop has looked at, in order. -/
def settled (deeds : List (Deed Env Fetch Job)) : List UnitResult := deeds.flatMap Deed.settled

/-- The units that were dropped while in flight. -/
def abandoned (deeds : List (Deed Env Fetch Job)) : List Nat := deeds.flatMap Deed.abandoned

variable {src : PollSource Env Fetch Job} {s : PollerSettings} {deeds : List (Deed Env Fetch Job)}
  {p p' : Poller Fetch Job} {deed : Deed Env Fetch Job}

theorem handed_concat (deeds : List (Deed Env Fetch Job)) (deed : Deed Env Fetch Job) :
    handed (deeds ++ [deed]) = handed deeds ++ deed.handed?.toList := by
  cases h : deed.handed? <;> simp [handed, h]

theorem endings_concat (deeds : List (Deed Env Fetch Job)) (deed : Deed Env Fetch Job) :
    endings (deeds ++ [deed]) = endings deeds ++ deed.ending?.toList := by
  cases h : deed.ending? <;> simp [endings, h]

theorem settled_concat (deeds : List (Deed Env Fetch Job)) (deed : Deed Env Fetch Job) :
    settled (deeds ++ [deed]) = settled deeds ++ deed.settled := by
  simp [settled]

theorem abandoned_concat (deeds : List (Deed Env Fetch Job)) (deed : Deed Env Fetch Job) :
    abandoned (deeds ++ [deed]) = abandoned deeds ++ deed.abandoned := by
  simp [abandoned]

/-! ### What is handed over -/

/-- **Every unit that a poll gives is handed over once, in order.** -/
theorem Run.handed_eq (h : Run src s deeds p) :
    handed deeds = (polled src deeds).mapIdx Prod.mk := by
  induction h with
  | start => rfl
  | @turn deeds p hrun now env ih =>
      obtain ⟨hnumbered, htaken, -, -⟩ := hrun.tracks
      obtain ⟨env', -, heffect⟩ := turn_effect (s := s) now env p
      rw [handed_concat, polled_concat, ih]
      cases hjob : p.polled? src now env with
      | none =>
          rw [hjob] at heffect
          have hnone : (p.turn src s now env).spawned = none := by
            cases heffect with
            | keeps hkeeps => exact hkeeps.2.2.2.2
            | aborts haborts => exact haborts.2.2.2.2
          simp [Deed.handed?, Deed.polled?, hnone, hjob]
      | some job =>
          rw [hjob] at heffect
          cases heffect with
          | takesUp htakes =>
              obtain ⟨-, hrunning, -, -, hspawned⟩ := htakes
              have hnew : p.running.find? (·.1 = p.taken) = none := by
                refine List.find?_eq_none.mpr fun x hx => ?_
                have hlt := hnumbered.lt x (mem_units.mpr (.inl hx))
                simpa using Nat.ne_of_lt hlt
              simp [Deed.handed?, Deed.polled?, hspawned, hrunning, hnew, hjob, ← htaken]
  | work hrun halive hturn ih | ring hrun hring ih | ask hrun ih =>
      rw [handed_concat, polled_concat, ih]
      simp [Deed.handed?, Deed.polled?]

/-! ### The books -/

/-- The books of a run: each unit that has been taken up has ended, has been abandoned or is in
flight, and each result has been looked at or waits for the loop.  What has ended has ended as its
own steps say, and only abandoned units leave something behind. -/
structure Ledger (src : PollSource Env Fetch Job) (deeds : List (Deed Env Fetch Job))
    (p : Poller Fetch Job) : Prop where
  numbers : (List.range p.taken).Perm
    ((endings deeds).map (·.1) ++ (abandoned deeds ++ p.running.map (·.1)))
  results : (endings deeds).map (·.2) = settled deeds ++ p.finished
  strays : ∀ x ∈ p.strays, x.1 ∈ abandoned deeds
  works : ∀ n result, (n, result) ∈ endings deeds → ∃ job progress,
    (polled src deeds)[n]? = some job ∧ src.Works job (strides n deeds) progress ∧
      progress.result? src.kind = some result

namespace Ledger

theorem start : Ledger src ([] : List (Deed Env Fetch Job)) .fresh where
  numbers := List.Perm.refl _
  results := rfl
  strays := fun _ h => nomatch h
  works := fun _ _ h => nomatch h

/-- A unit that has ended or has been abandoned is not in flight. -/
theorem nodup (h : Ledger src deeds p) :
    ((endings deeds).map (·.1) ++ (abandoned deeds ++ p.running.map (·.1))).Nodup :=
  h.numbers.nodup_iff.mp List.nodup_range

/-- No unit that has ended makes another step. -/
theorem ne_of_mem_units (h : Ledger src deeds p) {n : Nat} {job : Job} (hjob : (n, job) ∈ p.units)
    {m : Nat} {result : UnitResult} (hending : (m, result) ∈ endings deeds) : n ≠ m := by
  have hdisjoint := (List.nodup_append.mp h.nodup).2.2 m (List.mem_map_of_mem hending) n
  rcases mem_units.mp hjob with hrunning | hstray
  · exact (hdisjoint (List.mem_append_right _ (List.mem_map_of_mem hrunning))).symm
  · exact (hdisjoint (List.mem_append_left _ (h.strays _ hstray))).symm

/-- The steps of units that have ended stay as they are. -/
theorem works_concat (h : Ledger src deeds p)
    (hstride : ∀ n result, (n, result) ∈ endings deeds → deed.stride? n = none) (n : Nat)
    (result : UnitResult) (hending : (n, result) ∈ endings deeds) :
    ∃ job progress, (polled src (deeds ++ [deed]))[n]? = some job ∧
      src.Works job (strides n (deeds ++ [deed])) progress ∧
        progress.result? src.kind = some result := by
  obtain ⟨job, progress, hjob, hworks, hresult⟩ := h.works n result hending
  obtain ⟨hlt, -⟩ := List.getElem?_eq_some_iff.mp hjob
  refine ⟨job, progress, ?_, ?_, hresult⟩
  · rw [polled_concat, List.getElem?_append_left hlt, hjob]
  · rw [strides_concat_of_none (hstride n result hending)]
    exact hworks

/-- What concerns neither units nor their results. -/
theorem keep (h : Ledger src deeds p) (hending : deed.ending? = none) (hsettled : deed.settled = [])
    (habandoned : deed.abandoned = []) (hstride : ∀ n, deed.stride? n = none)
    (hrunning : p'.running = p.running) (hfinished : p'.finished = p.finished)
    (hstrays : p'.strays = p.strays) (htaken : p'.taken = p.taken) :
    Ledger src (deeds ++ [deed]) p' := by
  have hendings : endings (deeds ++ [deed]) = endings deeds := by
    rw [endings_concat, hending, Option.toList_none, List.append_nil]
  have habandons : abandoned (deeds ++ [deed]) = abandoned deeds := by
    rw [abandoned_concat, habandoned, List.append_nil]
  refine ⟨?_, ?_, ?_, ?_⟩
  · rw [htaken, hendings, habandons, hrunning]
    exact h.numbers
  · rw [hendings, settled_concat, hsettled, List.append_nil, hfinished]
    exact h.results
  · rw [hstrays, habandons]
    exact h.strays
  · rw [hendings]
    exact h.works_concat fun n _ _ => hstride n

end Ledger

/-! ### Turns of the loop -/

/-- The loop only takes results off. -/
theorem Move.finished_suffix {now : Time} {env : Env} {alarms : List (Alarm × Nat)}
    {notices : List Notice} (h : Move src s now env p p' alarms notices) :
    p'.finished <:+ p.finished := by
  have hleft {result : UnitResult} {shown : List Activity} {finished : List UnitResult}
      (hleaves : Leaves src s now env p result shown finished) : finished <:+ p.finished := by
    cases hleaves with
    | unit hstage hfinished => exact hfinished ▸ List.suffix_cons _ _
    | stop | nothing | failure => exact List.suffix_refl _
  cases h with
  | settles hstage hfinished => exact hfinished ▸ List.suffix_cons _ _
  | leaves hleaves | ends hleaves => exact hleft hleaves
  | waits | opens | breaks | asks | polls | releases | takesUp | resumes | drains | givesUp
  | limits => exact List.suffix_refl _

/-- What the loop looks at is what it takes off. -/
theorem settled_turned {now : Time} {env : Env} {turn : Turn Env Fetch Job}
    (h : turn.poller.finished <:+ p.finished) :
    p.finished = Deed.settled (.turned now env p turn) ++ turn.poller.finished := by
  obtain ⟨looked, hlooked⟩ := h
  simp [Deed.settled, ← hlooked]

/-- A turn that keeps the units in flight abandons none. -/
theorem abandoned_turned_of_subset {now : Time} {env : Env} {turn : Turn Env Fetch Job}
    (h : p.running ⊆ turn.poller.running) :
    Deed.abandoned (.turned now env p turn) = [] := by
  refine List.filter_eq_nil_iff.mpr fun n hn => ?_
  obtain ⟨x, hx, rfl⟩ := List.mem_map.mp hn
  simpa using ⟨x.2, h hx⟩

/-- A turn after which no unit is in flight abandons all that were. -/
theorem abandoned_turned_of_eq_nil {now : Time} {env : Env} {turn : Turn Env Fetch Job}
    (h : turn.poller.running = []) :
    Deed.abandoned (.turned now env p turn) = p.running.map (·.1) := by
  refine List.filter_eq_self.mpr fun n _ => ?_
  simp [h]

theorem abandoned_concat_of_subset {now : Time} {env : Env} {turn : Turn Env Fetch Job}
    (h : p.running ⊆ turn.poller.running) :
    abandoned (deeds ++ [.turned now env p turn]) = abandoned deeds := by
  rw [abandoned_concat, abandoned_turned_of_subset h, List.append_nil]

theorem abandoned_concat_of_eq_nil {now : Time} {env : Env} {turn : Turn Env Fetch Job}
    (h : turn.poller.running = []) :
    abandoned (deeds ++ [.turned now env p turn]) = abandoned deeds ++ p.running.map (·.1) := by
  rw [abandoned_concat, abandoned_turned_of_eq_nil h]

/-- What goes on of aborted units bears their numbers. -/
theorem exists_of_mem_abort_strays {x : Nat × Job} (h : x ∈ (p.abort src).strays) :
    x ∈ p.strays ∨ x.1 ∈ p.running.map (·.1) := by
  rw [Poller.abort, List.mem_append, List.mem_filterMap] at h
  rcases h with hold | ⟨y, hy, hdetached⟩
  · exact .inl hold
  · obtain ⟨rest, -, rfl⟩ := Option.map_eq_some_iff.mp hdetached
    exact .inr (List.mem_map.mpr ⟨y, hy, rfl⟩)

/-- **A turn of the loop keeps the books.**  A unit that is taken up is entered, those that are
dropped count as abandoned, and a result that is taken off has been looked at. -/
theorem Ledger.turn (h : Ledger src deeds p) (now : Time) (env : Env) :
    Ledger src (deeds ++ [.turned now env p (p.turn src s now env)])
      (p.turn src s now env).poller := by
  obtain ⟨env', -, heffect⟩ := turn_effect (s := s) now env p
  have hsuffix := (turn_move src s now env p).finished_suffix
  generalize p.polled? src now env = job? at heffect
  generalize p.turn src s now env = t at heffect hsuffix ⊢
  have hendings : endings (deeds ++ [.turned now env p t]) = endings deeds := by
    rw [endings_concat]
    exact List.append_nil _
  have hresults : (endings (deeds ++ [.turned now env p t])).map (·.2)
      = settled (deeds ++ [.turned now env p t]) ++ t.poller.finished := by
    rw [hendings, settled_concat, List.append_assoc, ← settled_turned hsuffix]
    exact h.results
  have hstride (n : Nat) : (Deed.turned now env p t).stride? n = none := rfl
  have hworks := h.works_concat fun n _ _ => hstride n
  rw [← hendings] at hworks
  cases heffect with
  | keeps hkeeps =>
      obtain ⟨-, hrunning, hstrays, htaken, -⟩ := hkeeps
      have habandoned : abandoned (deeds ++ [.turned now env p t]) = abandoned deeds :=
        abandoned_concat_of_subset (hrunning ▸ List.Subset.refl _)
      refine ⟨?_, hresults, ?_, hworks⟩
      · rw [htaken, hendings, habandoned, hrunning]
        exact h.numbers
      · rw [hstrays, habandoned]
        exact h.strays
  | aborts haborts =>
      obtain ⟨-, hrunning, hstrays, htaken, -⟩ := haborts
      have habandoned : abandoned (deeds ++ [.turned now env p t])
          = abandoned deeds ++ p.running.map (·.1) := abandoned_concat_of_eq_nil hrunning
      refine ⟨?_, hresults, fun x hx => ?_, hworks⟩
      · rw [htaken, hendings, habandoned, hrunning, List.map_nil, List.append_nil]
        exact h.numbers
      · rw [habandoned]
        rw [hstrays] at hx
        rcases exists_of_mem_abort_strays hx with hold | hnew
        · exact List.mem_append_left _ (h.strays x hold)
        · exact List.mem_append_right _ hnew
  | takesUp htakes =>
      obtain ⟨-, hrunning, hstrays, htaken, -⟩ := htakes
      have habandoned : abandoned (deeds ++ [.turned now env p t]) = abandoned deeds :=
        abandoned_concat_of_subset (hrunning ▸ List.subset_append_left _ _)
      refine ⟨?_, hresults, ?_, hworks⟩
      · rw [htaken, List.range_succ, hendings, habandoned, hrunning, List.map_append,
          List.map_singleton, ← List.append_assoc, ← List.append_assoc,
          List.append_assoc _ _ (p.running.map _)]
        exact h.numbers.append_right _
      · rw [hstrays, habandoned]
        exact h.strays

/-! ### Steps of units -/

/-- The numbers of units are that of one of them and those of the others. -/
theorem perm_cons_filter {n : Nat} {job : Job} {jobs : List (Nat × Job)}
    (hnodup : (jobs.map (·.1)).Nodup) (hjob : (n, job) ∈ jobs) :
    (jobs.map (·.1)).Perm (n :: (jobs.filter (·.1 ≠ n)).map (·.1)) := by
  have hothers : (jobs.filter (·.1 ≠ n)).map (·.1) = (jobs.map (·.1)).erase n := by
    rw [hnodup.erase_eq_filter, List.filter_map]
    congr 1
    refine List.filter_congr fun x _ => ?_
    by_cases hx : x.1 = n <;> simp [hx]
  rw [hothers]
  exact List.perm_cons_erase (List.mem_map.mpr ⟨_, hjob, rfl⟩)

theorem Ledger.nodup_running (h : Ledger src deeds p) : (p.running.map (·.1)).Nodup :=
  (List.nodup_append.mp (List.nodup_append.mp h.nodup).2.1).2.1

/-- The next step of a unit is a step on its own. -/
theorem Tracks.works_step (h : Tracks src deeds p) {now : Time} {env : Env} {n : Nat} {job : Job}
    {turn : UnitTurn Env Fetch Job} (halive : Alive deeds n) (hjob : (n, job) ∈ p.units)
    (hafter : turn.env = (src.process now env job).env) :
    ∃ unit, (polled src (deeds ++ [.worked now env n turn]))[n]? = some unit ∧
      src.Works unit (strides n (deeds ++ [.worked now env n turn]))
        (src.process now env job).progress := by
  have hlt : n < (polled src deeds).length := h.taken ▸ h.numbered.lt _ hjob
  obtain ⟨progress, hworks, hstate⟩ := h.works n _ (List.getElem?_eq_getElem hlt)
  refine ⟨(polled src deeds)[n], ?_, ?_⟩
  · rw [polled_concat, List.getElem?_append_left hlt, List.getElem?_eq_getElem hlt]
  · have hstep := hworks.step (hstate job hjob halive) now env
    rw [strides_concat, Deed.stride?, if_pos rfl, hafter]
    exact hstep

/-- A step after which the loop has a result to look at is the end of its unit. -/
theorem endings_worked {now : Time} {env : Env} {n : Nat} {turn : UnitTurn Env Fetch Job}
    {result : UnitResult} (hnext : turn.next = .finished)
    (hfinished : turn.poller.finished = p.finished ++ [result]) :
    endings (deeds ++ [.worked now env n turn]) = endings deeds ++ [(n, result)] := by
  rw [endings_concat, Deed.ending?, if_pos hnext, hfinished, List.getLast?_concat]
  rfl

/-- A unit comes to its end, as its own steps say. -/
theorem Ledger.over (h : Ledger src deeds p) (htracks : Tracks src deeds p) {now : Time} {env : Env}
    {n : Nat} {job : Job} {result : UnitResult} {turn : UnitTurn Env Fetch Job}
    (halive : Alive deeds n) (hjob : (n, job) ∈ p.running)
    (hresult : (src.process now env job).progress.result? src.kind = some result)
    (hafter : turn.env = (src.process now env job).env) (hnext : turn.next = .finished)
    (hrunning : turn.poller.running = p.running.filter (·.1 ≠ n))
    (hfinished : turn.poller.finished = p.finished ++ [result])
    (hstrays : turn.poller.strays = p.strays) (htaken : turn.poller.taken = p.taken) :
    Ledger src (deeds ++ [.worked now env n turn]) turn.poller := by
  have hunit : (n, job) ∈ p.units := mem_units.mpr (.inl hjob)
  have hendings : endings (deeds ++ [.worked now env n turn]) = endings deeds ++ [(n, result)] :=
    endings_worked hnext hfinished
  have habandoned : abandoned (deeds ++ [.worked now env n turn]) = abandoned deeds := by
    rw [abandoned_concat]
    exact List.append_nil _
  have hsettled : settled (deeds ++ [.worked now env n turn]) = settled deeds := by
    rw [settled_concat]
    exact List.append_nil _
  refine ⟨?_, ?_, ?_, fun m result' hmem => ?_⟩
  · rw [htaken, hendings, habandoned, hrunning, List.map_append, List.map_singleton,
      List.append_assoc]
    refine h.numbers.trans (List.Perm.append_left _ ?_)
    refine ((perm_cons_filter h.nodup_running hjob).append_left _).trans ?_
    exact List.perm_middle
  · rw [hendings, hsettled, List.map_append, h.results, hfinished, List.append_assoc]
    rfl
  · rw [hstrays, habandoned]
    exact h.strays
  · rw [hendings] at hmem
    rcases List.mem_append.mp hmem with hold | hnew
    · refine h.works_concat (fun k result hk => ?_) m result' hold
      exact if_neg (h.ne_of_mem_units hunit hk)
    · cases List.mem_singleton.mp hnew
      obtain ⟨unit, hpolled, hworks⟩ := htracks.works_step halive hunit hafter
      exact ⟨unit, _, hpolled, hworks, hresult⟩

/-- **A step of a unit keeps the books.**  Only a unit that comes to its end, or breaks off, leaves
the units in flight, and its result is the last of those that wait for the loop. -/
theorem Ledger.work (h : Ledger src deeds p) (htracks : Tracks src deeds p) {now : Time} {env : Env}
    {n : Nat} {turn : UnitTurn Env Fetch Job} (halive : Alive deeds n)
    (hturn : p.stepUnit? src now env n = some turn) :
    Ledger src (deeds ++ [.worked now env n turn]) turn.poller := by
  obtain ⟨job, hmem, hafter, -, -, -⟩ := stepUnit_effect htracks.numbered hturn
  have hmove := stepUnit_move hturn
  -- The books of a step after which the unit has not come to its end.
  have hgoes (hnext : turn.next ≠ .finished)
      (hrunning : turn.poller.running.map (·.1) = p.running.map (·.1))
      (hfinished : turn.poller.finished = p.finished)
      (hstrays : ∀ x ∈ turn.poller.strays, ∃ y ∈ p.strays, y.1 = x.1)
      (htaken : turn.poller.taken = p.taken) :
      Ledger src (deeds ++ [.worked now env n turn]) turn.poller := by
    have hendings : endings (deeds ++ [.worked now env n turn]) = endings deeds := by
      rw [endings_concat, Deed.ending?, if_neg hnext]
      exact List.append_nil _
    have habandoned : abandoned (deeds ++ [.worked now env n turn]) = abandoned deeds := by
      rw [abandoned_concat]
      exact List.append_nil _
    have hsettled : settled (deeds ++ [.worked now env n turn]) = settled deeds := by
      rw [settled_concat]
      exact List.append_nil _
    refine ⟨?_, ?_, fun x hx => ?_, ?_⟩
    · rw [htaken, hendings, habandoned, hrunning]
      exact h.numbers
    · rw [hendings, hsettled, hfinished]
      exact h.results
    · obtain ⟨y, hy, heq⟩ := hstrays x hx
      rw [habandoned, ← heq]
      exact h.strays y hy
    · rw [hendings]
      refine h.works_concat fun m result hm => ?_
      exact if_neg (h.ne_of_mem_units hmem hm)
  have hsame (job' : Job) (hjob : (n, job') ∈ p.units) : job' = job :=
    htracks.numbered.unique hjob hmem
  rcases turn with ⟨env', q, notices, next⟩
  dsimp only at hafter hmove hgoes
  cases hmove with
  | done hjob hdone =>
      obtain rfl := hsame _ (mem_units.mpr (.inl hjob))
      exact h.over htracks halive hjob (by rw [hdone]; rfl) hafter rfl rfl rfl rfl rfl
  | crashes hjob hcrash =>
      obtain rfl := hsame _ (mem_units.mpr (.inl hjob))
      exact h.over htracks halive hjob (by rw [hcrash]; rfl) hafter rfl rfl rfl rfl rfl
  | goesOn hjob hstate hnext =>
      exact hgoes hnext (map_fst_replaceJob _ _ _) rfl (fun x hx => ⟨x, hx, rfl⟩) rfl
  | stops hjob => exact hgoes nofun rfl rfl (fun x hx => ⟨x, hx, rfl⟩) rfl
  | strays hjob hstrays hnext => exact hgoes hnext rfl rfl hstrays rfl

/-- **The books of every run balance.** -/
theorem Run.ledger (h : Run src s deeds p) : Ledger src deeds p := by
  induction h with
  | start => exact .start
  | turn hrun now env ih => exact ih.turn now env
  | work hrun halive hturn ih => exact ih.work hrun.tracks halive hturn
  | ring hrun hring ih =>
      cases ring_move hring <;> exact ih.keep rfl rfl rfl (fun _ => rfl) rfl rfl rfl rfl
  | ask hrun ih => exact ih.keep rfl rfl rfl (fun _ => rfl) rfl rfl rfl rfl

end Poller

end DurableWorkflow
