import DurableWorkflow.Proofs.Retry.Entries

/-!
# The retries of a run

Over any number of cycles, of which any may come to nothing, and with any number of tasks failing at
once, the schedules, the retry timers and the counting marker of every task stay in step.

## Main Definitions

* `Run.Action.EndsAnew`: what may happen to a run: no schedule is closed twice, and no timer fires
  twice.
* `Run.Accounted`: the books of a run are in order.
* `RetriesAccounted`: how the accounts of a task stand between cycles.

## Main Statements

* `Run.Accounted.step`: every step keeps the books in order.
* `Reaches.retries_accounted`: the accounts of all tasks between cycles.
-/

namespace DurableWorkflow

/-! ### What may happen -/

/-- Whether an occurrence ends nothing that has ended, and writes nothing that decisions write. -/
def Occurrence.EndsAnew (r : Recorder) : Occurrence → Prop
  | .taskStarted _ | .signal .. => True
  | .taskCompleted taskId _ | .taskFailed taskId .. | .taskTimedOut taskId _ =>
    ∀ id, r.scheduledId taskId = .ok id → id ∉ r.events.filterMap (·.attributes.closed?)
  | .timerFired timerId =>
    ∀ id, r.startedId timerId = .ok id → id ∉ r.events.filterMap (·.attributes.fired?)
  | .timerStarted .. | .marker .. | .raw _ => False

/-- Whether a step ends nothing that has ended, and writes nothing that decisions write. -/
def Run.Action.EndsAnew (s : Run) : Run.Action → Prop
  | .occur o => o.EndsAnew s.recorder
  | .begin | .decide | .apply _ => True

/-- What is asked of a value, if there is one, can be decided. -/
instance decidableForallOk {ε α : Type} (x : Except ε α) (p : α → Prop) [DecidablePred p] :
    Decidable (∀ a, x = .ok a → p a) :=
  match x with
  | .ok a => decidable_of_iff (p a) ⟨fun h _ hb => Except.ok.inj hb ▸ h, fun h => h a rfl⟩
  | .error _ => isTrue nofun

instance (r : Recorder) : DecidablePred (Occurrence.EndsAnew r)
  | .taskStarted _ | .signal .. => inferInstanceAs (Decidable True)
  | .taskCompleted taskId _ | .taskFailed taskId .. | .taskTimedOut taskId _ =>
    inferInstanceAs (Decidable (∀ id, r.scheduledId taskId = .ok id →
      id ∉ r.events.filterMap (·.attributes.closed?)))
  | .timerFired timerId =>
    inferInstanceAs (Decidable (∀ id, r.startedId timerId = .ok id →
      id ∉ r.events.filterMap (·.attributes.fired?)))
  | .timerStarted .. | .marker .. | .raw _ => inferInstanceAs (Decidable False)

instance (s : Run) : DecidablePred (Run.Action.EndsAnew s)
  | .occur o => inferInstanceAs (Decidable (o.EndsAnew s.recorder))
  | .begin | .decide | .apply _ => inferInstanceAs (Decidable True)

theorem Run.Action.EndsAnew.leavesRetries {s : Run} {a : Run.Action} (h : a.EndsAnew s) :
    a.LeavesRetries := by
  cases a with
  | occur o =>
      cases o with
      | timerStarted | marker | raw => exact h.elim
      | taskStarted | taskCompleted | taskFailed | taskTimedOut | timerFired | signal => trivial
  | begin | decide | apply => trivial

/-- What occurs is for no ledger, and ends nothing that has ended. -/
theorem Occurrence.record_endsOnce {o : Occurrence} {r r' : Recorder} (hends : o.EndsAnew r)
    (honce : EndsOnce r.events) (h : o.record r = .ok r') :
    ∃ a, r' = r.push a ∧ a.isBooked = false ∧ EndsOnce (r.push a).events := by
  have hclosing {a : Attributes} {id : Int} (ha : a.closed? = some id) (hfired : a.fired? = none)
      (hnew : id ∉ r.events.filterMap (·.attributes.closed?)) : EndsOnce (r.push a).events := by
    refine honce.cons (fun id' hid => ?_) fun id' hid => ?_
    · obtain rfl : id' = id := Option.some.inj (hid.symm.trans ha)
      exact hnew
    · rw [hfired] at hid
      cases hid
  cases o with
  | taskStarted =>
      obtain ⟨id, -, rfl⟩ := exists_of_map_eq_ok h
      exact ⟨_, rfl, rfl, honce.cons_of_none ⟨rfl, rfl⟩⟩
  | taskCompleted | taskFailed | taskTimedOut =>
      obtain ⟨id, hid, rfl⟩ := exists_of_map_eq_ok h
      exact ⟨_, rfl, rfl, hclosing rfl rfl (hends id hid)⟩
  | timerFired =>
      obtain ⟨id, hid, rfl⟩ := exists_of_map_eq_ok h
      refine ⟨_, rfl, rfl, honce.cons nofun fun id' hid' => ?_⟩
      cases hid'
      exact hends id hid
  | signal =>
      cases h
      exact ⟨_, rfl, rfl, honce.cons_of_none ⟨rfl, rfl⟩⟩
  | timerStarted | marker | raw => exact hends.elim

/-! ### The books of a run -/

namespace Run

/-- The books of a run are in order. -/
structure Accounted (policies : RetryPolicies) (s : Run) : Prop where
  sound : s.Sound
  endsOnce : EndsOnce s.recorder.events
  books : Books policies s.recorder.events s.pending s.horizon s.fresh

variable {policies : RetryPolicies} {reg : Registry} {s t : Run} {a : Action}

theorem accounted_start (workflowType : WorkflowType) (input : Option String) {fresh : FreshTexts}
    (hfresh : fresh.Distinct) : Accounted policies (start workflowType input fresh) where
  sound := sound_start workflowType input fresh
  endsOnce := ⟨List.nodup_nil, List.nodup_nil⟩
  books := .of_ledger_nil hfresh rfl _

theorem accounted_empty (workflowType : WorkflowType) {fresh : FreshTexts}
    (hfresh : fresh.Distinct) : Accounted policies (empty workflowType fresh) where
  sound := sound_empty workflowType fresh
  endsOnce := .nil
  books := .of_ledger_nil hfresh rfl _

/-- The books of a run without pending decisions are kept up to what it has decided on. -/
theorem Accounted.books_of_phase (h : Accounted policies s)
    (hphase : ∀ batch, s.phase ≠ .decided batch) :
    Books policies s.recorder.events [] s.recorder.previousStartedEventId s.fresh := by
  have hbooks := h.books
  unfold pending horizon at hbooks
  split at hbooks
  · next batch hdecided => exact (hphase batch hdecided).elim
  · exact hbooks

/-- An event that comes, be it of a pending decision, leaves the books as they are. -/
theorem books_push {r : Recorder} {x : Attributes} {pending rest : DecisionBatch} {n : Int}
    {fresh : FreshTexts} (h : Books policies r.events pending n fresh) (hrest : rest ⊆ pending)
    (hledger : ledger (r.push x).events rest = ledger r.events pending)
    (hnumbered : Numbered r.events) (hjustified : ∀ e ∈ r.events, e.attributes.Justified r.events)
    (hn : n ≤ r.lastId) : Books policies (r.push x).events rest n fresh :=
  h.grow hrest hledger hnumbered hjustified (Int.lt_succ r.lastId) hn

/-- Recording the decisions of a cycle keeps the books. -/
theorem Accounted.record (h : Accounted policies s) {rejection : Option String}
    {batch : DecisionBatch} {r : Recorder} (hphase : s.phase = .decided batch)
    (happly : s.recorder.apply rejection batch = (r, none)) :
    EndsOnce r.events ∧
      Books policies r.events [] s.recorder.workflow.decisionStartedEventId s.fresh := by
  have hpending : s.pending = batch := by rw [pending, hphase]
  have hhorizon : s.horizon = s.recorder.workflow.decisionStartedEventId := by rw [horizon, hphase]
  have hbooks := h.books
  have hjustified := h.sound.pending
  rw [hpending] at hbooks hjustified
  rw [hhorizon] at hbooks
  -- The ledger stays the same while decisions become events; only the history grows.
  have hall := Recorder.apply_induction
    (motive := fun r rest => (Numbered r.events ∧ EndsOnce r.events ∧
        s.recorder.workflow.decisionStartedEventId ≤ r.lastId) ∧
      ((∀ e ∈ r.events, e.attributes.Justified r.events) ∧ ∀ x ∈ rest, x.Justified r.events) ∧
      Books policies r.events rest s.recorder.workflow.decisionStartedEventId s.fresh)
    ?_ ?_ happly
  · exact ⟨hall.1.2.1, hall.2.2⟩
  · have hnumbered := h.sound.orderly.numbered
    have hstarted := h.sound.orderly.started_le
    refine ⟨⟨⟨rfl, hnumbered⟩, h.endsOnce.cons_of_none ⟨rfl, rfl⟩, ?_⟩,
      ⟨justified_cons h.sound.justified trivial,
        fun x hx => (hjustified x hx).mono (List.subset_cons_self ..)⟩,
      books_push hbooks (List.Subset.refl _) (ledger_cons rfl ..) hnumbered h.sound.justified
        hstarted⟩
    exact Int.le_trans hstarted (Int.le_of_lt (Int.lt_succ _))
  · rintro r x rest a ha ⟨⟨hnumbered, honce, hle⟩, hjustified, hbooks⟩
    refine ⟨⟨Recorder.numbered_push hnumbered a, honce.cons_of_none (Recorder.consequence_refs ha),
      ?_⟩, Recorder.record_justified ha hjustified,
      books_push hbooks (List.subset_cons_self ..) (ledger_record ha rest) hnumbered hjustified.1
        hle⟩
    rw [Recorder.lastId_push]
    omega

/-- **Every step keeps the books of a run in order.** -/
theorem Accounted.step (h : Accounted reg.policies s) (hleaves : reg.LeavesRetries)
    (hbound : ∀ t, (reg.policies.policyFor t).maxAttempts.toNat + 1 < UInt32.size)
    (hends : a.EndsAnew s) (hstep : Step reg s a t) (hfits : t.fits)
    (hdistinct : t.fresh.Distinct) : Accounted reg.policies t := by
  have ht := h.sound.step hleaves hends.leavesRetries hstep hfits
  have hnumbered := h.sound.orderly.numbered
  have hjustified := h.sound.justified
  cases hstep with
  | occur hphase hrecord =>
      obtain ⟨a, rfl, hbooked, honce⟩ := Occurrence.record_endsOnce hends h.endsOnce hrecord
      exact ⟨ht, honce, books_push h.books (List.Subset.refl _) (ledger_cons hbooked ..) hnumbered
        hjustified h.sound.orderly.horizon_le⟩
  | begin hphase =>
      have hbooks := h.books_of_phase (by rw [hphase]; nofun)
      have hle := Int.le_trans h.sound.orderly.previous_le h.sound.orderly.started_le
      refine ⟨ht, (h.endsOnce.cons_of_none ⟨rfl, rfl⟩).cons_of_none ⟨rfl, rfl⟩, ?_⟩
      refine books_push (r := s.recorder.push _) (books_push hbooks (List.Subset.refl _)
        (ledger_cons rfl ..) hnumbered hjustified hle) (List.Subset.refl _) (ledger_cons rfl ..)
        (Recorder.numbered_push hnumbered _) (justified_cons hjustified trivial) ?_
      exact Int.le_trans hle (Int.le_of_lt (Int.lt_succ _))
  | @decide log batch hphase hlog hcycle =>
      obtain rfl := Recorder.log_ok hnumbered hlog
      have hbooks := h.books_of_phase (by rw [hphase]; nofun)
      obtain ⟨d, rfl, hfresh, hd⟩ := Registry.cycle_induction
        (motive := fun n d => d.fresh.Distinct →
          Books reg.policies s.recorder.events d.decisions n d.fresh) hcycle
        hnumbered h.sound.orderly.previous_nonneg
        (Int.le_trans h.sound.orderly.previous_le h.sound.orderly.started_le)
        (fun e he n d d' ctx hstart hid hctx heffect hd hdistinct =>
          hbooks.visit h.sound.history h.endsOnce hbound hleaves he hstart hid hctx heffect
            hdistinct (hd (hdistinct.of_later heffect.later)))
        (fun _ => hbooks)
      refine ⟨ht, h.endsOnce, ?_⟩
      -- The decision task is about all events, so the clock of the cycle ends at its start.
      have hlast := (h.sound.orderly.started_eq hphase).1
      simp only [pending, horizon, hlast, hfresh] at hdistinct ⊢
      exact hd hdistinct
  | giveUp hphase hfresh =>
      exact ⟨ht, h.endsOnce, (h.books_of_phase (by rw [hphase]; nofun)).later hfresh hdistinct⟩
  | apply hphase happly =>
      obtain ⟨honce, hbooks⟩ := h.record hphase happly
      refine ⟨ht, honce, ?_⟩
      rw [← (Recorder.apply_frame happly hnumbered).2.2.2.1] at hbooks
      exact hbooks

end Run

/-! ### Between cycles -/

/-- How the accounts of a task stand in the log of a run, up to the last event decided on. -/
structure RetriesAccounted (policies : RetryPolicies) (log : EventLog) (x : Scheduling) : Prop where
  /-- Every schedule of the task repeats the same one. -/
  same : ∀ e ∈ log.events, e.attributes.schedules x.taskId = true → e.attributes = x.attributes
  /-- The task has been scheduled once, and once more for every firing of its retry timer that has
  been decided on. -/
  schedules : log.events.countP (fun e => e.attributes.schedules x.taskId)
    = 1 + countUpTo log.events log.previousStartedEventId fun e => e.attributes.fires x.timerId
  /-- The markers have counted those firings one by one. -/
  markers : log.events.filterMap (fun e => e.attributes.recorded? x.markerName)
    = tally (countUpTo log.events log.previousStartedEventId fun e => e.attributes.fires x.timerId)
  /-- The count that is read is that of the schedules but the first. -/
  retries : ∃ retries : RetryCount, log.retryCount x.markerName = .ok retries ∧
    log.events.countP (fun e => e.attributes.schedules x.taskId) = 1 + retries.toNat
  /-- There are not more retries than the policy allows. -/
  bounded : log.events.countP (fun e => e.attributes.schedules x.taskId)
    ≤ 1 + (policies.policyFor x.taskType).maxAttempts.toNat
  /-- A retry timer has been started for every failure decided on, as far as the policy allows. -/
  timers : log.events.countP (fun e => e.attributes.starts x.timerId)
    = min (countUpTo log.events log.previousStartedEventId (fails log.events x.taskId))
      (policies.policyFor x.taskType).maxAttempts.toNat
  /-- At most one of these timers is running, or has fired without having been decided on. -/
  running : log.events.countP (fun e => e.attributes.starts x.timerId)
    ≤ 1 + countUpTo log.events log.previousStartedEventId fun e => e.attributes.fires x.timerId
  /-- No timer fires without having been started. -/
  fired : log.events.countP (fun e => e.attributes.fires x.timerId)
    ≤ log.events.countP fun e => e.attributes.starts x.timerId

/-- An account in books without pending decisions is how the accounts stand. -/
theorem Account.retriesAccounted {policies : RetryPolicies} {log : EventLog} {x : Scheduling}
    (h : Account policies log.events (ledger log.events []) log.previousStartedEventId x)
    (hsound : SoundHistory log.events) (honce : EndsOnce log.events)
    (hbound : (policies.policyFor x.taskType).maxAttempts.toNat + 1 < UInt32.size) :
    RetriesAccounted policies log x := by
  have hschedules := h.schedules
  rw [countP_ledger_nil fun _ => Attributes.isBooked_of_schedules] at hschedules
  have hle := h.retries_le hsound honce
  refine ⟨fun e he hscheduled => ?_, hschedules, ?_, ⟨_, h.retryCount, ?_⟩, ?_, h.countP_starts, ?_,
    countP_fires_le hsound honce _⟩
  · obtain ⟨y, hy, htask⟩ := Attributes.schedules_iff.mp hscheduled
    rw [hy, h.same y (Scheduling.mem_ledger he hy []) htask]
  · rw [← filterMap_recorded?_ledger_nil, h.counted]
  · rw [hschedules, UInt32.toNat_ofNat_of_lt' (by omega)]
  · rw [hschedules]
    exact Nat.add_le_add_left hle 1
  · rw [h.countP_starts]
    have hfails := h.countP_fails_le honce
    have hsome := countUpTo_le log.events log.previousStartedEventId (fails log.events x.taskId)
    omega

/-- **The retries of a run are accounted for.**  Take any registry whose handlers leave the names
that belong to retries alone, and any run of it, whatever the order of its steps, in which no
schedule of a task is closed twice and no timer fires twice.  In every state without pending
decisions the accounts of every task that has been scheduled are in order. -/
theorem Reaches.retries_accounted {reg : Registry} {s t : Run} {workflowType : WorkflowType}
    {input : Option String} {fresh : FreshTexts}
    (hbound : ∀ u, (reg.policies.policyFor u).maxAttempts.toNat + 1 < UInt32.size)
    (hleaves : reg.LeavesRetries)
    (hs : s = .start workflowType input fresh ∨ s = .empty workflowType fresh)
    (h : Reaches reg (fun s a => a.EndsAnew s) s t) (hfresh : t.fresh.Distinct)
    (hphase : ∀ batch, t.phase ≠ .decided batch) {e : Event} (he : e ∈ t.recorder.events)
    {x : Scheduling} (hx : e.attributes = x.attributes) :
    ∃ log, t.recorder.log = .ok log ∧ RetriesAccounted reg.policies log x := by
  have hstart (hdistinct : s.fresh.Distinct) : s.Accounted reg.policies := by
    rcases hs with rfl | rfl
    · exact Run.accounted_start workflowType input hdistinct
    · exact Run.accounted_empty workflowType hdistinct
  have ht := h.induction (motive := fun s => s.fresh.Distinct → s.Accounted reg.policies)
    (fun _ _ _ hends hstep hfits ht hdistinct =>
      (ht (hdistinct.of_later hstep.later)).step hleaves hbound hends hstep hfits hdistinct)
    hstart hfresh
  refine ⟨_, ht.sound.log_total (List.ne_nil_of_mem he), ?_⟩
  have haccount := (ht.books_of_phase hphase).account x (Scheduling.mem_ledger he hx [])
  exact haccount.retriesAccounted ht.sound.history ht.endsOnce (hbound _)

/-- The accounts of a task that has been tried again once. -/
theorem Reaches.retries_accounted_oneRetry :
    ∃ t, Run.oneTask.steps? .oneTask (fun s a => a.EndsAnew s) Run.oneRetry = some t ∧
      ∃ log, t.recorder.log = .ok log ∧
        RetriesAccounted Registry.oneTask.policies log .firstTask := by
  have hrun : (Run.oneTask.steps? .oneTask (fun s a => a.EndsAnew s) Run.oneRetry).any
      (fun t => t.phase = .waiting ∧ t.fresh.next = 1 ∧
        ∃ e ∈ t.recorder.events, e.attributes = Scheduling.firstTask.attributes) = true := by
    decide +kernel
  obtain ⟨t, ht, hend⟩ := (Option.any_eq_true ..).mp hrun
  obtain ⟨hphase, hnext, e, he, hx⟩ := of_decide_eq_true hend
  have hfresh : t.fresh.Distinct := by
    constructor <;> intro i hi j hj <;> rw [hnext] at hi hj
    · rw [Nat.lt_one_iff.mp hi, Nat.lt_one_iff.mp hj]
    · intro _
      omega
  have hbound : ∀ u, (Registry.oneTask.policies.policyFor u).maxAttempts.toNat + 1 < UInt32.size :=
    fun _ => show 2 + 1 < UInt32.size by decide
  exact ⟨t, ht, Reaches.retries_accounted hbound Registry.oneTask_leavesRetries (.inl rfl)
    (Reaches.iff_steps?.mpr ⟨_, ht⟩) hfresh (by rw [hphase]; nofun) he hx⟩

end DurableWorkflow
