import DurableWorkflow.Proofs.Retry.Books

/-!
# Entries in the books of retries

Whatever an event leads to in a cycle, it keeps the books.

## Main Definitions

* `Scheduling.New`: the identity of a task comes from the next text of the supply.

## Main Statements

* `Books.schedule`: a task that is scheduled under a new identity opens an account.
* `Books.run`: what a handler does keeps the books.
* `Books.visit`: so does every visit of a cycle.
-/

namespace DurableWorkflow

/-- The identity of a task comes from the next text, and that is a new one. -/
structure Scheduling.New (z : Scheduling) (fresh : FreshTexts) : Prop where
  taskId_eq : z.taskId = freshTaskId z.taskType fresh.head
  distinct : fresh.tail.Distinct

namespace Scheduling.New

variable {z : Scheduling} {fresh : FreshTexts} {j : Nat}

theorem endsApart (hz : z.New fresh) (hj : j < fresh.next) :
    EndsApart (fresh.text j) fresh.head :=
  .of_length_eq
    (hz.distinct.length_eq j (Nat.lt_succ_of_lt hj) fresh.next (Nat.lt_succ_self _))

theorem ne_text (hz : z.New fresh) (hj : j < fresh.next) {t : TaskType} :
    freshTaskId t (fresh.text j) ≠ freshTaskId z.taskType fresh.head := fun htask =>
  Nat.ne_of_lt hj (hz.distinct.injective j (Nat.lt_succ_of_lt hj) fresh.next (Nat.lt_succ_self _)
    (freshTaskId_inj (hz.endsApart hj) htask).2)

end Scheduling.New

namespace Books

variable {policies : RetryPolicies} {events : List Event} {pending : DecisionBatch} {n : Int}
  {fresh : FreshTexts} {x y z : Scheduling} {e : Event}

/-! ### Identities that are new -/

/-- No name ends in the type and the next identity. -/
theorem ne_of_new (h : Books policies events pending n fresh) (hz : z.New fresh) (start : String)
    (hx : x.attributes ∈ ledger events pending) :
    start ++ x.taskType.name ++ ":" ++ x.taskId ≠ start ++ z.taskType.name ++ ":" ++ z.taskId := by
  obtain ⟨j, hj, hid⟩ := h.generated x hx
  intro hname
  rw [hid, hz.taskId_eq] at hname
  exact hz.ne_text hj (named_inj start (hz.endsApart hj) hname)

theorem taskId_ne_of_new (h : Books policies events pending n fresh) (hz : z.New fresh)
    (hx : x.attributes ∈ ledger events pending) : x.taskId ≠ z.taskId := by
  obtain ⟨j, hj, hid⟩ := h.generated x hx
  intro htask
  rw [hid, hz.taskId_eq] at htask
  exact hz.ne_text hj htask

/-- All that is in the ledger is borne out. -/
theorem ledger_justified (h : Books policies events pending n fresh)
    (hsound : SoundHistory events) :
    ∀ a ∈ ledger events pending, a.Justified events := by
  intro a ha
  rcases List.mem_append.mp ha with ha | ha
  · obtain ⟨x, hx, hxa⟩ := List.mem_filterMap.mp (List.mem_reverse.mp ha)
    exact h.justified x hx a hxa
  · obtain ⟨e, he, rfl⟩ := List.mem_map.mp (List.mem_filter.mp ha).1
    exact hsound.justified e he

theorem starts_of_new (h : Books policies events pending n fresh) (hsound : SoundHistory events)
    (hz : z.New fresh) :
    ∀ a ∈ ledger events pending, a.starts z.timerId = false := by
  intro a ha
  refine Bool.eq_false_iff.mpr fun hstarts => ?_
  obtain ⟨delay, control, rfl⟩ := Attributes.starts_iff.mp hstarts
  obtain ⟨s, hs, x, hx, htimer, -⟩ := h.ledger_justified hsound _ ha z.isRetryTimer_timerId
  exact h.ne_of_new hz retryTimerPrefix (Scheduling.mem_ledger hs hx pending) htimer.symm

theorem recorded?_of_new (h : Books policies events pending n fresh)
    (hsound : SoundHistory events) (hz : z.New fresh) :
    ∀ a ∈ ledger events pending, a.recorded? z.markerName = none := by
  intro a ha
  cases a <;> try rfl
  case markerRecorded name details =>
    by_cases hname : name = z.markerName
    · subst hname
      obtain ⟨⟨s, hs, x, hx, hmarker⟩, -⟩ :=
        h.ledger_justified hsound _ ha z.isRetryMarker_markerName
      exact (h.ne_of_new hz retryMarkerPrefix (Scheduling.mem_ledger hs hx pending)
        hmarker.symm).elim
    · exact if_neg hname

theorem fires_of_new (h : Books policies events pending n fresh) (hsound : SoundHistory events)
    (hz : z.New fresh) :
    ∀ e ∈ events, e.attributes.fires z.timerId = false := by
  intro e he
  refine Bool.eq_false_iff.mpr fun hfires => ?_
  obtain ⟨id, hattr⟩ := Attributes.fires_iff.mp hfires
  have hjustified := hsound.justified e he
  rw [hattr] at hjustified
  obtain ⟨s, hs, -, hstarts⟩ := hjustified
  have hledger := mem_ledger hs (Attributes.isBooked_of_starts hstarts) pending
  rw [h.starts_of_new hsound hz _ hledger] at hstarts
  cases hstarts

/-- A task with a new identity has the account of a task that has never failed. -/
theorem account_of_new (h : Books policies events pending n fresh) (hsound : SoundHistory events)
    (hz : z.New fresh) :
    Account policies events (z.attributes :: ledger events pending) n z := by
  have hstarts : (z.attributes :: ledger events pending).countP (·.starts z.timerId) = 0 := by
    refine List.countP_eq_zero.mpr fun a ha => ?_
    rcases List.mem_cons.mp ha with rfl | ha
    · exact Bool.false_ne_true
    · simp [h.starts_of_new hsound hz a ha]
  have hfires : countUpTo events n (fun e => e.attributes.fires z.timerId) = 0 := by
    refine List.countP_eq_zero.mpr fun e he => ?_
    simp [h.fires_of_new hsound hz e he]
  have hschedules : (ledger events pending).countP (·.schedules z.taskId) = 0 := by
    refine List.countP_eq_zero.mpr fun a ha hschedules => ?_
    obtain ⟨x, rfl, htask⟩ := Attributes.schedules_iff.mp hschedules
    exact h.taskId_ne_of_new hz ha htask
  have hfails : countUpTo events n (fails events z.taskId) = 0 := by
    refine List.countP_eq_zero.mpr fun e _ he => ?_
    obtain ⟨s, hs, hscheduled, -⟩ := fails_iff.mp (Bool.and_eq_true_iff.mp he).1
    obtain ⟨x, hx, htask⟩ := Attributes.schedules_iff.mp hscheduled
    exact h.taskId_ne_of_new hz (Scheduling.mem_ledger hs hx pending) htask
  have hone : z.attributes.schedules z.taskId = true := Attributes.schedules_iff.mpr ⟨z, rfl, rfl⟩
  -- All counts but that of the schedules are 0, for nobody can have used the names before.
  refine ⟨fun y hy htask => ?_, ?_, ?_, ?_⟩
  · rcases List.mem_cons.mp hy with hy | hy
    · exact Scheduling.attributes_inj hy
    · exact (h.taskId_ne_of_new hz hy htask).elim
  · rw [List.countP_cons_of_pos hone, hschedules, hfires]
  · rw [hstarts, hfails, Nat.zero_min]
  · rw [hfires]
    refine List.filterMap_eq_nil_iff.mpr fun a ha => ?_
    rcases List.mem_cons.mp ha with rfl | ha
    · rfl
    · exact h.recorded?_of_new hsound hz a ha

/-! ### Decisions that handlers make -/

/-- A task that is scheduled under a new identity opens an account, and leaves the others as they
are. -/
theorem schedule (h : Books policies events pending n fresh) (hsound : SoundHistory events)
    (hz : z.New fresh) :
    Books policies events (pending ++ [z.decision]) n fresh.tail := by
  have hledger : ledger events (pending ++ [z.decision]) = z.attributes :: ledger events pending :=
    ledger_append events pending [z.decision]
  have hcases (x : Scheduling) (hx : x.attributes ∈ ledger events (pending ++ [z.decision])) :
      x = z ∨ x.attributes ∈ ledger events pending := by
    rw [hledger] at hx
    exact (List.mem_cons.mp hx).imp_left Scheduling.attributes_inj
  refine ⟨hz.distinct, fun x hx => ?_, fun x hx => ?_, fun x hx => ?_⟩
  · rcases hcases x hx with rfl | hold
    · exact ⟨fresh.next, Nat.lt_succ_self _, hz.taskId_eq⟩
    · exact (h.later fresh.later_tail hz.distinct).generated x hold
  · rcases List.mem_append.mp hx with hx | hx
    · exact h.justified x hx
    · rw [List.mem_singleton.mp hx]
      exact Decision.justified_of_leaves rfl
  · rw [hledger]
    rcases hcases x hx with rfl | hold
    · exact h.account_of_new hsound hz
    · have hforeign : z.attributes.ForeignTo x := by
        refine ⟨?_, rfl, rfl⟩
        simpa [Attributes.schedules, Scheduling.attributes] using (h.taskId_ne_of_new hz hold).symm
      rw [← List.singleton_append]
      exact (h.account x hold).foreign fun a ha => List.mem_singleton.mp ha ▸ hforeign

/-- Decisions that schedule nothing anew keep the books if they and the clock fit every account. -/
theorem append (h : Books policies events pending n fresh) {m : Int} {more : DecisionBatch}
    (hold : ∀ x : Scheduling, x.attributes ∈ more.filterMap Decision.intended? →
      x.attributes ∈ ledger events pending)
    (hjustified : ∀ x ∈ more, x.Justified events)
    (haccount : ∀ x : Scheduling, x.attributes ∈ ledger events pending →
      Account policies events ((more.filterMap Decision.intended?).reverse ++ ledger events pending)
        m x) :
    Books policies events (pending ++ more) m fresh := by
  have hcases (x : Scheduling) (hx : x.attributes ∈ ledger events (pending ++ more)) :
      x.attributes ∈ ledger events pending := by
    rw [ledger_append] at hx
    rcases List.mem_append.mp hx with hx | hx
    · exact hold x (List.mem_reverse.mp hx)
    · exact hx
  refine ⟨h.distinct, fun x hx => h.generated x (hcases x hx), fun x hx => ?_, fun x hx => ?_⟩
  · exact (List.mem_append.mp hx).elim (h.justified x) (hjustified x)
  · rw [ledger_append]
    exact haccount x (hcases x hx)

/-- Decisions that schedule nothing and leave retries alone leave the books as they are. -/
theorem quiet (h : Books policies events pending n fresh) {more : DecisionBatch}
    (hleaves : ∀ x ∈ more, x.touchesRetries = false)
    (hnew : ∀ x ∈ more, x.schedulesTask = false) :
    Books policies events (pending ++ more) n fresh := by
  have hmore (x : Scheduling) : ∀ a ∈ more.filterMap Decision.intended?, a.ForeignTo x := by
    intro a ha
    obtain ⟨d, hd, hda⟩ := List.mem_filterMap.mp ha
    exact Decision.foreignTo_of_leaves (hleaves d hd) (hnew d hd) hda x
  refine h.append (fun x hx => ?_) (fun x hx => Decision.justified_of_leaves (hleaves x hx))
    fun x hx => (h.account x hx).foreign fun a ha => hmore x a (List.mem_reverse.mp ha)
  have hloud := Attributes.schedules_iff.mpr ⟨x, rfl, rfl⟩
  rw [(hmore x _ hx).schedules] at hloud
  cases hloud

/-- Closing the run leaves the books as they are. -/
theorem close {d : Draft} (h : Books policies events d.decisions n d.fresh)
    (control : CloseControl) :
    Books policies events (d.close control).decisions n (d.close control).fresh :=
  h.quiet (fun x hx => (control.leaves x hx).1) fun x hx => (control.leaves x hx).2

/-- So does cancelling a timer, although a text may be taken from the supply for it. -/
theorem cancelTimer {d : Draft} (h : Books policies events d.decisions n d.fresh)
    (timerId : String) (force : Bool) (hdistinct : (d.cancelTimer timerId force).fresh.Distinct) :
    Books policies events (d.cancelTimer timerId force).decisions n
      (d.cancelTimer timerId force).fresh := by
  have hquiet := h.quiet (fun x hx => (d.cancelling_leaves timerId force x hx).1)
    fun x hx => (d.cancelling_leaves timerId force x hx).2
  rw [Draft.cancelTimer_decisions]
  exact hquiet.later (d.later_cancelTimer timerId force) hdistinct

/-- What a handler does keeps the books. -/
theorem run {d : Draft} (h : Books policies events d.decisions n d.fresh)
    (hsound : SoundHistory events) (p : Plan)
    (hleaves : ∀ x ∈ p.added d, x.touchesRetries = false) (hdistinct : (p.run d).2.fresh.Distinct) :
    Books policies events (p.run d).2.decisions n (p.run d).2.fresh := by
  have hone {d : Draft} (hd : Books policies events d.decisions n d.fresh) {x : Decision}
      (hallowed : x.touchesRetries = false) (hnew : x.schedulesTask = false) :
      Books policies events (d.decisions ++ [x]) n d.fresh :=
    hd.quiet (fun y hy => List.mem_singleton.mp hy ▸ hallowed)
      fun y hy => List.mem_singleton.mp hy ▸ hnew
  -- Texts that are distinct in the end have been so all along.
  refine Plan.run_induction
    (motive := fun d => d.fresh.Distinct → Books policies events d.decisions n d.fresh)
    (fun d request hd hdistinct => ?_)
    (fun d timerId delay control hallowed hd hdistinct => hone (hd hdistinct) hallowed rfl)
    (fun d timerId force hd hdistinct => ?_)
    (fun d markerName details hallowed hd hdistinct => hone (hd hdistinct) hallowed rfl)
    (fun d control hd hdistinct => (hd hdistinct).close control) p hleaves (fun _ => h) hdistinct
  · exact (hd (hdistinct.of_later d.fresh.later_tail)).schedule hsound
      (z := ⟨d.nextTaskId request.taskType, request.taskType, request.input, request.control,
        d.optionsOf request⟩) ⟨rfl, hdistinct⟩
  · exact (hd (hdistinct.of_later (d.later_cancelTimer timerId force))).cancelTimer timerId force
      hdistinct

/-! ### Decisions made for retries -/

/-- A visit of an event that no retry depends on leaves the books as they are. -/
theorem advance (h : Books policies events pending n fresh) (hevents : Numbered events)
    (he : e ∈ events) (hid : e.id = n + 1)
    (hfires : ∀ x : Scheduling, e.attributes.fires x.timerId = false)
    (hspent : ∀ x : Scheduling, x.attributes ∈ ledger events pending →
      fails events x.taskId e = true → (policies.policyFor x.taskType).maxAttempts.toNat
        ≤ countUpTo events n (fails events x.taskId)) :
    Books policies events pending (n + 1) fresh :=
  ⟨h.distinct, h.generated, h.justified, fun x hx =>
    (h.account x hx).advance hevents he hid (hfires x) (hspent x hx)⟩

/-- A failure and the start of a retry timer for it are booked together. -/
theorem wait (h : Books policies events pending n fresh) (hevents : Numbered events)
    (he : e ∈ events) (hid : e.id = n + 1) {s : Event} (hs : s ∈ events)
    (hx : s.attributes = x.attributes) (hfailed : e.attributes.failed? = some s.id)
    {delay : Duration} {control : Option String}
    (hjustified : Decision.Justified events (.startTimer x.timerId delay control))
    (hmax : events.countP (fails events x.taskId)
      ≤ (policies.policyFor x.taskType).maxAttempts.toNat) :
    Books policies events (pending ++ [.startTimer x.timerId delay control]) (n + 1) fresh := by
  have hmem : x.attributes ∈ ledger events pending := Scheduling.mem_ledger hs hx pending
  have hfails : fails events x.taskId e = true :=
    fails_iff.mpr ⟨s, hs, Attributes.schedules_iff.mpr ⟨x, hx, rfl⟩, hfailed⟩
  have hfires (timerId : String) : e.attributes.fires timerId = false := by
    cases hattr : e.attributes <;> first | rfl | simp [hattr, Attributes.failed?] at hfailed
  refine h.append (fun y hy => ?_) (fun y hy => List.mem_singleton.mp hy ▸ hjustified)
    fun y hy => ?_
  · cases List.mem_singleton.mp hy
  · by_cases hxy : x = y
    · subst hxy
      exact (h.account x hy).wait hevents he hid hfails (hfires _) hmax delay control
    · have hother : ¬ fails events y.taskId e = true := by
        intro hfails
        obtain ⟨found, hfound, hscheduled, hfailed'⟩ := fails_iff.mp hfails
        obtain rfl : found = s :=
          hevents.eq_of_id_eq hfound hs (Option.some.inj (hfailed'.symm.trans hfailed))
        obtain ⟨z, hz, htask⟩ := Attributes.schedules_iff.mp hscheduled
        obtain rfl := Scheduling.attributes_inj (hz.symm.trans hx)
        exact hxy ((h.account y hy).same z hmem htask)
      refine ((h.account y hy).advance hevents he hid (hfires _)
        fun hfails => (hother hfails).elim).foreign fun a ha => ?_
      rw [List.mem_singleton.mp (List.mem_reverse.mp ha)]
      refine ⟨rfl, ?_, rfl⟩
      simpa [Attributes.starts] using fun hname => hxy (h.eq_of_timerId hmem hy hname)

/-- The firing of a retry timer, the repeated schedule and the count are booked together. -/
theorem again (h : Books policies events pending n fresh) (hevents : Numbered events)
    (he : e ∈ events) (hid : e.id = n + 1) {s : Event} (hs : s ∈ events)
    (hx : s.attributes = x.attributes) (hfires : e.attributes.fires x.timerId = true)
    {count : RetryCount}
    (hcount : count = UInt32.ofNat (countUpTo events n (fun e => e.attributes.fires x.timerId) + 1))
    (hjustified : Decision.Justified events (.recordMarker x.markerName (some count.encode))) :
    Books policies events
      (pending ++ [x.decision, .recordMarker x.markerName (some count.encode)]) (n + 1) fresh := by
  have hmem : x.attributes ∈ ledger events pending := Scheduling.mem_ledger hs hx pending
  refine h.append (fun y hy => ?_) (fun y hy => ?_) fun y hy => ?_
  · rcases List.mem_cons.mp hy with hy | hy
    · rwa [hy]
    · cases List.mem_singleton.mp hy
  · rcases List.mem_cons.mp hy with rfl | hy
    · exact Decision.justified_of_leaves rfl
    · exact List.mem_singleton.mp hy ▸ hjustified
  · by_cases hxy : x = y
    · subst hxy
      exact (h.account x hy).again hevents he hid hfires hcount
    · have hother : e.attributes.fires y.timerId = false := by
        obtain ⟨id, hattr⟩ := Attributes.fires_iff.mp hfires
        rw [hattr]
        simpa [Attributes.fires] using fun hname => hxy (h.eq_of_timerId hmem hy hname)
      have hnot : ¬ fails events y.taskId e = true := by simp [fails_of_fires hfires]
      refine ((h.account y hy).advance hevents he hid hother
        fun hfails => (hnot hfails).elim).foreign fun a ha => ?_
      rcases List.mem_cons.mp ha with rfl | ha
      · refine ⟨rfl, rfl, ?_⟩
        simpa [Attributes.recorded?] using fun hname => hxy (h.eq_of_markerName hmem hy hname)
      · rw [List.mem_singleton.mp ha]
        refine ⟨?_, rfl, rfl⟩
        simpa [Attributes.schedules, Scheduling.attributes] using
          fun htask => hxy ((h.account y hy).same x hmem htask)

/-! ### Visits -/

/-- **Every visit of a cycle keeps the books**, if they were in order when the cycle began. -/
theorem visit {r : Registry} {log : EventLog} {workflow : WorkflowInfo} {start : Int}
    {fresh : FreshTexts} {ctx : EventContext} {d d' : Draft}
    (hopen : Books r.policies log.events [] start fresh) (hsound : SoundHistory log.events)
    (honce : EndsOnce log.events)
    (hbound : ∀ t, (r.policies.policyFor t).maxAttempts.toNat + 1 < UInt32.size)
    (hleaves : r.LeavesRetries) (he : e ∈ log.events) (hstart : start ≤ n) (hid : e.id = n + 1)
    (hctx : EventContext.extract e log workflow = .ok ctx) (heffect : r.Effect ctx d d')
    (hdistinct : d'.fresh.Distinct) (hd : Books r.policies log.events d.decisions n d.fresh) :
    Books r.policies log.events d'.decisions (n + 1) d'.fresh := by
  have hjustified := hsound.effect_justified hleaves he hctx heffect hd.justified
  obtain ⟨details, hdetails, rfl⟩ := EventContext.extract_ok hctx
  have hopened {s : Event} {x : Scheduling} (hs : s ∈ log.events)
      (hx : s.attributes = x.attributes) :
      Account r.policies log.events (ledger log.events []) start x :=
    hopen.account x (Scheduling.mem_ledger hs hx [])
  -- Where nothing is done for retries, no retry timer fires, and what fails has no retry left.
  have hadvance (hquiet : r.policies.Quiet ⟨e, log, workflow, details⟩) :
      Books r.policies log.events d.decisions (n + 1) d.fresh := by
    refine hd.advance hsound.numbered he hid (fun x => Bool.eq_false_iff.mpr fun hfires => ?_)
      fun x hx hfails => ?_
    · exact hquiet.not_fires (hsound.firesRetry_of_fires he hfires x.isRetryTimer_timerId hdetails)
    · obtain ⟨s, hs, hscheduled, hfailed⟩ := fails_iff.mp hfails
      obtain ⟨z, hz, htask⟩ := Attributes.schedules_iff.mp hscheduled
      obtain rfl := (hd.account x hx).same z (Scheduling.mem_ledger hs hz _) htask
      have haccount := hopened hs hz
      cases hdelay : (r.policies.policyFor z.taskType).delayBefore? (RetryCount.succ
          (UInt32.ofNat (countUpTo log.events start fun e => e.attributes.fires z.timerId))) with
      | some delay =>
          exact (hquiet.not_grants
            (hsound.grants_of_failed hs hz hfailed hdetails haccount.retryCount hdelay)).elim
      | none =>
          have hle := haccount.maxAttempts_le hsound honce (hbound _) haccount.retryCount hdelay
          exact Nat.le_trans hle (countUpTo_mono hstart _ _)
  cases heffect with
  | wait hjudged =>
      obtain ⟨s, hs, x, hx, hfailed, rfl, rfl, retries, hcount, hdelay⟩ :=
        SoundHistory.wait_grounds hdetails hjudged
      exact hd.wait hsound.numbered he hid hs hx hfailed (hjustified _ (by simp))
        ((hopened hs hx).countP_fails_le_max hsound honce (hbound _) hcount hdelay)
  | again hjudged =>
      obtain ⟨s, hs, x, hx, hfires, rfl, rfl, retries, hcount, rfl⟩ :=
        hsound.again_grounds he hdetails hjudged
      have haccount := hopened hs hx
      -- The count is that of the history when the cycle began, and it has not moved since.
      have hsucc := haccount.succ_retries hsound honce (hbound _) hcount
      rw [← haccount.retries_eq_of_fires hsound honce he hstart hid hfires] at hsucc
      have hagain := hd.again hsound.numbered he hid hs hx hfires hsucc (hjustified _ (by simp))
      simpa using hagain
  | close hquiet control => exact (hadvance hquiet).close control
  | @handle hquiet key handler _ hmem hrun =>
      have hrun' : d' = ((handler ⟨e, log, workflow, details⟩).run d).2 := by rw [hrun]
      rw [hrun'] at hdistinct ⊢
      exact (hadvance hquiet).run hsound _ (hleaves _ hmem _ d) hdistinct
  | skip hquiet => exact hadvance hquiet

end Books

end DurableWorkflow
