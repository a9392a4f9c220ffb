import DurableWorkflow.Proofs.History.Soundness
import DurableWorkflow.Proofs.Retry.Ledger
import DurableWorkflow.Proofs.Run.Soundness

/-!
# The books of retries

For every task the schedules, the retry timers and the counting marker stay in step, however many
tasks are retried at once and whatever has not been recorded yet.

## Main Definitions

* `Attributes.ForeignTo`: entries that a task has nothing to do with.
* `Account`: the accounts of one task.
* `Books`: the accounts of all tasks, and where their identities come from.

## Main Statements

* `Books.grow`: events that come, be they of pending decisions, leave the books as they are.
* `Books.eq_of_timerId`, `Books.eq_of_markerName`: names tell the tasks in the books apart.

## Design Notes

A schedule is booked when it is decided, that is when the firing of a retry timer has been visited,
and so is a retry timer when a failure has been.  Thus the books of a history with pending decisions
have the same form as those without, and one visit changes them by one entry.
-/

namespace DurableWorkflow

/-! ### Accounts -/

/-- The accounts of a task in a ledger, for a history that has been decided on up to a number. -/
structure Account (policies : RetryPolicies) (events : List Event) (l : List Attributes) (n : Int)
    (x : Scheduling) : Prop where
  /-- Every schedule of the task is the same. -/
  same : ∀ y : Scheduling, y.attributes ∈ l → y.taskId = x.taskId → y = x
  /-- There is one schedule more than firings. -/
  schedules : l.countP (·.schedules x.taskId)
    = 1 + countUpTo events n fun e => e.attributes.fires x.timerId
  /-- There is a retry timer for every failure that the policy allows to retry. -/
  timers : l.countP (·.starts x.timerId) = min (countUpTo events n (fails events x.taskId))
    (policies.policyFor x.taskType).maxAttempts.toNat
  /-- The marker has counted the firings. -/
  counted : l.filterMap (Attributes.recorded? x.markerName)
    = tally (countUpTo events n fun e => e.attributes.fires x.timerId)

/-- What is booked for something else than a task. -/
structure Attributes.ForeignTo (x : Scheduling) (a : Attributes) : Prop where
  schedules : a.schedules x.taskId = false
  starts : a.starts x.timerId = false
  recorded : a.recorded? x.markerName = none

/-- What leaves retries alone and schedules nothing is for no task. -/
theorem Decision.foreignTo_of_leaves {d : Decision} (hleaves : d.touchesRetries = false)
    (hnew : d.schedulesTask = false) {a : Attributes} (ha : d.intended? = some a) (x : Scheduling) :
    a.ForeignTo x := by
  cases d with
  | scheduleTask => cases hnew
  | startTimer timerId delay control =>
      cases ha
      refine ⟨rfl, ?_, rfl⟩
      simp only [Attributes.starts, decide_eq_false_iff_not]
      rintro rfl
      rw [Decision.touchesRetries, x.isRetryTimer_timerId] at hleaves
      cases hleaves
  | recordMarker markerName details =>
      cases ha
      refine ⟨rfl, rfl, ?_⟩
      simp only [Attributes.recorded?, ite_eq_right_iff, reduceCtorEq, imp_false]
      rintro rfl
      rw [Decision.touchesRetries, x.isRetryMarker_markerName] at hleaves
      cases hleaves
  | cancelTimer | completeWorkflow | failWorkflow | cancelWorkflow => cases ha

/-- Nobody can have failed by a later schedule. -/
theorem fails_cons {events : List Event} {e y : Event} (hevents : Numbered events)
    (hjustified : y.attributes.Justified events) (hid : events.length < e.id) (taskId : String) :
    fails (e :: events) taskId y = fails events taskId y := by
  -- An event refers to numbers that had been given when it came.
  have hother : y.attributes.failed? ≠ some e.id := by
    intro hfailed
    obtain ⟨s, hs, hsid⟩ := hjustified.exists_of_failed? hfailed
    have := (hevents.id_bounds s hs).2
    omega
  simp [fails, hother]

theorem fails_of_fires {events : List Event} {e : Event} {taskId timerId : String}
    (h : e.attributes.fires timerId = true) : fails events taskId e = false := by
  obtain ⟨id, hattr⟩ := Attributes.fires_iff.mp h
  simp [fails, hattr, Attributes.failed?]

namespace Account

variable {policies : RetryPolicies} {events : List Event} {l : List Attributes} {n m : Int}
  {x : Scheduling} {e : Event}

/-- One booking: entries and a step of the clock that fit each other. -/
theorem book (h : Account policies events l n x) (more : List Attributes)
    (hsame : ∀ y : Scheduling, y.attributes ∈ more → y.taskId = x.taskId → y = x)
    (hschedules : more.countP (·.schedules x.taskId)
        + countUpTo events n (fun e => e.attributes.fires x.timerId)
      = countUpTo events m fun e => e.attributes.fires x.timerId)
    (htimers : more.countP (·.starts x.timerId) + min (countUpTo events n (fails events x.taskId))
        (policies.policyFor x.taskType).maxAttempts.toNat
      = min (countUpTo events m (fails events x.taskId))
        (policies.policyFor x.taskType).maxAttempts.toNat)
    (hcounted : more.filterMap (Attributes.recorded? x.markerName)
        ++ tally (countUpTo events n fun e => e.attributes.fires x.timerId)
      = tally (countUpTo events m fun e => e.attributes.fires x.timerId)) :
    Account policies events (more ++ l) m x where
  same := fun y hy htask => (List.mem_append.mp hy).elim (hsame y · htask) (h.same y · htask)
  schedules := by
    rw [List.countP_append, h.schedules, ← hschedules]
    omega
  timers := by rw [List.countP_append, h.timers, htimers]
  counted := by rw [List.filterMap_append, h.counted, hcounted]

/-- Entries for something else leave the account as it is. -/
theorem foreign (h : Account policies events l n x) {more : List Attributes}
    (hmore : ∀ a ∈ more, a.ForeignTo x) : Account policies events (more ++ l) n x := by
  have hschedules : more.countP (·.schedules x.taskId) = 0 :=
    List.countP_eq_zero.mpr fun a ha => by simp [(hmore a ha).schedules]
  have hstarts : more.countP (·.starts x.timerId) = 0 :=
    List.countP_eq_zero.mpr fun a ha => by simp [(hmore a ha).starts]
  have hrecorded : more.filterMap (Attributes.recorded? x.markerName) = [] :=
    List.filterMap_eq_nil_iff.mpr fun a ha => (hmore a ha).recorded
  refine h.book more (fun y hy htask => ?_) (by rw [hschedules, Nat.zero_add])
    (by rw [hstarts, Nat.zero_add]) (by rw [hrecorded, List.nil_append])
  have hloud := Attributes.schedules_iff.mpr ⟨y, rfl, htask⟩
  rw [(hmore _ hy).schedules] at hloud
  cases hloud

/-- Events that come later leave the account as it is. -/
theorem grow (h : Account policies events l n x) (hevents : Numbered events)
    (hjustified : ∀ y ∈ events, y.attributes.Justified events) (hid : events.length < e.id)
    (hn : n ≤ events.length) : Account policies (e :: events) l n x where
  same := h.same
  schedules := by rw [countUpTo_cons (by omega), h.schedules]
  timers := by
    have hfails : ∀ y ∈ events, fails (e :: events) x.taskId y = fails events x.taskId y :=
      fun y hy => fails_cons hevents (hjustified y hy) hid x.taskId
    rw [countUpTo_cons (by omega), countUpTo_congr hfails, h.timers]
  counted := by rw [countUpTo_cons (by omega), h.counted]

/-- A visit of an event that no retry depends on: it fires no timer of the task, and it fails the
task only if no retry is left. -/
theorem advance (h : Account policies events l n x) (hevents : Numbered events) (he : e ∈ events)
    (hid : e.id = n + 1) (hfires : e.attributes.fires x.timerId = false)
    (hspent : fails events x.taskId e = true → (policies.policyFor x.taskType).maxAttempts.toNat
      ≤ countUpTo events n (fails events x.taskId)) :
    Account policies events l (n + 1) x := by
  have hfired := countUpTo_succ hevents he hid fun e => e.attributes.fires x.timerId
  have hfailed := countUpTo_succ hevents he hid (fails events x.taskId)
  rw [hfires, if_neg Bool.false_ne_true, Nat.add_zero] at hfired
  refine h.book (m := n + 1) [] (fun y hy => absurd hy List.not_mem_nil) ?_ ?_ ?_
  · rw [hfired]
    exact Nat.zero_add _
  · rw [hfailed, List.countP_nil, Nat.zero_add]
    split
    · next hfails =>
        have hle := hspent hfails
        omega
    · rfl
  · rw [hfired]
    rfl

/-- A failure, and the start of a retry timer for it. -/
theorem wait (h : Account policies events l n x) (hevents : Numbered events) (he : e ∈ events)
    (hid : e.id = n + 1) (hfails : fails events x.taskId e = true)
    (hfires : e.attributes.fires x.timerId = false)
    (hmax : events.countP (fails events x.taskId)
      ≤ (policies.policyFor x.taskType).maxAttempts.toNat) (delay : Duration)
    (control : Option String) :
    Account policies events (.timerStarted x.timerId delay control :: l) (n + 1) x := by
  have hfired := countUpTo_succ hevents he hid fun e => e.attributes.fires x.timerId
  have hfailed := countUpTo_succ hevents he hid (fails events x.taskId)
  rw [hfires, if_neg Bool.false_ne_true, Nat.add_zero] at hfired
  rw [hfails, if_pos rfl] at hfailed
  have hone :
      [Attributes.timerStarted x.timerId delay control].countP (·.starts x.timerId) = 1 := by
    simp [Attributes.starts]
  refine h.book (m := n + 1) [.timerStarted x.timerId delay control] (fun y hy => ?_) ?_ ?_ ?_
  · cases List.mem_singleton.mp hy
  · rw [hfired]
    simp [Attributes.schedules]
  · have hle := countUpTo_le events (n + 1) (fails events x.taskId)
    rw [hone]
    omega
  · rw [hfired]
    rfl

/-- The firing of a retry timer, the repeated schedule and the count. -/
theorem again (h : Account policies events l n x) (hevents : Numbered events) (he : e ∈ events)
    (hid : e.id = n + 1) (hfires : e.attributes.fires x.timerId = true) {count : RetryCount}
    (hcount : count
      = UInt32.ofNat (countUpTo events n (fun e => e.attributes.fires x.timerId) + 1)) :
    Account policies events
      (.markerRecorded x.markerName (some count.encode) :: x.attributes :: l) (n + 1) x := by
  have hfired := countUpTo_succ hevents he hid fun e => e.attributes.fires x.timerId
  have hfailed := countUpTo_succ hevents he hid (fails events x.taskId)
  rw [hfires, if_pos rfl] at hfired
  rw [fails_of_fires hfires, if_neg Bool.false_ne_true, Nat.add_zero] at hfailed
  refine h.book (m := n + 1) [.markerRecorded x.markerName (some count.encode), x.attributes]
    (fun y hy _ => ?_) ?_ ?_ ?_
  · rcases List.mem_cons.mp hy with hy | hy
    · cases hy
    · exact Scheduling.attributes_inj (List.mem_singleton.mp hy)
  · rw [hfired]
    simp [Attributes.schedules, Scheduling.attributes, Nat.add_comm]
  · rw [hfailed]
    simp [Attributes.starts, Scheduling.attributes]
  · rw [hfired, hcount]
    simp [Attributes.recorded?, Scheduling.attributes, tally]

/-! #### Accounts without pending decisions -/

variable {log : EventLog}

/-- A timer does not fire more often than it is started. -/
theorem countP_fires_le (hsound : SoundHistory events) (honce : EndsOnce events)
    (timerId : String) :
    events.countP (fun e => e.attributes.fires timerId)
      ≤ events.countP fun e => e.attributes.starts timerId := by
  refine countP_le_countP_of_refs honce.fired fun e he hfires => ?_
  obtain ⟨id, hattr⟩ := Attributes.fires_iff.mp hfires
  have hjustified := hsound.justified e he
  rw [hattr] at hjustified
  obtain ⟨s, hs, hsid, hstarts⟩ := hjustified
  exact ⟨s, hs, hstarts, by rw [hattr, Attributes.fired?, hsid]⟩

/-- All failures but the last one have led to a retry. -/
theorem countP_fails_le (h : Account policies events (ledger events []) n x)
    (honce : EndsOnce events) :
    events.countP (fails events x.taskId)
      ≤ 1 + countUpTo events n fun e => e.attributes.fires x.timerId := by
  rw [← h.schedules, countP_ledger_nil fun _ => Attributes.isBooked_of_schedules]
  exact honce.countP_fails_le x.taskId

theorem countP_starts (h : Account policies events (ledger events []) n x) :
    events.countP (fun e => e.attributes.starts x.timerId)
      = min (countUpTo events n (fails events x.taskId))
        (policies.policyFor x.taskType).maxAttempts.toNat := by
  rw [← countP_ledger_nil fun _ => Attributes.isBooked_of_starts]
  exact h.timers

/-- There are no more retries than failures that have been decided on. -/
theorem retries_le_fails (h : Account policies events (ledger events []) n x)
    (hsound : SoundHistory events) (honce : EndsOnce events) :
    countUpTo events n (fun e => e.attributes.fires x.timerId)
      ≤ countUpTo events n (fails events x.taskId) :=
  calc
    _ ≤ events.countP fun e => e.attributes.fires x.timerId := countUpTo_le ..
    _ ≤ events.countP fun e => e.attributes.starts x.timerId := countP_fires_le hsound honce _
    _ ≤ _ := h.countP_starts ▸ Nat.min_le_left ..

/-- There are no more retries than the policy allows. -/
theorem retries_le (h : Account policies events (ledger events []) n x)
    (hsound : SoundHistory events) (honce : EndsOnce events) :
    countUpTo events n (fun e => e.attributes.fires x.timerId)
      ≤ (policies.policyFor x.taskType).maxAttempts.toNat :=
  calc
    _ ≤ events.countP fun e => e.attributes.fires x.timerId := countUpTo_le ..
    _ ≤ events.countP fun e => e.attributes.starts x.timerId := countP_fires_le hsound honce _
    _ ≤ _ := h.countP_starts ▸ Nat.min_le_right ..

/-- The number of retries is read from the history. -/
theorem retryCount (h : Account policies log.events (ledger log.events []) n x) :
    log.retryCount x.markerName
      = .ok (UInt32.ofNat (countUpTo log.events n fun e => e.attributes.fires x.timerId)) :=
  retryCount_of_tally h.counted

/-- The number that is read is one that can be counted on from. -/
theorem succ_retries (h : Account policies log.events (ledger log.events []) n x)
    (hsound : SoundHistory log.events) (honce : EndsOnce log.events)
    (hbound : (policies.policyFor x.taskType).maxAttempts.toNat + 1 < UInt32.size)
    {retries : RetryCount} (hcount : log.retryCount x.markerName = .ok retries) :
    retries.succ
      = UInt32.ofNat (countUpTo log.events n (fun e => e.attributes.fires x.timerId) + 1) := by
  have hle := h.retries_le hsound honce
  obtain rfl := Except.ok.inj (hcount.symm.trans h.retryCount)
  exact RetryCount.succ_ofNat (by omega)

/-- A retry timer that is started only if the policy gives a delay is started for no failure beyond
the policy. -/
theorem countP_fails_le_max (h : Account policies log.events (ledger log.events []) n x)
    (hsound : SoundHistory log.events) (honce : EndsOnce log.events)
    (hbound : (policies.policyFor x.taskType).maxAttempts.toNat + 1 < UInt32.size)
    {retries : RetryCount} (hcount : log.retryCount x.markerName = .ok retries) {delay : Duration}
    (hdelay : (policies.policyFor x.taskType).delayBefore? retries.succ = some delay) :
    log.events.countP (fails log.events x.taskId)
      ≤ (policies.policyFor x.taskType).maxAttempts.toNat := by
  have hle := h.retries_le hsound honce
  have hfails := h.countP_fails_le honce
  have hmax := RetryPolicy.le_maxAttempts_of_delayBefore? hdelay
  rw [h.succ_retries hsound honce hbound hcount, UInt32.toNat_ofNat_of_lt' (by omega)] at hmax
  omega

/-- A failure that gets no delay is beyond the policy. -/
theorem maxAttempts_le (h : Account policies log.events (ledger log.events []) n x)
    (hsound : SoundHistory log.events) (honce : EndsOnce log.events)
    (hbound : (policies.policyFor x.taskType).maxAttempts.toNat + 1 < UInt32.size)
    {retries : RetryCount} (hcount : log.retryCount x.markerName = .ok retries)
    (hdelay : (policies.policyFor x.taskType).delayBefore? retries.succ = none) :
    (policies.policyFor x.taskType).maxAttempts.toNat
      ≤ countUpTo log.events n (fails log.events x.taskId) := by
  have hle := h.retries_le hsound honce
  have hfails := h.retries_le_fails hsound honce
  have htoNat : retries.succ.toNat
      = countUpTo log.events n (fun e => e.attributes.fires x.timerId) + 1 := by
    rw [h.succ_retries hsound honce hbound hcount, UInt32.toNat_ofNat_of_lt' (by omega)]
  have hne : retries.succ ≠ 0 := fun hzero => by
    rw [hzero] at htoNat
    cases htoNat
  have hlt := RetryPolicy.maxAttempts_lt_of_delayBefore? hne hdelay
  omega

/-- Between two decision tasks a task's retry timer fires at most once. -/
theorem retries_eq_of_fires (h : Account policies events (ledger events []) n x)
    (hsound : SoundHistory events) (honce : EndsOnce events) (he : e ∈ events) (hle : n ≤ m)
    (hid : e.id = m + 1) (hfires : e.attributes.fires x.timerId = true) :
    countUpTo events m (fun e => e.attributes.fires x.timerId)
      = countUpTo events n fun e => e.attributes.fires x.timerId := by
  have hnext := countUpTo_succ hsound.numbered he hid fun e => e.attributes.fires x.timerId
  rw [hfires, if_pos rfl] at hnext
  have hmono := countUpTo_mono hle events fun e => e.attributes.fires x.timerId
  -- With this firing there is one more than before, and there cannot be more than one more.
  have hall := calc
    countUpTo events (m + 1) (fun e => e.attributes.fires x.timerId)
    _ ≤ events.countP fun e => e.attributes.fires x.timerId := countUpTo_le ..
    _ ≤ events.countP fun e => e.attributes.starts x.timerId := countP_fires_le hsound honce _
    _ ≤ countUpTo events n (fails events x.taskId) := h.countP_starts ▸ Nat.min_le_left ..
    _ ≤ events.countP (fails events x.taskId) := countUpTo_le ..
    _ ≤ 1 + countUpTo events n fun e => e.attributes.fires x.timerId := h.countP_fails_le honce
  omega

end Account

/-! ### Books -/

/-- The books of a history with pending decisions that has been decided on up to a number: every
identity has come from the supply, every pending decision is borne out, and every task has its
account. -/
structure Books (policies : RetryPolicies) (events : List Event) (pending : DecisionBatch) (n : Int)
    (fresh : FreshTexts) : Prop where
  distinct : fresh.Distinct
  generated : ∀ x : Scheduling, x.attributes ∈ ledger events pending →
    ∃ j < fresh.next, x.taskId = freshTaskId x.taskType (fresh.text j)
  justified : ∀ x ∈ pending, x.Justified events
  account : ∀ x : Scheduling, x.attributes ∈ ledger events pending →
    Account policies events (ledger events pending) n x

namespace Books

variable {policies : RetryPolicies} {events : List Event} {pending : DecisionBatch} {n : Int}
  {fresh : FreshTexts} {x y z : Scheduling} {e : Event}

/-- Nothing is in the books of a history in which nothing has been scheduled. -/
theorem of_ledger_nil (hdistinct : fresh.Distinct) (hledger : ledger events [] = []) (n : Int) :
    Books policies events [] n fresh where
  distinct := hdistinct
  generated := fun x hx => by simp [hledger] at hx
  justified := fun _ hx => absurd hx List.not_mem_nil
  account := fun x hx => by simp [hledger] at hx

/-- What is recorded later, be it of the pending decisions, leaves the books as they are. -/
theorem grow (h : Books policies events pending n fresh) {rest : DecisionBatch}
    (hrest : rest ⊆ pending) (hledger : ledger (e :: events) rest = ledger events pending)
    (hevents : Numbered events) (hjustified : ∀ y ∈ events, y.attributes.Justified events)
    (hid : events.length < e.id) (hn : n ≤ events.length) :
    Books policies (e :: events) rest n fresh where
  distinct := h.distinct
  generated := fun x hx => h.generated x (hledger ▸ hx)
  justified := fun x hx => (h.justified x (hrest hx)).mono (List.subset_cons_self ..)
  account := fun x hx => by
    rw [hledger] at hx ⊢
    exact (h.account x hx).grow hevents hjustified hid hn

/-- The books allow for texts that have been taken from the supply to no avail. -/
theorem later (h : Books policies events pending n fresh) {fresh' : FreshTexts}
    (hlater : fresh.Later fresh') (hdistinct : fresh'.Distinct) :
    Books policies events pending n fresh' where
  distinct := hdistinct
  generated := fun x hx => by
    obtain ⟨j, hj, htask⟩ := h.generated x hx
    exact ⟨j, Nat.lt_of_lt_of_le hj hlater.next_le, by rw [hlater.text_eq, htask]⟩
  justified := h.justified
  account := h.account

/-! ### Names -/

/-- A name that ends in the type and the identity of a task belongs to it alone. -/
theorem eq_of_named (h : Books policies events pending n fresh) (start : String)
    (hx : x.attributes ∈ ledger events pending) (hy : y.attributes ∈ ledger events pending)
    (hname : start ++ x.taskType.name ++ ":" ++ x.taskId
      = start ++ y.taskType.name ++ ":" ++ y.taskId) : x = y := by
  obtain ⟨i, hi, hx'⟩ := h.generated x hx
  obtain ⟨j, hj, hy'⟩ := h.generated y hy
  refine (h.account y hy).same x hx ?_
  rw [hx', hy'] at hname
  rw [hx', hy', named_inj start (.of_length_eq (h.distinct.length_eq i hi j hj)) hname]

theorem eq_of_timerId (h : Books policies events pending n fresh)
    (hx : x.attributes ∈ ledger events pending) (hy : y.attributes ∈ ledger events pending)
    (hname : x.timerId = y.timerId) : x = y :=
  h.eq_of_named retryTimerPrefix hx hy hname

theorem eq_of_markerName (h : Books policies events pending n fresh)
    (hx : x.attributes ∈ ledger events pending) (hy : y.attributes ∈ ledger events pending)
    (hname : x.markerName = y.markerName) : x = y :=
  h.eq_of_named retryMarkerPrefix hx hy hname

end Books

end DurableWorkflow
