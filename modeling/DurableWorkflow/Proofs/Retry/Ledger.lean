import Mathlib.Data.List.Perm.Subperm
import DurableWorkflow.Proofs.History.Context
import DurableWorkflow.Proofs.History.Recorder
import DurableWorkflow.Proofs.Retry.Control
import DurableWorkflow.Retry.Verdict

/-!
# Counting what belongs to retries

What a run has done for retries is spread over its history and the decisions that have not been
recorded.  The ledger has both, so recording a decision does not change it.

## Main Definitions

* `ledger`: schedules, starts of timers and markers, those to be recorded included.
* `countUpTo`: how many events of a kind there are up to a number.
* `fails`: whether an event reports that a task has failed.
* `EndsOnce`: no schedule ends twice, and no timer fires twice.
* `tally`: the details of a marker that has counted up to a number.

## Main Statements

* `ledger_record`: recording a decision does not change the ledger.
* `countP_le_countP_of_refs`: events with references of their own are not more than those they refer
  to.
* `retryCount_of_tally`: the count that is read from a history is the number of its markers.
-/

namespace DurableWorkflow

/-! ### The ledger -/

namespace Attributes

/-- Whether an event is of a kind that a decision can ask for and retries depend on. -/
def isBooked : Attributes → Bool
  | .taskScheduled .. | .timerStarted .. | .markerRecorded .. => true
  | _ => false

/-- What an event records under the name of a marker. -/
def recorded? (markerName : String) : Attributes → Option (Option String)
  | .markerRecorded name details => if name = markerName then some details else none
  | _ => none

theorem isBooked_of_schedules {taskId : String} {a : Attributes} (h : a.schedules taskId = true) :
    a.isBooked = true := by
  cases a <;> first | rfl | cases h

theorem isBooked_of_starts {timerId : String} {a : Attributes} (h : a.starts timerId = true) :
    a.isBooked = true := by
  cases a <;> first | rfl | cases h

theorem isBooked_of_recorded? {markerName : String} {a : Attributes} {details : Option String}
    (h : a.recorded? markerName = some details) : a.isBooked = true := by
  cases a <;> first | rfl | cases h

end Attributes

/-- What has been and what is to be recorded of that on which retries depend, the newest first. -/
def ledger (events : List Event) (pending : DecisionBatch) : List Attributes :=
  (pending.filterMap Decision.intended?).reverse ++
    (events.map (·.attributes)).filter Attributes.isBooked

theorem isBooked_of_intended? {x : Decision} {a : Attributes} (h : x.intended? = some a) :
    a.isBooked = true := by
  cases x <;> cases h <;> rfl

/-- Events on which retries do not depend are not in the ledger. -/
theorem ledger_cons {e : Event} (he : e.attributes.isBooked = false) (events : List Event)
    (pending : DecisionBatch) : ledger (e :: events) pending = ledger events pending := by
  simp [ledger, he]

/-- What is booked of a history is found in its books. -/
theorem mem_ledger {e : Event} {events : List Event} (he : e ∈ events)
    (hbooked : e.attributes.isBooked = true) (pending : DecisionBatch) :
    e.attributes ∈ ledger events pending :=
  List.mem_append_right _ (List.mem_filter.mpr ⟨List.mem_map_of_mem he, hbooked⟩)

theorem Scheduling.mem_ledger {s : Event} {events : List Event} {x : Scheduling} (hs : s ∈ events)
    (hx : s.attributes = x.attributes) (pending : DecisionBatch) :
    x.attributes ∈ ledger events pending :=
  hx ▸ DurableWorkflow.mem_ledger hs (by rw [hx]; rfl) pending

/-- Further decisions are booked ahead of those that were pending. -/
theorem ledger_append (events : List Event) (pending more : DecisionBatch) :
    ledger events (pending ++ more)
      = (more.filterMap Decision.intended?).reverse ++ ledger events pending := by
  simp [ledger, List.filterMap_append]

/-- What a decision that retries do not depend on leads to. -/
theorem Recorder.consequence_cases {r : Recorder} {rejection : Option String} {x : Decision}
    {a : Attributes} (h : r.consequence rejection x = .ok a) :
    x.intended? = some a ∨ (x.intended? = none ∧ a.isBooked = false) := by
  cases x with
  | scheduleTask | startTimer | recordMarker =>
      cases h
      exact .inl rfl
  | cancelTimer timerId =>
      obtain ⟨id, -, rfl⟩ := exists_of_map_eq_ok h
      exact .inr ⟨rfl, rfl⟩
  | completeWorkflow | failWorkflow | cancelWorkflow =>
      cases rejection <;> cases h <;> exact .inr ⟨rfl, rfl⟩

/-- No decision leads to the end of a task or to the firing of a timer. -/
theorem Recorder.consequence_refs {r : Recorder} {rejection : Option String} {x : Decision}
    {a : Attributes} (h : r.consequence rejection x = .ok a) :
    a.closed? = none ∧ a.fired? = none := by
  cases x with
  | scheduleTask | startTimer | recordMarker =>
      cases h
      exact ⟨rfl, rfl⟩
  | cancelTimer timerId =>
      obtain ⟨id, -, rfl⟩ := exists_of_map_eq_ok h
      exact ⟨rfl, rfl⟩
  | completeWorkflow | failWorkflow | cancelWorkflow =>
      cases rejection <;> cases h <;> exact ⟨rfl, rfl⟩

/-- Recording a decision does not change the ledger. -/
theorem ledger_record {r : Recorder} {rejection : Option String} {x : Decision} {a : Attributes}
    (h : r.consequence rejection x = .ok a) (rest : DecisionBatch) :
    ledger (r.push a).events rest = ledger r.events (x :: rest) := by
  rcases r.consequence_cases h with hx | ⟨hx, hbooked⟩
  · simp [ledger, hx, isBooked_of_intended? hx]
  · rw [Recorder.push_events, ledger_cons hbooked]
    simp [ledger, hx]

/-- Without pending decisions the books count what the history counts. -/
theorem countP_ledger_nil {p : Attributes → Bool} (hp : ∀ a, p a = true → a.isBooked = true)
    (events : List Event) :
    (ledger events []).countP p = events.countP fun e => p e.attributes := by
  have heq : (fun e : Event => p e.attributes && e.attributes.isBooked)
      = fun e => p e.attributes := by
    funext e
    cases hpe : p e.attributes with
    | false => rfl
    | true => simp [hp _ hpe]
  simp only [ledger, List.filterMap_nil, List.reverse_nil, List.nil_append, List.countP_filter,
    List.countP_map, Function.comp_def, heq]

/-! ### Counting up to a number -/

/-- How many events of a kind there are up to a number. -/
def countUpTo (events : List Event) (n : Int) (p : Event → Bool) : Nat :=
  events.countP fun e => p e && decide (e.id ≤ n)

theorem countUpTo_le (events : List Event) (n : Int) (p : Event → Bool) :
    countUpTo events n p ≤ events.countP p :=
  List.countP_mono_left fun _ _ he => (Bool.and_eq_true_iff.mp he).1

/-- Events that come later do not count. -/
theorem countUpTo_cons {e : Event} {n : Int} (he : n < e.id) (events : List Event)
    (p : Event → Bool) : countUpTo (e :: events) n p = countUpTo events n p := by
  have hfalse : ¬ e.id ≤ n := by omega
  simp [countUpTo, hfalse]

theorem countUpTo_congr {events : List Event} {p q : Event → Bool} (h : ∀ e ∈ events, p e = q e)
    (n : Int) : countUpTo events n p = countUpTo events n q :=
  List.countP_congr fun e he => by rw [h e he]

/-- Up to a later event there is no less to count. -/
theorem countUpTo_mono {n m : Int} (h : n ≤ m) (events : List Event) (p : Event → Bool) :
    countUpTo events n p ≤ countUpTo events m p := by
  refine List.countP_mono_left fun e _ hpe => ?_
  obtain ⟨hp, hid⟩ := Bool.and_eq_true_iff.mp hpe
  rw [hp, Bool.true_and, decide_eq_true_eq]
  exact Int.le_trans (of_decide_eq_true hid) h

/-- The next event counts if it is of the kind. -/
theorem countUpTo_succ {events : List Event} (h : Numbered events) {e : Event} (he : e ∈ events)
    {n : Int} (hid : e.id = n + 1) (p : Event → Bool) :
    countUpTo events (n + 1) p = countUpTo events n p + if p e = true then 1 else 0 := by
  induction events with
  | nil => simp at he
  | cons x rest ih =>
      have hbounds := h.id_bounds
      obtain ⟨hx, hrest⟩ := h
      -- The newest event is the one in question, or it comes later than all that count.
      rcases List.mem_cons.mp he with rfl | he
      · have hsame : countUpTo rest (n + 1) p = countUpTo rest n p := by
          refine List.countP_congr fun y hy => ?_
          have := (hrest.id_bounds y hy).2
          simp only [Bool.and_eq_true, decide_eq_true_eq]
          constructor <;> rintro ⟨hp, -⟩ <;> exact ⟨hp, by omega⟩
        rw [countUpTo_cons (show n < e.id by omega), countUpTo, List.countP_cons, ← countUpTo,
          hsame]
        simp [hid]
      · have := (hrest.id_bounds e he).2
        rw [countUpTo_cons (show n < x.id by omega), countUpTo_cons (show n + 1 < x.id by omega)]
        exact ih hrest he

/-! ### Counting by reference -/

/-- Events with references of their own are not more than those they refer to. -/
theorem countP_le_countP_of_refs {events : List Event} {p q : Event → Bool}
    {ref : Event → Option Int} (hnodup : (events.filterMap ref).Nodup)
    (hp : ∀ e ∈ events, p e = true → ∃ s ∈ events, q s = true ∧ ref e = some s.id) :
    events.countP p ≤ events.countP q := by
  have hlength : ((events.filter p).filterMap ref).length = events.countP p := by
    rw [List.countP_eq_length_filter]
    refine List.filterMap_length_eq_length.mpr fun e he => ?_
    obtain ⟨he, hpe⟩ := List.mem_filter.mp he
    obtain ⟨s, -, -, hs⟩ := hp e he hpe
    rw [hs]
    rfl
  -- The references are distinct, and all of them are numbers of events of the other kind.
  have hsub : (events.filter p).filterMap ref ⊆ (events.filter q).map (·.id) := by
    intro n hn
    obtain ⟨e, he, hen⟩ := List.mem_filterMap.mp hn
    obtain ⟨he, hpe⟩ := List.mem_filter.mp he
    obtain ⟨s, hs, hq, hsid⟩ := hp e he hpe
    obtain rfl : s.id = n := Option.some.inj (hsid.symm.trans hen)
    exact List.mem_map_of_mem (List.mem_filter.mpr ⟨hs, hq⟩)
  have hsmall : ((events.filter p).filterMap ref).Nodup :=
    hnodup.sublist (List.filter_sublist.filterMap ref)
  have hle := (hsmall.subperm hsub).length_le
  rwa [hlength, List.length_map, ← List.countP_eq_length_filter] at hle

/-- Whether an event reports the failure of a task. -/
def fails (events : List Event) (taskId : String) (e : Event) : Bool :=
  events.any fun s => s.attributes.schedules taskId && decide (e.attributes.failed? = some s.id)

/-- An event reports the failure of a task if it refers to a schedule of that task. -/
theorem fails_iff {events : List Event} {taskId : String} {e : Event} :
    fails events taskId e = true ↔ ∃ s ∈ events, s.attributes.schedules taskId = true ∧
      e.attributes.failed? = some s.id := by
  simp [fails]

theorem nodup_filterMap_cons {events : List Event} {ref : Event → Option Int} {e : Event}
    (h : (events.filterMap ref).Nodup) (he : ∀ id, ref e = some id → id ∉ events.filterMap ref) :
    ((e :: events).filterMap ref).Nodup := by
  cases hid : ref e with
  | none => simpa [hid] using h
  | some id =>
      rw [List.filterMap_cons_some hid]
      exact List.nodup_cons.mpr ⟨he id hid, h⟩

/-- Nothing ends twice: no schedule of a task comes to its end twice, and no start of a timer fires
twice. -/
structure EndsOnce (events : List Event) : Prop where
  closed : (events.filterMap (·.attributes.closed?)).Nodup
  fired : (events.filterMap (·.attributes.fired?)).Nodup

namespace EndsOnce

variable {events : List Event} {e : Event}

theorem nil : EndsOnce [] := ⟨List.nodup_nil, List.nodup_nil⟩

/-- Nothing ends twice as long as nothing ends that has ended. -/
theorem cons (h : EndsOnce events)
    (hclosed : ∀ id, e.attributes.closed? = some id → id ∉ events.filterMap (·.attributes.closed?))
    (hfired : ∀ id, e.attributes.fired? = some id → id ∉ events.filterMap (·.attributes.fired?)) :
    EndsOnce (e :: events) :=
  ⟨nodup_filterMap_cons h.closed hclosed, nodup_filterMap_cons h.fired hfired⟩

/-- An event that ends nothing may come at any time. -/
theorem cons_of_none (h : EndsOnce events)
    (he : e.attributes.closed? = none ∧ e.attributes.fired? = none) : EndsOnce (e :: events) :=
  h.cons (fun _ hid => by rw [he.1] at hid; cases hid) fun _ hid => by rw [he.2] at hid; cases hid

/-- A task does not fail more often than it is scheduled. -/
theorem countP_fails_le (h : EndsOnce events) (taskId : String) :
    events.countP (fails events taskId) ≤ events.countP fun e => e.attributes.schedules taskId := by
  refine countP_le_countP_of_refs h.closed fun e _ hfails => ?_
  obtain ⟨s, hs, hschedules, hfailed⟩ := fails_iff.mp hfails
  exact ⟨s, hs, hschedules, Attributes.closed?_of_failed? hfailed⟩

end EndsOnce

/-! ### Counting markers -/

/-- The details of a marker that has counted from 1 up to a number, the last ones first. -/
def tally : Nat → List (Option String)
  | 0 => []
  | n + 1 => some (RetryCount.encode (UInt32.ofNat (n + 1))) :: tally n

theorem filterMap_recorded?_ledger_nil (events : List Event) (markerName : String) :
    (ledger events []).filterMap (Attributes.recorded? markerName)
      = events.filterMap fun e => e.attributes.recorded? markerName := by
  simp only [ledger, List.filterMap_nil, List.reverse_nil, List.nil_append, List.filterMap_filter,
    List.filterMap_map, Function.comp_def]
  refine List.filterMap_congr fun e _ => ?_
  cases hrecorded : e.attributes.recorded? markerName with
  | none => simp
  | some details => simp [Attributes.isBooked_of_recorded? hrecorded]

theorem recorded?_eq_some {markerName : String} {a : Attributes} {details : Option String}
    (h : a.recorded? markerName = some details) : a = .markerRecorded markerName details := by
  unfold Attributes.recorded? at h
  split at h
  · split at h
    · next hname =>
        cases h
        rw [hname]
    · cases h
  · cases h

/-- The latest marker of a name is the first that is found in the history. -/
theorem latestMarkerDetails_eq (log : EventLog) (markerName : String) :
    log.latestMarkerDetails markerName
      = (log.events.filterMap fun e => e.attributes.recorded? markerName).head?.join := by
  obtain ⟨events, previous⟩ := log
  simp only [EventLog.latestMarkerDetails, EventLog.latestMarker, EventLog.markers,
    List.find?_filter]
  induction events with
  | nil => rfl
  | cons e rest ih =>
      cases hrecorded : e.attributes.recorded? markerName with
      | some details =>
          have hattr := recorded?_eq_some hrecorded
          have htype : e.type = .markerRecorded := by
            rw [Event.type, hattr]
            rfl
          simp [Attributes.recorded?, hattr, htype]
      | none =>
          have hother : (match e.attributes with
              | .markerRecorded name _ => decide (name = markerName)
              | _ => false) = false := by
            split
            · next hattr =>
                rw [hattr] at hrecorded
                simpa [Attributes.recorded?] using hrecorded
            · rfl
          have hskip : (e :: rest).filterMap (fun e => e.attributes.recorded? markerName)
              = rest.filterMap fun e => e.attributes.recorded? markerName :=
            List.filterMap_cons_none hrecorded
          rw [hskip, ← ih, List.find?_cons_of_neg]
          simp only [decide_eq_true_eq, Bool.not_eq_true, not_and]
          exact fun _ => hother

/-- The count that is read from a history is the number of its counting markers. -/
theorem retryCount_of_tally {log : EventLog} {markerName : String} {n : Nat}
    (h : (ledger log.events []).filterMap (Attributes.recorded? markerName) = tally n) :
    log.retryCount markerName = .ok (UInt32.ofNat n) := by
  rw [filterMap_recorded?_ledger_nil] at h
  rw [EventLog.retryCount, latestMarkerDetails_eq, h]
  cases n with
  | zero => rfl
  | succ n => exact RetryCount.decode_encode _

end DurableWorkflow
