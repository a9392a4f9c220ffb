import DurableWorkflow.Proofs.Dispatch.Close
import DurableWorkflow.Proofs.Run.Continuation

/-!
# Closes rejected again and again

However often the service rejects a close, the next cycle issues the same close again, no matter
what else happens in between.

## Main Definitions

* `DecisionBatch.ClosesOnce`: a batch with one close decision, right behind its record.
* `Registry.LeavesCloses`: a cycle in which only recovery closes the run.
* `Rejected`: the histories in which a close has been rejected a number of times in a row.

## Main Statements

* `Recorder.Awaits.closesOnce`: a cycle over a history that awaits a close issues this close.
* `Rejected.awaits`: after any number of rejections the history awaits the close.
* `Rejected.reissues`: the next cycle issues it again.
-/

namespace DurableWorkflow

open Attributes (ReportsNone LeavesCloses)
open Recorder (Built Continues Answered Awaits)

/-- A batch closes a run once: it has one close decision, right behind the record of its control. -/
def DecisionBatch.ClosesOnce (c : CloseControl) (b : DecisionBatch) : Prop :=
  ∃ before after, b = before ++ c.record :: c.decision :: after ∧
    ∀ x ∈ before ++ after, x.isTerminal = false ∧ x.recordsClose = false

/-- In a cycle no event closes the run or records a close marker but those that report a rejected
close. -/
def Registry.LeavesCloses (reg : Registry) (log : EventLog) (workflow : WorkflowInfo)
    (fresh : FreshTexts) : Prop :=
  ∀ p ∈ reg.contributions log workflow fresh, p.1.type.isCloseFailure = false →
    ∀ x ∈ p.2, x.isTerminal = false ∧ x.recordsClose = false

instance (reg : Registry) (log : EventLog) (workflow : WorkflowInfo) (fresh : FreshTexts) :
    Decidable (reg.LeavesCloses log workflow fresh) :=
  inferInstanceAs (Decidable (∀ p ∈ reg.contributions log workflow fresh,
    p.1.type.isCloseFailure = false → ∀ x ∈ p.2, x.isTerminal = false ∧ x.recordsClose = false))

/-! ### The cycle over a history that awaits a close -/

/-- What an event adds that reports a rejected close, if the control to issue again can be read. -/
theorem CycleState.added_of_rejected {reg : Registry} {log : EventLog} {workflow : WorkflowInfo}
    {c : CloseControl} {e : Event} (hrejected : e.type.isCloseFailure = true)
    (hregular : e.attributes.isOther = false)
    (hlatest : log.latestMarkerDetails closeMarkerName = some c.encode) (s : CycleState) :
    s.added reg log workflow e = [c.record, c.decision] := by
  obtain ⟨ctx, hctx⟩ := EventContext.exists_of_rejected log workflow hrejected hregular
  obtain ⟨s', control, hvisit, -, hdraft, hreissues⟩ :=
    CycleState.exists_visit_of_rejected reg s hctx hrejected
  obtain ⟨details, -, rfl⟩ := EventContext.extract_ok hctx
  obtain rfl := hreissues.eq_of_latest hlatest
  rw [added, hvisit, hdraft]
  exact List.drop_left

namespace Recorder.Awaits

variable {reg : Registry} {c : CloseControl} {r : Recorder} {fresh : FreshTexts}
  {batch : DecisionBatch}

/-- The log of the history. -/
theorem log_eq (h : Awaits c r) : r.log = .ok r.asLog := by
  obtain ⟨e, hleft, -⟩ := h.one_left
  have hmem : e ∈ r.events := (List.mem_filter.mp (hleft ▸ List.mem_singleton_self e)).1
  exact EventLog.assemble_of_numbered h.numbered (List.ne_nil_of_mem hmem) _

/-- One of the new events reports a rejected close. -/
theorem exists_newEvents (h : Awaits c r) :
    ∃ front e back, r.asLog.newEvents = front ++ e :: back ∧
      (∀ x ∈ front ++ back, x.type.isCloseFailure = false) ∧ e.type.isCloseFailure = true ∧
      e.attributes.isOther = false := by
  obtain ⟨e, hleft, hregular⟩ := h.one_left
  have hfilter : r.asLog.newEvents.filter (·.type.isCloseFailure) = [e] := by
    rw [EventLog.newEvents, EventLog.after_eq_filter h.numbered.descending, List.filter_reverse,
      List.filter_filter]
    exact congrArg List.reverse hleft
  obtain ⟨front, back, hnew, hfront, hrejected, hback⟩ := List.filter_eq_cons_iff.mp hfilter
  refine ⟨front, e, back, hnew, List.forall_mem_append.mpr ⟨fun x hx => ?_, fun x hx => ?_⟩,
    hrejected, hregular⟩
  · exact Bool.eq_false_iff.mpr (hfront x hx)
  · exact Bool.eq_false_iff.mpr (List.filter_eq_nil_iff.mp hback x hx)

/-- **The cycle over a history that awaits a close issues this close**, and no other one. -/
theorem closesOnce (h : Awaits c r) (hleaves : reg.LeavesCloses r.asLog r.workflow fresh)
    (hdecided : (reg.cycle r.asLog r.workflow fresh).ending = .decided batch) :
    batch.ClosesOnce c := by
  obtain ⟨front, e, back, hnew, hother, hrejected, hregular⟩ := h.exists_newEvents
  -- The contributions are taken apart where the events are.
  have hevents := reg.map_contributions r.asLog r.workflow fresh
  rw [Registry.visited_of_decided hdecided, hnew] at hevents
  obtain ⟨before, rest, hcontributions, rfl, hrest⟩ := List.map_eq_append_iff.mp hevents
  obtain ⟨p, after, rfl, rfl, rfl⟩ := List.map_eq_cons_iff.mp hrest
  have hp : p ∈ reg.contributions r.asLog r.workflow fresh := by simp [hcontributions]
  obtain ⟨t, hadded⟩ := CycleState.exists_of_mem_contributions reg _ r.workflow hp
  rw [CycleState.added_of_rejected hrejected hregular h.latest t] at hadded
  refine ⟨(before.map Prod.snd).flatten, (after.map Prod.snd).flatten, ?_, ?_⟩
  · rw [Registry.eq_flatten_contributions hdecided, hcontributions]
    simp [hadded]
  · intro x hx
    rw [← List.flatten_append, ← List.map_append] at hx
    obtain ⟨b, hb, hxb⟩ := List.mem_flatten.mp hx
    obtain ⟨q, hq, rfl⟩ := List.mem_map.mp hb
    refine hleaves q ?_ (hother q.1 ?_) x hxb
    · rw [hcontributions]
      rcases List.mem_append.mp hq with hq | hq <;> simp [hq]
    · rw [← List.map_append]
      exact List.mem_map_of_mem hq

/-- The event that reports the rejected close does not end the cycle. -/
theorem exists_stopped (h : Awaits c r)
    (hnone : (reg.cycle r.asLog r.workflow fresh).batch? = none) :
    ∃ e, (reg.visited r.asLog r.workflow fresh).getLast? = some e ∧
      e.type.isCloseFailure = false := by
  obtain ⟨front, x, back, hnew, hother, hrejected, hregular⟩ := h.exists_newEvents
  obtain ⟨e, he, hlast, t, hstop⟩ := Registry.exists_of_not_decided hnone
  refine ⟨e, hlast, ?_⟩
  rw [hnew] at he
  rcases List.mem_append.mp he with he | he
  · exact hother e (List.mem_append_left _ he)
  · rcases List.mem_cons.mp he with rfl | he
    · obtain ⟨ctx, hctx⟩ := EventContext.exists_of_rejected _ r.workflow hrejected hregular
      obtain ⟨s', control, hvisit, -⟩ :=
        CycleState.exists_visit_of_rejected reg t hctx hrejected
      rw [hvisit] at hstop
      cases hstop
    · exact hother e (List.mem_append_right _ he)

end Recorder.Awaits

/-! ### Any number of rejections -/

/-- The histories in which a close has been rejected a number of times in a row.  Apart from that
anything may happen in them, as long as no other close is rejected and nobody else records a close
marker behind that of the close. -/
inductive Rejected (reg : Registry) (c : CloseControl) : Nat → Recorder → Prop
  /-- A cycle closes the run once, and the close is rejected. -/
  | first {r s t u : Recorder} {log : EventLog} {fresh : FreshTexts} {batch : DecisionBatch}
      {cause : String}
      (hbuilt : Built r) (hbefore : Continues ReportsNone r.decisionStarted s)
      (hlog : s.log = .ok log)
      (hdecided : (reg.cycle log s.workflow fresh).ending = .decided batch)
      (hone : batch.filter Decision.isTerminal = [c.decision])
      (hafter : ∀ x ∈ batch.dropWhile (!·.isTerminal), x.recordsClose = false)
      (hthen : Continues ReportsNone s t)
      (happly : t.apply (some cause) batch = (u, none)) : Rejected reg c 1 u
  /-- In a later cycle nobody but recovery closes the run, and the close is rejected again. -/
  | again {n : Nat} {r s t u v : Recorder} {log : EventLog} {fresh : FreshTexts}
      {batch : DecisionBatch} {cause : String}
      (hrejected : Rejected reg c n r) (hbefore : Continues LeavesCloses r s)
      (hbegun : Continues LeavesCloses s.decisionStarted t)
      (hlog : t.log = .ok log)
      (hdecided : (reg.cycle log t.workflow fresh).ending = .decided batch)
      (hleaves : reg.LeavesCloses log t.workflow fresh)
      (hthen : Continues ReportsNone t u)
      (happly : u.apply (some cause) batch = (v, none)) : Rejected reg c (n + 1) v

namespace Rejected

variable {reg : Registry} {c : CloseControl} {n : Nat} {r s : Recorder}

/-- **After any number of rejections the history awaits the close.** -/
theorem awaits (h : Rejected reg c n r) : Awaits c r := by
  induction h with
  | first hbuilt hbefore hlog hdecided hone hafter hthen happly =>
      have hanswered := ((Recorder.answered_decisionStarted hbuilt.numbered).continues
        hbefore).continues hthen
      obtain ⟨before, after, rfl, hother⟩ :=
        (Registry.closesRecorded_of_decided hdecided).exists_eq_append hone
      have hbehind : (before ++ c.record :: c.decision :: after).dropWhile (!·.isTerminal)
          = c.decision :: after := by
        rw [List.dropWhile_append_of_pos fun x hx => by simp [hother x (List.mem_append_left _ hx)]]
        simp
      rw [hbehind] at hafter
      exact Recorder.awaits_of_apply hanswered (fun x hx => hother x (List.mem_append_left _ hx))
        (fun x hx => ⟨hother x (List.mem_append_right _ hx), hafter x (List.mem_cons_of_mem _ hx)⟩)
        happly
  | @again n r s t u v log fresh batch cause _ hbefore hbegun hlog hdecided hleaves hthen happly
      ih =>
      have hs := ih.continues hbefore
      have ht := ih.continues (hbefore.begin.trans hbegun)
      have hanswered := ((Recorder.answered_decisionStarted hs.numbered).continues
        (hbegun.mono fun _ h => h.1)).continues hthen
      obtain rfl := Except.ok.inj (hlog.symm.trans ht.log_eq)
      obtain ⟨before, after, rfl, hother⟩ := ht.closesOnce hleaves hdecided
      exact Recorder.awaits_of_apply hanswered
        (fun x hx => (hother x (List.mem_append_left _ hx)).1)
        (fun x hx => hother x (List.mem_append_right _ hx)) happly

/-- **A rejected close is issued again, however often it has been rejected.**  Whatever else occurs
after the last rejection, there is a log, and no handler is called for an event that reports a
rejected close.  If nobody else closes the run in the cycle over that log, its batch has exactly one
close decision, which is that of the control and stands right behind its record.  If the cycle comes
to no decisions, some other event has ended it. -/
theorem reissues (h : Rejected reg c n r) (hnext : Continues LeavesCloses r s)
    (fresh : FreshTexts) :
    ∃ log, s.log = .ok log ∧
      (∀ ctx ∈ (reg.cycle log s.workflow fresh).handled,
        ctx.event.type.isCloseFailure = false) ∧
      (reg.LeavesCloses log s.workflow fresh → ∀ batch,
        (reg.cycle log s.workflow fresh).ending = .decided batch → batch.ClosesOnce c) ∧
      ((reg.cycle log s.workflow fresh).batch? = none →
        ∃ e, (reg.visited log s.workflow fresh).getLast? = some e ∧
          e.type.isCloseFailure = false) := by
  have hs := h.awaits.continues hnext
  exact ⟨_, hs.log_eq, reg.handled_not_rejected _ s.workflow fresh,
    fun hleaves _ hdecided => hs.closesOnce hleaves hdecided, hs.exists_stopped⟩

end Rejected

/-! ### A close that is rejected twice -/

/-- The close of the run below. -/
def CloseControl.shipped : CloseControl := .complete (some "shipped")

/-- The decisions of each of its cycles. -/
def DecisionBatch.shipped : DecisionBatch :=
  [CloseControl.shipped.record, CloseControl.shipped.decision]

namespace Recorder

/-- A run that has been started. -/
def shipping : Recorder := start ⟨"order", "1"⟩ none

/-- The run after its first cycle, during which a signal has arrived. -/
def rejectedOnce : Recorder :=
  ((shipping.signal "late" none).apply (some "UNHANDLED_DECISION") .shipped).1

/-- The second decision task, before which a further signal has arrived. -/
def shippingAgain : Recorder := (rejectedOnce.signal "later" none).decisionStarted

/-- The run after its second cycle. -/
def rejectedTwice : Recorder := (shippingAgain.apply (some "UNHANDLED_DECISION") .shipped).1

/-- The third decision task. -/
def shippingOnceMore : Recorder := rejectedTwice.decisionStarted

end Recorder

namespace Rejected

open Recorder (shipping shippingAgain shippingOnceMore)

/-- All cycles of the run decide to close it. -/
theorem decided_shipping : ∀ r ∈ [shipping, shippingAgain, shippingOnceMore],
    ((Registry.closing .shipped).cycle r.asLog r.workflow .counted).ending
      = .decided .shipped := by
  decide +kernel

/-- In the later ones only recovery does. -/
theorem leavesCloses_shipping : ∀ r ∈ [shippingAgain, shippingOnceMore],
    (Registry.closing .shipped).LeavesCloses r.asLog r.workflow .counted := by
  decide +kernel

theorem once_shipped : Rejected (.closing .shipped) .shipped 1 .rejectedOnce := by
  have hbuilt : Built ((Recorder.empty ⟨"order", "1"⟩).push
      (.workflowExecutionStarted ⟨"order", "1"⟩ none .empty [])) := .push (.empty _) _
  have hlog : shipping.log = .ok shipping.asLog := rfl
  have hdecided := decided_shipping shipping (by simp)
  have hafter : ∀ x ∈ DecisionBatch.shipped.dropWhile (!·.isTerminal), x.recordsClose = false :=
    List.forall_mem_singleton.mpr rfl
  have hthen : Continues ReportsNone shipping (shipping.signal "late" none) := .push .refl rfl
  have happly : (shipping.signal "late" none).apply (some "UNHANDLED_DECISION") .shipped
      = (.rejectedOnce, none) := rfl
  exact .first hbuilt .refl hlog hdecided rfl hafter hthen happly

theorem twice_shipped : Rejected (.closing .shipped) .shipped 2 .rejectedTwice := by
  have hbefore : Continues LeavesCloses .rejectedOnce (Recorder.rejectedOnce.signal "later" none) :=
    .push .refl ⟨rfl, rfl⟩
  have hlog : shippingAgain.log = .ok shippingAgain.asLog := rfl
  have hdecided := decided_shipping shippingAgain (by simp)
  have hleaves := leavesCloses_shipping shippingAgain (by simp)
  have happly : shippingAgain.apply (some "UNHANDLED_DECISION") .shipped = (.rejectedTwice, none) :=
    rfl
  exact .again once_shipped hbefore .refl hlog hdecided hleaves .refl happly

/-- The third cycle of the run issues the close again. -/
theorem reissues_shipped :
    ∃ log batch, shippingOnceMore.log = .ok log ∧
      ((Registry.closing .shipped).cycle log shippingOnceMore.workflow .counted).ending
        = .decided batch ∧ batch.ClosesOnce .shipped := by
  have hnext : Continues LeavesCloses .rejectedTwice shippingOnceMore := .begin .refl
  obtain ⟨log, hlog, -, hbatch, -⟩ := twice_shipped.reissues hnext .counted
  obtain rfl : log = shippingOnceMore.asLog := Except.ok.inj (hlog.symm.trans rfl)
  have hdecided := decided_shipping shippingOnceMore (by simp)
  exact ⟨_, _, hlog, hdecided, hbatch (leavesCloses_shipping shippingOnceMore (by simp)) _ hdecided⟩

end Rejected

end DurableWorkflow
