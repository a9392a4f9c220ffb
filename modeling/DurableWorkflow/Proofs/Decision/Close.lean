import DurableWorkflow.Proofs.Decision.Plan
import DurableWorkflow.Proofs.Json.RoundTrip

/-!
# Close decisions and their records

A close decision never stands alone: right before it stands the marker that keeps its control, and
the control is read back from the marker as it was.

## Main Definitions

* `CloseControl.record`: the marker that keeps a control.
* `DecisionBatch.ClosesRecorded`: every close decision directly follows the record of its control.
* `DecisionBatch.Recoverable`: the same in terms of what can be read back.
* `Plan.snapshots`: the decisions that a plan looks at on its way.

## Main Statements

* `CloseControl.decode_encode`: the round trip.
* `Plan.run_closesRecorded`: plans keep the records.
* `Plan.isPrefix_of_mem_snapshots`: what a plan sees is the beginning of what it leaves behind.
* `DecisionBatch.ClosesRecorded.exists_eq_append`: a batch with one close decision taken apart.

## Design Notes

Records are kept when batches are put together (`ClosesRecorded.append`), so for each operation of
a draft only the few decisions that it appends have to be looked at.
-/

namespace DurableWorkflow

open Json (Exact exact_ofText?)

/-! ### Controls -/

namespace CloseControl

/-- The marker that keeps a control. -/
def record (c : CloseControl) : Decision := .recordMarker closeMarkerName (some c.encode)

/-- The control of a close is written as it is. -/
theorem exact_toJson (c : CloseControl) : Exact c.toJson := by
  cases c with
  | complete result => exact ⟨trivial, exact_ofText? result, trivial⟩
  | fail reason details => exact ⟨trivial, exact_ofText? reason, exact_ofText? details, trivial⟩
  | cancel details => exact ⟨trivial, exact_ofText? details, trivial⟩

/-- **A control is read back as it was written.** -/
theorem decode_encode (c : CloseControl) : decode c.encode = .ok c := by
  -- Texts are opaque to the reader, so only which of them are absent matters.
  have hread : reader Json.Scope.whole c.toJson = some c := by
    cases c with
    | complete result => cases result <;> rfl
    | fail reason details => cases reason <;> cases details <;> rfl
    | cancel details => cases details <;> rfl
  rw [decode, encode, Json.decode?_render _ c.exact_toJson, hread]

/-- The decision that closes a run tells how the run is closed. -/
theorem decision_inj {c c' : CloseControl} (h : c.decision = c'.decision) : c = c' := by
  cases c <;> cases c' <;> cases h <;> rfl

/-- What a control decides closes the run. -/
@[simp]
theorem isTerminal_decision (c : CloseControl) : c.decision.isTerminal = true := by
  cases c <;> rfl

@[simp]
theorem isTerminal_record (c : CloseControl) : c.record.isTerminal = false := rfl

/-- The record of a close is not a decision that closes a run. -/
theorem record_ne_decision (c c' : CloseControl) : c.record ≠ c'.decision := by
  intro h
  have hterminal := congrArg Decision.isTerminal h
  rw [isTerminal_record, isTerminal_decision] at hterminal
  cases hterminal

end CloseControl

/-- What closes a run is the decision of some control. -/
theorem Decision.exists_control {x : Decision} (h : x.isTerminal = true) :
    ∃ c : CloseControl, c.decision = x := by
  cases x with
  | completeWorkflow result => exact ⟨.complete result, rfl⟩
  | failWorkflow reason details => exact ⟨.fail reason details, rfl⟩
  | cancelWorkflow details => exact ⟨.cancel details, rfl⟩
  | scheduleTask | startTimer | cancelTimer | recordMarker => cases h

/-! ### Batches -/

namespace DecisionBatch

/-- Every close decision directly follows the record of its control. -/
def ClosesRecorded (b : DecisionBatch) : Prop :=
  ∀ i (c : CloseControl), b[i]? = some c.decision → ∃ j, i = j + 1 ∧ b[j]? = some c.record

/-- Every close decision directly follows a marker from which it can be issued again. -/
def Recoverable (b : DecisionBatch) : Prop :=
  ∀ i x, b[i]? = some x → x.isTerminal = true → ∃ j payload control, i = j + 1 ∧
    b[j]? = some (.recordMarker closeMarkerName (some payload)) ∧
    CloseControl.decode payload = .ok control ∧ control.decision = x

namespace ClosesRecorded

variable {a b : DecisionBatch}

/-- Each close that is recorded right before it can be recovered from its record. -/
theorem recoverable (h : ClosesRecorded b) : Recoverable b := by
  intro i x hi hx
  obtain ⟨c, rfl⟩ := Decision.exists_control hx
  obtain ⟨j, hij, hj⟩ := h i c hi
  exact ⟨j, c.encode, c, hij, hj, c.decode_encode, rfl⟩

/-- A batch that does not close the run has nothing to record. -/
theorem of_not_terminal (h : ∀ x ∈ b, x.isTerminal = false) : ClosesRecorded b := by
  intro i c hi
  have hfalse := h _ (List.mem_of_getElem? hi)
  rw [CloseControl.isTerminal_decision] at hfalse
  cases hfalse

theorem nil : ClosesRecorded [] := of_not_terminal (fun _ hx => absurd hx List.not_mem_nil)

/-- What a draft appends to close the run. -/
theorem close (c : CloseControl) : ClosesRecorded [c.record, c.decision] := by
  intro i c' hi
  match i with
  | 0 => exact absurd (Option.some.inj hi) (c.record_ne_decision c')
  | 1 =>
      obtain rfl := CloseControl.decision_inj (Option.some.inj hi)
      exact ⟨0, rfl, rfl⟩
  | i + 2 => cases hi

/-- Batches with recorded closes go together. -/
theorem append (ha : ClosesRecorded a) (hb : ClosesRecorded b) : ClosesRecorded (a ++ b) := by
  intro i c hi
  rcases Nat.lt_or_ge i a.length with hlt | hge
  · rw [List.getElem?_append_left hlt] at hi
    obtain ⟨j, rfl, hj⟩ := ha i c hi
    exact ⟨j, rfl, by rwa [List.getElem?_append_left (Nat.lt_of_succ_lt hlt)]⟩
  · rw [List.getElem?_append_right hge] at hi
    obtain ⟨j, hij, hj⟩ := hb _ c hi
    refine ⟨a.length + j, by omega, ?_⟩
    rwa [List.getElem?_append_right (Nat.le_add_right ..), Nat.add_sub_cancel_left]

/-- A batch begins with decisions whose closes are recorded, wherever it is cut. -/
theorem of_isPrefix (hb : ClosesRecorded b) (h : a <+: b) : ClosesRecorded a := by
  intro i c hi
  obtain ⟨hlt, -⟩ := List.getElem?_eq_some_iff.mp hi
  obtain ⟨more, rfl⟩ := h
  obtain ⟨j, rfl, hj⟩ := hb i c (by rwa [List.getElem?_append_left hlt])
  exact ⟨j, rfl, by rwa [List.getElem?_append_left (Nat.lt_of_succ_lt hlt)] at hj⟩

/-- A batch with one close decision, taken apart at the record and the decision. -/
theorem exists_eq_append {c : CloseControl} (h : ClosesRecorded b)
    (hone : b.filter Decision.isTerminal = [c.decision]) :
    ∃ before after, b = before ++ c.record :: c.decision :: after ∧
      ∀ x ∈ before ++ after, x.isTerminal = false := by
  obtain ⟨front, after, rfl, hfront, -, hafter⟩ := List.filter_eq_cons_iff.mp hone
  obtain ⟨j, hj, hrecord⟩ := h front.length c (by simp)
  -- The record is the last decision of the front.
  have hlt : j < front.length := by omega
  rw [List.getElem?_append_left hlt] at hrecord
  have hlast : front.getLast? = some c.record := by
    rw [List.getLast?_eq_getElem?, show front.length - 1 = j by omega, hrecord]
  obtain ⟨before, rfl⟩ := List.getLast?_eq_some_iff.mp hlast
  refine ⟨before, after, by simp, List.forall_mem_append.mpr ⟨fun x hx => ?_, fun x hx => ?_⟩⟩
  · simpa using hfront x (List.mem_append_left _ hx)
  · simpa using List.filter_eq_nil_iff.mp hafter x hx

end ClosesRecorded

end DecisionBatch

/-! ### Drafts and plans -/

open DecisionBatch (ClosesRecorded)

namespace Draft

variable {d : Draft}

/-- No operation but that to close a run appends a close decision. -/
theorem closesRecorded_append (h : ClosesRecorded d.decisions) {more : DecisionBatch}
    (hmore : ∀ x ∈ more, x.isTerminal = false) : ClosesRecorded (d.decisions ++ more) :=
  h.append (.of_not_terminal hmore)

theorem isTerminal_cancelling (timerId : String) (force : Bool) :
    ∀ x ∈ d.cancelling timerId force, x.isTerminal = false := by
  cases force <;> simp [cancelling, Decision.isTerminal]

/-- Closing a run records the close. -/
theorem closesRecorded_close (h : ClosesRecorded d.decisions) (c : CloseControl) :
    ClosesRecorded (d.close c).decisions :=
  h.append (.close c)

end Draft

namespace Plan

/-- **Plans keep the records of close decisions.** -/
theorem run_closesRecorded (p : Plan) {d : Draft} (h : ClosesRecorded d.decisions) :
    ClosesRecorded (p.run d).2.decisions := by
  have hadded : ∀ x ∈ p.added d, (fun _ => True) x := fun _ _ => trivial
  refine run_induction (motive := fun d => ClosesRecorded d.decisions) ?_ ?_ ?_ ?_ ?_ p hadded h
  · exact fun d r h => Draft.closesRecorded_append h (List.forall_mem_singleton.mpr rfl)
  · exact fun d _ _ _ _ h => Draft.closesRecorded_append h (List.forall_mem_singleton.mpr rfl)
  · intro d timerId force h
    rw [Draft.cancelTimer_decisions]
    exact Draft.closesRecorded_append h (Draft.isTerminal_cancelling timerId force)
  · exact fun d _ _ _ h => Draft.closesRecorded_append h (List.forall_mem_singleton.mpr rfl)
  · exact fun d c h => Draft.closesRecorded_close h c

/-- The decisions that a plan looks at on its way. -/
def snapshots : Plan → Draft → List DecisionBatch
  | .done, _ | .fail _, _ | .crash _, _ => []
  | .schedule request next, d =>
    snapshots (next (d.nextTaskId request.taskType)) (d.schedule request)
  | .startTimer timerId startToFire control next, d =>
    snapshots next (d.startTimer timerId startToFire control)
  | .cancelTimer timerId force next, d => snapshots next (d.cancelTimer timerId force)
  | .recordMarker markerName details next, d => snapshots next (d.recordMarker markerName details)
  | .close control next, d => snapshots next (d.close control)
  | .inspect next, d => d.decisions :: snapshots (next d.decisions) d

/-- What a plan sees is the beginning of what it leaves behind. -/
theorem isPrefix_of_mem_snapshots (p : Plan) (d : Draft) :
    ∀ seen ∈ p.snapshots d, seen <+: (p.run d).2.decisions := by
  induction p generalizing d with
  | done | fail | crash => exact fun _ h => absurd h List.not_mem_nil
  | schedule request next ih => exact ih _ _
  | startTimer | cancelTimer | recordMarker | close => rename_i ih; exact ih _
  | inspect next ih =>
      intro seen hseen
      rcases List.mem_cons.mp hseen with rfl | hseen
      · exact decisions_prefix_run (.inspect next) d
      · exact ih _ d seen hseen

end Plan

end DurableWorkflow
