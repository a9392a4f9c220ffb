import DurableWorkflow.Decision.Plan

/-!
# What plans do to drafts

Whatever a handler does, it does by the operations of the draft, which only append.

## Main Definitions

* `FreshTexts.Later`: a supply from which some more texts may have been taken.
* `FreshTexts.Distinct`: what is expected of the texts that have been taken.
* `Plan.added`: the decisions that a plan adds to a draft.

## Main Statements

* `Plan.run_decisions`: the decisions before a plan are a prefix of those after it.
* `Plan.run_induction`: what every operation keeps holds after a plan.
-/

namespace DurableWorkflow

namespace FreshTexts

/-- A supply from which some more texts may have been taken. -/
structure Later (f g : FreshTexts) : Prop where
  text_eq : g.text = f.text
  next_le : f.next ≤ g.next

theorem Later.refl (f : FreshTexts) : f.Later f := ⟨rfl, Nat.le_refl _⟩

/-- Texts that have been taken one after the other have been taken together. -/
theorem Later.trans {f g h : FreshTexts} (hfg : f.Later g) (hgh : g.Later h) : f.Later h :=
  ⟨hgh.text_eq.trans hfg.text_eq, Nat.le_trans hfg.next_le hgh.next_le⟩

/-- Taking a text leads to a later supply. -/
theorem later_tail (f : FreshTexts) : f.Later f.tail := ⟨rfl, Nat.le_succ _⟩

/-- What is expected of the texts that have been taken: all are equally long, none came twice. -/
structure Distinct (f : FreshTexts) : Prop where
  length_eq : ∀ i < f.next, ∀ j < f.next, (f.text i).length = (f.text j).length
  injective : ∀ i < f.next, ∀ j < f.next, f.text i = f.text j → i = j

/-- What is expected of the texts of a later supply holds of those that were taken before. -/
theorem Distinct.of_later {f g : FreshTexts} (hg : g.Distinct) (hlater : f.Later g) :
    f.Distinct where
  length_eq := fun i hi j hj => by
    rw [← hlater.text_eq]
    exact hg.length_eq i (Nat.lt_of_lt_of_le hi hlater.next_le) j
      (Nat.lt_of_lt_of_le hj hlater.next_le)
  injective := fun i hi j hj => by
    rw [← hlater.text_eq]
    exact hg.injective i (Nat.lt_of_lt_of_le hi hlater.next_le) j
      (Nat.lt_of_lt_of_le hj hlater.next_le)

end FreshTexts

namespace Draft

variable (d : Draft)

@[simp]
theorem append_decisions (more : DecisionBatch) :
    (d.append more).decisions = d.decisions ++ more := rfl

@[simp]
theorem append_fresh (more : DecisionBatch) : (d.append more).fresh = d.fresh := rfl

/-- Decisions that are appended one after the other are appended together. -/
theorem append_append (more others : DecisionBatch) :
    (d.append more).append others = d.append (more ++ others) := by
  simp only [append, List.append_assoc]

/-- Scheduling a task appends one decision, under an identifier made of the next text. -/
@[simp]
theorem schedule_decisions (r : TaskRequest) :
    (d.schedule r).decisions = d.decisions ++
      [.scheduleTask (d.nextTaskId r.taskType) r.taskType r.input r.control (d.optionsOf r)] := rfl

/-- Scheduling a task takes one text. -/
@[simp]
theorem schedule_fresh (r : TaskRequest) : (d.schedule r).fresh = d.fresh.tail := rfl

/-- Starting a timer appends one decision. -/
@[simp]
theorem startTimer_decisions (timerId : String) (delay : Duration) (control : Option String) :
    (d.startTimer timerId delay control).decisions
      = d.decisions ++ [.startTimer timerId delay control] := rfl

@[simp]
theorem startTimer_fresh (timerId : String) (delay : Duration) (control : Option String) :
    (d.startTimer timerId delay control).fresh = d.fresh := rfl

/-- Recording a marker appends one decision. -/
@[simp]
theorem recordMarker_decisions (markerName : String) (details : Option String) :
    (d.recordMarker markerName details).decisions
      = d.decisions ++ [.recordMarker markerName details] := rfl

@[simp]
theorem recordMarker_fresh (markerName : String) (details : Option String) :
    (d.recordMarker markerName details).fresh = d.fresh := rfl

/-- Closing a run appends the record of how it is closed and, right behind it, the decision that
closes it. -/
@[simp]
theorem close_decisions (control : CloseControl) :
    (d.close control).decisions = d.decisions ++
      [.recordMarker closeMarkerName (some control.encode), control.decision] := rfl

@[simp]
theorem close_fresh (control : CloseControl) : (d.close control).fresh = d.fresh := rfl

/-- What cancelling a timer appends. -/
def cancelling (timerId : String) (force : Bool) : DecisionBatch :=
  .cancelTimer timerId ::
    if force then [.startTimer (forcedTimerPrefix ++ d.fresh.head) .zero none] else []

/-- Cancelling a timer appends the decision and, if it is forced, one that starts another timer,
which fires at once. -/
@[simp]
theorem cancelTimer_decisions (timerId : String) (force : Bool) :
    (d.cancelTimer timerId force).decisions = d.decisions ++ d.cancelling timerId force := by
  cases force <;> rfl

/-- Cancelling a timer takes a text at most. -/
theorem later_cancelTimer (timerId : String) (force : Bool) :
    d.fresh.Later (d.cancelTimer timerId force).fresh := by
  cases force with
  | false => exact .refl _
  | true => exact d.fresh.later_tail

end Draft

namespace Plan

/-! ### Growth -/

/-- The decisions that a plan adds to a draft. -/
def added (p : Plan) (d : Draft) : DecisionBatch :=
  (p.run d).2.decisions.drop d.decisions.length

/-- The decisions before a plan are those with which it begins. -/
theorem decisions_prefix_run (p : Plan) (d : Draft) : d.decisions <+: (p.run d).2.decisions := by
  induction p generalizing d with
  | done | fail | crash => exact List.prefix_rfl
  | schedule request next ih => exact (List.prefix_append _ _).trans (ih _ (d.schedule request))
  | startTimer timerId delay control next ih =>
      exact (List.prefix_append _ _).trans (ih (d.startTimer timerId delay control))
  | cancelTimer timerId force next ih =>
      refine List.IsPrefix.trans ?_ (ih (d.cancelTimer timerId force))
      rw [Draft.cancelTimer_decisions]
      exact List.prefix_append _ _
  | recordMarker markerName details next ih =>
      exact (List.prefix_append _ _).trans (ih (d.recordMarker markerName details))
  | close control next ih => exact (List.prefix_append _ _).trans (ih (d.close control))
  | inspect next ih => exact ih _ d

/-- A plan appends. -/
theorem run_decisions (p : Plan) (d : Draft) :
    (p.run d).2.decisions = d.decisions ++ p.added d :=
  (List.prefix_iff_eq_append.mp (decisions_prefix_run p d)).symm

/-- What a plan adds after a first operation is among what it adds. -/
theorem added_of_run_eq {p q : Plan} {d d₁ : Draft} {more : DecisionBatch}
    (hmore : d₁.decisions = d.decisions ++ more) (hrun : p.run d = q.run d₁) :
    p.added d = more ++ q.added d₁ := by
  have hp := run_decisions p d
  rw [hrun, run_decisions q d₁, hmore, List.append_assoc] at hp
  exact (List.append_cancel_left hp).symm

/-! ### Induction -/

/-- What holds of a draft holds after a plan if every operation keeps it.  Timers and markers have
to be of a kind of which all that the plan adds are. -/
theorem run_induction {motive : Draft → Prop} {allowed : Decision → Prop}
    (schedule : ∀ d r, motive d → motive (d.schedule r))
    (startTimer : ∀ d timerId delay control, allowed (.startTimer timerId delay control) →
      motive d → motive (d.startTimer timerId delay control))
    (cancelTimer : ∀ d timerId force, motive d → motive (d.cancelTimer timerId force))
    (recordMarker : ∀ d markerName details, allowed (.recordMarker markerName details) →
      motive d → motive (d.recordMarker markerName details))
    (close : ∀ d control, motive d → motive (d.close control))
    (p : Plan) {d : Draft} (hadded : ∀ x ∈ p.added d, allowed x) (hd : motive d) :
    motive (p.run d).2 := by
  induction p generalizing d with
  | done | fail | crash => exact hd
  -- What the rest of a plan adds is among what the whole adds, so all of it is allowed.
  | schedule request next ih =>
      refine ih (d.nextTaskId request.taskType) (fun x hx => hadded x ?_) (schedule d request hd)
      rw [added_of_run_eq (p := .schedule request next) (d.schedule_decisions request) rfl]
      exact List.mem_append_right _ hx
  | startTimer timerId delay control next ih =>
      have hsplit := added_of_run_eq (p := .startTimer timerId delay control next)
        (d.startTimer_decisions timerId delay control) rfl
      rw [hsplit] at hadded
      exact ih (fun x hx => hadded x (List.mem_append_right _ hx))
        (startTimer d timerId delay control (hadded _ (by simp)) hd)
  | cancelTimer timerId force next ih =>
      refine ih (fun x hx => hadded x ?_) (cancelTimer d timerId force hd)
      rw [added_of_run_eq (p := .cancelTimer timerId force next)
        (d.cancelTimer_decisions timerId force) rfl]
      exact List.mem_append_right _ hx
  | recordMarker markerName details next ih =>
      have hsplit := added_of_run_eq (p := .recordMarker markerName details next)
        (d.recordMarker_decisions markerName details) rfl
      rw [hsplit] at hadded
      exact ih (fun x hx => hadded x (List.mem_append_right _ hx))
        (recordMarker d markerName details (hadded _ (by simp)) hd)
  | close control next ih =>
      refine ih (fun x hx => hadded x ?_) (close d control hd)
      rw [added_of_run_eq (p := .close control next) (d.close_decisions control) rfl]
      exact List.mem_append_right _ hx
  | inspect next ih => exact ih d.decisions hadded hd

/-- A plan takes texts from the supply in order. -/
theorem run_later (p : Plan) (d : Draft) : d.fresh.Later (p.run d).2.fresh := by
  have hadded : ∀ x ∈ p.added d, (fun _ => True) x := fun _ _ => trivial
  exact run_induction (motive := fun d' => d.fresh.Later d'.fresh)
    (fun d' _ h => h.trans d'.fresh.later_tail) (fun _ _ _ _ _ h => h)
    (fun d' timerId force h => h.trans (d'.later_cancelTimer timerId force)) (fun _ _ _ _ h => h)
    (fun _ _ h => h) p hadded (.refl _)

end Plan

end DurableWorkflow
