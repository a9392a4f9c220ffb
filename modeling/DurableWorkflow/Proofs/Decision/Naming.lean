import DurableWorkflow.Proofs.Decision.Plan
import DurableWorkflow.Proofs.Retry.Control

/-!
# New names

Tasks that are scheduled and timers that bring about a further decision task get names that end in a
fresh text.  The names that a task needs for its retries end in that text as well, so all of them
are told apart as long as no text is the end of another one.

## Main Definitions

* `NewName`: a name that a draft has made.
* `FreshTexts.Apart`: what is expected of the texts that have been taken.
* `FreshTexts.Makes`: the names that are made between two states of a supply.
* `Plan.newNames`: the names that a plan makes.

## Main Statements

* `Plan.makes_newNames`: a plan makes one name of each text that it takes.
* `Plan.decided_of_mem_newNames`: new names are those of decisions.
* `FreshTexts.Makes.nodup`: what ends in the text of a name comes only once.
* `Draft.retriesApart`: the retries of two tasks go by names of their own.
-/

namespace DurableWorkflow

/-- A name that ends in a fresh text. -/
inductive NewName where
  /-- The identity of a task of a type. -/
  | task (taskType : TaskType) (taskId : String)
  /-- The name of a timer that brings about a further decision task. -/
  | timer (timerId : String)
  deriving DecidableEq

namespace NewName

/-- The identity of a task. -/
def taskId? : NewName → Option String
  | .task _ taskId => some taskId
  | .timer _ => none

/-- The name of a timer. -/
def timerId? : NewName → Option String
  | .task _ _ => none
  | .timer timerId => some timerId

/-- The name of the timer after which a task is tried again. -/
def retryTimerId? : NewName → Option String
  | .task t taskId => some (retryTimerId t taskId)
  | .timer _ => none

/-- The name of the marker that counts the retries of a task. -/
def retryMarkerName? : NewName → Option String
  | .task t taskId => some (retryMarkerName t taskId)
  | .timer _ => none

/-- The name has been made with a text. -/
def MadeOf (text : String) : NewName → Prop
  | .task t taskId => taskId = freshTaskId t text
  | .timer timerId => timerId = forcedTimerPrefix ++ text

/-- The name is that of a decision of a batch. -/
def Decided (b : DecisionBatch) : NewName → Prop
  | .task t taskId => ∃ input control options, .scheduleTask taskId t input control options ∈ b
  | .timer timerId => .startTimer timerId .zero none ∈ b

/-- A name that has been decided stays decided. -/
theorem Decided.of_isPrefix {name : NewName} {b b' : DecisionBatch} (h : name.Decided b)
    (hbefore : b <+: b') : name.Decided b' := by
  cases name with
  | task t taskId =>
      obtain ⟨input, control, options, hmem⟩ := h
      exact ⟨input, control, options, hbefore.mem hmem⟩
  | timer timerId => exact hbefore.mem h

/-- Something about names tells with which text they have been made. -/
def Tells (about? : NewName → Option String) : Prop :=
  ∀ x y, EndsApart x y → ∀ a b : NewName, a.MadeOf x → b.MadeOf y → ∀ told,
    about? a = some told → about? b = some told → x = y

/-- The identifier of a task tells the text that it was made of. -/
theorem tells_taskId? : Tells taskId? := by
  rintro x y hapart (⟨t, taskId⟩ | _) (⟨u, taskId'⟩ | _) hx hy told ha hb <;> cases ha <;> cases hb
  exact (freshTaskId_inj hapart (hx.symm.trans hy)).2

/-- The identifier of a forced timer tells the text that it was made of. -/
theorem tells_timerId? : Tells timerId? := by
  rintro x y hapart (_ | timerId) (_ | timerId') hx hy told ha hb <;> cases ha <;> cases hb
  have hlist := congrArg String.toList (hx.symm.trans hy)
  simp only [String.toList_append] at hlist
  exact (hapart.append_inj hlist).2

/-- A name that ends in the type and the identity of a task tells the text of the identity. -/
theorem tells_named (start : String) {about? : NewName → Option String}
    (htask : ∀ t taskId, about? (.task t taskId) = some (start ++ t.name ++ ":" ++ taskId))
    (htimer : ∀ timerId, about? (.timer timerId) = none) : Tells about? := by
  rintro x y hapart (⟨t, taskId⟩ | timerId) (⟨u, taskId'⟩ | timerId') hx hy told ha hb
  · obtain rfl : taskId = freshTaskId t x := hx
    obtain rfl : taskId' = freshTaskId u y := hy
    rw [htask] at ha hb
    have hname := Option.some.inj (ha.trans hb.symm)
    exact (freshTaskId_inj hapart (named_inj start hapart hname)).2
  all_goals simp [htimer] at ha hb

theorem tells_retryTimerId? : Tells retryTimerId? :=
  tells_named retryTimerPrefix (fun _ _ => rfl) fun _ => rfl

theorem tells_retryMarkerName? : Tells retryMarkerName? :=
  tells_named retryMarkerPrefix (fun _ _ => rfl) fun _ => rfl

end NewName

/-! ### Supplies -/

namespace FreshTexts

/-- A text that has been taken keeps its place. -/
theorem text_of_later_tail {f g : FreshTexts} (h : g.tail.Later f) : f.text g.next = g.head :=
  congrFun h.text_eq g.next

/-- What is expected of the texts that have been taken: none is the end of another one. -/
def Apart (f : FreshTexts) : Prop :=
  ∀ i < f.next, ∀ j < f.next, i ≠ j → ¬ (f.text i).toList <:+ (f.text j).toList

/-- Texts of one length, none of which came twice, are of this kind. -/
theorem Distinct.apart {f : FreshTexts} (h : f.Distinct) : f.Apart := by
  intro i hi j hj hne hend
  have hlen : (f.text i).toList.length = (f.text j).toList.length := by
    rw [String.length_toList, String.length_toList, h.length_eq i hi j hj]
  exact hne (h.injective i hi j hj (String.toList_injective (hend.eq_of_length hlen)))

namespace Apart

variable {f : FreshTexts} {i j : Nat}

/-- A text that comes twice is taken once. -/
theorem injective (h : f.Apart) (hi : i < f.next) (hj : j < f.next) (heq : f.text i = f.text j) :
    i = j :=
  Decidable.byContradiction fun hne => h i hi j hj hne (heq ▸ List.suffix_refl _)

/-- Two texts that have been taken are equal, or neither ends in the other one. -/
theorem endsApart (h : f.Apart) (hi : i < f.next) (hj : j < f.next) :
    EndsApart (f.text i) (f.text j) := by
  by_cases hne : i = j
  · exact fun _ => congrArg f.text hne
  · rintro (hend | hend)
    · exact absurd hend (h i hi j hj hne)
    · exact absurd hend (h j hj i hi (Ne.symm hne))

end Apart

/-- The names that are made between two states of a supply, one of each text. -/
inductive Makes : FreshTexts → List NewName → FreshTexts → Prop
  | nil {f : FreshTexts} : Makes f [] f
  | cons {f g : FreshTexts} {name : NewName} {rest : List NewName} (hname : name.MadeOf f.head)
      (hrest : Makes f.tail rest g) : Makes f (name :: rest) g

namespace Makes

variable {f g h : FreshTexts} {names more : List NewName}

/-- Names that are made in turn are made together. -/
theorem append (hnames : Makes f names g) (hmore : Makes g more h) :
    Makes f (names ++ more) h := by
  induction hnames with
  | nil => exact hmore
  | cons hname _ ih => exact .cons hname (ih hmore)

/-- Making names takes texts. -/
theorem later (hnames : Makes f names g) : f.Later g := by
  induction hnames with
  | nil => exact .refl _
  | @cons f g name rest _ _ ih => exact f.later_tail.trans ih

/-- Each name is made of a text that is taken meanwhile. -/
theorem exists_text (hnames : Makes f names g) :
    ∀ name ∈ names, ∃ i, f.next ≤ i ∧ i < g.next ∧ name.MadeOf (g.text i) := by
  induction hnames with
  | nil => exact fun _ hmem => absurd hmem List.not_mem_nil
  | @cons f g name rest hname hrest ih =>
      refine List.forall_mem_cons.mpr ⟨⟨f.next, Nat.le_refl _, hrest.later.next_le, ?_⟩, ?_⟩
      · rwa [text_of_later_tail hrest.later]
      · intro other hmem
        obtain ⟨i, hle, hlt, hmade⟩ := ih other hmem
        exact ⟨i, Nat.le_of_succ_le hle, hlt, hmade⟩

/-- **What tells the text of a name comes only once.** -/
theorem nodup (hnames : Makes f names g) (hg : g.Apart) {about? : NewName → Option String}
    (htells : NewName.Tells about?) : (names.filterMap about?).Nodup := by
  induction hnames with
  | nil => exact List.nodup_nil
  | @cons f g name rest hname hrest ih =>
      -- The first name is made of a text that is taken before all others.
      have hlt : f.next < g.next := hrest.later.next_le
      have hfirst : name.MadeOf (g.text f.next) := by
        rwa [text_of_later_tail hrest.later]
      have hnew : ∀ told, about? name = some told → told ∉ rest.filterMap about? := by
        intro told htold hmem
        obtain ⟨other, hother, htold'⟩ := List.mem_filterMap.mp hmem
        obtain ⟨i, hle, hi, hmade⟩ := hrest.exists_text other hother
        have htext := htells _ _ (hg.endsApart hlt hi) _ _ hfirst hmade told htold htold'
        exact absurd (hg.injective hlt hi htext) (Nat.ne_of_lt hle)
      cases htold : about? name with
      | none =>
          rw [List.filterMap_cons_none htold]
          exact ih hg
      | some told =>
          rw [List.filterMap_cons_some htold]
          exact List.nodup_cons.mpr ⟨hnew told htold, ih hg⟩

end Makes

end FreshTexts

/-! ### Plans -/

namespace Plan

/-- The names that a plan makes, in order. -/
def newNames : Plan → Draft → List NewName
  | .done, _ | .fail _, _ | .crash _, _ => []
  | .schedule request next, d =>
    .task request.taskType (d.nextTaskId request.taskType)
      :: newNames (next (d.nextTaskId request.taskType)) (d.schedule request)
  | .startTimer timerId startToFire control next, d =>
    newNames next (d.startTimer timerId startToFire control)
  | .cancelTimer timerId true next, d =>
    .timer (forcedTimerPrefix ++ d.fresh.head) :: newNames next (d.cancelTimer timerId true)
  | .cancelTimer timerId false next, d => newNames next (d.cancelTimer timerId false)
  | .recordMarker markerName details next, d => newNames next (d.recordMarker markerName details)
  | .close control next, d => newNames next (d.close control)
  | .inspect next, d => newNames (next d.decisions) d

/-- **A plan makes one name of each text that it takes.** -/
theorem makes_newNames (p : Plan) (d : Draft) :
    d.fresh.Makes (p.newNames d) (p.run d).2.fresh := by
  induction p generalizing d with
  | done | fail | crash => exact .nil
  | schedule request next ih => exact .cons rfl (ih _ (d.schedule request))
  | startTimer timerId delay control next ih => exact ih (d.startTimer timerId delay control)
  | cancelTimer timerId force next ih =>
      cases force with
      | false => exact ih (d.cancelTimer timerId false)
      | true => exact .cons rfl (ih (d.cancelTimer timerId true))
  | recordMarker markerName details next ih => exact ih (d.recordMarker markerName details)
  | close control next ih => exact ih (d.close control)
  | inspect next ih => exact ih _ d

/-- The names that a plan makes are those of decisions that it leaves behind. -/
theorem decided_of_mem_newNames (p : Plan) (d : Draft) :
    ∀ name ∈ p.newNames d, name.Decided (p.run d).2.decisions := by
  induction p generalizing d with
  | done | fail | crash => exact fun _ hmem => absurd hmem List.not_mem_nil
  | schedule request next ih =>
      refine List.forall_mem_cons.mpr ⟨?_, ih _ (d.schedule request)⟩
      have hscheduled : NewName.Decided (d.schedule request).decisions
          (.task request.taskType (d.nextTaskId request.taskType)) :=
        ⟨request.input, request.control, d.optionsOf request, by simp⟩
      exact hscheduled.of_isPrefix (decisions_prefix_run _ (d.schedule request))
  | startTimer timerId delay control next ih => exact ih (d.startTimer timerId delay control)
  | cancelTimer timerId force next ih =>
      cases force with
      | false => exact ih (d.cancelTimer timerId false)
      | true =>
          refine List.forall_mem_cons.mpr ⟨?_, ih (d.cancelTimer timerId true)⟩
          have hstarted : NewName.Decided (d.cancelTimer timerId true).decisions
              (.timer (forcedTimerPrefix ++ d.fresh.head)) := by
            simp [NewName.Decided, Draft.cancelling]
          exact hstarted.of_isPrefix (decisions_prefix_run _ (d.cancelTimer timerId true))
  | recordMarker markerName details next ih => exact ih (d.recordMarker markerName details)
  | close control next ih => exact ih (d.close control)
  | inspect next ih => exact ih _ d

end Plan

/-! ### Two tasks -/

theorem retryMarkerName_ne_closeMarkerName (t : TaskType) (taskId : String) :
    retryMarkerName t taskId ≠ closeMarkerName := by
  intro h
  have hretry := isRetryMarker_retryMarkerName t taskId
  rw [h, isRetryMarker_closeMarkerName] at hretry
  cases hretry

namespace Draft

variable {d d' : Draft}

/-- What the retries of two tasks go by, if the tasks are the next that two drafts schedule. -/
structure RetriesApart (d d' : Draft) (t u : TaskType) : Prop where
  /-- A timer in common is one of tasks with one name and one identity. -/
  timer : retryTimerId t (d.nextTaskId t) = retryTimerId u (d'.nextTaskId u) →
    t.name = u.name ∧ d.nextTaskId t = d'.nextTaskId u
  /-- So is a marker in common. -/
  marker : retryMarkerName t (d.nextTaskId t) = retryMarkerName u (d'.nextTaskId u) →
    t.name = u.name ∧ d.nextTaskId t = d'.nextTaskId u
  /-- Tasks that get different texts have nothing in common. -/
  distinct : d.fresh.head ≠ d'.fresh.head → d.nextTaskId t ≠ d'.nextTaskId u ∧
    retryTimerId t (d.nextTaskId t) ≠ retryTimerId u (d'.nextTaskId u) ∧
    retryMarkerName t (d.nextTaskId t) ≠ retryMarkerName u (d'.nextTaskId u)

/-- **The retries of two tasks go by names of their own**, whatever the types are called. -/
theorem retriesApart (hends : EndsApart d.fresh.head d'.fresh.head) (t u : TaskType) :
    d.RetriesApart d' t u := by
  have hid : d.nextTaskId t = d'.nextTaskId u → t.name = u.name ∧ d.fresh.head = d'.fresh.head :=
    fun h => freshTaskId_inj hends h
  have hnamed (start : String)
      (h : start ++ t.name ++ ":" ++ d.nextTaskId t = start ++ u.name ++ ":" ++ d'.nextTaskId u) :
      t.name = u.name ∧ d.nextTaskId t = d'.nextTaskId u := by
    have hsame : d.nextTaskId t = d'.nextTaskId u := named_inj start hends h
    exact ⟨(hid hsame).1, hsame⟩
  refine ⟨hnamed retryTimerPrefix, hnamed retryMarkerPrefix, fun hne => ?_⟩
  have hids : d.nextTaskId t ≠ d'.nextTaskId u := fun h => hne (hid h).2
  exact ⟨hids, fun h => hids (hnamed retryTimerPrefix h).2,
    fun h => hids (hnamed retryMarkerPrefix h).2⟩

end Draft

end DurableWorkflow
