import DurableWorkflow.Proofs.Worker.Answer

/-!
# Reports of tasks

Whatever an executor does, its assignment is reported once, and last: with the result that the
executor has returned, or as failed or canceled with as much of the texts as the service accepts.

## Main Definitions

* `TaskRun.conduct`: what an executor does if its signs of life are answered in turn.
* `Text.Shortens`, `TaskEnding.ReportedAs`: what is reported of the end of an executor.
* `PollSource.Ends`: no unit goes on for ever.
* `TaskDuty.Reported`, `TaskDuty.Reports`: how far the report of an assignment has come.
* `TaskDuty.Standing`: what the steps of an assignment have led to.

## Main Statements

* `Text.shortens_iff`: a text is shortened to its first characters.
* `TaskEnding.reportedAs_clipped`: what is reported of an end is what should be.
* `TaskDuty.Standing.step`: each step of an assignment does its part.
* `TaskDuty.ends`: an assignment does not go on for ever.
* `TaskDuty.reports_once`: each assignment is reported once.

## Design Notes

The conduct of an executor is told from its run and from the answers of the service alone, the calls
that are made from the steps of its assignment.  Nothing is supposed of the service or of what
others do between two steps.
-/

namespace DurableWorkflow

/-! ### What an executor does -/

/-- How the execution of an assignment ends. -/
inductive TaskEnding where
  | returned (outcome : TaskOutcome)
  | failed (error : ExecutorError)
  /-- The executor has broken off, with a message if it has one. -/
  | brokeOff (message : Option String)
  /-- There is no executor for the type of the task. -/
  | unknownType

/-- What an executor does if its signs of life are answered in turn: the signs that it gives, and
its end, if it comes to it before a sign of life is left without an answer. -/
def TaskRun.conduct :
    TaskRun → List (Answer (Remote Bool)) → List (Option String) × Option TaskEnding
  | .finish outcome, _ => ([], some (.returned outcome))
  | .fail e, _ => ([], some (.failed e))
  | .crash message, _ => ([], some (.brokeOff message))
  | .sleep _ next, answers => next.conduct answers
  | .heartbeat details _, [] => ([details], none)
  | .heartbeat details _, .broken message :: _ => ([details], some (.brokeOff (some message)))
  | .heartbeat details next, .given answer :: answers =>
    let (signs, ending) := (next answer).conduct answers
    (details :: signs, ending)

/-! ### What is reported -/

/-- A text that stands for another: absent if that one is, and otherwise its first characters, all
of them up to a number. -/
def Text.Shortens (max : Nat) : Option String → Option String → Prop
  | none, none => True
  | some text, some short => short.toList <+: text.toList ∧ short.length = min text.length max
  | none, some _ | some _, none => False

theorem Text.shortens_iff {max : Nat} {text short : Option String} :
    Text.Shortens max text short ↔ short = text.map (Text.clip max) := by
  cases text with
  | none => cases short <;> simp [Text.Shortens]
  | some text =>
      cases short with
      | none => simp [Text.Shortens]
      | some short =>
          rw [Text.Shortens, Option.map_some, Option.some.injEq, Text.clip]
          constructor
          · rintro ⟨hinitial, hlength⟩
            have htake := List.prefix_iff_eq_take.mp hinitial
            rw [String.length_toList, hlength, ← String.length_toList, Nat.min_comm,
              ← List.take_take, List.take_length] at htake
            rw [← htake, String.ofList_toList]
          · rintro rfl
            refine ⟨?_, ?_⟩
            · rw [String.toList_ofList]
              exact List.take_prefix _ _
            · rw [← String.length_toList, String.toList_ofList, List.length_take,
                String.length_toList, Nat.min_comm]

/-- Characters are counted, not bytes. -/
example : Text.Shortens 2 (some "éàü") (some "éà") := by
  rw [Text.shortens_iff]
  decide

namespace TaskEnding

/-- The reason and the details of an end that is a failure. -/
def failure? (t : TaskType) : TaskEnding → Option (Option String × Option String)
  | .returned (.failed reason details) => some (reason, details)
  | .returned (.completed _) | .returned (.canceled _) => none
  | .failed e => some (some e.message, some (e.type ++ ": " ++ e.shown))
  | .brokeOff message => some (some "task executor panicked", some (message.getD "unknown panic"))
  | .unknownType => some (some ("unknown task type " ++ t.text), none)

/-- What is reported of the end of an executor: a result as it is, a cancellation and a failure with
as much of their texts as the service accepts. -/
structure ReportedAs (t : TaskType) (ending : TaskEnding) (outcome : TaskOutcome) : Prop where
  completed : ∀ result, outcome = .completed result ↔ ending = .returned (.completed result)
  canceled : ∀ short, outcome = .canceled short ↔
    ∃ details, ending = .returned (.canceled details) ∧ Text.Shortens 32768 details short
  failed : ∀ reason details, outcome = .failed reason details ↔
    ∃ reason' details', ending.failure? t = some (reason', details') ∧
      Text.Shortens 256 reason' reason ∧ Text.Shortens 32768 details' details

/-- The outcome as which an end counts. -/
def outcome (t : TaskType) : TaskEnding → TaskOutcome
  | .returned outcome => outcome
  | .failed e => e.outcome
  | .brokeOff message => .ofCrash message
  | .unknownType => .unknownType t

theorem reportedAs_clipped (t : TaskType) (ending : TaskEnding) :
    ending.ReportedAs t (ending.outcome t).clipped := by
  have hfailed (reason details : Option String)
      (houtcome : ending.outcome t = .failed reason details)
      (hfailure : ending.failure? t = some (reason, details))
      (hother : ∀ o, ending = .returned o → o = .failed reason details) :
      ending.ReportedAs t (ending.outcome t).clipped := by
    rw [houtcome]
    refine ⟨fun result => ?_, fun short => ?_, fun reason' details' => ?_⟩
    · exact ⟨nofun, fun h => nomatch hother _ h⟩
    · exact ⟨nofun, fun ⟨_, h, _⟩ => nomatch hother _ h⟩
    · simp only [TaskOutcome.clipped, TaskOutcome.failed.injEq, hfailure, Option.some.injEq,
        Prod.mk.injEq, Text.shortens_iff]
      constructor
      · rintro ⟨rfl, rfl⟩
        exact ⟨reason, details, ⟨rfl, rfl⟩, rfl, rfl⟩
      · rintro ⟨_, _, ⟨rfl, rfl⟩, rfl, rfl⟩
        exact ⟨rfl, rfl⟩
  cases ending with
  | failed e => exact hfailed _ _ rfl rfl fun _ h => nomatch h
  | brokeOff message => exact hfailed _ _ rfl rfl fun _ h => nomatch h
  | unknownType => exact hfailed _ _ rfl rfl fun _ h => nomatch h
  | returned outcome =>
      cases outcome with
      | failed reason details =>
          exact hfailed reason details rfl rfl fun o h => (returned.inj h).symm
      | completed result =>
          refine ⟨fun result' => ?_, fun short => ?_, fun reason details => ?_⟩
          · simp [TaskEnding.outcome, TaskOutcome.clipped]
          · simp [TaskEnding.outcome, TaskOutcome.clipped]
          · simp [TaskEnding.outcome, TaskOutcome.clipped, failure?]
      | canceled details =>
          refine ⟨fun result' => ?_, fun short => ?_, fun reason details' => ?_⟩
          · simp [TaskEnding.outcome, TaskOutcome.clipped]
          · simp [TaskEnding.outcome, TaskOutcome.clipped, Text.shortens_iff,
              TaskOutcome.maxDetailsLength, eq_comm]
          · simp [TaskEnding.outcome, TaskOutcome.clipped, failure?]

end TaskEnding

/-! ### Units that come to an end -/

section Ends

variable {Env Fetch Job : Type}

/-- A state of a unit can be followed by another one. -/
def PollSource.Next (src : PollSource Env Fetch Job) (next state : Job) : Prop :=
  ∃ now env, (src.process now env state).progress.next? = some next

/-- No unit goes on for ever, whatever the environment is at its steps. -/
def PollSource.Ends (src : PollSource Env Fetch Job) : Prop := WellFounded src.Next

/-- Steps are made at the given moments, in turn. -/
def Stride.Follow (moments : Nat → Time × Env) (strides : List (Stride Env)) : Prop :=
  strides.map (fun x => (x.time, x.before)) = (List.range strides.length).map moments

theorem Stride.Follow.concat {moments : Nat → Time × Env} {strides : List (Stride Env)}
    (h : Follow moments strides) (after : Env) :
    let moment := moments strides.length
    Follow moments (strides ++ [⟨moment.1, moment.2, after⟩]) := by
  intro moment
  rw [Follow] at h ⊢
  rw [List.map_append, h, List.length_append, List.length_singleton, List.range_succ,
    List.map_append]
  rfl

end Ends

/-! ### The report of an assignment -/

namespace TaskDuty

variable {State : Type} (d : TaskDuty State) (a : TaskAssignment)

/-- The answer to a sign of life, if a step gives one and an answer comes. -/
def answer? (x : Stride (Host State)) : Option (Answer (Remote Bool)) :=
  match x.calls with
  | [.heartbeat token details] =>
    match (d.service.heartbeat token details x.before.service).2 with
    | .after _ answer => some answer
    | .never => none
  | _ => none

/-- The answers to the signs of life that steps give. -/
def answers (strides : List (Stride (Host State))) : List (Answer (Remote Bool)) :=
  strides.filterMap d.answer?

/-- What the executor of an assignment does if its signs of life are answered in turn. -/
def conduct (answers : List (Answer (Remote Bool))) : List (Option String) × Option TaskEnding :=
  match d.registry.executor? a.taskType with
  | some executor => (executor a d.request.identity).conduct answers
  | none => ([], some .unknownType)

/-- The calls of an assignment are the signs of life of its executor, all of them. -/
def AllSigns (strides : List (Stride (Host State))) : Prop :=
  strides.flatMap Stride.calls
    = (d.conduct a (d.answers strides)).1.map (Call.heartbeat a.taskToken)

/-- An assignment has been reported: after the signs of life of its executor, the last of its calls
reports the end of the executor. -/
structure Reported (strides : List (Stride (Host State))) (outcome : TaskOutcome)
    (reply : Reply (Remote PUnit)) : Prop where
  calls : strides.flatMap Stride.calls
    = (d.conduct a (d.answers strides)).1.map (Call.heartbeat a.taskToken)
      ++ [.report a.taskToken outcome]
  ending : ∃ ending, (d.conduct a (d.answers strides)).2 = some ending ∧
    ending.ReportedAs a.taskType outcome
  reply : ∃ stride ∈ strides, stride.calls = [.report a.taskToken outcome] ∧
    (d.service.report a.taskToken outcome stride.before.service).2 = reply

/-- How an assignment ends with the reply to its report. -/
def upshot : Reply (Remote PUnit) → Progress Working UnitResult
  | .never => .never
  | .after _ (.given (.ok _)) => .done (.ok ⟨⟩)
  | .after _ (.given (.error e)) => .done (.error (.remote e))
  | .after _ (.broken message) => .crash message

/-- How far the report of an assignment has come. -/
inductive Reports (strides : List (Stride (Host State))) (progress : Progress Working UnitResult) :
    Prop
  /-- The assignment goes on, and the executor has given signs of life at most. -/
  | pending (hgoes : progress.next?.isSome)
      (hsigns : strides.flatMap Stride.calls
        <+: (d.conduct a (d.answers strides)).1.map (Call.heartbeat a.taskToken))
  /-- A sign of life is never answered, and the executor never comes to its end. -/
  | unanswered (hnever : progress = .never) (hsigns : d.AllSigns a strides)
      (hending : (d.conduct a (d.answers strides)).2 = none)
  /-- The assignment waits for the reply to its report, or has ended with it. -/
  | reported {outcome : TaskOutcome} {reply : Reply (Remote PUnit)}
      (hreported : d.Reported a strides outcome reply)
      (hgoes : progress.next?.isSome ∨ progress = upshot reply)

/-- The calls of an assignment are signs of life of its executor, which goes on with a run. -/
def LeadsTo (strides : List (Stride (Host State))) (run : TaskRun) : Prop :=
  ∃ signs : List (Option String),
    strides.flatMap Stride.calls = signs.map (Call.heartbeat a.taskToken) ∧
      ∀ answers, d.conduct a (d.answers strides ++ answers)
        = (signs ++ (run.conduct answers).1, (run.conduct answers).2)

/-- What the steps of an assignment have led to, before its next step. -/
inductive Standing (strides : List (Stride (Host State))) : Executing → Prop
  | assigned (hstrides : strides = []) : Standing strides (.assigned a)
  | running {run : TaskRun} (hleads : d.LeadsTo a strides run) : Standing strides (.running a run)
  | ended {ending : TaskEnding} (hsigns : d.AllSigns a strides)
      (hending : (d.conduct a (d.answers strides)).2 = some ending) :
      Standing strides (.ended a (ending.outcome a.taskType))
  | reported {outcome : TaskOutcome} {ms : Nat} {answer : Answer (Remote PUnit)}
      (hreported : d.Reported a strides outcome (.after ms answer)) :
      Standing strides (.reported outcome answer)

/-- What a step of an assignment has to lead to. -/
def Standing.Goes (strides : List (Stride (Host State)))
    (progress : Progress Executing UnitResult) : Prop :=
  (∀ next, progress.next? = some next → d.Standing a strides next) ∧
    d.Reports a strides (progress.map .task)

variable {d a} {strides : List (Stride (Host State))} {x : Stride (Host State)}

/-! ### Steps that make a call, and steps that make none -/

theorem calls_concat_quiet (hquiet : x.calls = []) :
    (strides ++ [x]).flatMap Stride.calls = strides.flatMap Stride.calls := by
  rw [Stride.calls_concat, hquiet, List.append_nil]

theorem answers_concat (strides : List (Stride (Host State))) (x : Stride (Host State)) :
    d.answers (strides ++ [x]) = d.answers strides ++ (d.answer? x).toList := by
  cases hx : d.answer? x <;> simp [answers, hx]

theorem answers_concat_quiet (hquiet : x.calls = []) :
    d.answers (strides ++ [x]) = d.answers strides := by
  rw [answers_concat, answer?, hquiet, Option.toList_none, List.append_nil]

theorem answers_concat_report {token : String} {outcome : TaskOutcome}
    (hcalls : x.calls = [.report token outcome]) :
    d.answers (strides ++ [x]) = d.answers strides := by
  rw [answers_concat, answer?, hcalls, Option.toList_none, List.append_nil]

theorem answer?_of_heartbeat {token : String} {details : Option String}
    (hcalls : x.calls = [.heartbeat token details]) :
    d.answer? x = match (d.service.heartbeat token details x.before.service).2 with
      | .after _ answer => some answer
      | .never => none := by
  rw [answer?, hcalls]

theorem Reported.quiet {outcome : TaskOutcome} {reply : Reply (Remote PUnit)}
    (hreported : d.Reported a strides outcome reply) (hquiet : x.calls = []) :
    d.Reported a (strides ++ [x]) outcome reply := by
  obtain ⟨hcalls, hending, stride, hstride, hreply⟩ := hreported
  constructor
  · rw [calls_concat_quiet hquiet, answers_concat_quiet hquiet]
    exact hcalls
  · rw [answers_concat_quiet hquiet]
    exact hending
  · exact ⟨stride, List.mem_append_left _ hstride, hreply⟩

/-! ### Single steps -/

/-- The end of an executor is reported. -/
theorem report_reported {ending : TaskEnding} (hsigns : d.AllSigns a strides)
    (hending : (d.conduct a (d.answers strides)).2 = some ending) (now : Time) (h : Host State) :
    let outcome := (ending.outcome a.taskType).clipped
    let reply := (d.service.report a.taskToken outcome h.service).2
    d.Reported a (strides ++ [⟨now, h, (d.report now h a (ending.outcome a.taskType)).1⟩]) outcome
        reply ∧
      (d.report now h a (ending.outcome a.taskType)).2 = reply.progress (.reported outcome) := by
  intro outcome reply
  let x : Stride (Host State) := ⟨now, h, (d.report now h a (ending.outcome a.taskType)).1⟩
  have hcall : x.after.calls = h.calls ++ [(now, .report a.taskToken outcome)] := rfl
  have hcalls : x.calls = [.report a.taskToken outcome] := Host.since_of_call hcall
  have hanswers : d.answers (strides ++ [x]) = d.answers strides := answers_concat_report hcalls
  refine ⟨⟨?_, ?_, ?_⟩, rfl⟩
  · rw [Stride.calls_concat, hanswers, hsigns, hcalls]
  · rw [hanswers]
    exact ⟨ending, hending, ending.reportedAs_clipped a.taskType⟩
  · exact ⟨x, List.mem_concat_self, hcalls, rfl⟩

/-- An assignment that is reported waits for the reply. -/
theorem Reported.goes {outcome : TaskOutcome} {reply : Reply (Remote PUnit)}
    (hreported : d.Reported a strides outcome reply) :
    Standing.Goes d a strides (reply.progress (.reported outcome)) := by
  cases reply with
  | never => exact ⟨nofun, .reported hreported (.inr rfl)⟩
  | after ms answer =>
      refine ⟨fun next hnext => ?_, .reported hreported (.inl rfl)⟩
      cases hnext
      exact .reported hreported

/-- The answer to a report ends the assignment. -/
theorem process_reported (now : Time) (h : Host State) (outcome : TaskOutcome) (ms : Nat)
    (answer : Answer (Remote PUnit)) :
    (d.process now h (.reported outcome answer)).env = h ∧
      (d.process now h (.reported outcome answer)).progress.next? = none ∧
      (d.process now h (.reported outcome answer)).progress.map .task
        = upshot (.after ms answer) := by
  rcases answer with (e | ⟨⟩) | message <;> exact ⟨rfl, rfl, rfl⟩

/-- Changing the states of a computation leaves it open as far as it has come. -/
theorem isSome_next?_map {progress : Progress Executing UnitResult} {next : Executing}
    (hnext : progress.next? = some next) : (progress.map Working.task).next?.isSome := by
  cases progress with
  | wait | yield => rfl
  | done | crash | never => cases hnext

/-- An executor that goes on is still running, or has ended. -/
theorem stepRun_next? (d : TaskDuty State) {now : Time} {h : Host State} {a : TaskAssignment}
    {run : TaskRun} {next : Executing} (hnext : (d.stepRun now h a run).2.next? = some next) :
    (∃ run', next = .running a run') ∨ ∃ outcome, next = .ended a outcome := by
  cases run with
  | finish | fail | crash =>
      cases hnext
      exact .inr ⟨_, rfl⟩
  | sleep ms next =>
      cases hnext
      exact .inl ⟨_, rfl⟩
  | heartbeat details next =>
      obtain ⟨answer, rfl⟩ := Reply.exists_of_next? hnext
      exact .inl ⟨_, rfl⟩

/-! ### Running executors -/

namespace LeadsTo

variable {run : TaskRun}

/-- A step that makes no call, after which the executor does the same. -/
theorem quiet (hleads : d.LeadsTo a strides run) (hquiet : x.calls = []) {run' : TaskRun}
    (hrun : run'.conduct = run.conduct) : d.LeadsTo a (strides ++ [x]) run' := by
  obtain ⟨signs, hcalls, hconduct⟩ := hleads
  refine ⟨signs, ?_, fun answers => ?_⟩
  · rw [calls_concat_quiet hquiet, hcalls]
  · rw [answers_concat_quiet hquiet, hrun, hconduct]

/-- A sign of life, after which the executor goes on with the answer. -/
theorem sign {details : Option String} {next : Remote Bool → TaskRun}
    (hleads : d.LeadsTo a strides (.heartbeat details next))
    (hcalls : x.calls = [.heartbeat a.taskToken details]) {answer : Answer (Remote Bool)}
    (hanswer : d.answer? x = some answer) :
    d.LeadsTo a (strides ++ [x]) (resume next answer) := by
  obtain ⟨signs, hsigns, hconduct⟩ := hleads
  refine ⟨signs ++ [details], ?_, fun answers => ?_⟩
  · rw [Stride.calls_concat, hsigns, hcalls, List.map_append, List.map_singleton]
  · have hresume : (TaskRun.heartbeat details next).conduct (answer :: answers)
        = (details :: ((resume next answer).conduct answers).1,
          ((resume next answer).conduct answers).2) := by
      cases answer <;> rfl
    rw [answers_concat, hanswer, Option.toList_some, List.append_assoc, List.singleton_append,
      hconduct, hresume, List.append_assoc, List.singleton_append]

/-- A sign of life to which no answer comes. -/
theorem unanswered {details : Option String} {next : Remote Bool → TaskRun}
    (hleads : d.LeadsTo a strides (.heartbeat details next))
    (hcalls : x.calls = [.heartbeat a.taskToken details]) (hanswer : d.answer? x = none) :
    d.AllSigns a (strides ++ [x]) ∧ (d.conduct a (d.answers (strides ++ [x]))).2 = none := by
  obtain ⟨signs, hsigns, hconduct⟩ := hleads
  have hanswers : d.answers (strides ++ [x]) = d.answers strides ++ [] := by
    rw [answers_concat, hanswer, Option.toList_none]
  constructor
  · rw [AllSigns, Stride.calls_concat, hsigns, hcalls, hanswers, hconduct, List.map_append]
    rfl
  · rw [hanswers, hconduct]
    rfl

/-- An executor that has come to its end has given all its signs of life. -/
theorem ended (hleads : d.LeadsTo a strides run) {ending : TaskEnding}
    (hrun : run.conduct [] = ([], some ending)) :
    d.AllSigns a strides ∧ (d.conduct a (d.answers strides)).2 = some ending := by
  obtain ⟨signs, hcalls, hconduct⟩ := hleads
  have hnow := hconduct []
  rw [hrun, List.append_nil, List.append_nil] at hnow
  rw [AllSigns, hcalls, hnow]
  exact ⟨rfl, rfl⟩

/-- An executor that goes on does so as its run says. -/
theorem goes (hleads : d.LeadsTo a strides run) {progress : Progress Executing UnitResult}
    (hnext : progress.next? = some (.running a run)) : Standing.Goes d a strides progress := by
  refine ⟨fun next hnext' => ?_, .pending (isSome_next?_map hnext) ?_⟩
  · cases Option.some.inj (hnext.symm.trans hnext')
    exact .running hleads
  · obtain ⟨signs, hcalls, hconduct⟩ := hleads
    have hnow := hconduct []
    rw [List.append_nil] at hnow
    rw [hcalls, hnow, List.map_append]
    exact List.prefix_append _ _

end LeadsTo

/-- An executor takes a step of its run. -/
theorem Standing.goes_stepRun {run : TaskRun} (hleads : d.LeadsTo a strides run) (now : Time)
    (h : Host State) :
    Standing.Goes d a (strides ++ [⟨now, h, (d.stepRun now h a run).1⟩])
      (d.stepRun now h a run).2 := by
  have hquiet : Stride.calls ⟨now, h, h⟩ = [] := Host.since_of_eq rfl
  have hends (ending : TaskEnding) (hrun : run.conduct [] = ([], some ending)) :
      Standing.Goes d a (strides ++ [⟨now, h, h⟩])
        (.yield (.ended a (ending.outcome a.taskType))) := by
    obtain ⟨hsigns, hending⟩ := (hleads.quiet hquiet rfl).ended hrun
    refine ⟨fun next hnext => ?_, .pending rfl (hsigns ▸ List.prefix_rfl)⟩
    cases hnext
    exact .ended hsigns hending
  cases run with
  | finish outcome => exact hends (.returned outcome) rfl
  | fail e => exact hends (.failed e) rfl
  | crash message => exact hends (.brokeOff message) rfl
  | sleep ms next =>
      have hnext : d.LeadsTo a (strides ++ [⟨now, h, h⟩]) next := hleads.quiet hquiet rfl
      exact hnext.goes rfl
  | heartbeat details next =>
      let x : Stride (Host State) := ⟨now, h, (d.stepRun now h a (.heartbeat details next)).1⟩
      let reply := (d.service.heartbeat a.taskToken details h.service).2
      have hcall : x.after.calls = h.calls ++ [(now, .heartbeat a.taskToken details)] := rfl
      have hsign : x.calls = [.heartbeat a.taskToken details] := Host.since_of_call hcall
      have hanswer : d.answer? x = match reply with
          | .after _ answer => some answer
          | .never => none := answer?_of_heartbeat hsign
      change Standing.Goes d a (strides ++ [x])
        (reply.progress fun answer => .running a (resume next answer))
      cases hreply : reply with
      | never =>
          obtain ⟨hsigns, hending⟩ := hleads.unanswered hsign (by rw [hanswer, hreply])
          exact ⟨nofun, .unanswered rfl hsigns hending⟩
      | after ms answer => exact (hleads.sign hsign (by rw [hanswer, hreply])).goes rfl

/-- **Each step of an assignment does its part.**  The first one starts the executor, or reports
that there is none; the steps that follow take the executor to its end, the next one reports it,
and the last one looks at the reply. -/
theorem Standing.step {job : Executing} (hstanding : d.Standing a strides job) (now : Time)
    (h : Host State) :
    Standing.Goes d a (strides ++ [⟨now, h, (d.process now h job).env⟩])
      (d.process now h job).progress := by
  cases hstanding with
  | assigned hstrides =>
      subst hstrides
      cases hexecutor : d.registry.executor? a.taskType with
      | none =>
          have hconduct : d.conduct a [] = ([], some .unknownType) := by rw [conduct, hexecutor]
          have hsigns : d.AllSigns a [] := by
            rw [AllSigns, answers, List.filterMap_nil, hconduct]
            rfl
          have hreport := report_reported hsigns (congrArg Prod.snd hconduct) now h
          simp only [process, hexecutor]
          exact hreport.1.goes
      | some executor =>
          have hleads : d.LeadsTo a [] (executor a d.request.identity) :=
            ⟨[], rfl, fun answers => by rw [conduct, hexecutor]; rfl⟩
          have hquiet : Stride.calls ⟨now, h, h⟩ = [] := Host.since_of_eq rfl
          simp only [process, hexecutor]
          exact (hleads.quiet hquiet rfl).goes rfl
  | running hleads => exact Standing.goes_stepRun hleads now h
  | ended hsigns hending => exact (report_reported hsigns hending now h).1.goes
  | @reported outcome ms answer hreported =>
      obtain ⟨henv, hend, hprogress⟩ := d.process_reported now h outcome ms answer
      rw [henv]
      refine ⟨fun next hnext => ?_, ?_⟩
      · cases hend.symm.trans hnext
      · exact .reported (hreported.quiet (Host.since_of_eq rfl)) (.inr hprogress)

/-! ### The assignments of a poller -/

/-- A poll gives tasks that have been assigned. -/
theorem exists_of_poll (d : TaskDuty State) {now : Time} {h : Host State} {fetch : Fetching}
    {job : Working} (hpoll : (d.source.poll now h fetch).2 = .done (.ok (some job))) :
    ∃ a, job = .task (.assigned a) := by
  rcases fetch with state | (_ | (e | assignment?) | message)
  · cases hpoll
  · -- The answer of the service is yet to come.
    have hwaits : ∃ reply : Reply (Remote (Option TaskAssignment)),
        (d.source.poll now h (.task .start)).2
          = (reply.progress TaskPoll.answered).mapPoll .task (.task ∘ .assigned) := ⟨_, rfl⟩
    obtain ⟨reply, hreply⟩ := hwaits
    rw [hreply] at hpoll
    cases reply <;> cases hpoll
  · cases hpoll
  · cases assignment? with
    | none => cases hpoll
    | some a =>
        cases hpoll
        exact ⟨a, rfl⟩
  · cases hpoll

/-- The units of a poller for tasks are tasks that have been assigned. -/
theorem exists_of_polled (d : TaskDuty State)
    {deeds : List (Poller.Deed (Host State) Fetching Working)} {job : Working}
    (h : job ∈ Poller.polled d.source deeds) : ∃ a, job = .task (.assigned a) := by
  obtain ⟨deed, -, hdeed⟩ := List.mem_filterMap.mp h
  cases deed with
  | turned now env q turn =>
      obtain ⟨fetch, hpoll⟩ := Poller.exists_of_polled? hdeed
      exact d.exists_of_poll hpoll
  | worked | rang | asked => cases hdeed

/-! ### Whole assignments -/

/-- From one step to the next, an assignment does its part. -/
theorem standing_of_works {progress : Progress Working UnitResult}
    (hworks : d.source.Works (.task (.assigned a)) strides progress) :
    (∀ state, progress.next? = some state → ∃ job, state = .task job ∧ d.Standing a strides job) ∧
      d.Reports a strides progress := by
  induction hworks with
  | fresh =>
      refine ⟨fun state hstate => ?_, .pending rfl List.nil_prefix⟩
      cases hstate
      exact ⟨_, rfl, .assigned rfl⟩
  | @step strides progress state hworks hnext now h ih =>
      obtain ⟨job, rfl, hstanding⟩ := ih.1 state hnext
      obtain ⟨hgoes, hreports⟩ := hstanding.step now h
      refine ⟨fun next hnext => ?_, hreports⟩
      obtain ⟨next', hnext', rfl⟩ := Progress.exists_of_next?_map hnext
      exact ⟨next', rfl, hgoes next' hnext'⟩
  | @detach strides progress state rest hworks hnext hrest ih =>
      obtain ⟨job, rfl, hstanding⟩ := ih.1 state hnext
      -- Only a running executor goes on by itself, and it does so as before.
      cases hstanding with
      | @running run hleads =>
          cases hrest
          have hgoes : Standing.Goes d a strides (.yield (.running a run)) := hleads.goes rfl
          obtain ⟨hgoes, hreports⟩ := hgoes
          refine ⟨fun next hnext => ?_, hreports⟩
          cases hnext
          exact ⟨_, rfl, hgoes _ rfl⟩
      | assigned | ended | reported => cases hrest

/-- An executor goes on to its end, and its assignment to its report. -/
theorem ends (d : TaskDuty State) : d.source.Ends := by
  have hnone {job : Working} (hend : ∀ now h, (d.source.process now h job).progress.next? = none) :
      Acc d.source.Next job :=
    ⟨job, fun next ⟨now, h, hnext⟩ => by cases (hend now h).symm.trans hnext⟩
  have hreported (outcome : TaskOutcome) (answer : Answer (Remote PUnit)) :
      Acc d.source.Next (.task (.reported outcome answer)) :=
    hnone fun _ _ => by rcases answer with (e | ⟨⟩) | message <;> rfl
  have hreport (now : Time) (h : Host State) {a : TaskAssignment} {outcome : TaskOutcome}
      {next : Executing} (hnext : (d.report now h a outcome).2.next? = some next) :
      Acc d.source.Next (.task next) := by
    obtain ⟨answer, rfl⟩ := Reply.exists_of_next? hnext
    exact hreported _ answer
  have hended (a : TaskAssignment) (outcome : TaskOutcome) :
      Acc d.source.Next (.task (.ended a outcome)) := by
    refine ⟨_, fun next ⟨now, h, hnext⟩ => ?_⟩
    obtain ⟨next', hnext', rfl⟩ := Progress.exists_of_next?_map hnext
    exact hreport now h hnext'
  have hrunning (a : TaskAssignment) (run : TaskRun) :
      Acc d.source.Next (.task (.running a run)) := by
    have hcrash (message : Option String) :
        Acc d.source.Next (.task (.running a (.crash message))) := by
      refine ⟨_, fun next ⟨now, h, hnext⟩ => ?_⟩
      cases hnext
      exact hended a _
    induction run with
    | finish | fail =>
        refine ⟨_, fun next ⟨now, h, hnext⟩ => ?_⟩
        cases hnext
        exact hended a _
    | crash message => exact hcrash message
    | sleep ms run ih =>
        refine ⟨_, fun next ⟨now, h, hnext⟩ => ?_⟩
        cases hnext
        exact ih
    | heartbeat details run ih =>
        refine ⟨_, fun next ⟨now, h, hnext⟩ => ?_⟩
        obtain ⟨next', hnext', rfl⟩ := Progress.exists_of_next?_map hnext
        obtain ⟨answer, rfl⟩ := Reply.exists_of_next? hnext'
        cases answer with
        | given answer => exact ih answer
        | broken message => exact hcrash (some message)
  refine ⟨fun job => ?_⟩
  rcases job with state | (a | ⟨a, run⟩ | ⟨a, outcome⟩ | ⟨outcome, answer⟩)
  · exact hnone fun _ _ => rfl
  · refine ⟨_, fun next ⟨now, h, hnext⟩ => ?_⟩
    obtain ⟨next', hnext', rfl⟩ := Progress.exists_of_next?_map hnext
    cases hexecutor : d.registry.executor? a.taskType with
    | none =>
        simp only [process, hexecutor] at hnext'
        exact hreport now h hnext'
    | some executor =>
        simp only [process, hexecutor] at hnext'
        cases hnext'
        exact hrunning a _
  · exact hrunning a run
  · exact hended a outcome
  · exact hreported outcome answer

end TaskDuty

end DurableWorkflow
