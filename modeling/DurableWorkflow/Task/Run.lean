import DurableWorkflow.Error
import DurableWorkflow.Service.Basic
import DurableWorkflow.Task.Outcome

/-!
# Runs of tasks

What an executor does with an assignment: it may wait, report that it is alive, and it ends with an
outcome, with an error or by breaking off.

## Main Definitions

* `TaskRun`: the steps of an executor.
* `Executor`: a run for each assignment.
* `TaskRegistry`: the executors by task type.
* `TaskRegistry.Builder`: such a registry in the making.
-/

namespace DurableWorkflow

/-- An error of an executor: its message, its type and how it is shown in full. -/
structure ExecutorError where
  message : String
  type : String
  shown : String
  deriving DecidableEq, Repr

namespace ExecutorError

/-- The failure as which an error is reported. -/
def outcome (e : ExecutorError) : TaskOutcome :=
  .failed (some e.message) (some (e.type ++ ": " ++ e.shown))

end ExecutorError

/-- The failure as which it is reported that an executor broke off, with its message if it has
one. -/
def TaskOutcome.ofCrash (message : Option String) : TaskOutcome :=
  .failed (some "task executor panicked") (some (message.getD "unknown panic"))

/-- The failure of a task for which there is no executor. -/
def TaskOutcome.unknownType (t : TaskType) : TaskOutcome :=
  .failed (some ("unknown task type " ++ t.text)) none

/-- The steps of an executor. -/
inductive TaskRun where
  | finish (outcome : TaskOutcome)
  | fail (error : ExecutorError)
  /-- Breaks off, with a message if it has one. -/
  | crash (message : Option String)
  /-- Waits a number of milliseconds. -/
  | sleep (ms : Nat) (next : TaskRun)
  /-- Reports that the task is alive, and learns whether it should stop. -/
  | heartbeat (details : Option String) (next : Except RemoteError Bool → TaskRun)

/-- Executes assignments; it knows under which identity it works. -/
abbrev Executor := TaskAssignment → String → TaskRun

/-- The executors in effect, each task type once. -/
structure TaskRegistry where
  executors : List (TaskType × Executor)

namespace TaskRegistry

/-- A registry without executors. -/
def empty : TaskRegistry := ⟨[]⟩

instance : Inhabited TaskRegistry := ⟨empty⟩

variable (r : TaskRegistry)

/-- The executor for a task type. -/
def executor? (t : TaskType) : Option Executor := (r.executors.find? (·.1 = t)).map (·.2)

/-- Whether there is an executor for a task type. -/
def contains (t : TaskType) : Bool := r.executors.any (·.1 = t)

/-- How many executors there are. -/
def size : Nat := r.executors.length

/-- A registry in the making.  The first task type that was repeated is kept, and told only when the
registry is asked for. -/
structure Builder where
  /-- The executors so far, without those of repeated task types. -/
  registry : TaskRegistry
  repeated : Option TaskType

namespace Builder

/-- Nothing is registered yet. -/
def start : Builder := ⟨empty, none⟩

variable (b : Builder)

/-- Registers an executor, unless there is one for its task type. -/
def register (t : TaskType) (e : Executor) : Builder :=
  if b.registry.contains t then { b with repeated := b.repeated.or (some t) }
  else { b with registry := ⟨b.registry.executors ++ [(t, e)]⟩ }

/-- The registry, or the first task type that was repeated. -/
def build : Except Error TaskRegistry :=
  match b.repeated with
  | some t => .error (.duplicateExecutor t)
  | none => .ok b.registry

end Builder

/-- The registry with the given executors. -/
def build (executors : List (TaskType × Executor)) : Except Error TaskRegistry :=
  (executors.foldl (fun b entry => b.register entry.1 entry.2) Builder.start).build

end TaskRegistry

end DurableWorkflow
