import DurableWorkflow.Timeout

/-!
# Scheduling options

Options of a task or of a workflow run.  Every option may be left open.

## Main Definitions

* `TaskOptions`, `WorkflowOptions`: the options.
* `TaskOptions.withDefaults`: options of one call laid over defaults.

## Design Notes

An open option is left out when options are written.
-/

namespace DurableWorkflow

/-- A priority is a signed 32-bit integer. -/
def priorityReader : Json.Reader Int32 := fun s v => (Json.Reader.int32 s v).map Int32.ofInt

/-- Options of one scheduled task. -/
structure TaskOptions where
  taskList : Option String
  priority : Option Int32
  totalTimeout : Option Timeout
  waitToStartTimeout : Option Timeout
  executionTimeout : Option Timeout
  heartbeatTimeout : Option Timeout
  deriving DecidableEq

namespace TaskOptions

/-- All options open. -/
def empty : TaskOptions := ⟨none, none, none, none, none, none⟩

/-- Each option as in `call`, or as in `defaults` where `call` leaves it open. -/
def withDefaults (call defaults : TaskOptions) : TaskOptions where
  taskList := call.taskList <|> defaults.taskList
  priority := call.priority <|> defaults.priority
  totalTimeout := call.totalTimeout <|> defaults.totalTimeout
  waitToStartTimeout := call.waitToStartTimeout <|> defaults.waitToStartTimeout
  executionTimeout := call.executionTimeout <|> defaults.executionTimeout
  heartbeatTimeout := call.heartbeatTimeout <|> defaults.heartbeatTimeout

/-- The options that are not open, as fields. -/
def toJson (o : TaskOptions) : Json :=
  .object
    (Json.field "task_list" .string o.taskList ++
      (Json.field "priority" (fun p => .int p.toInt) o.priority ++
        (Json.field "total_timeout" Timeout.toJson o.totalTimeout ++
          (Json.field "wait_to_start_timeout" Timeout.toJson o.waitToStartTimeout ++
            (Json.field "execution_timeout" Timeout.toJson o.executionTimeout ++
              Json.field "heartbeat_timeout" Timeout.toJson o.heartbeatTimeout)))))

/-- The names of the written fields. -/
def fieldNames : List String :=
  ["task_list", "priority", "total_timeout", "wait_to_start_timeout", "execution_timeout",
    "heartbeat_timeout"]

/-- Options as they are written. -/
def reader : Json.Reader TaskOptions := fun s v => do
  let r ← Json.Record.of? fieldNames s v
  let taskList ← r.omissible "task_list" Json.Reader.string
  let priority ← r.omissible "priority" priorityReader
  let totalTimeout ← r.omissible "total_timeout" Timeout.reader
  let waitToStartTimeout ← r.omissible "wait_to_start_timeout" Timeout.reader
  let executionTimeout ← r.omissible "execution_timeout" Timeout.reader
  let heartbeatTimeout ← r.omissible "heartbeat_timeout" Timeout.reader
  pure ⟨taskList, priority, totalTimeout, waitToStartTimeout, executionTimeout, heartbeatTimeout⟩

end TaskOptions

/-- Options a workflow run was started with. -/
structure WorkflowOptions where
  taskList : Option String
  priority : Option Int32
  totalTimeout : Option Timeout
  decisionTimeout : Option Timeout
  deriving DecidableEq

namespace WorkflowOptions

/-- All options open. -/
def empty : WorkflowOptions := ⟨none, none, none, none⟩

/-- The options that are not open, as fields. -/
def toJson (o : WorkflowOptions) : Json :=
  .object
    (Json.field "task_list" .string o.taskList ++
      (Json.field "priority" (fun p => .int p.toInt) o.priority ++
        (Json.field "total_timeout" Timeout.toJson o.totalTimeout ++
          Json.field "decision_timeout" Timeout.toJson o.decisionTimeout)))

/-- The names of the written fields. -/
def fieldNames : List String := ["task_list", "priority", "total_timeout", "decision_timeout"]

/-- Options as they are written. -/
def reader : Json.Reader WorkflowOptions := fun s v => do
  let r ← Json.Record.of? fieldNames s v
  let taskList ← r.omissible "task_list" Json.Reader.string
  let priority ← r.omissible "priority" priorityReader
  let totalTimeout ← r.omissible "total_timeout" Timeout.reader
  let decisionTimeout ← r.omissible "decision_timeout" Timeout.reader
  pure ⟨taskList, priority, totalTimeout, decisionTimeout⟩

end WorkflowOptions

end DurableWorkflow
