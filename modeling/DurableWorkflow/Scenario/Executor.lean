import DurableWorkflow.Json.Print
import DurableWorkflow.Scenario.Basic
import DurableWorkflow.Task.Run
import DurableWorkflow.Text.Natural

/-!
# Executors as data

An executor as a list of deeds.

## Main Definitions

* `Scenario.Deed`: one deed of an executor.
* `Scenario.Mishap`: why an executor fails.
* `Scenario.executorOf`: the executor that does deeds in order.

## Design Notes

How a mishap becomes an error, with the names of its types, is left to the user of a scenario.
-/

namespace DurableWorkflow.Scenario

open Json.Reader (string nat64)

/-- Why an executor fails. -/
inductive Mishap where
  | message (text : String)
  /-- A sign of life was refused. -/
  | remote (error : RemoteError)
  /-- The input is no number. -/
  | number (fault : Text.NaturalFault)

/-- One deed of an executor. -/
inductive Deed where
  | sleep (ms : Nat)
  /-- A sign of life; unless it is to be ignored, a request to stop ends the task. -/
  | heartbeat (details onCancel : Option String) (ignoreCancel : Bool)
  | finish (outcome : TaskOutcome)
  /-- Completes the task with its input. -/
  | echo
  /-- Completes the task with what the executor knows of it. -/
  | describe
  /-- Completes the task with the number that its input stands for. -/
  | readNumber
  | error (message : String)
  | crash (message : Option String)
  | nothing

/-- What an executor knows of its task. -/
def description (a : TaskAssignment) (identity : String) : String :=
  (Json.array [.string a.taskId, .string a.taskType.text, Json.ofText? a.input,
    .string a.execution.text, .string a.taskToken, .string identity, .int a.startedEventId]).render

/-- The steps of a deed before further steps. -/
def Deed.run (shown : Mishap → ExecutorError) (a : TaskAssignment) (identity : String) :
    Deed → TaskRun → TaskRun
  | .sleep ms, next => .sleep ms next
  | .heartbeat details onCancel ignoreCancel, next =>
    .heartbeat details fun
      | .error e => .fail (shown (.remote e))
      | .ok true => if ignoreCancel then next else .finish (.canceled onCancel)
      | .ok false => next
  | .finish outcome, _ => .finish outcome
  | .echo, _ => .finish (.completed a.input)
  | .describe, _ => .finish (.completed (some (description a identity)))
  | .readNumber, _ =>
    match Text.readNat64 (a.input.getD "") with
    | .ok n => .finish (.completed (some (toString n)))
    | .error fault => .fail (shown (.number fault))
  | .error message, _ => .fail (shown (.message message))
  | .crash message, _ => .crash message
  | .nothing, next => next

/-- The executor that does deeds in order and completes the task if none of them ends it. -/
def executorOf (shown : Mishap → ExecutorError) (deeds : List Deed) : Executor := fun a identity =>
  deeds.foldr (Deed.run shown a identity) (.finish (.completed none))

/-- The names of the fields of deeds. -/
def deedFields : List String :=
  ["do", "ms", "details", "on_cancel", "ignore_cancel", "result", "reason", "message", "as"]

/-- A deed; `constant` is the message of a breakdown with a fixed text. -/
def deed (constant : String) : Json.Reader Deed := fun s v => do
  let r ← Json.Record.of? deedFields s v
  let message := (textField r "message").map (·.getD "")
  match ← r.omissible "do" string with
  | none => pure .nothing
  | some "sleep" => do pure (.sleep (← r.required "ms" nat64))
  | some "heartbeat" => do
    pure (.heartbeat (← textField r "details") (← textField r "on_cancel")
      (← r.defaulted "ignore_cancel" flag false))
  | some "complete" => do pure (.finish (.completed (← textField r "result")))
  | some "echo" => pure .echo
  | some "describe" => pure .describe
  | some "fail" => do pure (.finish (.failed (← textField r "reason") (← textField r "details")))
  | some "cancel" => do pure (.finish (.canceled (← textField r "details")))
  | some "error" => message.map .error
  | some "parse_input" => pure .readNumber
  | some "panic" => do
    match ← r.omissible "as" string with
    | some "str" => pure (.crash (some constant))
    | some "other" => pure (.crash none)
    | _ => message.map fun text => .crash (some text)
  | some _ => none

end DurableWorkflow.Scenario
