import DurableWorkflow.Decision.Codec
import DurableWorkflow.Error
import DurableWorkflow.Json.Print

/-!
# Close controls

How a run is to be closed.  A close decision may be rejected; its control is kept in the history so
that it can be issued again.

## Main Definitions

* `CloseControl`: the way to close and its parameters.
* `CloseControl.decision`: the close decision of a control.
* `CloseControl.encode`, `CloseControl.decode`: the control as the details of a marker.
* `CloseControl.emptyFor?`: the control without parameters for a reported rejection.
-/

namespace DurableWorkflow

open Json (ofText?)
open Json.Reader (string)

/-- How a run is to be closed. -/
inductive CloseControl where
  | complete (result : Option String)
  | fail (reason details : Option String)
  | cancel (details : Option String)
  deriving DecidableEq, Repr

/-- The name of the marker that keeps the control of a close decision. -/
def closeMarkerName : String := "--close-workflow-control"

namespace CloseControl

/-- The close decision that a control describes. -/
def decision : CloseControl → Decision
  | .complete result => .completeWorkflow result
  | .fail reason details => .failWorkflow reason details
  | .cancel details => .cancelWorkflow details

/-- The control without parameters for the decision whose rejection events of a type report. -/
def emptyFor? : EventType → Option CloseControl
  | .completeWorkflowExecutionFailed => some (.complete none)
  | .failWorkflowExecutionFailed => some (.fail none none)
  | .cancelWorkflowExecutionFailed => some (.cancel none)
  | _ => none

/-- The written form. -/
def toJson : CloseControl → Json
  | .complete result => .object [("kind", .string "complete"), ("result", ofText? result)]
  | .fail reason details =>
    .object [("kind", .string "fail"), ("reason", ofText? reason), ("details", ofText? details)]
  | .cancel details => .object [("kind", .string "cancel"), ("details", ofText? details)]

/-- The fields of a case. -/
def readFields (t : Json.Tagged) : String → Option CloseControl
  | "complete" => do
    let r ← t.record? ["result"]
    let result ← r.optional "result" string
    pure (.complete result)
  | "fail" => do
    let r ← t.record? ["reason", "details"]
    let reason ← r.optional "reason" string
    let details ← r.optional "details" string
    pure (.fail reason details)
  | "cancel" => do
    let r ← t.record? ["details"]
    let details ← r.optional "details" string
    pure (.cancel details)
  | _ => none

/-- A control as it is written. -/
def reader : Json.Reader CloseControl := fun s v => do
  let t ← Json.Tagged.of? "kind" s v
  readFields t t.case

/-- The control as text. -/
def encode (c : CloseControl) : String := c.toJson.render

/-- The control that a text stands for. -/
def decode (payload : String) : Except Error CloseControl :=
  match Json.decode? reader payload with
  | some c => .ok c
  | none => .error .serialization

end CloseControl

end DurableWorkflow
