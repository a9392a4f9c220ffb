import DurableWorkflow.Error
import DurableWorkflow.Json.Print

/-!
# Retry controls

What is kept in the history while a task waits to be tried again: a timer whose control says which
schedule to repeat, and a marker that counts the retries.

## Main Definitions

* `retryTimerId`, `retryMarkerName`: the names of the timer and the marker of a task.
* `isRetryTimer`: whether a timer's name is of this kind.
* `RetryControl`: the control of a retry timer.
* `RetryCount`: the details of a counting marker.
-/

namespace DurableWorkflow

/-- The start of the names of retry timers. -/
def retryTimerPrefix : String := "--retry-timer-"

/-- The start of the names of markers that count retries. -/
def retryMarkerPrefix : String := "--retry-count-"

/-- The name of the retry timer of a task. -/
def retryTimerId (t : TaskType) (taskId : String) : String :=
  retryTimerPrefix ++ t.name ++ ":" ++ taskId

/-- The name of the marker that counts the retries of a task. -/
def retryMarkerName (t : TaskType) (taskId : String) : String :=
  retryMarkerPrefix ++ t.name ++ ":" ++ taskId

/-- Whether a name is that of a retry timer. -/
def isRetryTimer (timerId : String) : Bool :=
  retryTimerPrefix.toList.isPrefixOf timerId.toList

/-- The control of a retry timer. -/
structure RetryControl where
  /-- The schedule to repeat. -/
  scheduledEventId : Int
  /-- The marker that counts the retries. -/
  markerName : String
  deriving DecidableEq, Repr

namespace RetryControl

/-- The written form. -/
def toJson (c : RetryControl) : Json :=
  .object [("scheduledEventId", .int c.scheduledEventId), ("markerName", .string c.markerName)]

/-- The names of the written fields. -/
def fieldNames : List String := ["scheduledEventId", "markerName"]

/-- A control as it is written. -/
def reader : Json.Reader RetryControl := fun s v => do
  let r ← Json.Record.of? fieldNames s v
  let scheduledEventId ← r.required "scheduledEventId" Json.Reader.int64
  let markerName ← r.required "markerName" Json.Reader.string
  pure ⟨scheduledEventId, markerName⟩

/-- The control as text. -/
def encode (c : RetryControl) : String := c.toJson.render

/-- The control that a text stands for. -/
def decode (payload : String) : Except Error RetryControl :=
  match Json.decode? reader payload with
  | some c => .ok c
  | none => .error .serialization

end RetryControl

/-- How many retries have been made. -/
abbrev RetryCount := UInt32

namespace RetryCount

/-- One more, as far as the count goes. -/
def succ (n : RetryCount) : RetryCount := if n.toNat + 1 < UInt32.size then n + 1 else n

/-- The count as text. -/
def encode (n : RetryCount) : String := (Json.int n.toNat).render

/-- The count that a text stands for. -/
def decode (details : String) : Except Error RetryCount :=
  match Json.decode? Json.Reader.nat32 details with
  | some n => .ok (UInt32.ofNat n)
  | none => .error .serialization

end RetryCount

end DurableWorkflow
