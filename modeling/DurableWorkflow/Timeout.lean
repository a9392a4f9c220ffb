import DurableWorkflow.Duration
import DurableWorkflow.Error
import DurableWorkflow.Text.Natural

/-!
# Timeouts

A timeout is a duration or switched off.  As a text it is a number of whole seconds, fractions being
rounded up so that no timeout is shortened, or the word `NONE`.

## Main Definitions

* `Timeout`: a timeout.
* `Timeout.text`, `Timeout.ofText`: writing and reading.
-/

namespace DurableWorkflow

/-- A duration that may be switched off. -/
inductive Timeout where
  | unlimited
  | after (duration : Duration)
  deriving DecidableEq

namespace Timeout

/-- The word for a timeout that is switched off. -/
def noTimeout : String := "NONE"

/-- The duration, unless the timeout is switched off. -/
def duration? : Timeout → Option Duration
  | .unlimited => none
  | .after d => some d

/-- The least number of whole seconds that is not below a duration, at most what fits 64 bits. -/
def wholeSeconds (d : Duration) : Nat :=
  min (d.seconds + (if 0 < d.nanos then 1 else 0)) (UInt64.size - 1)

/-- The written form. -/
def text : Timeout → String
  | .unlimited => noTimeout
  | .after d => String.ofList (Nat.toDigits 10 (wholeSeconds d))

/-- The timeout that a text stands for. -/
def ofText? (text : String) : Option Timeout :=
  if text = noTimeout then some .unlimited
  else
    match Text.readNat64 text with
    | .ok seconds => some (.after (Duration.ofSeconds seconds))
    | .error _ => none

/-- The timeout that a text stands for, or the error that shows the text. -/
def ofText (text : String) : Except Error Timeout :=
  match ofText? text with
  | some t => .ok t
  | none => .error (.invalidTimeout text)

/-- A timeout is written as a string. -/
def toJson (t : Timeout) : Json := .string t.text

/-- A timeout as it is written. -/
def reader : Json.Reader Timeout := fun s v => (Json.Reader.string s v).bind ofText?

end Timeout

end DurableWorkflow
