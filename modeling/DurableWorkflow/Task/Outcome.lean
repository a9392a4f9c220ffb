/-!
# Outcomes of tasks

How a task ended.  The texts of a failure are cut to a length before they are reported.

## Main Definitions

* `TaskOutcome`: completed, failed, or canceled on request.
* `Text.clip`: the start of a text.
* `TaskOutcome.clipped`: the outcome as it is reported.
-/

namespace DurableWorkflow

/-- How a task ended. -/
inductive TaskOutcome where
  | completed (result : Option String)
  | failed (reason details : Option String)
  | canceled (details : Option String)
  deriving DecidableEq, Repr

/-- The first `length` characters of a text. -/
def Text.clip (length : Nat) (text : String) : String := String.ofList (text.toList.take length)

namespace TaskOutcome

/-- How many characters of a reason are reported. -/
def maxReasonLength : Nat := 256

/-- How many characters of details are reported. -/
def maxDetailsLength : Nat := 32768

/-- The outcome as it is reported.  Results are never cut. -/
def clipped : TaskOutcome → TaskOutcome
  | .completed result => .completed result
  | .failed reason details =>
    .failed (reason.map (Text.clip maxReasonLength)) (details.map (Text.clip maxDetailsLength))
  | .canceled details => .canceled (details.map (Text.clip maxDetailsLength))

end TaskOutcome

end DurableWorkflow
