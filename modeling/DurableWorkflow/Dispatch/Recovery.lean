import DurableWorkflow.Decision.Close
import DurableWorkflow.History.Context
import DurableWorkflow.Notice

/-!
# Recovery of rejected closes

A close decision that the service rejected is issued again as its marker in the history says.

## Main Definitions

* `Recovery`: the control to close with, and what an operator should know of it.
* `EventContext.recovery?`: the recovery that an event asks for.
-/

namespace DurableWorkflow

/-- How a rejected close is issued again. -/
structure Recovery where
  control : CloseControl
  notices : List Notice
  deriving DecidableEq

/-- The recovery that an event asks for: none unless it reports a rejected close.  Without a
readable marker the close is issued again without parameters. -/
def EventContext.recovery? (ctx : EventContext) : Option Recovery :=
  (CloseControl.emptyFor? ctx.event.type).map fun empty =>
    match ctx.log.latestMarkerDetails closeMarkerName with
    | some payload =>
      match CloseControl.decode payload with
      | .ok control => ⟨control, []⟩
      | .error _ => ⟨empty, [.closeMarkerUnreadable]⟩
    | none => ⟨empty, [.closeMarkerMissing]⟩

end DurableWorkflow
