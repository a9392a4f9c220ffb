import DurableWorkflow.Scenario.Basic
import DurableWorkflow.Service.Script

/-!
# Services as data

A script, entry by entry.

## Main Definitions

* `Scenario.cue`: one entry.
* `Scenario.script`: a script.
-/

namespace DurableWorkflow.Scenario

open Json.Reader (string nat64)

/-- An entry, whose value is found under a name. -/
def cue {α : Type} (name : String) (value : Json.Reader (Option α)) (absent : Option α → β) :
    Json.Reader (Cue β) := fun s v => do
  let r ← Json.Record.of? ["after_ms", "panic", "error", name] s v
  let delay ← valueOr r "after_ms" nat64 0
  match ← r.omissible "panic" string, ← r.omissible "error" remoteError with
  | some message, _ => pure ⟨delay, .broken message⟩
  | none, some e => pure ⟨delay, .refused e⟩
  | none, none => do
    let given ← r.defaulted name value none
    pure ⟨delay, .given (absent given)⟩

/-- An entry for a poll for decision tasks or for a page. -/
def pageCue : Json.Reader (Cue (Option HistoryPage)) := cue "page" (Json.Reader.option page) id

/-- An entry for a poll for tasks. -/
def assignmentCue : Json.Reader (Cue (Option TaskAssignment)) :=
  cue "assignment" (Json.Reader.option assignment) id

/-- An entry for a sign of life. -/
def heartbeatCue : Json.Reader (Cue Bool) :=
  cue "cancel" (Json.Reader.option flag) (·.getD false)

/-- An entry for a call that is accepted or refused. -/
def plainCue : Json.Reader (Cue PUnit) :=
  cue "accepted" (Json.Reader.option flag) fun _ => ⟨⟩

/-- The entries for pages by token. -/
def pageCues : Json.Reader (List (String × List (Cue (Option HistoryPage))))
  | s, .object fields =>
    fields.mapM fun (token, cues) => (Json.Reader.list pageCue s cues).map (token, ·)
  | _, _ => none

/-- A script. -/
def script : Json.Reader Script
  | _, .null => some .empty
  | s, v => do
    let r ← Json.Record.of?
      ["decision_polls", "pages", "task_polls", "submits", "reports", "heartbeats"] s v
    let decisionPolls ← listField r "decision_polls" pageCue
    let pages ← valueOr r "pages" pageCues []
    let taskPolls ← listField r "task_polls" assignmentCue
    let submissions ← listField r "submits" plainCue
    let reports ← listField r "reports" plainCue
    let heartbeats ← listField r "heartbeats" heartbeatCue
    pure ⟨decisionPolls, pages, taskPolls, submissions, reports, heartbeats⟩

end DurableWorkflow.Scenario
