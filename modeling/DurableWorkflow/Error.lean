import DurableWorkflow.Event.Facet
import DurableWorkflow.Event.Name
import DurableWorkflow.Text.Literal

/-!
# Errors

The causes for which an operation fails, each with one message.

## Main Definitions

* `RemoteError`: why the service refused a call.
* `Error`: why an operation failed.
* `Error.isFatal`: everything but a refused call is fatal.

## Design Notes

A refused call is passing: the service hands out unanswered work again.  Every other cause means
that local state or a handler is broken.
-/

namespace DurableWorkflow

/-- Why the service refused a call. -/
inductive RemoteError where
  | unknownResource (message : String)
  | transient (message : String)
  | rejected (message : String)
  deriving DecidableEq, Repr, Inhabited

namespace RemoteError

/-- The name of the cause. -/
def name : RemoteError → String
  | .unknownResource _ => "UnknownResource"
  | .transient _ => "Transient"
  | .rejected _ => "Rejected"

/-- What the service says. -/
def detail : RemoteError → String
  | .unknownResource m | .transient m | .rejected m => m

/-- The refusal with a cause and what the service says. -/
def ofName? (name detail : String) : Option RemoteError :=
  [.unknownResource detail, .transient detail, .rejected detail].find? (·.name = name)

/-- The message. -/
def message : RemoteError → String
  | .unknownResource m => "unknown resource: " ++ m
  | .transient m => "transient failure: " ++ m
  | .rejected m => "request rejected: " ++ m

end RemoteError

/-- Why an operation failed. -/
inductive Error where
  | emptyHistory
  | incompleteHistory (missingEventId : Int)
  | unsupportedCategory (eventId : Int) (category : EventCategory)
  | missingFacet (facet : Facet) (type : EventType)
  | mismatchedAttributes (eventId : Int) (type : EventType)
  /-- The event refers to something that no event of the expected type provides. -/
  | missingReference (eventId : Int) (referenced : String) (expected : EventType)
  /-- A control payload or other written form cannot be read. -/
  | serialization
  | invalidTimeout (text : String)
  | remote (error : RemoteError)
  | handler (eventId : Int) (type : EventType) (source : String)
  | noUnitAvailable (kind : String)
  | unitPanicked (kind message : String)
  | duplicateHandler (type : EventType) (name : EventName)
  /-- No event of the type ever has a name of this shape. -/
  | invalidHandlerKey (type : EventType) (name : EventName)
  | duplicateExecutor (taskType : TaskType)
  deriving DecidableEq, Repr

namespace Error

/-- The name of the cause. -/
def name : Error → String
  | .emptyHistory => "EmptyHistory"
  | .incompleteHistory .. => "IncompleteHistory"
  | .unsupportedCategory .. => "UnsupportedCategory"
  | .missingFacet .. => "MissingFacet"
  | .mismatchedAttributes .. => "MismatchedAttributes"
  | .missingReference .. => "MissingReference"
  | .serialization => "Serialization"
  | .invalidTimeout .. => "InvalidTimeout"
  | .remote .. => "Remote"
  | .handler .. => "Handler"
  | .noUnitAvailable .. => "NoUnitAvailable"
  | .unitPanicked .. => "UnitPanicked"
  | .duplicateHandler .. => "DuplicateHandler"
  | .invalidHandlerKey .. => "InvalidHandlerKey"
  | .duplicateExecutor .. => "DuplicateExecutor"

/-- The message.  What is wrong with an unreadable payload is not told. -/
def message : Error → String
  | .emptyHistory => "event history is empty"
  | .incompleteHistory missing =>
    "event history is incomplete: event " ++ toString missing ++ " is missing"
  | .unsupportedCategory id category =>
    "event " ++ toString id ++ " belongs to the " ++ category.name
      ++ " category, which cannot be dispatched"
  | .missingFacet facet type =>
    type.name ++ " events do not carry the " ++ facet.name ++ " facet"
  | .mismatchedAttributes id type =>
    "event " ++ toString id ++ " of type " ++ type.name
      ++ " carries attributes of an unsupported shape"
  | .missingReference id referenced expected =>
    "event " ++ toString id ++ " references " ++ referenced ++ ", which is not a "
      ++ expected.name ++ " event in the history"
  | .serialization => "serialization error"
  | .invalidTimeout text => "invalid timeout value: " ++ Text.literal text
  | .remote error => "remote service error: " ++ error.message
  | .handler id type source =>
    "handler for event " ++ toString id ++ " (" ++ type.name ++ ") failed: " ++ source
  | .noUnitAvailable kind => "no " ++ kind ++ " unit available"
  | .unitPanicked kind m => kind ++ " unit panicked: " ++ m
  | .duplicateHandler type name =>
    "duplicate handler registration: " ++ type.name ++ " for " ++ name.text
  | .invalidHandlerKey type name => type.name ++ " events are never keyed by " ++ name.text
  | .duplicateExecutor taskType => "duplicate task executor registration: " ++ taskType.text

/-- Whether the error has to end a decision loop. -/
def isFatal : Error → Bool
  | .remote _ => false
  | _ => true

/-- The message of the underlying failure, if there is one. -/
def source? : Error → Option String
  | .remote error => some error.message
  | .handler _ _ source => some source
  | _ => none

end Error

end DurableWorkflow
