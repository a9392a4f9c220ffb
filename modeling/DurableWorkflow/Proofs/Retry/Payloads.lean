import DurableWorkflow.Proofs.Decision.Close
import DurableWorkflow.Proofs.Retry.Control
import DurableWorkflow.Retry.Verdict

/-!
# Control payloads

Three kinds of texts steer later cycles: the control of a retry timer, the control of a close
decision and the count of retries.  Each is read back as it was written, whatever texts it holds,
and none is taken for one of another kind.

## Main Statements

* `RetryControl.decode_closeControl`, `RetryControl.decode_retryCount`,
  `CloseControl.decode_retryControl`, `CloseControl.decode_retryCount`: kinds are told apart.
* `payloads_roundTrip`: all round trips.
-/

namespace DurableWorkflow

/-! ### Kinds are told apart -/

/-- The control of a close is not read as that of a retry. -/
theorem RetryControl.decode_closeControl (c : CloseControl) :
    RetryControl.decode c.encode = .error .serialization := by
  have hread : reader Json.Scope.whole c.toJson = none := by cases c <;> rfl
  rw [decode, CloseControl.encode, Json.decode?_render _ c.exact_toJson, hread]

/-- A count of retries is not read as the control of one. -/
theorem RetryControl.decode_retryCount (n : RetryCount) :
    RetryControl.decode n.encode = .error .serialization := by
  rw [decode, RetryCount.encode, Json.decode?_render _ n.exact_int]
  rfl

theorem CloseControl.decode_retryCount (n : RetryCount) :
    CloseControl.decode n.encode = .error .serialization := by
  rw [decode, RetryCount.encode, Json.decode?_render _ n.exact_int]
  rfl

/-- The control of a retry is not read as that of a close. -/
theorem CloseControl.decode_retryControl {c : RetryControl} (h : FitsId c.scheduledEventId) :
    CloseControl.decode c.encode = .error .serialization := by
  rw [decode, RetryControl.encode, Json.decode?_render _ (RetryControl.exact_toJson h)]
  rfl

/-! ### Round trips -/

theorem FitsId.of_int64 (id : Int64) : FitsId id.toInt := ⟨id.minValue_le_toInt, id.toInt_le⟩

/-- A count that was recorded last under a name is the count of retries. -/
theorem EventLog.retryCount_of_latest {log : EventLog} {markerName : String} {n : RetryCount}
    (h : log.latestMarkerDetails markerName = some n.encode) :
    log.retryCount markerName = .ok n := by
  rw [retryCount, h]
  exact n.decode_encode

/-- **Control payloads are read back as they were written**: the controls of retry timers with any
numbers of 64 bits and any names, the controls of close decisions with any texts or none, and the
counts of retries from the history in which they are recorded. -/
theorem payloads_roundTrip :
    (∀ (id : Int64) (markerName : String),
      RetryControl.decode (RetryControl.encode ⟨id.toInt, markerName⟩)
        = .ok ⟨id.toInt, markerName⟩) ∧
      (∀ c : CloseControl, CloseControl.decode c.encode = .ok c) ∧
      ∀ (log : EventLog) (markerName : String) (n : RetryCount),
        log.latestMarkerDetails markerName = some n.encode → log.retryCount markerName = .ok n :=
  ⟨fun id _ => RetryControl.decode_encode (FitsId.of_int64 id), CloseControl.decode_encode,
    fun _ _ _ => EventLog.retryCount_of_latest⟩

/-- A count recorded twice: the newer one, the largest there is, is read. -/
theorem payloads_roundTrip_largest :
    EventLog.retryCount
        ⟨[⟨2, .epoch, .markerRecorded "count" (some (RetryCount.encode 4294967295))⟩,
          ⟨1, .epoch, .markerRecorded "count" (some (RetryCount.encode 7))⟩], 0⟩ "count"
      = .ok 4294967295 :=
  payloads_roundTrip.2.2 _ _ _ rfl

end DurableWorkflow
