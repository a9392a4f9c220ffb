import DurableWorkflow.Decision.Draft
import DurableWorkflow.Proofs.Event.Reference
import DurableWorkflow.Proofs.Json.RoundTrip
import DurableWorkflow.Retry.Control

/-!
# What the history keeps for retries

Retries are steered by texts that were written to the history in earlier cycles.  These texts are
read back as they were written, and their names tell the tasks apart.

## Main Definitions

* `FitsId`: numbers of events that can be written.
* `isRetryMarker`: whether a marker's name is that of a counting marker.
* `freshTaskId`: the identity of a task with a fresh text.
* `EndsApart`: texts of which neither is the end of the other.

## Main Statements

* `RetryControl.decode_encode`, `RetryCount.decode_encode`: the round trips.
* `named_inj`: the name of a retry timer or of a counting marker belongs to one task.
-/

namespace DurableWorkflow

open Json (FitsWord Exact)

/-! ### Round trips -/

/-- A number that fits 64 bits with sign, as the numbers of events do. -/
def FitsId (n : Int) : Prop := Int64.minValue.toInt ≤ n ∧ n ≤ Int64.maxValue.toInt

theorem FitsId.of_nonneg {n : Int} (hlow : 0 ≤ n) (hhigh : n ≤ Int64.maxValue.toInt) : FitsId n :=
  ⟨Int.le_trans (by decide) hlow, hhigh⟩

theorem FitsId.fitsWord {n : Int} (h : FitsId n) : FitsWord n :=
  ⟨h.1, Int.lt_of_le_of_lt h.2 (by decide)⟩

/-- The control of a retry is written as it is if its number fits 64 bits. -/
theorem RetryControl.exact_toJson {c : RetryControl} (h : FitsId c.scheduledEventId) :
    Exact c.toJson :=
  ⟨h.fitsWord, trivial, trivial⟩

/-- The control of a retry timer is read back. -/
theorem RetryControl.decode_encode {c : RetryControl} (h : FitsId c.scheduledEventId) :
    RetryControl.decode c.encode = .ok c := by
  have hint (s : Json.Scope) : Json.Reader.int64 s (.int c.scheduledEventId)
      = some c.scheduledEventId := if_pos h
  have hread : reader Json.Scope.whole c.toJson = some c := by
    simp [reader, toJson, Json.Record.of?, Json.Record.inside?, Json.Scope.inner?,
      Json.Scope.whole, Json.maxDepth, fieldNames, Json.Record.slots?, Json.field?,
      Json.Record.required, Json.Record.slot, Json.Reader.string, hint]
  rw [decode, encode, Json.decode?_render _ (exact_toJson h), hread]

theorem RetryCount.exact_int (n : RetryCount) : Exact (.int n.toNat) := by
  have hlt : n.toNat < UInt32.size := n.toNat_lt
  have hsize : UInt32.size < UInt64.size := by decide
  exact ⟨Int.le_trans (by decide) (Int.natCast_nonneg n.toNat),
    Int.ofNat_lt.mpr (Nat.lt_trans hlt hsize)⟩

/-- The count of retries is read back. -/
theorem RetryCount.decode_encode (n : RetryCount) : RetryCount.decode n.encode = .ok n := by
  have hlt : n.toNat < UInt32.size := n.toNat_lt
  have hread : Json.Reader.nat32 Json.Scope.whole (.int n.toNat) = some n.toNat := by
    rw [Json.Reader.nat32, Json.Reader.natBelow,
      if_pos ⟨Int.natCast_nonneg n.toNat, Int.ofNat_lt.mpr hlt⟩, Int.toNat_natCast]
  rw [decode, encode, Json.decode?_render _ n.exact_int, hread]
  simp

/-- A count that does not overflow is counted on. -/
theorem RetryCount.succ_ofNat {n : Nat} (h : n + 1 < UInt32.size) :
    RetryCount.succ (UInt32.ofNat n) = UInt32.ofNat (n + 1) := by
  have hn : (UInt32.ofNat n).toNat = n := UInt32.toNat_ofNat_of_lt' (Nat.lt_of_succ_lt h)
  rw [succ, hn, if_pos h, UInt32.ofNat_add]
  rfl

/-! ### Names -/

/-- Whether a name is that of a marker that counts retries. -/
def isRetryMarker (markerName : String) : Bool :=
  retryMarkerPrefix.toList.isPrefixOf markerName.toList

/-- The timer of a retry is recognised by its name. -/
@[simp]
theorem isRetryTimer_retryTimerId (t : TaskType) (taskId : String) :
    isRetryTimer (retryTimerId t taskId) = true := by
  simp [isRetryTimer, retryTimerId, List.append_assoc]

/-- The marker of a retry is recognised by its name. -/
@[simp]
theorem isRetryMarker_retryMarkerName (t : TaskType) (taskId : String) :
    isRetryMarker (retryMarkerName t taskId) = true := by
  simp [isRetryMarker, retryMarkerName, List.append_assoc]

/-- A timer that forces a decision is not taken for that of a retry. -/
@[simp]
theorem isRetryTimer_forced (text : String) : isRetryTimer (forcedTimerPrefix ++ text) = false := by
  simp [isRetryTimer, forcedTimerPrefix, retryTimerPrefix, List.isPrefixOf]

/-- The marker of a close is not taken for that of a retry. -/
@[simp]
theorem isRetryMarker_closeMarkerName : isRetryMarker closeMarkerName = false := by decide

/-- The name of the retry timer of a scheduling. -/
def Scheduling.timerId (x : Scheduling) : String := retryTimerId x.taskType x.taskId

/-- The name of the marker that counts the retries of a scheduling. -/
def Scheduling.markerName (x : Scheduling) : String := retryMarkerName x.taskType x.taskId

/-- The decision that repeats a scheduling. -/
def Scheduling.decision (x : Scheduling) : Decision :=
  .scheduleTask x.taskId x.taskType x.input x.control x.options

@[simp]
theorem Scheduling.isRetryTimer_timerId (x : Scheduling) : isRetryTimer x.timerId = true :=
  isRetryTimer_retryTimerId ..

@[simp]
theorem Scheduling.isRetryMarker_markerName (x : Scheduling) : isRetryMarker x.markerName = true :=
  isRetryMarker_retryMarkerName ..

/-- The identity of a task with a fresh text. -/
def freshTaskId (t : TaskType) (text : String) : String := t.name ++ "-" ++ text

/-- Neither text is the end of the other, unless they are the same. -/
def EndsApart (x y : String) : Prop := x.toList <:+ y.toList ∨ y.toList <:+ x.toList → x = y

/-- Equally long texts are of this kind. -/
theorem EndsApart.of_length_eq {x y : String} (hlen : x.length = y.length) : EndsApart x y := by
  have hlist : x.toList.length = y.toList.length := by
    rwa [String.length_toList, String.length_toList]
  rintro (hend | hend)
  · exact String.toList_injective (hend.eq_of_length hlist)
  · exact String.toList_injective (hend.eq_of_length hlist.symm).symm

/-- A text that ends in one of two such texts is taken apart in one way only. -/
theorem EndsApart.append_inj {x y : String} (hapart : EndsApart x y) {a b : List Char}
    (h : a ++ x.toList = b ++ y.toList) : a = b ∧ x = y := by
  have hx : x.toList <:+ a ++ x.toList := List.suffix_append ..
  have hy : y.toList <:+ a ++ x.toList := h ▸ List.suffix_append ..
  obtain rfl := hapart (List.suffix_or_suffix_of_suffix hx hy)
  exact ⟨List.append_cancel_right h, rfl⟩

/-- An identifier tells the name of the type of the task and the text that it was made of, if the
text is none that ends in another one. -/
theorem freshTaskId_inj {t u : TaskType} {x y : String} (hapart : EndsApart x y)
    (h : freshTaskId t x = freshTaskId u y) : t.name = u.name ∧ x = y := by
  have hlist := congrArg String.toList h
  simp only [freshTaskId, String.toList_append] at hlist
  obtain ⟨hfront, hback⟩ := hapart.append_inj hlist
  exact ⟨String.toList_injective (List.append_cancel_right hfront), hback⟩

/-- A name that ends in a type and an identity of that type tells the identity. -/
theorem named_inj (start : String) {t u : TaskType} {x y : String} (hapart : EndsApart x y)
    (h : start ++ t.name ++ ":" ++ freshTaskId t x = start ++ u.name ++ ":" ++ freshTaskId u y) :
    freshTaskId t x = freshTaskId u y := by
  have hlist := congrArg String.toList h
  simp only [freshTaskId, String.toList_append, ← List.append_assoc] at hlist
  obtain ⟨hfront, hback⟩ := hapart.append_inj hlist
  -- What is left has the type's name in it twice, so the names are equally long.
  have hlength := congrArg List.length hfront
  simp only [List.length_append] at hlength
  simp only [List.append_assoc] at hfront
  have hname := (List.append_inj (List.append_cancel_left hfront) (by omega)).1
  rw [freshTaskId, freshTaskId, String.toList_injective hname, hback]

end DurableWorkflow
