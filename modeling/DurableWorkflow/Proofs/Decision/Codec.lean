import DurableWorkflow.Decision.Codec
import DurableWorkflow.Proofs.Json.Leaves
import DurableWorkflow.Proofs.Json.RoundTrip
import DurableWorkflow.Proofs.Parts

/-!
# Batches on the wire

A batch is read back as it was written, except that timeouts have been rounded up to whole seconds.
A timer's duration is written in another way and keeps its nanoseconds.

## Main Definitions

* `Decision.mapTimeouts`: a decision with every timeout changed.
* `Decision.IsWhole`: every timeout is a number of whole seconds.

## Main Statements

* `Decision.reader_toJson`: the round trip of one decision.
* `DecisionBatch.text_roundTrip`: the round trip of a batch, and when nothing is lost.
-/

namespace DurableWorkflow

open Json (Exact exact_ofText? soundFields)

namespace Decision

/-- The decision with every timeout changed. -/
def mapTimeouts (f : Timeout → Timeout) : Decision → Decision
  | .scheduleTask taskId taskType input control options =>
    .scheduleTask taskId taskType input control (options.mapTimeouts f)
  | other => other

/-- Every timeout is a number of whole seconds, or switched off. -/
def IsWhole : Decision → Prop
  | .scheduleTask _ _ _ _ options => options.IsWhole
  | _ => True

/-- A decision is written as it is. -/
theorem exact_toJson (d : Decision) : Exact d.toJson := by
  cases d with
  | scheduleTask taskId taskType input control options =>
      exact ⟨trivial, trivial, taskType.exact_toJson, exact_ofText? _, exact_ofText? _,
        options.exact_toJson, trivial⟩
  | startTimer timerId startToFire control =>
      exact ⟨trivial, trivial, startToFire.exact_toJson, exact_ofText? _, trivial⟩
  | cancelTimer timerId => exact ⟨trivial, trivial, trivial⟩
  | recordMarker markerName details => exact ⟨trivial, trivial, exact_ofText? _, trivial⟩
  | completeWorkflow result => exact ⟨trivial, exact_ofText? _, trivial⟩
  | failWorkflow reason details => exact ⟨trivial, exact_ofText? _, exact_ofText? _, trivial⟩
  | cancelWorkflow details => exact ⟨trivial, exact_ofText? _, trivial⟩

/-- No field has the name of the tag. -/
theorem fields_ne_tag (d : Decision) : ∀ f ∈ d.fields, f.1 ≠ "decisionType" := by
  cases d <;> simp [fields]

theorem soundFields_fields (d : Decision) (room : Nat) :
    soundFields (room + 1) d.fields = true := by
  cases d <;> simp [fields, soundFields]

/-- The fields of every case are read back, timeouts rounded up. -/
theorem readFields_fields (d : Decision) (room : Nat) :
    readFields ⟨⟨room + 1, true⟩, d.caseName, .object d.fields⟩ d.caseName
      = some (d.mapTimeouts .roundUp) := by
  cases d <;> simp [-Option.bind_some, Option.bind_eq_some_iff, readFields, fields, caseName,
    mapTimeouts, Json.Tagged.record?, Json.Record.inside?_object]

/-- **A decision is read back with its timeouts rounded up.** -/
theorem reader_toJson (d : Decision) (room : Nat) (known : Bool) :
    reader ⟨room + 2, known⟩ d.toJson = some (d.mapTimeouts .roundUp) := by
  rw [reader, toJson, Json.Tagged.of?_object d.fields_ne_tag (d.soundFields_fields room)]
  exact d.readFields_fields room

/-- Whole timeouts of a decision are not changed by rounding. -/
theorem mapTimeouts_of_isWhole {d : Decision} (h : d.IsWhole) : d.mapTimeouts .roundUp = d := by
  cases d with
  | scheduleTask taskId taskType input control options =>
      rw [mapTimeouts, TaskOptions.mapTimeouts_of_isWhole h]
  | startTimer | cancelTimer | recordMarker | completeWorkflow | failWorkflow | cancelWorkflow =>
      rfl

theorem isWhole_mapTimeouts (d : Decision) : (d.mapTimeouts .roundUp).IsWhole := by
  cases d with
  | scheduleTask taskId taskType input control options => exact options.isWhole_mapTimeouts
  | startTimer | cancelTimer | recordMarker | completeWorkflow | failWorkflow | cancelWorkflow =>
      trivial

/-- Rounding does not change the written form. -/
theorem toJson_mapTimeouts (d : Decision) : (d.mapTimeouts .roundUp).toJson = d.toJson := by
  cases d with
  | scheduleTask taskId taskType input control options =>
      simp only [toJson, caseName, fields, mapTimeouts, options.toJson_mapTimeouts]
  | startTimer | cancelTimer | recordMarker | completeWorkflow | failWorkflow | cancelWorkflow =>
      rfl

end Decision

namespace DecisionBatch

/-- The batch with every timeout rounded up. -/
def roundUp (b : DecisionBatch) : DecisionBatch := b.map (Decision.mapTimeouts .roundUp)

theorem exact_toJson (b : DecisionBatch) : Exact b.toJson := by
  refine Json.exactItems_iff.mpr fun v hv => ?_
  obtain ⟨d, -, rfl⟩ := List.mem_map.mp hv
  exact d.exact_toJson

/-- A batch is read back with its timeouts rounded up. -/
theorem reader_toJson (b : DecisionBatch) : reader Json.Scope.whole b.toJson = some b.roundUp :=
  Json.Reader.each_map fun d _ => d.reader_toJson 124 false

theorem toJson_roundUp (b : DecisionBatch) : b.roundUp.toJson = b.toJson := by
  rw [toJson, toJson, roundUp, List.map_map]
  exact congrArg Json.array (List.map_congr_left fun d _ => d.toJson_mapTimeouts)

/-- Nothing is lost by rounding exactly if all timeouts are whole. -/
theorem roundUp_eq_iff (b : DecisionBatch) : b.roundUp = b ↔ ∀ d ∈ b, d.IsWhole := by
  constructor
  · intro h d hd
    rw [← h] at hd
    obtain ⟨d', -, rfl⟩ := List.mem_map.mp hd
    exact d'.isWhole_mapTimeouts
  · intro h
    exact (List.map_congr_left fun d hd => Decision.mapTimeouts_of_isWhole (h d hd)).trans
      (List.map_id b)

/-- **What becomes of a batch that is written and read.**  It is read back with its timeouts
rounded up to the least number of whole seconds, as far as 64 bits go, and with nothing else
changed; so it is read back as it was exactly if all its timeouts are whole.  What has been read is
written as the batch was. -/
theorem text_roundTrip (b : DecisionBatch) :
    Json.decode? reader b.text = some b.roundUp ∧
      (Json.decode? reader b.text = some b ↔ ∀ d ∈ b, d.IsWhole) ∧
      b.roundUp.text = b.text ∧
      ∀ d : Duration, ∃ n whole, Timeout.roundUp (.after d) = .after whole ∧
        whole.total = min n (UInt64.size - 1) * nanosPerSecond ∧
        ∀ m, n ≤ m ↔ d.total ≤ m * nanosPerSecond := by
  have hread : Json.decode? reader b.text = some b.roundUp := by
    rw [text, Json.decode?_render _ b.exact_toJson, b.reader_toJson]
  refine ⟨hread, ?_, ?_, fun d => ⟨d.ceilSeconds, _, rfl, rfl, d.ceilSeconds_le_iff⟩⟩
  · rw [hread, Option.some_inj, b.roundUp_eq_iff]
  · rw [text, b.toJson_roundUp, text]

/-- A task that may take some time in all, and a timer of one nanosecond. -/
def timed (timeout : Duration) : DecisionBatch :=
  [.scheduleTask "task-1" ⟨"task", "1"⟩ none (some "")
      { TaskOptions.empty with
        totalTimeout := some (.after timeout), executionTimeout := some .unlimited },
    .startTimer "timer" ⟨1, by decide⟩ none]

/-- A second and a half becomes two seconds, which stay two seconds. -/
theorem text_roundTrip_timed :
    Json.decode? reader (timed ⟨1500000000, by decide⟩).text = some (timed (.ofSeconds 2)) ∧
      Json.decode? reader (timed (.ofSeconds 2)).text = some (timed (.ofSeconds 2)) :=
  ⟨(text_roundTrip (timed ⟨1500000000, by decide⟩)).1.trans (by decide),
    (text_roundTrip (timed (.ofSeconds 2))).2.1.mpr
      ((roundUp_eq_iff _).mp (by decide))⟩

end DecisionBatch

end DurableWorkflow
