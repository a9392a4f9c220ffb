import DurableWorkflow.Event.Identity
import DurableWorkflow.Event.Timestamp
import DurableWorkflow.Options
import DurableWorkflow.Proofs.Json.Record
import DurableWorkflow.Proofs.Timeout

/-!
# The parts of events and decisions as they are written

Registered types, durations, timestamps and options are read back wherever there is room for one
more container.  A duration comes back as it was, down to the nanosecond, and so does a timestamp
that has been read; options come back with their timeouts rounded up.

## Main Definitions

* `Timestamp.Proper`: timestamps with all parts within their ranges and one sign in the offset.
* `TaskOptions.mapTimeouts`, `WorkflowOptions.mapTimeouts`: options with every timeout changed.
* `TaskOptions.IsWhole`, `WorkflowOptions.IsWhole`: every timeout is a number of whole seconds.

## Main Statements

* `TaskType.reader_toJson`, `WorkflowType.reader_toJson`, `Duration.reader_toJson`: what is read
  back as it was.
* `Timestamp.reader_toJson`, `Timestamp.proper_of_reader`: what has been read is read back.
* `TaskOptions.reader_toJson`, `WorkflowOptions.reader_toJson`: the round trips of options.
* `TaskOptions.isWhole_of_reader`, `WorkflowOptions.isWhole_of_reader`: what is read is whole.
-/

namespace DurableWorkflow

open Json (Exact FitsWord)

/-! ### Registered types -/

/-- A name with a version is written as it is. -/
theorem exact_versionedJson (name version : String) : Exact (versionedJson name version) :=
  ⟨trivial, trivial, trivial⟩

theorem TaskType.exact_toJson (t : TaskType) : Exact t.toJson := exact_versionedJson ..

theorem WorkflowType.exact_toJson (t : WorkflowType) : Exact t.toJson := exact_versionedJson ..

/-- A name with a version takes up one level of nesting. -/
theorem sound_versionedJson (name version : String) (room : Nat) :
    (versionedJson name version).sound (room + 1) = true := by
  simp [versionedJson, Json.sound, Json.soundFields]

@[simp]
theorem TaskType.sound_toJson (t : TaskType) (room : Nat) : t.toJson.sound (room + 1) = true :=
  sound_versionedJson ..

@[simp]
theorem WorkflowType.sound_toJson (t : WorkflowType) (room : Nat) :
    t.toJson.sound (room + 1) = true :=
  sound_versionedJson ..

@[simp]
theorem TaskType.reader_toJson (t : TaskType) (room : Nat) (known : Bool) :
    reader ⟨room + 1, known⟩ t.toJson = some t := rfl

@[simp]
theorem WorkflowType.reader_toJson (t : WorkflowType) (room : Nat) (known : Bool) :
    reader ⟨room + 1, known⟩ t.toJson = some t := rfl

/-! ### Durations -/

namespace Duration

theorem seconds_lt (d : Duration) : d.seconds < UInt64.size :=
  Nat.div_lt_of_lt_mul (Nat.mul_comm .. ▸ d.total_lt)

theorem nanos_lt (d : Duration) : d.nanos < nanosPerSecond := Nat.mod_lt _ (by decide)

/-- Seconds and nanoseconds make up the duration. -/
theorem of?_seconds_nanos (d : Duration) : of? d.seconds d.nanos = some d := by
  have htotal : d.seconds * nanosPerSecond + d.nanos = d.total := Nat.div_add_mod' ..
  rw [of?, htotal, ofNanos?, dif_pos d.total_lt]

/-- A duration is written as it is: both of its numbers fit the words of the wire. -/
theorem exact_toJson (d : Duration) : Exact d.toJson := by
  have hnanos : d.nanos < UInt64.size := Nat.lt_trans d.nanos_lt (by decide)
  simp only [toJson, Exact, Json.ExactFields]
  exact ⟨Json.fitsWord_natCast d.seconds_lt, Json.fitsWord_natCast hnanos, trivial⟩

@[simp]
theorem sound_toJson (d : Duration) (room : Nat) : d.toJson.sound (room + 1) = true := by
  simp [toJson, Json.sound, Json.soundFields]

/-- A duration is read back as it was. -/
@[simp]
theorem reader_toJson (d : Duration) (room : Nat) (known : Bool) :
    reader ⟨room + 1, known⟩ d.toJson = some d := by
  have hseconds (s : Json.Scope) : Json.Reader.nat64 s (.int d.seconds) = some d.seconds :=
    Json.Reader.natBelow_natCast d.seconds_lt s
  have hlt : d.nanos < UInt32.size := Nat.lt_trans d.nanos_lt (by decide)
  have hnanos (s : Json.Scope) : Json.Reader.nat32 s (.int d.nanos) = some d.nanos :=
    Json.Reader.natBelow_natCast hlt s
  simp [-Option.bind_some, Option.bind_eq_some_iff, reader, toJson, Json.Record.of?, fieldNames,
    Json.Record.inside?_object, hseconds, hnanos, of?_seconds_nanos]

end Duration

/-! ### Timestamps -/

namespace Timestamp

/-- The parts are within their ranges and those of the offset have one sign. -/
structure Proper (t : Timestamp) : Prop where
  inRange : t.inRange = true
  aligned : t.alignOffset = t

/-- An offset whose parts have been given one sign is not changed again. -/
theorem alignOffset_alignOffset (t : Timestamp) : t.alignOffset.alignOffset = t.alignOffset := by
  simp only [alignOffset, opposed]
  grind

/-- The range of each part, for arguments that take the parts one by one. -/
theorem inRange_iff {t : Timestamp} : t.inRange = true ↔
    (-9999 ≤ t.year ∧ t.year ≤ 9999)
      ∧ (1 ≤ t.day ∧ t.day ≤ if isLeap t.year then 366 else 365)
      ∧ (0 ≤ t.hour ∧ t.hour ≤ 23) ∧ (0 ≤ t.minute ∧ t.minute ≤ 59)
      ∧ (0 ≤ t.second ∧ t.second ≤ 59) ∧ (0 ≤ t.nanosecond ∧ t.nanosecond ≤ 999999999)
      ∧ (-25 ≤ t.offsetHours ∧ t.offsetHours ≤ 25)
      ∧ (-59 ≤ t.offsetMinutes ∧ t.offsetMinutes ≤ 59)
      ∧ (-59 ≤ t.offsetSeconds ∧ t.offsetSeconds ≤ 59) := by
  simp only [inRange, Bool.and_eq_true, decide_eq_true_eq, and_assoc]

/-- The sign of a part of the offset does not matter for its range. -/
theorem inRange_alignOffset {t : Timestamp} (h : t.inRange = true) :
    t.alignOffset.inRange = true := by
  have hturn (turned : Bool) (n : Int) (hn : -59 ≤ n ∧ n ≤ 59) :
      -59 ≤ (if turned then -n else n) ∧ (if turned then -n else n) ≤ 59 := by
    split <;> omega
  obtain ⟨hyear, hday, hhour, hminute, hsecond, hnano, hhours, hminutes, hseconds⟩ :=
    inRange_iff.mp h
  exact inRange_iff.mpr ⟨hyear, hday, hhour, hminute, hsecond, hnano, hhours,
    hturn _ _ hminutes, hturn _ _ hseconds⟩

/-- A timestamp with all parts within their ranges is written as it is. -/
theorem exact_toJson {t : Timestamp} (h : t.inRange = true) : Exact t.toJson := by
  have hfits {low high n : Int} (hn : low ≤ n ∧ n ≤ high) (hlow : -9999 ≤ low)
      (hhigh : high ≤ 999999999) : FitsWord n :=
    ⟨Int.le_trans (by decide) (Int.le_trans hlow hn.1),
      Int.lt_of_le_of_lt (Int.le_trans hn.2 hhigh) (by decide)⟩
  have hdays : (if isLeap t.year then (366 : Int) else 365) ≤ 366 := by split <;> decide
  obtain ⟨hyear, hday, hhour, hminute, hsecond, hnano, hhours, hminutes, hseconds⟩ :=
    inRange_iff.mp h
  exact ⟨hfits hyear (by decide) (by decide),
    hfits ⟨hday.1, Int.le_trans hday.2 hdays⟩ (by decide) (by decide),
    hfits hhour (by decide) (by decide), hfits hminute (by decide) (by decide),
    hfits hsecond (by decide) (by decide), hfits hnano (by decide) (by decide),
    hfits hhours (by decide) (by decide), hfits hminutes (by decide) (by decide),
    hfits hseconds (by decide) (by decide), trivial⟩

/-- A timestamp that has been read is read back. -/
theorem reader_toJson {t : Timestamp} (h : t.Proper) (room : Nat) (known : Bool) :
    reader ⟨room + 1, known⟩ t.toJson = some t :=
  (if_pos h.inRange).trans (congrArg some h.aligned)

/-- A timestamp that has been read is within its ranges, and its offset has one sign. -/
theorem proper_of_reader {s : Json.Scope} {v : Json} {t : Timestamp} (h : reader s v = some t) :
    t.Proper := by
  simp only [reader, Option.bind_eq_bind, Option.bind_eq_some_iff] at h
  obtain ⟨-, -, h⟩ := h
  split at h
  · split at h
    · next hrange =>
      cases h
      exact ⟨inRange_alignOffset hrange, alignOffset_alignOffset _⟩
    · cases h
  · cases h

end Timestamp

/-! ### Single options -/

/-- A priority as it is written. -/
def priorityJson (p : Int32) : Json := .int p.toInt

theorem exact_priorityJson (p : Int32) : Exact (priorityJson p) := by
  have hlow := p.minValue_le_toInt
  have hhigh := p.toInt_le
  refine ⟨Int.le_trans (by decide) hlow, Int.lt_of_le_of_lt hhigh (by decide)⟩

/-- A priority is read back as it was. -/
theorem priorityReader_priorityJson (p : Int32) (s : Json.Scope) :
    priorityReader s (priorityJson p) = some p := by
  have hread : Json.Reader.int32 s (priorityJson p) = some p.toInt :=
    if_pos ⟨p.minValue_le_toInt, p.toInt_le⟩
  rw [priorityReader, hread, Option.map_some, Int32.ofInt_toInt]

/-- A priority that may be left out is read back from its slot. -/
theorem omissible_priority {r : Json.Record} {name : String} {p : Option Int32}
    (h : r.slot name = p.map priorityJson) : r.omissible name priorityReader = some p :=
  (Json.Record.omissible_of_slot h (fun _ => Json.noConfusion)
    fun y => priorityReader_priorityJson y r.scope).trans (congrArg some Option.map_id')

namespace Timeout

/-- A timeout is read back rounded up to whole seconds. -/
theorem reader_toJson (t : Timeout) (s : Json.Scope) : reader s t.toJson = some t.roundUp :=
  t.ofText?_text

variable {r : Json.Record} {name : String} {t : Option Timeout}

/-- A timeout that may be left out is read back from its slot, rounded up. -/
theorem omissible (h : r.slot name = t.map toJson) :
    r.omissible name reader = some (t.map roundUp) :=
  Json.Record.omissible_of_slot h (fun _ => Json.noConfusion) fun y => reader_toJson y r.scope

/-- What is read is whole. -/
theorem isWhole_of_reader {s : Json.Scope} {v : Json} {t : Timeout} (h : reader s v = some t) :
    t.IsWhole := by
  obtain ⟨text, -, htext⟩ := Option.bind_eq_some_iff.mp h
  exact isWhole_of_ofText? htext

/-- A timeout that has been read is whole, if it is there. -/
theorem isWhole_of_omissible (h : r.omissible name reader = some t) : ∀ x ∈ t, x.IsWhole := by
  rintro x rfl
  obtain ⟨v, hv⟩ := Json.Record.reads_of_omissible h
  exact isWhole_of_reader hv

/-- Rounding does not change a whole timeout that may be left out. -/
theorem map_roundUp_of_isWhole (h : ∀ x ∈ t, x.IsWhole) : t.map roundUp = t := by
  cases t with
  | none => rfl
  | some x => exact congrArg some (roundUp_of_isWhole (h x rfl))

theorem isWhole_map_roundUp (t : Option Timeout) : ∀ x ∈ t.map roundUp, x.IsWhole := by
  cases t with
  | none => exact fun _ hx => nomatch hx
  | some x => exact fun _ hx => Option.some.inj hx ▸ x.isWhole_roundUp

/-- A timeout that may be left out is written as it is once it is rounded up. -/
theorem field_map_roundUp :
    Json.field name toJson (t.map roundUp) = Json.field name toJson t := by
  cases t with
  | none => rfl
  | some x => simp [Json.field, toJson, text_roundUp]

end Timeout

/-! ### Options of tasks -/

namespace TaskOptions

/-- The options with every timeout changed. -/
def mapTimeouts (f : Timeout → Timeout) (o : TaskOptions) : TaskOptions where
  taskList := o.taskList
  priority := o.priority
  totalTimeout := o.totalTimeout.map f
  waitToStartTimeout := o.waitToStartTimeout.map f
  executionTimeout := o.executionTimeout.map f
  heartbeatTimeout := o.heartbeatTimeout.map f

/-- Every timeout is a number of whole seconds, or switched off. -/
structure IsWhole (o : TaskOptions) : Prop where
  totalTimeout : ∀ t ∈ o.totalTimeout, t.IsWhole
  waitToStartTimeout : ∀ t ∈ o.waitToStartTimeout, t.IsWhole
  executionTimeout : ∀ t ∈ o.executionTimeout, t.IsWhole
  heartbeatTimeout : ∀ t ∈ o.heartbeatTimeout, t.IsWhole

theorem isWhole_empty : empty.IsWhole := by
  constructor <;> exact fun _ h => nomatch h

/-- What is found of written options, slot by slot. -/
theorem of?_toJson (o : TaskOptions) (room : Nat) (known : Bool) :
    Json.Record.of? fieldNames ⟨room + 1, known⟩ o.toJson
      = some ⟨⟨room, known⟩, true,
        [("task_list", o.taskList.map .string), ("priority", o.priority.map priorityJson),
          ("total_timeout", o.totalTimeout.map Timeout.toJson),
          ("wait_to_start_timeout", o.waitToStartTimeout.map Timeout.toJson),
          ("execution_timeout", o.executionTimeout.map Timeout.toJson),
          ("heartbeat_timeout", o.heartbeatTimeout.map Timeout.toJson)]⟩ := by
  simp [Json.Record.of?, Json.Record.inside?, Json.Record.slots?, fieldNames, toJson,
    Json.field?_field_append, Json.field?_field_append_of_ne, Json.field?_field,
    Json.field?_field_of_ne]
  rfl

/-- **Options are read back with their timeouts rounded up.** -/
@[simp]
theorem reader_toJson (o : TaskOptions) (room : Nat) (known : Bool) :
    reader ⟨room + 1, known⟩ o.toJson = some (o.mapTimeouts .roundUp) := by
  obtain ⟨r, hr, htaskList, hpriority, htotal, hwait, hexecution, hheartbeat⟩ :
      ∃ r, Json.Record.of? fieldNames ⟨room + 1, known⟩ o.toJson = some r
        ∧ r.slot "task_list" = o.taskList.map .string
        ∧ r.slot "priority" = o.priority.map priorityJson
        ∧ r.slot "total_timeout" = o.totalTimeout.map Timeout.toJson
        ∧ r.slot "wait_to_start_timeout" = o.waitToStartTimeout.map Timeout.toJson
        ∧ r.slot "execution_timeout" = o.executionTimeout.map Timeout.toJson
        ∧ r.slot "heartbeat_timeout" = o.heartbeatTimeout.map Timeout.toJson :=
    ⟨_, o.of?_toJson room known, rfl, rfl, rfl, rfl, rfl, rfl⟩
  simp [reader, hr, Json.Record.omissible_string htaskList, omissible_priority hpriority,
    Timeout.omissible htotal, Timeout.omissible hwait, Timeout.omissible hexecution,
    Timeout.omissible hheartbeat, mapTimeouts]

/-- Options of a task are written as they are. -/
theorem exact_toJson (o : TaskOptions) : Exact o.toJson := by
  simp only [toJson, Exact, Json.exactFields_append]
  exact ⟨Json.exactFields_field fun _ => trivial, Json.exactFields_field exact_priorityJson,
    Json.exactFields_field fun _ => trivial, Json.exactFields_field fun _ => trivial,
    Json.exactFields_field fun _ => trivial, Json.exactFields_field fun _ => trivial⟩

@[simp]
theorem sound_toJson (o : TaskOptions) (room : Nat) : o.toJson.sound (room + 1) = true := by
  simp only [toJson, Json.sound, Json.soundFields_append, Bool.and_eq_true]
  exact ⟨Json.soundFields_field fun _ => rfl, Json.soundFields_field fun _ => rfl,
    Json.soundFields_field fun _ => rfl, Json.soundFields_field fun _ => rfl,
    Json.soundFields_field fun _ => rfl, Json.soundFields_field fun _ => rfl⟩

/-- What is read is whole. -/
theorem isWhole_of_reader {s : Json.Scope} {v : Json} {o : TaskOptions}
    (h : reader s v = some o) : o.IsWhole := by
  simp only [reader, Option.bind_eq_bind, Option.bind_eq_some_iff] at h
  obtain ⟨r, -, _, -, _, -, _, htotal, _, hwait, _, hexecution, _, hheartbeat, ho⟩ := h
  cases ho
  exact ⟨Timeout.isWhole_of_omissible htotal, Timeout.isWhole_of_omissible hwait,
    Timeout.isWhole_of_omissible hexecution, Timeout.isWhole_of_omissible hheartbeat⟩

/-- Whole timeouts are not changed by rounding. -/
theorem mapTimeouts_of_isWhole {o : TaskOptions} (h : o.IsWhole) :
    o.mapTimeouts .roundUp = o := by
  simp [mapTimeouts, Timeout.map_roundUp_of_isWhole h.totalTimeout,
    Timeout.map_roundUp_of_isWhole h.waitToStartTimeout,
    Timeout.map_roundUp_of_isWhole h.executionTimeout,
    Timeout.map_roundUp_of_isWhole h.heartbeatTimeout]

/-- Rounding makes every timeout whole. -/
theorem isWhole_mapTimeouts (o : TaskOptions) : (o.mapTimeouts .roundUp).IsWhole :=
  ⟨Timeout.isWhole_map_roundUp _, Timeout.isWhole_map_roundUp _, Timeout.isWhole_map_roundUp _,
    Timeout.isWhole_map_roundUp _⟩

/-- Rounding does not change the written form. -/
theorem toJson_mapTimeouts (o : TaskOptions) : (o.mapTimeouts .roundUp).toJson = o.toJson := by
  simp only [toJson, mapTimeouts, Timeout.field_map_roundUp]

end TaskOptions

/-! ### Options of runs -/

namespace WorkflowOptions

/-- The options with every timeout changed. -/
def mapTimeouts (f : Timeout → Timeout) (o : WorkflowOptions) : WorkflowOptions where
  taskList := o.taskList
  priority := o.priority
  totalTimeout := o.totalTimeout.map f
  decisionTimeout := o.decisionTimeout.map f

/-- Every timeout is a number of whole seconds, or switched off. -/
structure IsWhole (o : WorkflowOptions) : Prop where
  totalTimeout : ∀ t ∈ o.totalTimeout, t.IsWhole
  decisionTimeout : ∀ t ∈ o.decisionTimeout, t.IsWhole

theorem isWhole_empty : empty.IsWhole := by
  constructor <;> exact fun _ h => nomatch h

/-- What is found of written options, slot by slot. -/
theorem of?_toJson (o : WorkflowOptions) (room : Nat) (known : Bool) :
    Json.Record.of? fieldNames ⟨room + 1, known⟩ o.toJson
      = some ⟨⟨room, known⟩, true,
        [("task_list", o.taskList.map .string), ("priority", o.priority.map priorityJson),
          ("total_timeout", o.totalTimeout.map Timeout.toJson),
          ("decision_timeout", o.decisionTimeout.map Timeout.toJson)]⟩ := by
  simp [Json.Record.of?, Json.Record.inside?, Json.Record.slots?, fieldNames, toJson,
    Json.field?_field_append, Json.field?_field_append_of_ne, Json.field?_field,
    Json.field?_field_of_ne]
  rfl

/-- **Options are read back with their timeouts rounded up.** -/
@[simp]
theorem reader_toJson (o : WorkflowOptions) (room : Nat) (known : Bool) :
    reader ⟨room + 1, known⟩ o.toJson = some (o.mapTimeouts .roundUp) := by
  obtain ⟨r, hr, htaskList, hpriority, htotal, hdecision⟩ :
      ∃ r, Json.Record.of? fieldNames ⟨room + 1, known⟩ o.toJson = some r
        ∧ r.slot "task_list" = o.taskList.map .string
        ∧ r.slot "priority" = o.priority.map priorityJson
        ∧ r.slot "total_timeout" = o.totalTimeout.map Timeout.toJson
        ∧ r.slot "decision_timeout" = o.decisionTimeout.map Timeout.toJson :=
    ⟨_, o.of?_toJson room known, rfl, rfl, rfl, rfl⟩
  simp [reader, hr, Json.Record.omissible_string htaskList, omissible_priority hpriority,
    Timeout.omissible htotal, Timeout.omissible hdecision, mapTimeouts]

/-- Options of a run are written as they are. -/
theorem exact_toJson (o : WorkflowOptions) : Exact o.toJson := by
  simp only [toJson, Exact, Json.exactFields_append]
  exact ⟨Json.exactFields_field fun _ => trivial, Json.exactFields_field exact_priorityJson,
    Json.exactFields_field fun _ => trivial, Json.exactFields_field fun _ => trivial⟩

@[simp]
theorem sound_toJson (o : WorkflowOptions) (room : Nat) : o.toJson.sound (room + 1) = true := by
  simp only [toJson, Json.sound, Json.soundFields_append, Bool.and_eq_true]
  exact ⟨Json.soundFields_field fun _ => rfl, Json.soundFields_field fun _ => rfl,
    Json.soundFields_field fun _ => rfl, Json.soundFields_field fun _ => rfl⟩

/-- What is read is whole. -/
theorem isWhole_of_reader {s : Json.Scope} {v : Json} {o : WorkflowOptions}
    (h : reader s v = some o) : o.IsWhole := by
  simp only [reader, Option.bind_eq_bind, Option.bind_eq_some_iff] at h
  obtain ⟨r, -, _, -, _, -, _, htotal, _, hdecision, ho⟩ := h
  cases ho
  exact ⟨Timeout.isWhole_of_omissible htotal, Timeout.isWhole_of_omissible hdecision⟩

/-- Whole timeouts are not changed by rounding. -/
theorem mapTimeouts_of_isWhole {o : WorkflowOptions} (h : o.IsWhole) :
    o.mapTimeouts .roundUp = o := by
  simp [mapTimeouts, Timeout.map_roundUp_of_isWhole h.totalTimeout,
    Timeout.map_roundUp_of_isWhole h.decisionTimeout]

end WorkflowOptions

end DurableWorkflow
