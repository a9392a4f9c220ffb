import DurableWorkflow.Event.Codec
import DurableWorkflow.Proofs.Json.Children
import DurableWorkflow.Proofs.Json.RoundTrip
import DurableWorkflow.Proofs.Parts
import DurableWorkflow.Proofs.Retry.Control

/-!
# Events on the wire

What has been read from a text can be written and is then read as the same, however the text was
spelled: fields in another order or beside others, options left out, timeouts with a sign or leading
zeros, offsets with mixed signs.

## Main Definitions

* `Attributes.Legible`, `Event.Legible`: what can be written within some room and read back.

## Main Statements

* `Attributes.legible_of_reader`, `Event.legible_of_reader`: what has been read is legible.
* `Attributes.reader_toJson`, `Event.reader_toJson`: what is legible is read back.
* `Event.decode_stable`: the two put together.

## Design Notes

Only payloads are read without being understood, so only for them it matters how deep they nest and
what stands in them.
-/

namespace DurableWorkflow

open Json (Exact exact_ofText? soundFields WordsFit)

/-! ### Types of events -/

theorem EventType.mem_all (t : EventType) : t ∈ all := by
  cases t <;> decide

@[simp]
theorem EventType.ofName?_name (t : EventType) : ofName? t.name = some t := by
  have hall : ∀ t ∈ all, ofName? t.name = some t := by decide +kernel
  exact hall t t.mem_all

@[simp]
theorem EventType.reader_name (t : EventType) (s : Json.Scope) :
    EventType.reader s (.string t.name) = some t := t.ofName?_name

/-- No type of events has the name under which attributes that are not understood are written. -/
theorem EventType.name_ne_otherName (t : EventType) : t.name ≠ Attributes.otherName := by
  have hall : ∀ t ∈ all, t.name ≠ Attributes.otherName := by decide +kernel
  exact hall t t.mem_all

namespace Attributes

/-- The attributes can be written within some room and read back.  Numbers fit 64 bits, timeouts are
whole, and a payload is in its normal form and holds nothing that cannot be written. -/
def Legible (room : Nat) : Attributes → Prop
  | .workflowExecutionStarted _ _ options _ => options.IsWhole
  | .decisionTaskStarted scheduledEventId _ => FitsId scheduledEventId
  | .decisionTaskCompleted scheduledEventId startedEventId
  | .decisionTaskTimedOut scheduledEventId startedEventId _ =>
    FitsId scheduledEventId ∧ FitsId startedEventId
  | .taskScheduled _ _ _ _ options => options.IsWhole
  | .taskStarted scheduledEventId _ | .taskCompleted scheduledEventId _
  | .taskFailed scheduledEventId _ _ | .taskTimedOut scheduledEventId _ _
  | .taskCanceled scheduledEventId _ => FitsId scheduledEventId
  | .timerFired _ startedEventId | .timerCanceled _ startedEventId => FitsId startedEventId
  | .other _ payload =>
    payload.normal = payload ∧ payload.sound room = true ∧ WordsFit payload
  | _ => True

theorem int64_int {n : Int} (h : FitsId n) (s : Json.Scope) :
    Json.Reader.int64 s (.int n) = some n :=
  Json.Reader.intBetween_int h s

/-- An identifier that has been read fits 64 bits. -/
theorem fitsId_of_required {r : Json.Record} {name : String} {n : Int}
    (h : r.required name Json.Reader.int64 = some n) : FitsId n := by
  obtain ⟨x, -, hx⟩ := Json.Record.exists_of_required h
  exact Json.Reader.intBetween_bounds hx

/-- Options of a task that have been read are whole, and so are those that were left out. -/
theorem isWhole_of_taskOptions {r : Json.Record} {name : String} {o : TaskOptions}
    (h : r.defaulted name TaskOptions.reader .empty = some o) : o.IsWhole := by
  rcases Json.Record.read_of_defaulted h with rfl | ⟨x, -, hx⟩
  · exact TaskOptions.isWhole_empty
  · exact TaskOptions.isWhole_of_reader hx

/-- Options of a run that have been read are whole, and so are those that were left out. -/
theorem isWhole_of_workflowOptions {r : Json.Record} {name : String} {o : WorkflowOptions}
    (h : r.defaulted name WorkflowOptions.reader .empty = some o) : o.IsWhole := by
  rcases Json.Record.read_of_defaulted h with rfl | ⟨x, -, hx⟩
  · exact WorkflowOptions.isWhole_empty
  · exact WorkflowOptions.isWhole_of_reader hx

/-- The fields of a case have been read one by one: numbers fit, and timeouts are whole, because
their readers see to it. -/
theorem legible_of_readFields {t : Json.Tagged} {type : EventType} {a : Attributes} (room : Nat)
    (h : readFields t type = some a) : a.Legible room := by
  cases type
  all_goals
    simp only [readFields, Option.bind_eq_bind, Option.bind_eq_some_iff, Option.pure_def,
      Option.some.injEq, reduceCtorEq] at h
  case workflowExecutionStarted =>
    obtain ⟨r, -, _, -, _, -, options, hoptions, _, -, rfl⟩ := h
    exact isWhole_of_workflowOptions hoptions
  case taskScheduled =>
    obtain ⟨r, -, _, -, _, -, _, -, _, -, options, hoptions, rfl⟩ := h
    exact isWhole_of_taskOptions hoptions
  case decisionTaskCompleted =>
    obtain ⟨r, -, _, hscheduled, _, hstarted, rfl⟩ := h
    exact ⟨fitsId_of_required hscheduled, fitsId_of_required hstarted⟩
  case decisionTaskTimedOut =>
    obtain ⟨r, -, _, hscheduled, _, hstarted, _, -, rfl⟩ := h
    exact ⟨fitsId_of_required hscheduled, fitsId_of_required hstarted⟩
  case decisionTaskStarted | taskStarted | taskCompleted | taskCanceled =>
    obtain ⟨r, -, _, hscheduled, _, -, rfl⟩ := h
    exact fitsId_of_required hscheduled
  case taskFailed | taskTimedOut =>
    obtain ⟨r, -, _, hscheduled, _, -, _, -, rfl⟩ := h
    exact fitsId_of_required hscheduled
  case timerFired | timerCanceled =>
    obtain ⟨r, -, _, -, _, hstarted, rfl⟩ := h
    exact fitsId_of_required hstarted
  -- All other attributes are legible in any case.
  all_goals
    first
    | obtain ⟨_, -, _, -, rfl⟩ := h
      trivial
    | obtain ⟨_, -, _, -, _, -, rfl⟩ := h
      trivial
    | obtain ⟨_, -, _, -, _, -, _, -, rfl⟩ := h
      trivial

/-- What has been read can be written and read back. -/
theorem legible_of_reader {s : Json.Scope} {v : Json} {a : Attributes} {room : Nat}
    (hroom : s.room = room + 1) (hwords : WordsFit v) (h : reader s v = some a) :
    a.Legible room := by
  obtain ⟨t, ht, h⟩ := Option.bind_eq_some_iff.mp h
  split at h
  · obtain ⟨hsound, ⟨room', hroom', -⟩, hchildren⟩ := Json.Tagged.spec_of_of? ht
    simp only [readOther, Option.bind_eq_bind, Option.bind_eq_some_iff, Option.pure_def,
      Option.some.injEq] at h
    obtain ⟨r, hr, type, -, payload, hpayload, rfl⟩ := h
    rcases Json.Record.read_of_defaulted hpayload with rfl | ⟨x, hslot, hx⟩
    · exact ⟨rfl, rfl, Json.wordsFit_null⟩
    · cases hx
      have hchild := hchildren x (Json.Record.mem_children_of_slot hr hslot)
      rw [hroom] at hsound
      refine ⟨x.normal_normal, x.sound_normal room (Json.sound_of_mem_children hsound hchild), ?_⟩
      exact fun n hn => Json.wordsFit_of_mem_children hwords hchild n (x.leaves_normal _ hn)
  · obtain ⟨type, -, h⟩ := Option.bind_eq_some_iff.mp h
    exact legible_of_readFields room h

/-! ### Reading back -/

theorem sound_tags (tags : List String) (room : Nat) :
    (Json.array (tags.map .string)).sound (room + 1) = true := by
  rw [Json.sound, Json.soundItems_iff]
  simp

theorem exact_tags (tags : List String) : Json.ExactItems (tags.map .string) :=
  Json.exactItems_iff.mpr fun v hv => by
    obtain ⟨text, -, rfl⟩ := List.mem_map.mp hv
    trivial

theorem list_tags (tags : List String) (room : Nat) (known : Bool) :
    Json.Reader.list Json.Reader.string ⟨room + 1, known⟩ (.array (tags.map .string))
      = some tags :=
  (Json.Reader.each_map fun _ _ => rfl).trans (congrArg some (List.map_id' tags))

/-- No field has the name of the tag. -/
theorem fields_ne_tag (a : Attributes) : ∀ f ∈ a.fields, f.1 ≠ "type" := by
  cases a <;> simp [fields]

/-- Legible attributes are not nested deeper than there is room for. -/
theorem soundFields_fields {a : Attributes} {room : Nat} (h : a.Legible (room + 1)) :
    soundFields (room + 1) a.fields = true := by
  cases a with
  | other type payload => simp [fields, soundFields, h.2.1]
  | _ => simp [fields, soundFields, sound_tags]

/-- A payload is written as it is if it is not nested too deep, its numbers fit the words of the
wire, and no floating-point number is among them. -/
theorem exact_payload {payload : Json} {room : Nat} (hsound : payload.sound room = true)
    (hwords : WordsFit payload) (hdouble : ∀ d, .double d ∉ payload.leaves) : Exact payload := by
  refine Json.exact_of_leaves payload fun x hx => ⟨?_, ?_, ?_⟩
  · rintro rfl
    exact payload.broken_notMem_leaves room hsound hx
  · rintro d rfl
    exact hdouble d hx
  · rintro n rfl
    exact hwords n hx

/-- Legible attributes are written as they are, unless there is a floating-point number in their
payload. -/
theorem exact_toJson {a : Attributes} {room : Nat} (h : a.Legible room)
    (hpayload : ∀ type payload, a = .other type payload → ∀ d, .double d ∉ payload.leaves) :
    Exact a.toJson := by
  refine ⟨trivial, ?_⟩
  cases a
  case other type payload =>
    exact ⟨trivial, exact_payload h.2.1 h.2.2 (hpayload type payload rfl), trivial⟩
  case decisionTaskCompleted | decisionTaskTimedOut =>
    simp [fields, Json.ExactFields, Exact, h.1.fitsWord, h.2.fitsWord]
  case decisionTaskStarted | taskStarted | taskCompleted | taskFailed | taskTimedOut | taskCanceled
      | timerFired | timerCanceled =>
    simp [fields, Json.ExactFields, Exact, exact_ofText?, FitsId.fitsWord h]
  all_goals
    simp [fields, Json.ExactFields, Exact, exact_ofText?, exact_tags, TaskType.exact_toJson,
      WorkflowType.exact_toJson, TaskOptions.exact_toJson, WorkflowOptions.exact_toJson,
      Duration.exact_toJson]

/-- The fields of every case are read back. -/
theorem readFields_fields {a : Attributes} {room : Nat} (h : a.Legible (room + 1))
    (hother : a.isOther = false) (case : String) :
    readFields ⟨⟨room + 1, true⟩, case, .object a.fields⟩ a.type = some a := by
  cases a
  case other => cases hother
  case workflowExecutionStarted =>
    simp [-Option.bind_some, Option.bind_eq_some_iff, readFields, fields, type,
      Json.Tagged.record?, Json.Record.inside?_object, list_tags,
      WorkflowOptions.mapTimeouts_of_isWhole h]
  case taskScheduled =>
    simp [-Option.bind_some, Option.bind_eq_some_iff, readFields, fields, type,
      Json.Tagged.record?, Json.Record.inside?_object, TaskOptions.mapTimeouts_of_isWhole h]
  case decisionTaskCompleted | decisionTaskTimedOut =>
    simp [-Option.bind_some, Option.bind_eq_some_iff, readFields, fields, type,
      Json.Tagged.record?, Json.Record.inside?_object, int64_int h.1, int64_int h.2]
  case decisionTaskStarted | taskStarted | taskCompleted | taskFailed | taskTimedOut | taskCanceled
      | timerFired | timerCanceled =>
    simp [-Option.bind_some, Option.bind_eq_some_iff, readFields, fields, type,
      Json.Tagged.record?, Json.Record.inside?_object, int64_int h]
  all_goals
    simp [-Option.bind_some, Option.bind_eq_some_iff, readFields, fields, type,
      Json.Tagged.record?, Json.Record.inside?_object]

/-- Attributes that are not understood are read back with their payload, if it is in its normal
form. -/
theorem readOther_fields {type : EventType} {payload : Json} (h : payload.normal = payload)
    (s : Json.Scope) :
    readOther ⟨s, otherName, .object (fields (.other type payload))⟩
      = some (.other type payload) := by
  simp [-Option.bind_some, Option.bind_eq_some_iff, readOther, fields,
      Json.Tagged.record?, Json.Record.inside?_object, h]

/-- Attributes that are understood are written under the name of their type. -/
theorem caseName_eq {a : Attributes} (h : a.isOther = false) : a.caseName = a.type.name := by
  cases a <;> first | rfl | cases h

/-- **Attributes that are legible are read back.** -/
theorem reader_toJson {a : Attributes} {room : Nat} (h : a.Legible (room + 1)) (known : Bool) :
    reader ⟨room + 2, known⟩ a.toJson = some a := by
  rw [reader, toJson, Json.Tagged.of?_object a.fields_ne_tag (soundFields_fields h),
    Option.bind_eq_bind, Option.bind_some]
  cases hother : a.isOther with
  | true =>
      obtain ⟨type, payload, rfl⟩ : ∃ type payload, a = .other type payload := by
        cases a <;> first | exact ⟨_, _, rfl⟩ | cases hother
      exact (if_pos rfl).trans (readOther_fields h.1 _)
  | false =>
      have hname := caseName_eq hother
      have hne : a.caseName ≠ otherName := by
        rw [hname]
        exact a.type.name_ne_otherName
      dsimp only
      rw [if_neg hne, hname, EventType.ofName?_name, Option.bind_some]
      exact readFields_fields h hother _

end Attributes

/-! ### Events -/

namespace Event

/-- The event can be written and read back. -/
structure Legible (e : Event) : Prop where
  id : FitsId e.id
  timestamp : e.timestamp.Proper
  attributes : e.attributes.Legible 125

/-- What has been read can be written and read back. -/
theorem legible_of_reader {v : Json} {e : Event} (hwords : WordsFit v)
    (h : reader Json.Scope.whole v = some e) : e.Legible := by
  simp only [reader, Option.bind_eq_bind, Option.bind_eq_some_iff, Option.pure_def,
    Option.some.injEq] at h
  obtain ⟨r, hr, id, hid, timestamp, htimestamp, attributes, hattributes, rfl⟩ := h
  have hinside : Json.Record.inside? fieldNames ⟨126, false⟩ v = some r := hr
  obtain ⟨x, -, hx⟩ := Json.Record.exists_of_required htimestamp
  obtain ⟨y, hslot, hy⟩ := Json.Record.exists_of_required hattributes
  rw [Json.Record.scope_of_inside? hinside] at hy
  have hchild := Json.Record.mem_children_of_slot hinside hslot
  exact ⟨Attributes.fitsId_of_required hid, Timestamp.proper_of_reader hx,
    Attributes.legible_of_reader rfl (Json.wordsFit_of_mem_children hwords hchild) hy⟩

/-- A legible event is written as it is, unless there is a floating-point number in its payload. -/
theorem exact_toJson {e : Event} (h : e.Legible)
    (hpayload : ∀ type payload, e.attributes = .other type payload →
      ∀ d, .double d ∉ payload.leaves) : Exact e.toJson :=
  ⟨h.id.fitsWord, Timestamp.exact_toJson h.timestamp.inRange,
    Attributes.exact_toJson h.attributes hpayload, trivial⟩

/-- **Events that are legible are read back.** -/
theorem reader_toJson {e : Event} (h : e.Legible) : reader Json.Scope.whole e.toJson = some e := by
  have hinner : Json.Scope.whole.inner? = some ⟨126, false⟩ := rfl
  have htimestamp : Timestamp.reader ⟨126, false⟩ e.timestamp.toJson = some e.timestamp :=
    Timestamp.reader_toJson h.timestamp 125 false
  have hattributes : Attributes.reader ⟨126, false⟩ e.attributes.toJson = some e.attributes :=
    Attributes.reader_toJson h.attributes false
  simp [-Option.bind_some, Option.bind_eq_some_iff, reader, toJson, Json.Record.of?, hinner,
    fieldNames, Json.Record.inside?_object, Attributes.int64_int h.id, htimestamp, hattributes]

/-- Only the fields of the record count, whatever else a text says of an event. -/
theorem reader_of_filter {fields fields' : List (String × Json)} (s : Json.Scope)
    (h : fields'.filter (fun f => fieldNames.contains f.1)
      = fields.filter fun f => fieldNames.contains f.1) :
    reader s (.object fields') = reader s (.object fields) := by
  have hslots : Json.Record.slots? fields' fieldNames = Json.Record.slots? fields fieldNames :=
    Json.Record.slots?_congr fun name hname => by
      have hkeep : fieldNames.contains name = true := List.contains_iff_mem.mpr hname
      rw [← Json.field?_filter fieldNames.contains hkeep fields', h,
        Json.field?_filter fieldNames.contains hkeep fields]
  simp only [reader, Json.Record.of?, Json.Record.inside?, hslots]

/-- **What has been read is stable.**  An event that has been read from a text is read back as it is
from what it is written as, unless it carries a payload with floating-point numbers.  Its type and
its category are those of its attributes: other fields of the text do not count. -/
theorem decode_stable {text : String} {e : Event} (hread : Json.decode? reader text = some e)
    (hpayload : ∀ type payload, e.attributes = .other type payload →
      ∀ d, .double d ∉ payload.leaves) :
    Json.decode? reader e.toJson.render = some e ∧
      e.type = e.attributes.type ∧ e.category = e.attributes.type.category ∧
      ∀ fields fields', Json.parse? text = some (.object fields) →
        (fields'.filter fun f => fieldNames.contains f.1)
          = (fields.filter fun f => fieldNames.contains f.1) →
        reader Json.Scope.whole (.object fields') = some e := by
  obtain ⟨v, hv, hreads⟩ := Option.bind_eq_some_iff.mp hread
  have hlegible := legible_of_reader (Json.wordsFit_of_parse? hv) hreads
  refine ⟨?_, rfl, rfl, fun fields fields' hfields hsame => ?_⟩
  · rw [Json.decode?_render _ (exact_toJson hlegible hpayload), reader_toJson hlegible]
  · rw [hv, Option.some.injEq] at hfields
    rw [reader_of_filter _ hsame, ← hfields, hreads]

/-- An event as a text may have it: with a category of its own, its fields in no order and a payload
whose keys are not sorted. -/
def disordered : Json :=
  .object [("category", .string "Task"),
    ("attributes", .object [("payload", .object [("b", .int 1), ("a", .array [.bool true])]),
      ("event_type", .string "LambdaFunctionFailed"), ("type", .string "Other")]),
    ("timestamp", Timestamp.epoch.toJson), ("id", .int 7)]

/-- The event of `disordered` is in order and of the category of its type. -/
theorem decode_stable_disordered :
    let e : Event := ⟨7, .epoch, .other .lambdaFunctionFailed
      (.object [("a", .array [.bool true]), ("b", .int 1)])⟩
    Json.decode? reader disordered.render = some e ∧
      Json.decode? reader e.toJson.render = some e ∧ e.category = .lambda := by
  intro e
  have hone : Exact (.int 1) := ⟨by decide, by decide⟩
  have hseven : Exact (.int 7) := ⟨by decide, by decide⟩
  have hexact : Exact disordered :=
    ⟨trivial, ⟨⟨hone, ⟨trivial, trivial⟩, trivial⟩, trivial, trivial, trivial⟩,
      Timestamp.exact_toJson rfl, hseven, trivial⟩
  have hread : Json.decode? reader disordered.render = some e := by
    rw [Json.decode?_render _ hexact]
    rfl
  have hpayload : ∀ type payload, e.attributes = .other type payload →
      ∀ d, .double d ∉ payload.leaves := by
    rintro type payload heq d hd
    cases heq
    simp [Json.leaves, Json.fieldLeaves, Json.itemLeaves] at hd
  have hstable := decode_stable hread hpayload
  exact ⟨hread, hstable.1, hstable.2.2.1⟩

end Event

end DurableWorkflow
