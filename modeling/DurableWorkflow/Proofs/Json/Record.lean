import DurableWorkflow.Json.Decode
import DurableWorkflow.Proofs.Json.Scan

/-!
# Reading records that have been written

A record is written with its fields under their names, and some of them are left out.  The lemmas
here say what a typed reader finds in what has been written, field by field.

## Main Statements

* `Reader.each_map`: reading a list item by item.
* `field?_field_append`, `field?_field_append_of_ne`: looking for a field among fields that may have
  been left out.
* `Record.inside?_object`: the record of an object with all its fields in order.
* `Record.omissible_of_slot`: reading a field that has been left out if it is absent.
* `Tagged.of?_object`: finding the case that has been written.
-/

namespace DurableWorkflow.Json

/-- A natural number below the size of a word fits it. -/
theorem fitsWord_natCast {n : Nat} (h : n < UInt64.size) : FitsWord n :=
  ⟨Int.le_trans (by decide) (Int.natCast_nonneg n), Int.ofNat_lt.mpr h⟩

/-! ### Single values -/

@[simp]
theorem sound_string (room : Nat) (text : String) : (string text).sound room = true := by
  simp [sound]

@[simp]
theorem sound_int (room : Nat) (n : Int) : (int n).sound room = true := by
  simp [sound]

@[simp]
theorem sound_ofText? (room : Nat) (text : Option String) : (ofText? text).sound room = true := by
  cases text <;> simp [ofText?, ofOption, sound]

@[simp]
theorem Scope.inner?_succ (room : Nat) (known : Bool) :
    (⟨room + 1, known⟩ : Scope).inner? = some ⟨room, known⟩ := rfl

namespace Reader

@[simp]
theorem string_string (s : Scope) (text : String) : string s (.string text) = some text := rfl

/-- An optional text is read back. -/
@[simp]
theorem option_ofText? (s : Scope) (text : Option String) :
    option string s (ofText? text) = some text := by
  cases text <;> rfl

/-- A natural number is read back if it is below the bound. -/
theorem natBelow_natCast {bound n : Nat} (h : n < bound) (s : Scope) :
    natBelow bound s (.int n) = some n := by
  rw [natBelow, if_pos ⟨Int.natCast_nonneg n, Int.ofNat_lt.mpr h⟩, Int.toNat_natCast]

/-- An integer is read back within the bounds. -/
theorem intBetween_int {low high n : Int} (h : low ≤ n ∧ n ≤ high) (s : Scope) :
    intBetween low high s (.int n) = some n := if_pos h

/-- What is read is within the bounds. -/
theorem intBetween_bounds {low high n : Int} {s : Scope} {v : Json}
    (h : intBetween low high s v = some n) : low ≤ n ∧ n ≤ high := by
  unfold intBetween at h
  split at h
  · split at h
    · next hbounds => exact Option.some.inj h ▸ hbounds
    · cases h
  · cases h

variable {α β : Type} {r : Reader β} {s : Scope} {write : α → Json} {f : α → β}

/-- A list is read item by item. -/
theorem each_map {xs : List α} (h : ∀ x ∈ xs, r s (write x) = some (f x)) :
    each r s (xs.map write) = some (xs.map f) := by
  induction xs with
  | nil => rfl
  | cons x xs ih =>
      obtain ⟨hx, hxs⟩ := List.forall_mem_cons.mp h
      simp [each, hx, ih hxs]

/-- A value other than `null` is not absent. -/
theorem option_of_ne {v : Json} (hv : v ≠ .null) : option r s v = (r s v).map some := by
  cases v <;> first | rfl | exact absurd rfl hv

end Reader

/-! ### Fields that are left out -/

section Fields

variable {α : Type} {name : String} {write : α → Json} {x : Option α}
  {rest : List (String × Json)}

/-- A field that none of the fields is. -/
theorem field?_of_ne {fields : List (String × Json)} (h : ∀ f ∈ fields, f.1 ≠ name) :
    field? name fields = some none := by
  induction fields with
  | nil => rfl
  | cons f fields ih =>
      obtain ⟨hf, hfields⟩ := List.forall_mem_cons.mp h
      rw [field?, if_neg hf, ih hfields]

/-- A field that is there once is found. -/
theorem field?_of_mem {fields : List (String × Json)} {f : String × Json} (h : f ∈ fields)
    (hnodup : (fields.map (·.1)).Nodup) : field? f.1 fields = some (some f.2) := by
  induction fields with
  | nil => cases h
  | cons g fields ih =>
      obtain ⟨hg, hfields⟩ := List.nodup_cons.mp hnodup
      rw [List.mem_map] at hg
      rcases List.mem_cons.mp h with rfl | hmem
      · have hnone := field?_of_ne fun x hx heq => hg ⟨x, hx, heq⟩
        simp [field?, hnone]
      · have hne : g.1 ≠ f.1 := fun heq => hg ⟨f, hmem, heq.symm⟩
        simp [field?, hne, ih hmem hfields]

/-- A field is found where it has been written, unless it has been left out. -/
theorem field?_field_append (h : field? name rest = some none) :
    field? name (field name write x ++ rest) = some (x.map write) := by
  cases x with
  | none => exact h
  | some x => simp [field, field?, h]

/-- A field of another name, which may be left out, is passed over. -/
theorem field?_field_append_of_ne {other : String} (h : other ≠ name) :
    field? name (field other write x ++ rest) = field? name rest := by
  cases x with
  | none => rfl
  | some x => simp [field, field?, h]

/-- A field that may be left out is found as it was written, if it was. -/
theorem field?_field : field? name (field name write x) = some (x.map write) := by
  rw [← List.append_nil (field name write x)]
  exact field?_field_append rfl

theorem field?_field_of_ne {other : String} (h : other ≠ name) :
    field? name (field other write x) = some none := by
  rw [← List.append_nil (field other write x)]
  exact field?_field_append_of_ne h

/-- Fields are written as they are if those before and those behind are. -/
theorem exactFields_append {fields : List (String × Json)} :
    ExactFields (fields ++ rest) ↔ ExactFields fields ∧ ExactFields rest := by
  induction fields with
  | nil => simp [ExactFields]
  | cons f fields ih => simp [ExactFields, ih, and_assoc]

/-- A field that may be left out is written as it is. -/
theorem exactFields_field (h : ∀ y, Exact (write y)) : ExactFields (field name write x) := by
  cases x with
  | none => trivial
  | some y => exact ⟨h y, trivial⟩

theorem soundFields_append (room : Nat) {fields : List (String × Json)} :
    soundFields room (fields ++ rest) = (soundFields room fields && soundFields room rest) := by
  induction fields with
  | nil => rfl
  | cons f fields ih => simp [soundFields, ih, Bool.and_assoc]

/-- A field that may be left out nests no deeper than what it holds. -/
theorem soundFields_field {room : Nat} (h : ∀ y, (write y).sound room = true) :
    soundFields room (field name write x) = true := by
  cases x with
  | none => rfl
  | some y => simp [field, soundFields, h]

end Fields

namespace Record

variable {α β : Type} {r : Record} {name : String} {reader : Reader β} {write : α → Json}
  {x : Option α} {f : α → β}

/-- Fields that are all there fill all slots. -/
theorem slots?_of_mem {fields found : List (String × Json)}
    (h : ∀ f ∈ found, field? f.1 fields = some (some f.2)) :
    slots? fields (found.map (·.1)) = some (found.map fun f => (f.1, some f.2)) := by
  induction found with
  | nil => rfl
  | cons f found ih =>
      obtain ⟨hf, hfound⟩ := List.forall_mem_cons.mp h
      simp [slots?, hf, ih hfound]

/-- Where the fields are those of a record in order, each of them is found. -/
theorem inside?_object {fields : List (String × Json)} {names : List String} (s : Scope)
    (hnames : fields.map (·.1) = names) (hnodup : names.Nodup) :
    inside? names s (.object fields) = some ⟨s, true, fields.map fun f => (f.1, some f.2)⟩ := by
  subst hnames
  rw [inside?, slots?_of_mem fun f hf => field?_of_mem hf hnodup, Option.map_some]

section Slots

variable {s : Scope} {named : Bool} {slots : List (String × Option Json)} {v : Json}

@[simp]
theorem slot_cons_self {x : Option Json} : slot ⟨s, named, (name, x) :: slots⟩ name = x := by
  simp [slot]

@[simp]
theorem slot_cons_of_ne {x : Option Json} {other : String} (h : other ≠ name) :
    slot ⟨s, named, (other, x) :: slots⟩ name = slot ⟨s, named, slots⟩ name := by
  simp [slot, h]

/-- What is required is read from its slot. -/
@[simp]
theorem required_cons_self :
    required ⟨s, named, (name, some v) :: slots⟩ name reader = reader s v := by
  rw [required, slot_cons_self, Option.bind_some]

@[simp]
theorem required_cons_of_ne {x : Option Json} {other : String} (h : other ≠ name) :
    required ⟨s, named, (other, x) :: slots⟩ name reader
      = required ⟨s, named, slots⟩ name reader := by
  rw [required, slot_cons_of_ne h, required]

/-- What may be absent is read from its slot, if it is there. -/
@[simp]
theorem optional_cons_self :
    optional ⟨s, named, (name, some v) :: slots⟩ name reader = reader.option s v := by
  rw [optional, slot_cons_self]

@[simp]
theorem optional_cons_of_ne {x : Option Json} {other : String} (h : other ≠ name) :
    optional ⟨s, named, (other, x) :: slots⟩ name reader
      = optional ⟨s, named, slots⟩ name reader := by
  rw [optional, slot_cons_of_ne h, optional]

/-- What has a default is read from its slot, if it is there. -/
@[simp]
theorem defaulted_cons_self {y : β} :
    defaulted ⟨s, named, (name, some v) :: slots⟩ name reader y = reader s v := by
  rw [defaulted, slot_cons_self]

@[simp]
theorem defaulted_cons_of_ne {x : Option Json} {y : β} {other : String} (h : other ≠ name) :
    defaulted ⟨s, named, (other, x) :: slots⟩ name reader y
      = defaulted ⟨s, named, slots⟩ name reader y := by
  rw [defaulted, slot_cons_of_ne h, defaulted]

end Slots

/-- A field that has been left out if it is absent. -/
theorem omissible_of_slot (hslot : r.slot name = x.map write) (hwrite : ∀ y, write y ≠ .null)
    (hread : ∀ y, reader r.scope (write y) = some (f y)) :
    r.omissible name reader = some (x.map f) := by
  rw [omissible, defaulted, hslot]
  cases x with
  | none => rfl
  | some y => exact (Reader.option_of_ne (hwrite y)).trans (congrArg (Option.map some) (hread y))

/-- A text that may be left out is read back from its slot. -/
theorem omissible_string {text : Option String} (h : r.slot name = text.map .string) :
    r.omissible name Reader.string = some text :=
  (omissible_of_slot h (fun _ => Json.noConfusion) fun _ => rfl).trans
    (congrArg some Option.map_id')

/-- What is read of an optional field has been read by the reader of the field. -/
theorem reads_of_omissible {y : β} (h : r.omissible name reader = some (some y)) :
    ∃ v, reader r.scope v = some y := by
  rw [omissible, defaulted] at h
  split at h
  · next v hslot =>
    refine ⟨v, ?_⟩
    cases v <;> simp_all [Reader.option]
  · cases h

end Record

namespace Tagged

/-- Where no other field has the name of the tag, the case is found and its fields are what
is beside it. -/
theorem of?_object {tag case : String} {fields : List (String × Json)} {room : Nat}
    (htag : ∀ f ∈ fields, f.1 ≠ tag) (hsound : soundFields room fields = true) (known : Bool) :
    of? tag ⟨room + 1, known⟩ (.object ((tag, .string case) :: fields))
      = some ⟨⟨room, true⟩, case, .object fields⟩ := by
  have hwhole : (object ((tag, string case) :: fields)).sound (room + 1) = true := by
    rw [Json.sound, soundFields, hsound, Json.sound, Bool.and_self]
  have hfilter : ((tag, string case) :: fields).filter (fun f => decide (f.1 ≠ tag)) = fields := by
    simpa using htag
  rw [of?, if_pos hwhole, Scope.inner?_succ, Option.bind_some]
  simp only [field?_of_ne htag, field?, if_true, hfilter]

end Tagged

end DurableWorkflow.Json
