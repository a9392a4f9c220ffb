import DurableWorkflow.Proofs.Json.Normal
import DurableWorkflow.Proofs.Json.Record

/-!
# What is found in a value is part of it

A reader of records or of tagged values finds items of an array or values of fields, and what is
known of the whole value is known of them.

## Main Definitions

* `Json.children`: the items of an array, or the values of the fields of an object.

## Main Statements

* `sound_of_mem_children`, `wordsFit_of_mem_children`: what is known of a value and its children.
* `Record.mem_children_of_slot`: what is found in a record.
* `Tagged.spec_of_of?`: what a tagged value is.
-/

namespace DurableWorkflow.Json


/-- The items of an array, or the values of the fields of an object. -/
def children : Json → List Json
  | .array items => items
  | .object fields => fields.map (·.2)
  | _ => []

/-- What a value holds nests less deep than the value. -/
theorem sound_of_mem_children {room : Nat} {v x : Json} (h : v.sound (room + 1) = true)
    (hx : x ∈ v.children) : x.sound room = true := by
  cases v with
  | array items =>
      rw [sound] at h
      exact soundItems_iff.mp h x hx
  | object fields =>
      obtain ⟨f, hf, rfl⟩ := List.mem_map.mp hx
      rw [sound] at h
      exact soundFields_iff.mp h f hf
  | null | bool | int | double | string | broken => cases hx

/-- The numbers of what a value holds are numbers of the value. -/
theorem wordsFit_of_mem_children {v x : Json} (h : WordsFit v) (hx : x ∈ v.children) :
    WordsFit x := by
  cases v with
  | array items => exact wordsFit_array.mp h x hx
  | object fields =>
      obtain ⟨f, hf, rfl⟩ := List.mem_map.mp hx
      exact wordsFit_object.mp h f hf
  | null | bool | int | double | string | broken => cases hx

theorem mem_of_field? {name : String} {fields : List (String × Json)} {v : Json}
    (h : field? name fields = some (some v)) : v ∈ fields.map (·.2) := by
  induction fields with
  | nil => cases h
  | cons f fields ih =>
      rw [field?] at h
      split at h
      · split at h
        · cases h
          exact List.mem_cons_self
        · cases h
      · exact List.mem_cons_of_mem _ (ih h)

/-- Other fields than those looked for do not count. -/
theorem field?_filter (keep : String → Bool) {name : String} (h : keep name = true)
    (fields : List (String × Json)) :
    field? name (fields.filter fun f => keep f.1) = field? name fields := by
  induction fields with
  | nil => rfl
  | cons f fields ih =>
      by_cases hf : f.1 = name
      · subst hf
        rw [List.filter_cons, if_pos h, field?, field?, ih]
      · by_cases hkeep : keep f.1 = true
        · simp [field?, hkeep, hf, ih]
        · simp [field?, hkeep, hf, ih]

namespace Record

variable {names : List String} {name : String} {s : Scope} {v x : Json} {r : Record}

/-- What is found in a slot is one of the fields. -/
theorem mem_of_slots? {fields : List (String × Json)} {slots : List (String × Option Json)}
    (h : slots? fields names = some slots) (hx : (name, some x) ∈ slots) :
    x ∈ fields.map (·.2) := by
  induction names generalizing slots with
  | nil =>
      cases h
      cases hx
  | cons first names ih =>
      simp only [slots?, Option.bind_eq_bind, Option.bind_eq_some_iff] at h
      obtain ⟨slot, hslot, rest, hrest, hslots⟩ := h
      cases hslots
      rcases List.mem_cons.mp hx with heq | hmem
      · cases heq
        exact mem_of_field? hslot
      · exact ih hrest hmem

/-- Records that agree on the fields that are looked for have the same slots. -/
theorem slots?_congr {fields fields' : List (String × Json)}
    (h : ∀ name ∈ names, field? name fields = field? name fields') :
    slots? fields names = slots? fields' names := by
  induction names with
  | nil => rfl
  | cons name names ih =>
      obtain ⟨hname, hnames⟩ := List.forall_mem_cons.mp h
      rw [slots?, slots?, hname, ih hnames]

theorem mem_of_fill {items : List Json} (hx : (name, some x) ∈ fill names items) : x ∈ items := by
  induction names generalizing items with
  | nil => cases hx
  | cons first names ih =>
      cases items with
      | nil =>
          rcases List.mem_cons.mp hx with heq | hmem
          · cases heq
          · exact ih hmem
      | cons v items =>
          rcases List.mem_cons.mp hx with heq | hmem
          · cases heq
            exact List.mem_cons_self
          · exact List.mem_cons_of_mem _ (ih hmem)

theorem mem_of_slot (h : r.slot name = some x) : ∃ key, (key, some x) ∈ r.slots := by
  rw [slot] at h
  split at h
  · next key y hfound =>
    cases h
    exact ⟨key, List.mem_of_find?_eq_some hfound⟩
  · cases h

/-- Whatever is found in a record is part of the value. -/
theorem mem_children_of_slot (h : inside? names s v = some r) (hx : r.slot name = some x) :
    x ∈ v.children := by
  obtain ⟨key, hkey⟩ := mem_of_slot hx
  cases v with
  | object fields =>
      obtain ⟨slots, hslots, rfl⟩ := Option.map_eq_some_iff.mp h
      exact mem_of_slots? hslots hkey
  | array items =>
      rw [inside?] at h
      split at h
      · cases h
        exact mem_of_fill hkey
      · cases h
  | null | bool | int | double | string | broken => cases h

theorem scope_of_inside? (h : inside? names s v = some r) : r.scope = s := by
  cases v with
  | object fields =>
      obtain ⟨slots, -, rfl⟩ := Option.map_eq_some_iff.mp h
      rfl
  | array items =>
      rw [inside?] at h
      split at h
      · cases h
        rfl
      · cases h
  | null | bool | int | double | string | broken => cases h

/-- A field that had to be there is there. -/
theorem exists_of_required {α : Type} {reader : Reader α} {y : α}
    (h : r.required name reader = some y) :
    ∃ x, r.slot name = some x ∧ reader r.scope x = some y :=
  Option.bind_eq_some_iff.mp h

/-- A field with a default has the default or has been read. -/
theorem read_of_defaulted {α : Type} {reader : Reader α} {y default : α}
    (h : r.defaulted name reader default = some y) :
    y = default ∨ ∃ x, r.slot name = some x ∧ reader r.scope x = some y := by
  rw [defaulted] at h
  split at h
  · next x hslot => exact .inr ⟨x, hslot, h⟩
  · exact .inl (Option.some.inj h).symm

end Record

namespace Tagged

/-- A tagged value has been looked into, and its fields are parts of it. -/
theorem spec_of_of? {tag : String} {s : Scope} {v : Json} {t : Tagged} (h : of? tag s v = some t) :
    v.sound s.room = true ∧ (∃ room, s.room = room + 1 ∧ t.scope = ⟨room, true⟩) ∧
      ∀ x ∈ t.content.children, x ∈ v.children := by
  obtain ⟨room, known⟩ := s
  rw [of?] at h
  split at h
  · next hsound =>
    cases room with
    | zero => cases h
    | succ room =>
        rw [Scope.inner?_succ, Option.bind_some] at h
        refine ⟨hsound, ?_⟩
        dsimp only at h
        split at h
        · split at h
          · cases h
            refine ⟨⟨room, rfl, rfl⟩, fun x hx => ?_⟩
            obtain ⟨f, hf, rfl⟩ := List.mem_map.mp hx
            exact List.mem_map_of_mem (List.mem_filter.mp hf).1
          · cases h
        · cases h
          exact ⟨⟨room, rfl, rfl⟩, fun x hx => List.mem_cons_of_mem _ hx⟩
        · cases h
  · cases h

end Tagged

end DurableWorkflow.Json
