import Mathlib.Data.String.Basic
import DurableWorkflow.Proofs.Json.Leaves

/-!
# Normal forms

A value with sorted objects stays as it is when it is normalized again, and normalizing takes
nothing into a value that was not there.

## Main Definitions

* `Json.Ordered`: the keys of every object ascend strictly.

## Main Statements

* `normal_normal`: normalizing twice is normalizing once.
* `leaves_normal`, `sound_normal`: leaves and nesting after normalizing.
-/

namespace DurableWorkflow.Json

/-! ### Sorted fields -/

/-- The keys ascend strictly. -/
def Ascending (fields : List (String × Json)) : Prop := fields.Pairwise (·.1 < ·.1)

/-- Putting a field in its place brings in nothing else. -/
theorem mem_putSorted {key : String} {value : Json} {f : String × Json}
    {fields : List (String × Json)} (h : f ∈ putSorted key value fields) :
    f = (key, value) ∨ f ∈ fields := by
  induction fields with
  | nil => exact .inl (List.mem_singleton.mp h)
  | cons g rest ih =>
      obtain ⟨k, v⟩ := g
      rw [putSorted] at h
      split at h
      · exact List.mem_cons.mp h
      · split at h
        · exact (List.mem_cons.mp h).imp_right (List.mem_cons_of_mem _)
        · rcases List.mem_cons.mp h with rfl | h
          · exact .inr List.mem_cons_self
          · exact (ih h).imp_right (List.mem_cons_of_mem _)

/-- A field that is put in its place leaves the keys ascending. -/
theorem ascending_putSorted (key : String) (value : Json) {fields : List (String × Json)}
    (h : Ascending fields) : Ascending (putSorted key value fields) := by
  induction fields with
  | nil => exact List.pairwise_singleton _ _
  | cons f rest ih =>
      obtain ⟨k, v⟩ := f
      obtain ⟨hk, hrest⟩ := List.pairwise_cons.mp h
      rw [putSorted]
      split
      · next hlt => exact List.pairwise_cons.mpr ⟨List.forall_mem_cons.mpr
          ⟨hlt, fun g hg => hlt.trans (hk g hg)⟩, h⟩
      · next hlt =>
          split
          · next heq =>
              subst heq
              exact List.pairwise_cons.mpr ⟨hk, hrest⟩
          · next hne =>
              refine List.pairwise_cons.mpr ⟨fun g hg => ?_, ih hrest⟩
              rcases mem_putSorted hg with rfl | hg
              · exact lt_of_le_of_ne (not_lt.mp hlt) (Ne.symm hne)
              · exact hk g hg

/-- A key above all others comes last. -/
theorem putSorted_eq_append {key : String} {fields : List (String × Json)}
    (h : ∀ f ∈ fields, f.1 < key) (value : Json) :
    putSorted key value fields = fields ++ [(key, value)] := by
  induction fields with
  | nil => rfl
  | cons f rest ih =>
      obtain ⟨k, v⟩ := f
      obtain ⟨hk, hrest⟩ := List.forall_mem_cons.mp h
      rw [putSorted, if_neg hk.le.not_gt, if_neg (Ne.symm hk.ne), ih hrest, List.cons_append]

/-- Sorting brings in nothing. -/
theorem mem_sortFields {f : String × Json} {fields : List (String × Json)}
    (h : f ∈ sortFields fields) : f ∈ fields := by
  have hfold : ∀ (fields sorted : List (String × Json)),
      f ∈ fields.foldl (fun sorted field => putSorted field.1 field.2 sorted) sorted →
        f ∈ sorted ∨ f ∈ fields := by
    intro fields
    induction fields with
    | nil => exact fun sorted h => .inl h
    | cons g rest ih =>
        intro sorted h
        rcases ih _ h with h | h
        · rcases mem_putSorted h with rfl | h
          · exact .inr List.mem_cons_self
          · exact .inl h
        · exact .inr (List.mem_cons_of_mem _ h)
  exact (hfold fields [] h).resolve_left List.not_mem_nil

/-- Sorted keys are ascending. -/
theorem ascending_sortFields (fields : List (String × Json)) : Ascending (sortFields fields) := by
  have hfold : ∀ (fields sorted : List (String × Json)), Ascending sorted →
      Ascending (fields.foldl (fun sorted field => putSorted field.1 field.2 sorted) sorted) := by
    intro fields
    induction fields with
    | nil => exact fun sorted h => h
    | cons g rest ih => exact fun sorted h => ih _ (ascending_putSorted _ _ h)
  exact hfold fields [] List.Pairwise.nil

/-- Sorted fields stay as they are. -/
theorem sortFields_of_ascending {fields : List (String × Json)} (h : Ascending fields) :
    sortFields fields = fields := by
  have hfold : ∀ (fields sorted : List (String × Json)), Ascending (sorted ++ fields) →
      fields.foldl (fun sorted field => putSorted field.1 field.2 sorted) sorted
        = sorted ++ fields := by
    intro fields
    induction fields with
    | nil => exact fun sorted _ => (List.append_nil sorted).symm
    | cons g rest ih =>
        intro sorted h
        have hlast : ∀ f ∈ sorted, f.1 < g.1 := fun f hf =>
          (List.pairwise_append.mp h).2.2 f hf g List.mem_cons_self
        rw [List.foldl_cons, putSorted_eq_append hlast, ih _ (by simpa using h)]
        simp
  exact hfold fields [] h

/-! ### Ordered values -/

mutual

/-- The keys of every object ascend strictly. -/
def Ordered : Json → Prop
  | .array items => OrderedItems items
  | .object fields => Ascending fields ∧ OrderedFields fields
  | _ => True

/-- `Ordered` of every item. -/
def OrderedItems : List Json → Prop
  | [] => True
  | x :: rest => Ordered x ∧ OrderedItems rest

/-- `Ordered` of every field's value. -/
def OrderedFields : List (String × Json) → Prop
  | [] => True
  | (_, x) :: rest => Ordered x ∧ OrderedFields rest

end

theorem orderedFields_iff {fields : List (String × Json)} :
    OrderedFields fields ↔ ∀ f ∈ fields, Ordered f.2 := by
  induction fields with
  | nil => simp [OrderedFields]
  | cons f rest ih =>
      obtain ⟨k, v⟩ := f
      simp [OrderedFields, ih]

mutual

/-- Normalizing orders a value. -/
theorem ordered_normal : ∀ v : Json, Ordered v.normal
  | .array items => orderedItems_normal items
  | .object fields => by
      have hfields := orderedFields_iff.mp (orderedFields_normal fields)
      exact ⟨ascending_sortFields _, orderedFields_iff.mpr fun f hf =>
        hfields f (mem_sortFields hf)⟩
  | .null | .bool _ | .int _ | .double _ | .string _ | .broken => trivial

/-- The items of a list are in order once they are in normal form. -/
theorem orderedItems_normal : ∀ items : List Json, OrderedItems (normalItems items)
  | [] => trivial
  | v :: rest => ⟨ordered_normal v, orderedItems_normal rest⟩

/-- The fields of a record are in order once they are in normal form. -/
theorem orderedFields_normal :
    ∀ fields : List (String × Json), OrderedFields (normalFields fields)
  | [] => trivial
  | (_, v) :: rest => ⟨ordered_normal v, orderedFields_normal rest⟩

end

mutual

/-- An ordered value is in normal form. -/
theorem normal_of_ordered : ∀ v : Json, Ordered v → v.normal = v
  | .array items, h => congrArg Json.array (normalItems_of_ordered items h)
  | .object fields, h => by
      rw [normal, normalFields_of_ordered fields h.2, sortFields_of_ascending h.1]
  | .null, _ | .bool _, _ | .int _, _ | .double _, _ | .string _, _ | .broken, _ => rfl

theorem normalItems_of_ordered :
    ∀ items : List Json, OrderedItems items → normalItems items = items
  | [], _ => rfl
  | v :: rest, h => by
      rw [normalItems, normal_of_ordered v h.1, normalItems_of_ordered rest h.2]

theorem normalFields_of_ordered :
    ∀ fields : List (String × Json), OrderedFields fields → normalFields fields = fields
  | [], _ => rfl
  | (k, v) :: rest, h => by
      rw [normalFields, normal_of_ordered v h.1, normalFields_of_ordered rest h.2]

end

/-- **Normalizing twice is normalizing once.** -/
theorem normal_normal (v : Json) : v.normal.normal = v.normal :=
  normal_of_ordered _ (ordered_normal v)

/-! ### What normalizing keeps -/

mutual

/-- A leaf of the normal form is a leaf of the value. -/
theorem leaves_normal : ∀ v : Json, ∀ x ∈ v.normal.leaves, x ∈ v.leaves
  | .array items => itemLeaves_normal items
  | .object fields => fun x h => by
      obtain ⟨f, hf, hx⟩ := mem_fieldLeaves.mp h
      exact fieldLeaves_normal fields x (mem_fieldLeaves.mpr ⟨f, mem_sortFields hf, hx⟩)
  | .null | .bool _ | .int _ | .double _ | .string _ | .broken => fun _ h => h

/-- The normal form of items has no leaves that the items do not have. -/
theorem itemLeaves_normal :
    ∀ items : List Json, ∀ x ∈ itemLeaves (normalItems items), x ∈ itemLeaves items
  | [] => fun _ h => h
  | v :: rest => fun x h => List.mem_append.mpr
      ((List.mem_append.mp h).imp (leaves_normal v x) (itemLeaves_normal rest x))

/-- The normal form of fields has no leaves that the fields do not have. -/
theorem fieldLeaves_normal :
    ∀ fields : List (String × Json), ∀ x ∈ fieldLeaves (normalFields fields), x ∈ fieldLeaves fields
  | [] => fun _ h => h
  | (_, v) :: rest => fun x h => List.mem_append.mpr
      ((List.mem_append.mp h).imp (leaves_normal v x) (fieldLeaves_normal rest x))

end

/-- Items nest as deep as the deepest of them. -/
theorem soundItems_iff {room : Nat} {items : List Json} :
    soundItems room items = true ↔ ∀ v ∈ items, v.sound room = true := by
  induction items with
  | nil => simp [soundItems]
  | cons v rest ih => simp [soundItems, ih]

/-- Fields nest as deep as the deepest of them. -/
theorem soundFields_iff {room : Nat} {fields : List (String × Json)} :
    soundFields room fields = true ↔ ∀ f ∈ fields, f.2.sound room = true := by
  induction fields with
  | nil => simp [soundFields]
  | cons f rest ih =>
      obtain ⟨k, v⟩ := f
      simp [soundFields, ih]

mutual

/-- Normalizing keeps a value within its room. -/
theorem sound_normal : ∀ (v : Json) (room : Nat), v.sound room = true → v.normal.sound room = true
  | .array items, room + 1, h => soundItems_normal items room h
  | .object fields, room + 1, h =>
      have hfields := soundFields_iff.mp (soundFields_normal fields room h)
      soundFields_iff.mpr fun f hf => hfields f (mem_sortFields hf)
  | .null, _, h | .bool _, _, h | .int _, _, h | .double _, _, h | .string _, _, h => h

theorem soundItems_normal : ∀ (items : List Json) (room : Nat),
    soundItems room items = true → soundItems room (normalItems items) = true
  | [], _, h => h
  | v :: rest, room, h => by
      rw [soundItems, Bool.and_eq_true] at h
      rw [normalItems, soundItems, sound_normal v room h.1, soundItems_normal rest room h.2]
      rfl

theorem soundFields_normal : ∀ (fields : List (String × Json)) (room : Nat),
    soundFields room fields = true → soundFields room (normalFields fields) = true
  | [], _, h => h
  | (_, v) :: rest, room, h => by
      rw [soundFields, Bool.and_eq_true] at h
      rw [normalFields, soundFields, sound_normal v room h.1, soundFields_normal rest room h.2]
      rfl

end

mutual

/-- A sound value has no broken part. -/
theorem broken_notMem_leaves : ∀ (v : Json) (room : Nat), v.sound room = true → .broken ∉ v.leaves
  | .array items, room + 1, h => broken_notMem_itemLeaves items room h
  | .object fields, room + 1, h => broken_notMem_fieldLeaves fields room h
  | .null, _, _ | .bool _, _, _ | .int _, _, _ | .double _, _, _ | .string _, _, _ => by
      simp [leaves]

theorem broken_notMem_itemLeaves : ∀ (items : List Json) (room : Nat),
    soundItems room items = true → .broken ∉ itemLeaves items
  | [], _, _ => List.not_mem_nil
  | v :: rest, room, h => by
      rw [soundItems, Bool.and_eq_true] at h
      rw [itemLeaves, List.mem_append, not_or]
      exact ⟨broken_notMem_leaves v room h.1, broken_notMem_itemLeaves rest room h.2⟩

theorem broken_notMem_fieldLeaves : ∀ (fields : List (String × Json)) (room : Nat),
    soundFields room fields = true → .broken ∉ fieldLeaves fields
  | [], _, _ => List.not_mem_nil
  | (_, v) :: rest, room, h => by
      rw [soundFields, Bool.and_eq_true] at h
      rw [fieldLeaves, List.mem_append, not_or]
      exact ⟨broken_notMem_leaves v room h.1, broken_notMem_fieldLeaves rest room h.2⟩

end

end DurableWorkflow.Json
