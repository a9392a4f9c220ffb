import DurableWorkflow.Json.Double

/-!
# JSON values

The value of a JSON text, kept close enough to the text that a reader can still tell a repeated
field or the order of fields.

## Main Definitions

* `Json`: a value.
* `Json.sound`: every part denotes a value and nesting stays within a bound.
* `Json.normal`: objects sorted by key, the last of several equal keys winning.

## Design Notes

A string with a lone surrogate, an object with such a key and a number beyond the range of a double
are well formed but denote nothing.  They are read as `broken`, so that a reader may still skip them
where it skips fields it does not know.
-/

namespace DurableWorkflow

/-- A JSON value.  Fields keep their order and may repeat. -/
inductive Json where
  | null
  | bool (value : Bool)
  | int (value : Int)
  | double (value : Json.Double)
  | string (value : String)
  | array (items : List Json)
  | object (fields : List (String × Json))
  | broken
  deriving Inhabited

namespace Json

/-- How deeply containers may nest where a value is used rather than skipped. -/
def maxDepth : Nat := 127

mutual

/-- No part is broken and containers nest at most `room` deep. -/
def sound (room : Nat) : Json → Bool
  | .null | .bool _ | .int _ | .double _ | .string _ => true
  | .broken => false
  | .array items =>
    match room with
    | 0 => false
    | room + 1 => soundItems room items
  | .object fields =>
    match room with
    | 0 => false
    | room + 1 => soundFields room fields

/-- `sound` of every item. -/
def soundItems (room : Nat) : List Json → Bool
  | [] => true
  | x :: rest => sound room x && soundItems room rest

/-- `sound` of every field's value. -/
def soundFields (room : Nat) : List (String × Json) → Bool
  | [] => true
  | (_, x) :: rest => sound room x && soundFields room rest

end

/-- Puts a field into a list sorted by key, replacing an equal key. -/
def putSorted (key : String) (value : Json) : List (String × Json) → List (String × Json)
  | [] => [(key, value)]
  | (k, v) :: rest =>
    if key < k then (key, value) :: (k, v) :: rest
    else if key = k then (key, value) :: rest
    else (k, v) :: putSorted key value rest

/-- The fields sorted by key; of equal keys the last one stays. -/
def sortFields (fields : List (String × Json)) : List (String × Json) :=
  fields.foldl (fun sorted field => putSorted field.1 field.2 sorted) []

mutual

/-- The value with the fields of every object sorted by key, each key once. -/
def normal : Json → Json
  | .array items => .array (normalItems items)
  | .object fields => .object (sortFields (normalFields fields))
  | other => other

/-- `normal` of every item. -/
def normalItems : List Json → List Json
  | [] => []
  | x :: rest => normal x :: normalItems rest

/-- `normal` of every field's value. -/
def normalFields : List (String × Json) → List (String × Json)
  | [] => []
  | (k, x) :: rest => (k, normal x) :: normalFields rest

end

mutual

/-- Decidable equality of values. -/
def same : Json → Json → Bool
  | .null, .null => true
  | .bool a, .bool b => a = b
  | .int a, .int b => a = b
  | .double a, .double b => a = b
  | .string a, .string b => a = b
  | .array as, .array bs => sameItems as bs
  | .object as, .object bs => sameFields as bs
  | .broken, .broken => true
  | _, _ => false

/-- `same` item by item. -/
def sameItems : List Json → List Json → Bool
  | [], [] => true
  | a :: as, b :: bs => same a b && sameItems as bs
  | _, _ => false

/-- `same` field by field, keys included. -/
def sameFields : List (String × Json) → List (String × Json) → Bool
  | [], [] => true
  | (k, a) :: as, (l, b) :: bs => decide (k = l) && same a b && sameFields as bs
  | _, _ => false

end

mutual

/-- Values that are compared as the same are equal, part by part. -/
theorem eq_of_same : ∀ a b : Json, same a b = true → a = b
  | .null, b, h => by cases b <;> simp_all [same]
  | .bool _, b, h => by cases b <;> simp_all [same]
  | .int _, b, h => by cases b <;> simp_all [same]
  | .double _, b, h => by cases b <;> simp_all [same]
  | .string _, b, h => by cases b <;> simp_all [same]
  | .array as, b, h => by
    cases b <;> simp only [same, Bool.false_eq_true] at h
    rw [eq_of_sameItems as _ h]
  | .object as, b, h => by
    cases b <;> simp only [same, Bool.false_eq_true] at h
    rw [eq_of_sameFields as _ h]
  | .broken, b, h => by cases b <;> simp_all [same]

theorem eq_of_sameItems : ∀ as bs : List Json, sameItems as bs = true → as = bs
  | [], bs, h => by cases bs <;> simp_all [sameItems]
  | a :: as, bs, h => by
    cases bs with
    | nil => simp [sameItems] at h
    | cons b bs =>
      simp only [sameItems, Bool.and_eq_true] at h
      rw [eq_of_same a b h.1, eq_of_sameItems as bs h.2]

theorem eq_of_sameFields : ∀ as bs : List (String × Json), sameFields as bs = true → as = bs
  | [], bs, h => by cases bs <;> simp_all [sameFields]
  | (k, a) :: as, bs, h => by
    cases bs with
    | nil => simp [sameFields] at h
    | cons b bs =>
      obtain ⟨l, b⟩ := b
      simp only [sameFields, Bool.and_eq_true, decide_eq_true_eq] at h
      rw [h.1.1, eq_of_same a b h.1.2, eq_of_sameFields as bs h.2]

end

mutual

/-- Every value is compared as the same as itself. -/
theorem same_self : ∀ a : Json, same a a = true
  | .null | .bool _ | .int _ | .double _ | .string _ | .broken => by simp [same]
  | .array as => by simp [same, sameItems_self as]
  | .object as => by simp [same, sameFields_self as]

theorem sameItems_self : ∀ as : List Json, sameItems as as = true
  | [] => rfl
  | a :: as => by simp [sameItems, same_self a, sameItems_self as]

theorem sameFields_self : ∀ as : List (String × Json), sameFields as as = true
  | [] => rfl
  | (_, a) :: as => by simp [sameFields, same_self a, sameFields_self as]

end

instance : DecidableEq Json := fun a b =>
  if h : same a b = true then isTrue (eq_of_same a b h)
  else isFalse fun e => h (e ▸ same_self a)

end Json

end DurableWorkflow
