import DurableWorkflow.Json.Parse
import DurableWorkflow.Json.Print

/-!
# Typed reading of JSON values

A record is written as an object with its fields in order.  It is read from an object, with fields
in any order, or from an array of its fields in order.

## Main Definitions

* `Reader`: a partial function from values.
* `Record`: the fields of a record found in a value, with `required`, `optional` and `defaulted`.
* `Tagged`: a value that names its case in one field and holds the fields of that case beside it.

## Design Notes

A record ignores fields it does not know without looking into them.  A tagged value is looked into
as a whole before its case is known, so no part of it may be broken.
-/

namespace DurableWorkflow.Json

/-- Under which conditions a value is read. -/
structure Scope where
  /-- How deep containers may still nest. -/
  room : Nat
  /-- Whether the value has already been looked into as a whole. -/
  known : Bool
  deriving DecidableEq

namespace Scope

/-- The conditions for a whole text. -/
def whole : Scope := ⟨maxDepth, false⟩

/-- The conditions inside a container, if one may be opened. -/
def inner? (s : Scope) : Option Scope :=
  match s.room with
  | 0 => none
  | room + 1 => some { s with room := room }

end Scope

/-- Reads a value of a type under some conditions. -/
abbrev Reader (α : Type) := Scope → Json → Option α

namespace Reader

/-- A text. -/
def string : Reader String
  | _, .string s => some s
  | _, _ => none

/-- An integer between two bounds. -/
def intBetween (low high : Int) : Reader Int
  | _, .int n => if low ≤ n ∧ n ≤ high then some n else none
  | _, _ => none

/-- A signed 64-bit integer. -/
def int64 : Reader Int := intBetween Int64.minValue.toInt Int64.maxValue.toInt

/-- A signed 32-bit integer. -/
def int32 : Reader Int := intBetween Int32.minValue.toInt Int32.maxValue.toInt

/-- A natural number below a bound. -/
def natBelow (bound : Nat) : Reader Nat
  | _, .int n => if 0 ≤ n ∧ n < bound then some n.toNat else none
  | _, _ => none

/-- An unsigned 64-bit integer. -/
def nat64 : Reader Nat := natBelow UInt64.size

/-- An unsigned 32-bit integer. -/
def nat32 : Reader Nat := natBelow UInt32.size

/-- A value that may be absent, which is written as `null`. -/
def option {α : Type} (r : Reader α) : Reader (Option α)
  | _, .null => some none
  | s, v => (r s v).map some

/-- Every item of a list. -/
def each {α : Type} (r : Reader α) (s : Scope) : List Json → Option (List α)
  | [] => some []
  | v :: rest => do
    let x ← r s v
    let xs ← each r s rest
    pure (x :: xs)

/-- A list. -/
def list {α : Type} (r : Reader α) : Reader (List α)
  | s, .array items => s.inner?.bind fun s => each r s items
  | _, _ => none

/-- A word of a fixed vocabulary, written as a string or as an object with the word as its only key
and no content. -/
def word {α : Type} (ofName? : String → Option α) : Reader α
  | _, .string name => ofName? name
  | s, .object [(name, content)] =>
    s.inner?.bind fun s =>
      match content with
      | .null => ofName? name
      | .object [] => if s.known then ofName? name else none
      | _ => none
  | _, _ => none

end Reader

/-- The value of a field: `none` if it is repeated, `some none` if it is missing. -/
def field? (name : String) : List (String × Json) → Option (Option Json)
  | [] => some none
  | (k, v) :: rest =>
    if k = name then
      match field? name rest with
      | some none => some (some v)
      | _ => none
    else field? name rest

/-- Some field is named `name`. -/
def hasField (name : String) (fields : List (String × Json)) : Bool := fields.any (·.1 = name)

/-- The fields of a record as found in a value. -/
structure Record where
  scope : Scope
  /-- Whether the fields were found by name. -/
  named : Bool
  slots : List (String × Option Json)

namespace Record

/-- The slots of the given names, unless one of them is repeated. -/
def slots? (fields : List (String × Json)) : List String → Option (List (String × Option Json))
  | [] => some []
  | name :: rest => do
    let slot ← field? name fields
    let slots ← slots? fields rest
    pure ((name, slot) :: slots)

/-- The slots of the given names, filled in order. -/
def fill : List String → List Json → List (String × Option Json)
  | [], _ => []
  | name :: names, [] => (name, none) :: fill names []
  | name :: names, v :: items => (name, some v) :: fill names items

/-- The record with the given field names inside a value whose conditions are known. -/
def inside? (names : List String) (s : Scope) : Json → Option Record
  | .object fields => (slots? fields names).map fun slots => ⟨s, true, slots⟩
  | .array items =>
    if items.length ≤ names.length then some ⟨s, false, fill names items⟩ else none
  | _ => none

/-- The record with the given field names. -/
def of? (names : List String) (s : Scope) (v : Json) : Option Record :=
  s.inner?.bind fun s => inside? names s v

/-- What was found for a name. -/
def slot (r : Record) (name : String) : Option Json :=
  match r.slots.find? (·.1 = name) with
  | some (_, v) => v
  | none => none

/-- A field that has to be there. -/
def required {α : Type} (r : Record) (name : String) (reader : Reader α) : Option α :=
  (r.slot name).bind (reader r.scope)

/-- A field that may be `null`, or missing where fields are found by name. -/
def optional {α : Type} (r : Record) (name : String) (reader : Reader α) : Option (Option α) :=
  match r.slot name with
  | some v => reader.option r.scope v
  | none => if r.named then some none else none

/-- A field with a default. -/
def defaulted {α : Type} (r : Record) (name : String) (reader : Reader α) (default : α) :
    Option α :=
  match r.slot name with
  | some v => reader r.scope v
  | none => some default

/-- A field that may be `null` or missing. -/
def omissible {α : Type} (r : Record) (name : String) (reader : Reader α) : Option (Option α) :=
  r.defaulted name reader.option none

end Record

/-- A value that names its case: the case and the value that holds its fields. -/
structure Tagged where
  scope : Scope
  case : String
  content : Json

namespace Tagged

/-- Takes the case from the field `tag`, or from the first item of an array. -/
def of? (tag : String) (s : Scope) (v : Json) : Option Tagged :=
  if v.sound s.room then
    s.inner?.bind fun inner =>
      let inner := { inner with known := true }
      match v with
      | .object fields =>
        match field? tag fields with
        | some (some (.string case)) =>
          some ⟨inner, case, .object (fields.filter (·.1 ≠ tag))⟩
        | _ => none
      | .array (.string case :: items) => some ⟨inner, case, .array items⟩
      | _ => none
  else none

/-- The fields of the case. -/
def record? (t : Tagged) (names : List String) : Option Record :=
  Record.inside? names t.scope t.content

/-- Whether the content is fit for a case without fields. -/
def bare (t : Tagged) : Bool :=
  match t.content with
  | .array items => items.isEmpty
  | _ => true

end Tagged

/-- Reads a whole text. -/
def decode? {α : Type} (reader : Reader α) (text : String) : Option α :=
  (parse? text).bind (reader Scope.whole)

/-- How an optional text is written. -/
def ofOption {α : Type} (write : α → Json) : Option α → Json
  | none => .null
  | some x => write x

/-- How an optional text is written. -/
def ofText? (text : Option String) : Json := ofOption .string text

/-- A field that is left out when its value is absent. -/
def field (name : String) (write : α → Json) : Option α → List (String × Json)
  | none => []
  | some x => [(name, write x)]

end DurableWorkflow.Json
