import DurableWorkflow.Json.Token

/-!
# Reading JSON

Tokens are assembled into a value with an explicit stack of open containers, so that nesting is
bounded by the text alone.

## Main Definitions

* `Assembly`: the open containers and what may come next.
* `Json.parse?`: the value of a text.
-/

namespace DurableWorkflow.Json

/-- A container that is not closed yet, its parts in reverse. -/
inductive Frame where
  | array (items : List Json)
  /-- The fields, whether all keys denote texts, and the key whose value is being read. -/
  | object (fields : List (String × Json)) (sound : Bool) (key : Option String)

/-- What may come next. -/
inductive Wanted where
  | value
  /-- The first item of an array, or its end. -/
  | item
  /-- The first key of an object, or its end. -/
  | field
  | key
  | colon
  /-- A comma or the end of the innermost container. -/
  | more
  | nothing
  deriving DecidableEq

/-- A value under construction. -/
structure Assembly where
  wanted : Wanted
  stack : List Frame
  /-- The whole value, once it is there. -/
  result : Json

namespace Assembly

/-- The assembly before the first token. -/
def start : Assembly := ⟨.value, [], .null⟩

/-- Gives a finished value to the innermost open container. -/
def deliver (value : Json) : List Frame → Assembly
  | [] => ⟨.nothing, [], value⟩
  | .array items :: stack => ⟨.more, .array (value :: items) :: stack, .null⟩
  | .object fields sound key :: stack =>
    match key with
    | some k => ⟨.more, .object ((k, value) :: fields) sound none :: stack, .null⟩
    | none => ⟨.more, .object fields false none :: stack, .null⟩

/-- Closes an array. -/
def closeArray? : List Frame → Option Assembly
  | .array items :: stack => some (deliver (.array items.reverse) stack)
  | _ => none

/-- Closes an object.  One with a key that denotes no text denotes nothing. -/
def closeObject? : List Frame → Option Assembly
  | .object fields sound _ :: stack =>
    some (deliver (if sound then .object fields.reverse else .broken) stack)
  | _ => none

/-- Starts or completes a value. -/
def value? (token : Token) (stack : List Frame) : Option Assembly :=
  match token with
  | .openArray => some ⟨.item, .array [] :: stack, .null⟩
  | .openObject => some ⟨.field, .object [] true none :: stack, .null⟩
  | .scalar v => some (deliver v stack)
  | .text (some s) => some (deliver (.string s) stack)
  | .text none => some (deliver .broken stack)
  | _ => none

/-- Takes a key. -/
def key? (token : Token) (stack : List Frame) : Option Assembly :=
  match token, stack with
  | .text key, .object fields sound _ :: rest =>
    some ⟨.colon, .object fields (sound && key.isSome) key :: rest, .null⟩
  | _, _ => none

/-- Takes one token. -/
def feed (a : Assembly) (token : Token) : Option Assembly :=
  match a.wanted with
  | .value => value? token a.stack
  | .item =>
    match token with
    | .closeArray => closeArray? a.stack
    | token => value? token a.stack
  | .field =>
    match token with
    | .closeObject => closeObject? a.stack
    | token => key? token a.stack
  | .key => key? token a.stack
  | .colon =>
    match token with
    | .colon => some ⟨.value, a.stack, .null⟩
    | _ => none
  | .more =>
    match token, a.stack with
    | .comma, .array _ :: _ => some ⟨.value, a.stack, .null⟩
    | .comma, .object .. :: _ => some ⟨.key, a.stack, .null⟩
    | .closeArray, stack => closeArray? stack
    | .closeObject, stack => closeObject? stack
    | _, _ => none
  | .nothing => none

/-- The value, if it is complete. -/
def finish? (a : Assembly) : Option Json :=
  match a.wanted with
  | .nothing => some a.result
  | _ => none

end Assembly

/-- The value of a text. -/
def parse? (text : String) : Option Json :=
  (tokens? text).bind fun tokens =>
    (tokens.foldlM Assembly.feed Assembly.start).bind Assembly.finish?

end DurableWorkflow.Json
