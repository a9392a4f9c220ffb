import DurableWorkflow.Json.Basic

/-!
# Writing JSON

The compact form: no blanks, fields in order, only the characters escaped that have to be.

## Main Definitions

* `Json.quote`: a text as a string literal.
* `Json.render`: a value as text.
-/

namespace DurableWorkflow.Json

/-- A digit below sixteen, in lower case. -/
def hexDigit (n : Nat) : Char := Nat.digitChar n

/-- How a character is written inside a string literal. -/
def escape (c : Char) : List Char :=
  if c = '"' then ['\\', '"']
  else if c = '\\' then ['\\', '\\']
  else if c = '\x08' then ['\\', 'b']
  else if c = '\x0c' then ['\\', 'f']
  else if c = '\n' then ['\\', 'n']
  else if c = '\r' then ['\\', 'r']
  else if c = '\t' then ['\\', 't']
  else if c.toNat < 0x20 then
    ['\\', 'u', '0', '0', hexDigit (c.toNat / 16), hexDigit (c.toNat % 16)]
  else [c]

/-- A text as a string literal. -/
def quote (text : String) : List Char := '"' :: (text.toList.flatMap escape ++ ['"'])

/-- An integer in decimal. -/
def decimal (n : Int) : List Char :=
  if n < 0 then '-' :: Nat.toDigits 10 n.natAbs else Nat.toDigits 10 n.natAbs

mutual

/-- The compact form of a value, as characters. -/
def chars : Json → List Char
  | .null | .broken => ['n', 'u', 'l', 'l']
  | .bool true => ['t', 'r', 'u', 'e']
  | .bool false => ['f', 'a', 'l', 's', 'e']
  | .int n => decimal n
  | .double d => d.text.toList
  | .string s => quote s
  | .array items => '[' :: itemChars items
  | .object fields => '{' :: fieldChars fields

/-- The items of an array and its closing bracket. -/
def itemChars : List Json → List Char
  | [] => [']']
  | [x] => chars x ++ [']']
  | x :: rest => chars x ++ ',' :: itemChars rest

/-- The fields of an object and its closing brace. -/
def fieldChars : List (String × Json) → List Char
  | [] => ['}']
  | [(k, x)] => quote k ++ ':' :: (chars x ++ ['}'])
  | (k, x) :: rest => quote k ++ ':' :: (chars x ++ ',' :: fieldChars rest)

end

/-- The compact form of a value. -/
def render (value : Json) : String := String.ofList (chars value)

end DurableWorkflow.Json
