import DurableWorkflow.Text.Invisible

/-!
# Quoted literals

A text as it is shown inside a message: in double quotes, with escapes for what could be misread.

## Main Definitions

* `literal`: the quoted form of a text.

## Design Notes

Controls and invisible characters are shown by code point, in lower case without leading zeros.
Single quotes stay as they are.
-/

namespace DurableWorkflow.Text

/-- An escape by code point. -/
def codePoint (c : Char) : List Char :=
  ['\\', 'u', '\x7b'] ++ Nat.toDigits 16 c.toNat ++ ['\x7d']

/-- A character inside a quoted literal. -/
def literalChar (c : Char) : List Char :=
  if c = '\x00' then ['\\', '0']
  else if c = '\t' then ['\\', 't']
  else if c = '\r' then ['\\', 'r']
  else if c = '\n' then ['\\', 'n']
  else if c = '"' then ['\\', '"']
  else if c = '\\' then ['\\', '\\']
  else if c.toNat < 0x20 || c.toNat = 0x7f then codePoint c
  else if 0x80 ≤ c.toNat && isInvisible c then codePoint c
  else [c]

/-- The quoted form of a text. -/
def literal (text : String) : String :=
  String.ofList ('"' :: (text.toList.flatMap literalChar ++ ['"']))

end DurableWorkflow.Text
