import DurableWorkflow.Json.Number

/-!
# Tokens of a JSON text

A scanner reads a text one character at a time and keeps the tokens read so far.

## Main Definitions

* `Token`: brackets, separators and scalar values.
* `Scanner`: where the scanner stands within a token, and the tokens before it.
* `tokens?`: the tokens of a text.

## Design Notes

A number ends at the first character that cannot continue it, and that character is then read as the
start of the next token.  A string token holds no text if a surrogate in it is not paired.
-/

namespace DurableWorkflow.Json

/-- A token. -/
inductive Token where
  | openArray
  | closeArray
  | openObject
  | closeObject
  | comma
  | colon
  | scalar (value : Json)
  /-- A string, without its text if the string denotes none. -/
  | text (value : Option String)

/-- The text read so far in a string: its characters in reverse, whether it still denotes a text,
and a high surrogate that waits for its low one. -/
structure Quoted where
  done : List Char
  sound : Bool
  high : Option Nat

namespace Quoted

/-- The text before the first character. -/
def empty : Quoted := ⟨[], true, none⟩

/-- Appends a character. -/
def push (q : Quoted) (c : Char) : Quoted :=
  match q.high with
  | none => { q with done := c :: q.done }
  | some _ => { q with sound := false, high := none }

/-- Appends a UTF-16 unit. -/
def pushUnit (q : Quoted) (unit : Nat) : Quoted :=
  let isLow := decide (0xDC00 ≤ unit ∧ unit ≤ 0xDFFF)
  let isHigh := decide (0xD800 ≤ unit ∧ unit ≤ 0xDBFF)
  match q.high with
  | some high =>
    if isLow then
      { q with
        done := Char.ofNat (0x10000 + (high - 0xD800) * 0x400 + (unit - 0xDC00)) :: q.done
        high := none }
    else { q with sound := false, high := none }
  | none =>
    if isLow then { q with sound := false }
    else if isHigh then { q with high := some unit }
    else { q with done := Char.ofNat unit :: q.done }

/-- The text, if the string denotes one. -/
def text? (q : Quoted) : Option String :=
  if q.sound && q.high.isNone then some (String.ofList q.done.reverse) else none

end Quoted

/-- Where the scanner stands.  Digits are kept in reverse. -/
inductive Mode where
  | blank
  /-- Inside a word, with the letters still wanted. -/
  | word (left : List Char) (value : Json)
  | minus
  | whole (negative : Bool) (digits : List Char)
  | point (negative : Bool) (whole : List Char)
  | fraction (negative : Bool) (whole digits : List Char)
  | mark (negative : Bool) (whole : List Char) (fraction : Option (List Char))
  | markSign (negative : Bool) (whole : List Char) (fraction : Option (List Char)) (down : Bool)
  | exponent (negative : Bool) (whole : List Char) (fraction : Option (List Char)) (down : Bool)
      (digits : List Char)
  | text (quoted : Quoted)
  | escape (quoted : Quoted)
  /-- Inside a `\u` escape, with the digits still wanted and their value so far. -/
  | unit (quoted : Quoted) (left : Nat) (value : Nat)

/-- The four blank characters. -/
def isBlank (c : Char) : Bool := c = ' ' || c = '\n' || c = '\t' || c = '\r'

/-- The value of a hexadecimal digit. -/
def hexValue? (c : Char) : Option Nat :=
  if c.isDigit then some (c.toNat - '0'.toNat)
  else if 'a' ≤ c ∧ c ≤ 'f' then some (c.toNat - 'a'.toNat + 10)
  else if 'A' ≤ c ∧ c ≤ 'F' then some (c.toNat - 'A'.toNat + 10)
  else none

/-- The character that a one-letter escape stands for. -/
def escaped? : Char → Option Char
  | '"' => some '"'
  | '\\' => some '\\'
  | '/' => some '/'
  | 'b' => some '\x08'
  | 'f' => some '\x0c'
  | 'n' => some '\n'
  | 'r' => some '\r'
  | 't' => some '\t'
  | _ => none

/-- The scanner's state: its mode and the tokens read, the last one first. -/
structure Scanner where
  mode : Mode
  tokens : List Token

namespace Scanner

/-- The scanner before the first character. -/
def start : Scanner := ⟨.blank, []⟩

/-- Adds a token and goes back to the space between tokens. -/
def emit (s : Scanner) (token : Token) : Scanner := ⟨.blank, token :: s.tokens⟩

/-- Stays with the tokens read and changes the mode. -/
def into (s : Scanner) (mode : Mode) : Scanner := { s with mode := mode }

/-- Reads a character between two tokens. -/
def open? (s : Scanner) (c : Char) : Option Scanner :=
  if isBlank c then some (s.into .blank)
  else
    match c with
    | '[' => some (s.emit .openArray)
    | ']' => some (s.emit .closeArray)
    | '{' => some (s.emit .openObject)
    | '}' => some (s.emit .closeObject)
    | ',' => some (s.emit .comma)
    | ':' => some (s.emit .colon)
    | '"' => some (s.into (.text .empty))
    | '-' => some (s.into .minus)
    | 'n' => some (s.into (.word ['u', 'l', 'l'] .null))
    | 't' => some (s.into (.word ['r', 'u', 'e'] (.bool true)))
    | 'f' => some (s.into (.word ['a', 'l', 's', 'e'] (.bool false)))
    | _ => if c.isDigit then some (s.into (.whole false [c])) else none

/-- Ends a number whose parts are given in reverse. -/
def number (s : Scanner) (negative : Bool) (whole : List Char) (fraction : Option (List Char))
    (exponent : Option (Bool × List Char)) : Scanner :=
  s.emit (.scalar (NumberText.value
    ⟨negative, whole.reverse, fraction.map List.reverse,
      exponent.map fun e => (e.1, e.2.reverse)⟩))

/-- Reads one character. -/
def feed (s : Scanner) (c : Char) : Option Scanner :=
  match s.mode with
  | .blank => s.open? c
  | .word left value =>
    match left with
    | [] => none
    | [last] => if c = last then some (s.emit (.scalar value)) else none
    | next :: more => if c = next then some (s.into (.word more value)) else none
  | .minus => if c.isDigit then some (s.into (.whole true [c])) else none
  | .whole negative digits =>
    if c.isDigit then
      if digits = ['0'] then none else some (s.into (.whole negative (c :: digits)))
    else if c = '.' then some (s.into (.point negative digits))
    else if c = 'e' ∨ c = 'E' then some (s.into (.mark negative digits none))
    else (s.number negative digits none none).open? c
  | .point negative whole =>
    if c.isDigit then some (s.into (.fraction negative whole [c])) else none
  | .fraction negative whole digits =>
    if c.isDigit then some (s.into (.fraction negative whole (c :: digits)))
    else if c = 'e' ∨ c = 'E' then some (s.into (.mark negative whole (some digits)))
    else (s.number negative whole (some digits) none).open? c
  | .mark negative whole fraction =>
    if c = '+' then some (s.into (.markSign negative whole fraction false))
    else if c = '-' then some (s.into (.markSign negative whole fraction true))
    else if c.isDigit then some (s.into (.exponent negative whole fraction false [c]))
    else none
  | .markSign negative whole fraction down =>
    if c.isDigit then some (s.into (.exponent negative whole fraction down [c])) else none
  | .exponent negative whole fraction down digits =>
    if c.isDigit then some (s.into (.exponent negative whole fraction down (c :: digits)))
    else (s.number negative whole fraction (some (down, digits))).open? c
  | .text quoted =>
    if c = '"' then some (s.emit (.text quoted.text?))
    else if c = '\\' then some (s.into (.escape quoted))
    else if c.toNat < 0x20 then none
    else some (s.into (.text (quoted.push c)))
  | .escape quoted =>
    if c = 'u' then some (s.into (.unit quoted 4 0))
    else (escaped? c).map fun e => s.into (.text (quoted.push e))
  | .unit quoted left value =>
    (hexValue? c).map fun d =>
      if left ≤ 1 then s.into (.text (quoted.pushUnit (16 * value + d)))
      else s.into (.unit quoted (left - 1) (16 * value + d))

/-- The tokens, in order, if no token is left unfinished. -/
def finish? (s : Scanner) : Option (List Token) :=
  match s.mode with
  | .blank => some s.tokens.reverse
  | .whole negative digits => some (s.number negative digits none none).tokens.reverse
  | .fraction negative whole digits =>
    some (s.number negative whole (some digits) none).tokens.reverse
  | .exponent negative whole fraction down digits =>
    some (s.number negative whole fraction (some (down, digits))).tokens.reverse
  | _ => none

end Scanner

/-- The tokens of a text, if it is made of tokens and blanks. -/
def tokens? (text : String) : Option (List Token) :=
  (text.toList.foldlM Scanner.feed Scanner.start).bind Scanner.finish?

end DurableWorkflow.Json
