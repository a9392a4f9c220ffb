/-!
# Natural numbers in texts

The written form is one or more decimal digits, optionally after a plus sign, of a value that fits
64 bits.

## Main Definitions

* `NaturalFault`: why a text is not such a number.
* `readNat64`: the number a text stands for.
-/

namespace DurableWorkflow.Text

/-- Why a text is not a 64-bit natural number. -/
inductive NaturalFault where
  | empty
  | invalidDigit
  | tooLarge
  deriving DecidableEq, Repr

/-- The largest 64-bit natural number. -/
def maxNat64 : Nat := UInt64.size - 1

/-- Reads digits behind the value `n`.  The first fault from the left counts. -/
def readDigits : List Char → Nat → Except NaturalFault Nat
  | [], n => .ok n
  | c :: rest, n =>
    if c.isDigit then
      let m := 10 * n + (c.toNat - '0'.toNat)
      if maxNat64 < m then .error .tooLarge else readDigits rest m
    else .error .invalidDigit

/-- Reads the characters of a number. -/
def readNat64Chars : List Char → Except NaturalFault Nat
  | [] => .error .empty
  | ['+'] => .error .invalidDigit
  | '+' :: rest => readDigits rest 0
  | digits => readDigits digits 0

/-- The number that a text stands for. -/
def readNat64 (text : String) : Except NaturalFault Nat := readNat64Chars text.toList

end DurableWorkflow.Text
