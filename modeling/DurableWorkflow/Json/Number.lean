import DurableWorkflow.Json.Basic

/-!
# Number literals

A literal without fraction and exponent is an integer if it fits 64 bits, with or without sign;
every other literal, and a negative zero, is a double.

## Main Definitions

* `NumberText`: the parts of a literal.
* `NumberText.value`: the value it denotes, `Json.broken` if it is too large.
-/

namespace DurableWorkflow.Json

/-- The parts of a number literal, each a list of digits. -/
structure NumberText where
  negative : Bool
  whole : List Char
  /-- The digits after the point, if there is one. -/
  fraction : Option (List Char)
  /-- Whether the exponent is negative, and its digits. -/
  exponent : Option (Bool × List Char)
  deriving DecidableEq, Repr

/-- The value of a digit. -/
def digitValue (c : Char) : Nat := c.toNat - '0'.toNat

/-- The value of a list of digits. -/
def digitsValue (ds : List Char) : Nat := ds.foldl (fun n c => 10 * n + digitValue c) 0

/-- The largest significand that is kept exactly. -/
def maxSignificand : Nat := UInt64.size - 1

/-- Digits that still fit behind `n`, and how many were left over. -/
def takeWhole : List Char → Nat → Nat × Nat
  | [], n => (n, 0)
  | c :: rest, n =>
    let m := 10 * n + digitValue c
    if maxSignificand < m then (n, rest.length + 1) else takeWhole rest m

/-- Fraction digits that still fit behind `n`, and how many of them did. -/
def takeFraction : List Char → Nat → Nat × Nat
  | [], n => (n, 0)
  | c :: rest, n =>
    let m := 10 * n + digitValue c
    if maxSignificand < m then (n, 0)
    else
      let (significand, taken) := takeFraction rest m
      (significand, taken + 1)

namespace NumberText

/-- The value as a double. -/
def double (t : NumberText) : Json :=
  let (n, skipped) := takeWhole t.whole 0
  let (significand, taken) := takeFraction (t.fraction.getD []) n
  let shift : Int :=
    match t.exponent with
    | none => 0
    | some (true, ds) => -(digitsValue ds : Int)
    | some (false, ds) => digitsValue ds
  match Double.ofScaled? t.negative significand ((skipped : Int) - taken + shift) with
  | some d => .double d
  | none => .broken

/-- The value that the literal denotes. -/
def value (t : NumberText) : Json :=
  match t.fraction, t.exponent with
  | none, none =>
    let n := digitsValue t.whole
    if t.negative then
      if 0 < n ∧ n ≤ Int64.minValue.toInt.natAbs then .int (-(n : Int)) else t.double
    else if n < UInt64.size then .int n
    else t.double
  | _, _ => t.double

end NumberText

end DurableWorkflow.Json
