import DurableWorkflow.Json.Shortest

/-!
# Double precision numbers in JSON

A number with a fraction or an exponent, or too large for a 64-bit integer, is kept as a double.

## Main Definitions

* `Double`: a finite double, as its bits, so that equality is decidable.
* `Double.ofScaled?`: the double read from a significand and a power of ten.
* `Double.text`: the written form, with the fewest digits that read back.

## Design Notes

Reading scales the significand by one table power of ten at a time, so a long literal may come out a
unit in the last place away from the nearest double.  Writing is exact.  Positional notation is used
from `0.00001` up to sixteen digits before the point, and always shows a point.
-/

namespace DurableWorkflow.Json

/-- A double precision number, as its bits. -/
structure Double where
  bits : UInt64
  deriving DecidableEq, Repr, Inhabited

namespace Double

/-- The bits of a floating point value. -/
def ofFloat (x : Float) : Double := ⟨x.toBits⟩

/-- The value that the bits stand for. -/
def toFloat (d : Double) : Float := Float.ofBits d.bits

/-- `10 ^ n`, correctly rounded. -/
def powerOfTen (n : Nat) : Float := Float.ofScientific 1 false n

/-- Divides by `10 ^ n`, at most `10 ^ 308` at a time, in at most `fuel` steps. -/
def shrink : Nat → Float → Nat → Float
  | 0, x, _ => x
  | fuel + 1, x, n =>
    if n ≤ 308 then x / powerOfTen n
    else if x == 0.0 then x
    else shrink fuel (x / powerOfTen 308) (n - 308)

/-- The double nearest to `significand · 10 ^ exponent` up to the rounding of the single scaling
steps; nothing if it is too large. -/
def ofScaled? (negative : Bool) (significand : Nat) (exponent : Int) : Option Double :=
  let signed (x : Float) : Double := ofFloat (if negative then -x else x)
  let x := significand.toUInt64.toFloat
  if significand = 0 then some (signed 0.0)
  else if 0 ≤ exponent then
    if exponent ≤ 308 then
      let y := x * powerOfTen exponent.toNat
      if y.isInf then none else some (signed y)
    else none
  else some (signed (shrink 5 x (-exponent).toNat))

/-- How many fractions are stored under one exponent, that is two to the power 52. -/
def fractionSize : Nat := 4503599627370496

/-- The stored exponent, between 0 and 2047. -/
def storedExponent (d : Double) : Nat := (d.bits.toNat / fractionSize) % 2048

/-- The stored fraction, below `fractionSize`. -/
def storedFraction (d : Double) : Nat := d.bits.toNat % fractionSize

/-- The sign bit. -/
def negative (d : Double) : Bool := 9223372036854775808 ≤ d.bits.toNat

/-- The shortest decimal that reads back as the magnitude of a nonzero finite double. -/
def shortest (d : Double) : Decimal :=
  let e := d.storedExponent
  let f := d.storedFraction
  if e = 0 then (Rounding.ofBinary f (-1074) false).shortest
  else (Rounding.ofBinary (fractionSize + f) ((e : Int) - 1075) (f = 0 && decide (1 < e))).shortest

/-- Writes a decimal: positional notation while the point falls within sixteen digits or at most
five places to the left, else a mantissa with an exponent. -/
def layout (d : Decimal) : String :=
  let ds := Nat.toDigits 10 d.digits
  let n : Int := ds.length
  let point : Int := n + d.exponent
  if 0 ≤ d.exponent ∧ point ≤ 16 then
    String.ofList (ds ++ List.replicate d.exponent.toNat '0') ++ ".0"
  else if 0 < point ∧ point ≤ 16 then
    String.ofList (ds.take point.toNat) ++ "." ++ String.ofList (ds.drop point.toNat)
  else if -5 < point ∧ point ≤ 0 then
    "0." ++ String.ofList (List.replicate (-point).toNat '0' ++ ds)
  else
    let mantissa :=
      match ds with
      | [] => ""
      | [c] => String.ofList [c]
      | c :: rest => String.ofList (c :: '.' :: rest)
    mantissa ++ "e" ++ toString (point - 1)

/-- The written form of a finite double. -/
def text (d : Double) : String :=
  let magnitude :=
    if d.storedExponent = 0 ∧ d.storedFraction = 0 then "0.0" else layout d.shortest
  if d.negative then "-" ++ magnitude else magnitude

end Double

end DurableWorkflow.Json
