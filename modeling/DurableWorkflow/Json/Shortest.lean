/-!
# Shortest decimals

A binary fraction `m · 2 ^ q` stands for every real number that rounds to it.  `shortest` finds the
decimal with the fewest digits among those numbers and, of several with as few digits, the one
nearest to the fraction itself.

## Main Definitions

* `Decimal`: a natural number of digits scaled by a power of ten.
* `Rounding`: a binary fraction with the interval of reals that round to it.
* `Rounding.shortest`: the decimal of fewest digits in the interval.

## Design Notes

All comparisons are between natural numbers.  On the grid of multiples of `10 ^ e` only the two
neighbours of the fraction have to be tried: if any point of the grid lies in the interval, one of
these two does.
-/

namespace DurableWorkflow.Json

/-- The number `digits · 10 ^ exponent`. -/
structure Decimal where
  digits : Nat
  exponent : Int
  deriving DecidableEq, Repr

namespace Decimal

/-- Moves trailing zeros of the digits into the exponent, at most `fuel` of them. -/
def trim : Nat → Decimal → Decimal
  | 0, d => d
  | fuel + 1, d =>
    if d.digits ≠ 0 ∧ d.digits % 10 = 0 then trim fuel ⟨d.digits / 10, d.exponent + 1⟩ else d

end Decimal

/-- The fraction `num / den` as a multiple of `10 ^ e`, again as a fraction. -/
def inUnitsOf (num den : Nat) (e : Int) : Nat × Nat :=
  if 0 ≤ e then (num, den * Nat.pow 10 e.toNat) else (num * Nat.pow 10 (-e).toNat, den)

/-- The least `j` from `start` on, within `fuel` steps, with `den ≤ num · 10 ^ j`. -/
def firstScale (num den : Nat) : Nat → Nat → Nat
  | 0, start => start
  | fuel + 1, start =>
    if den ≤ num * Nat.pow 10 start then start else firstScale num den fuel (start + 1)

/-- The exponent of the leading decimal digit of `num / den`. -/
def magnitude (num den : Nat) : Int :=
  if den ≤ num then ((Nat.toDigits 10 (num / den)).length : Int) - 1
  else -(firstScale num den 400 1 : Int)

/-- A positive binary fraction, four times its significand being `center`, with the ends of the
interval of numbers that round to it, all in units of `num / den`. -/
structure Rounding where
  low : Nat
  center : Nat
  high : Nat
  num : Nat
  den : Nat
  /-- The ends themselves round to the fraction. -/
  closed : Bool
  deriving DecidableEq, Repr

namespace Rounding

/-- The rounding interval of `m · 2 ^ q`.  The gap below is half as wide as the one above when `m`
is the least significand of its binade (`narrow`). -/
def ofBinary (m : Nat) (q : Int) (narrow : Bool) : Rounding where
  low := 4 * m - (if narrow then 1 else 2)
  center := 4 * m
  high := 4 * m + 2
  num := if 2 ≤ q then Nat.pow 2 (q - 2).toNat else 1
  den := if 2 ≤ q then 1 else Nat.pow 2 (2 - q).toNat
  closed := m % 2 = 0

/-- Whether the `c`-th point of the grid of multiples of `num / den` in units `u` is inside. -/
def holds (r : Rounding) (u : Nat × Nat) (c : Nat) : Bool :=
  if r.closed then r.low * u.1 ≤ c * u.2 ∧ c * u.2 ≤ r.high * u.1
  else r.low * u.1 < c * u.2 ∧ c * u.2 < r.high * u.1

/-- The point of the grid of multiples of `10 ^ e` that lies in the interval, the nearer one if both
neighbours do and the even one if they are equally near. -/
def onGrid (r : Rounding) (e : Int) : Option Decimal :=
  let u := inUnitsOf r.num r.den e
  let c := r.center * u.1 / u.2
  let below := r.center * u.1 - c * u.2
  let above := (c + 1) * u.2 - r.center * u.1
  match r.holds u c, r.holds u (c + 1) with
  | true, true =>
    some ⟨if below < above ∨ (below = above ∧ c % 2 = 0) then c else c + 1, e⟩
  | true, false => some ⟨c, e⟩
  | false, true => some ⟨c + 1, e⟩
  | false, false => none

/-- Tries the grids of `digits`, `digits + 1`, ... significant digits, `fuel` of them. -/
def search (r : Rounding) (top : Int) : Nat → Nat → Option Decimal
  | 0, _ => none
  | fuel + 1, digits =>
    match r.onGrid (top - (digits - 1 : Int)) with
    | some d => some d
    | none => search r top fuel (digits + 1)

/-- The shortest decimal of the interval.  Seventeen digits always suffice for a double. -/
def shortest (r : Rounding) : Decimal :=
  match r.search (magnitude (r.center * r.num) r.den) 17 1 with
  | some d => d.trim 20
  | none => ⟨r.center * r.num / r.den, 0⟩

end Rounding

end DurableWorkflow.Json
