import DurableWorkflow.Json.Decode

/-!
# Durations

A duration is a number of nanoseconds whose whole seconds fit 64 bits.

## Main Definitions

* `Duration`: a duration, with its bound.
* `Duration.seconds`, `Duration.nanos`: whole seconds and the rest.
* `Duration.toJson`, `Duration.reader`: the form `{"secs", "nanos"}`.

## Design Notes

Counting nanoseconds makes order and addition those of the natural numbers.  The written rest may
exceed a second when read and is then carried over.
-/

namespace DurableWorkflow

/-- Nanoseconds in a second. -/
def nanosPerSecond : Nat := 1000000000

/-- Nanoseconds in a millisecond. -/
def nanosPerMilli : Nat := 1000000

/-- A duration. -/
structure Duration where
  total : Nat
  total_lt : total < UInt64.size * nanosPerSecond
  deriving DecidableEq

namespace Duration

/-- No time at all. -/
def zero : Duration := ⟨0, by decide⟩

instance : Inhabited Duration := ⟨zero⟩

/-- Whole seconds. -/
def seconds (d : Duration) : Nat := d.total / nanosPerSecond

/-- Nanoseconds beyond the whole seconds. -/
def nanos (d : Duration) : Nat := d.total % nanosPerSecond

/-- A number of nanoseconds, if it is not too large. -/
def ofNanos? (total : Nat) : Option Duration :=
  if h : total < UInt64.size * nanosPerSecond then some ⟨total, h⟩ else none

/-- Seconds and nanoseconds, if they are not too large together. -/
def of? (seconds nanos : Nat) : Option Duration := ofNanos? (seconds * nanosPerSecond + nanos)

/-- The longest duration. -/
def longest : Duration := ⟨UInt64.size * nanosPerSecond - 1, by decide⟩

/-- A number of whole seconds; the most there can be if it is too large. -/
def ofSeconds (seconds : Nat) : Duration :=
  ⟨min seconds (UInt64.size - 1) * nanosPerSecond, by
    have h : min seconds (UInt64.size - 1) < UInt64.size :=
      Nat.lt_of_le_of_lt (Nat.min_le_right ..) (by decide)
    exact Nat.mul_lt_mul_of_pos_right h (by decide)⟩

/-- A number of milliseconds that fits 64 bits. -/
def ofMillis (millis : UInt64) : Duration :=
  ⟨millis.toNat * nanosPerMilli, by
    have h : millis.toNat < UInt64.size := millis.toNat_lt
    exact Nat.mul_lt_mul_of_lt_of_le h (by decide) (by decide)⟩

/-- Whole milliseconds, the most that fits 64 bits if there are more. -/
def millis (d : Duration) : Nat := min (d.total / nanosPerMilli) (UInt64.size - 1)

/-- A duration is written as its seconds and the nanoseconds beyond them. -/
def toJson (d : Duration) : Json :=
  .object [("secs", .int d.seconds), ("nanos", .int d.nanos)]

/-- The names of the written fields. -/
def fieldNames : List String := ["secs", "nanos"]

/-- A duration as it is written.  Fields of other names are refused. -/
def reader : Json.Reader Duration := fun s v => do
  let r ← Json.Record.of? fieldNames s v
  match v with
  | .object fields => if fields.all (fun f => fieldNames.contains f.1) then pure () else none
  | _ => pure ()
  let seconds ← r.required "secs" Json.Reader.nat64
  let nanos ← r.required "nanos" Json.Reader.nat32
  of? seconds nanos

end Duration

end DurableWorkflow
