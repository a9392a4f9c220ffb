import DurableWorkflow.Duration
import DurableWorkflow.Event.Identity

/-!
# Retry policies

Whether and after what delay a task that failed is tried again.

## Main Definitions

* `RetryPolicy`: the rule.
* `RetryPolicy.delayBefore?`: the delay before the n-th retry.

## Design Notes

Parameters are words: what is beyond 64 bits on the way to an exponential delay is beyond its bound.
-/

namespace DurableWorkflow

/-- Whether and when to try again. -/
inductive RetryPolicy where
  | noRetry
  /-- The same delay before each retry. -/
  | constantDelay (waitMs : UInt64) (maxAttempts : UInt32)
  /-- The delay before retry `n` is the base times `2 ^ n - 1`, within a bound. -/
  | exponential (baseMs maxWaitMs : UInt64) (maxAttempts : UInt32)
  deriving DecidableEq, Repr, Inhabited

namespace RetryPolicy

/-- A constant delay in whole milliseconds. -/
def constant (wait : Duration) (maxAttempts : UInt32) : RetryPolicy :=
  .constantDelay (UInt64.ofNat wait.millis) maxAttempts

/-- An exponential delay in whole milliseconds. -/
def growing (base maxWait : Duration) (maxAttempts : UInt32) : RetryPolicy :=
  .exponential (UInt64.ofNat base.millis) (UInt64.ofNat maxWait.millis) maxAttempts

/-- Whether the policy is about retries at all. -/
def retries : RetryPolicy → Bool
  | .noRetry => false
  | _ => true

/-- The greatest number of retries. -/
def maxAttempts : RetryPolicy → UInt32
  | .noRetry => 0
  | .constantDelay _ n | .exponential _ _ n => n

/-- The base times `2 ^ n - 1`, if no step on the way exceeds 64 bits. -/
def grownDelay? (base : UInt64) (n : Nat) : Option Nat :=
  if n < 64 then
    let delay := base.toNat * (Nat.pow 2 n - 1)
    if delay < UInt64.size then some delay else none
  else none

/-- The delay before retry `n` of an exponential policy, in milliseconds. -/
def exponentialDelay (base maxWait : UInt64) (n : Nat) : UInt64 :=
  match grownDelay? base n with
  | some delay => if delay < maxWait.toNat then UInt64.ofNat delay else maxWait
  | none => maxWait

/-- The delay before retry `n`, counted from 1, if it is made. -/
def delayBefore? (p : RetryPolicy) (n : UInt32) : Option Duration :=
  if n = 0 ∨ p.maxAttempts < n then none
  else
    match p with
    | .noRetry => none
    | .constantDelay waitMs _ => some (.ofMillis waitMs)
    | .exponential baseMs maxWaitMs _ =>
      some (.ofMillis (exponentialDelay baseMs maxWaitMs n.toNat))

/-- The written form. -/
def toJson : RetryPolicy → Json
  | .noRetry => .object [("policy", .string "no_retry")]
  | .constantDelay waitMs n =>
    .object [("policy", .string "constant_delay"), ("wait_ms", .int waitMs.toNat),
      ("max_attempts", .int n.toNat)]
  | .exponential baseMs maxWaitMs n =>
    .object [("policy", .string "exponential"), ("base_ms", .int baseMs.toNat),
      ("max_wait_ms", .int maxWaitMs.toNat), ("max_attempts", .int n.toNat)]

/-- A 64-bit word. -/
def wordReader : Json.Reader UInt64 := fun s v => (Json.Reader.nat64 s v).map UInt64.ofNat

/-- A number of attempts. -/
def attemptsReader : Json.Reader UInt32 := fun s v => (Json.Reader.nat32 s v).map UInt32.ofNat

/-- The fields of a case. -/
def readFields (t : Json.Tagged) : String → Option RetryPolicy
  | "no_retry" => if t.bare then some .noRetry else none
  | "constant_delay" => do
    let r ← t.record? ["wait_ms", "max_attempts"]
    let waitMs ← r.required "wait_ms" wordReader
    let maxAttempts ← r.required "max_attempts" attemptsReader
    pure (.constantDelay waitMs maxAttempts)
  | "exponential" => do
    let r ← t.record? ["base_ms", "max_wait_ms", "max_attempts"]
    let baseMs ← r.required "base_ms" wordReader
    let maxWaitMs ← r.required "max_wait_ms" wordReader
    let maxAttempts ← r.required "max_attempts" attemptsReader
    pure (.exponential baseMs maxWaitMs maxAttempts)
  | _ => none

/-- A policy as it is written. -/
def reader : Json.Reader RetryPolicy := fun s v => do
  let t ← Json.Tagged.of? "policy" s v
  readFields t t.case

end RetryPolicy

/-- The policies in effect, by task type. -/
structure RetryPolicies where
  /-- The policy of all task types without their own. -/
  standard : RetryPolicy
  own : TaskType → Option RetryPolicy

namespace RetryPolicies

/-- One policy for all task types. -/
def uniform (policy : RetryPolicy) : RetryPolicies := ⟨policy, fun _ => none⟩

instance : Inhabited RetryPolicies := ⟨uniform .noRetry⟩

/-- Sets the policy of a task type. -/
def set (p : RetryPolicies) (t : TaskType) (policy : RetryPolicy) : RetryPolicies :=
  { p with own := fun t' => if t' = t then some policy else p.own t' }

/-- Sets the policy of all task types without their own. -/
def setStandard (p : RetryPolicies) (policy : RetryPolicy) : RetryPolicies :=
  { p with standard := policy }

/-- The policy in effect for a task type. -/
def policyFor (p : RetryPolicies) (t : TaskType) : RetryPolicy := (p.own t).getD p.standard

end RetryPolicies

end DurableWorkflow
