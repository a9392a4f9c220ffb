import Mathlib.Algebra.Group.Nat.Defs
import DurableWorkflow.Retry.Policy

/-!
# Delays before retries

A policy gives a delay before each retry from the first one up to the greatest number, and before no
other.  A growing delay is the base times `2 ^ n - 1` within the bound, in natural numbers: what
does not fit a word on the way is not below the bound.  The one exception is a base of zero, whose
delay is no time at all until the power does not fit, and the bound from then on.

## Main Definitions

* `RetryPolicy.Delays`: the number of milliseconds before a retry.

## Main Statements

* `RetryPolicy.exists_delayBefore?_iff`: which retries are made.
* `RetryPolicy.toNat_exponentialDelay`: the formula, but for the one exception.
* `RetryPolicy.exponentialDelay_mono`: delays grow, across all limits of words.
* `RetryPolicy.delays_formula_iff`: when the delay is the formula.
* `RetryPolicy.delays_laws`: the laws of all policies.
-/

namespace DurableWorkflow.RetryPolicy

/-- The policy makes retry `n`, after just so many milliseconds. -/
def Delays (p : RetryPolicy) (n : UInt32) (ms : Nat) : Prop :=
  ∃ d, p.delayBefore? n = some d ∧ d.total = ms * nanosPerMilli

/-! ### Which retries are made -/

section

variable {policy : RetryPolicy} {n : UInt32}

theorem one_le_iff : 1 ≤ n ↔ n ≠ 0 := by
  rw [← UInt32.pos_iff_ne_zero, UInt32.le_iff_toNat_le, UInt32.lt_iff_toNat_lt]
  exact Iff.rfl

theorem not_out_of_range_iff {bound : UInt32} :
    ¬ (n = 0 ∨ bound < n) ↔ 1 ≤ n ∧ n ≤ bound := by
  rw [not_or, one_le_iff, UInt32.not_lt]

/-- Retries are made from the first one up to the greatest number. -/
theorem exists_delayBefore?_iff :
    (∃ delay, policy.delayBefore? n = some delay) ↔ 1 ≤ n ∧ n ≤ policy.maxAttempts := by
  rw [← not_out_of_range_iff]
  unfold delayBefore?
  split
  · next hrange => simp [hrange]
  · next hrange =>
      refine ⟨fun _ => hrange, fun _ => ?_⟩
      cases policy with
      | noRetry =>
          obtain ⟨hn, hmax⟩ := not_or.mp hrange
          exact (hmax (UInt32.pos_iff_ne_zero.mpr hn)).elim
      | constantDelay | exponential => exact ⟨_, rfl⟩

/-- A delay is only given before a retry that is within the bound. -/
theorem le_maxAttempts_of_delayBefore? {delay : Duration}
    (h : policy.delayBefore? n = some delay) : n.toNat ≤ policy.maxAttempts.toNat :=
  UInt32.le_iff_toNat_le.mp (exists_delayBefore?_iff.mp ⟨delay, h⟩).2

/-- Where none is given, the bound has been reached. -/
theorem maxAttempts_lt_of_delayBefore? (hn : n ≠ 0) (h : policy.delayBefore? n = none) :
    policy.maxAttempts.toNat < n.toNat := by
  rw [← UInt32.lt_iff_toNat_lt, ← UInt32.not_le]
  intro hle
  obtain ⟨delay, hdelay⟩ := exists_delayBefore?_iff.mpr ⟨one_le_iff.mpr hn, hle⟩
  rw [h] at hdelay
  cases hdelay

theorem retries_of_delayBefore? {delay : Duration} (h : policy.delayBefore? n = some delay) :
    policy.retries = true := by
  cases policy with
  | noRetry =>
      obtain ⟨hn, hle⟩ := exists_delayBefore?_iff.mp ⟨delay, h⟩
      exact absurd (UInt32.le_trans hn hle) (by decide)
  | constantDelay | exponential => rfl

end

/-! ### Growing delays -/

section

variable {base maxWait : UInt64} {k l : Nat}

theorem grownDelay?_eq_some_iff {delay : Nat} :
    grownDelay? base k = some delay ↔
      k < 64 ∧ base.toNat * (2 ^ k - 1) < UInt64.size ∧ delay = base.toNat * (2 ^ k - 1) := by
  rw [grownDelay?, Nat.pow_eq]
  by_cases hk : k < 64
  · simp [hk, eq_comm]
  · simp [hk]

/-- What does not fit a word is not below any bound, unless the base is zero. -/
theorem le_of_grownDelay?_eq_none (hbase : base ≠ 0) (h : grownDelay? base k = none) :
    maxWait.toNat ≤ base.toNat * (2 ^ k - 1) := by
  have hbound : maxWait.toNat < UInt64.size := maxWait.toNat_lt
  by_cases hk : k < 64
  · -- The power fits, but the product does not.
    have hproduct : ¬ base.toNat * (2 ^ k - 1) < UInt64.size := by
      intro hfits
      rw [grownDelay?_eq_some_iff.mpr ⟨hk, hfits, rfl⟩] at h
      cases h
    omega
  · have hpower : 2 ^ 64 ≤ 2 ^ k := Nat.pow_le_pow_right Nat.two_pos (Nat.not_lt.mp hk)
    have hword : UInt64.size = 2 ^ 64 := rfl
    have hpos : 0 < base.toNat := UInt64.lt_iff_toNat_lt.mp (UInt64.pos_iff_ne_zero.mpr hbase)
    calc maxWait.toNat
      _ ≤ 2 ^ k - 1 := by omega
      _ ≤ base.toNat * (2 ^ k - 1) := Nat.le_mul_of_pos_left _ hpos

/-- **The delay is the formula in natural numbers**, if the base is not zero or the power fits. -/
theorem toNat_exponentialDelay (h : base ≠ 0 ∨ k < 64) :
    (exponentialDelay base maxWait k).toNat = min (base.toNat * (2 ^ k - 1)) maxWait.toNat := by
  rw [exponentialDelay]
  cases hgrown : grownDelay? base k with
  | some delay =>
      obtain ⟨-, hfits, rfl⟩ := grownDelay?_eq_some_iff.mp hgrown
      dsimp only
      split
      · next hlt => rw [UInt64.toNat_ofNat_of_lt' hfits, Nat.min_eq_left (Nat.le_of_lt hlt)]
      · next hge => rw [Nat.min_eq_right (Nat.not_lt.mp hge)]
  | none =>
      have hbase : base ≠ 0 := by
        refine h.elim id fun hk hzero => ?_
        rw [hzero, grownDelay?_eq_some_iff.mpr ⟨hk, by simp, rfl⟩] at hgrown
        cases hgrown
      rw [Nat.min_eq_right (le_of_grownDelay?_eq_none hbase hgrown)]

/-- With a base of zero the delay is the bound as soon as the power does not fit. -/
theorem exponentialDelay_zero (hk : 64 ≤ k) : exponentialDelay 0 maxWait k = maxWait := by
  rw [exponentialDelay, grownDelay?, if_neg (Nat.not_lt.mpr hk)]

/-- No delay is beyond the bound. -/
theorem exponentialDelay_le :
    (exponentialDelay base maxWait k).toNat ≤ maxWait.toNat := by
  by_cases h : base ≠ 0 ∨ k < 64
  · rw [toNat_exponentialDelay h]
    exact Nat.min_le_right ..
  · obtain ⟨hbase, hk⟩ := not_or.mp h
    have hbound : exponentialDelay base maxWait k = maxWait := by
      rw [Decidable.not_not.mp hbase, exponentialDelay_zero (Nat.not_lt.mp hk)]
    exact Nat.le_of_eq (congrArg UInt64.toNat hbound)

/-- **Delays grow**, also across the numbers from which the power or the product does not fit. -/
theorem exponentialDelay_mono (hkl : k ≤ l) :
    (exponentialDelay base maxWait k).toNat ≤ (exponentialDelay base maxWait l).toNat := by
  by_cases h : base ≠ 0 ∨ l < 64
  · have hpower : 2 ^ k ≤ 2 ^ l := Nat.pow_le_pow_right Nat.two_pos hkl
    have hproduct : base.toNat * (2 ^ k - 1) ≤ base.toNat * (2 ^ l - 1) :=
      Nat.mul_le_mul_left _ (Nat.sub_le_sub_right hpower 1)
    rw [toNat_exponentialDelay h, toNat_exponentialDelay (h.imp_right (Nat.lt_of_le_of_lt hkl))]
    omega
  · obtain ⟨hbase, hl⟩ := not_or.mp h
    rw [Decidable.not_not.mp hbase, exponentialDelay_zero (Nat.not_lt.mp hl)]
    exact exponentialDelay_le

end

/-! ### The laws -/

theorem Delays.unique {p : RetryPolicy} {n : UInt32} {a b : Nat} (ha : p.Delays n a)
    (hb : p.Delays n b) : a = b := by
  obtain ⟨d, hd, htotal⟩ := ha
  obtain ⟨d', hd', htotal'⟩ := hb
  rw [hd] at hd'
  cases hd'
  exact Nat.eq_of_mul_eq_mul_right (by decide) (htotal.symm.trans htotal')

section

variable {base maxWait wait : UInt64} {maxAttempts n : UInt32}

theorem delayBefore?_constantDelay (hfirst : 1 ≤ n) (hlast : n ≤ maxAttempts) :
    (constantDelay wait maxAttempts).delayBefore? n = some (.ofMillis wait) :=
  if_neg (not_out_of_range_iff.mpr ⟨hfirst, hlast⟩)

theorem delays_exponential (hfirst : 1 ≤ n) (hlast : n ≤ maxAttempts) :
    (exponential base maxWait maxAttempts).Delays n
      (exponentialDelay base maxWait n.toNat).toNat :=
  ⟨.ofMillis (exponentialDelay base maxWait n.toNat),
    if_neg (not_out_of_range_iff.mpr ⟨hfirst, hlast⟩), rfl⟩

end

/-- **A growing delay is its formula but for one case**: with a base of zero, a retry from the 64th
on waits for the bound. -/
theorem delays_formula_iff (base maxWait : UInt64) (maxAttempts n : UInt32) (hfirst : 1 ≤ n)
    (hlast : n ≤ maxAttempts) :
    ((exponential base maxWait maxAttempts).Delays n
        (min (base.toNat * (2 ^ n.toNat - 1)) maxWait.toNat) ↔
      base ≠ 0 ∨ n.toNat < 64 ∨ maxWait = 0) ∧
    (base = 0 → 64 ≤ n.toNat → (exponential base maxWait maxAttempts).Delays n maxWait.toNat) := by
  have hdelay : (exponential base maxWait maxAttempts).Delays n
      (exponentialDelay base maxWait n.toNat).toNat := delays_exponential hfirst hlast
  by_cases h : base ≠ 0 ∨ n.toNat < 64
  · rw [toNat_exponentialDelay h] at hdelay
    refine ⟨⟨fun _ => h.imp_right .inl, fun _ => hdelay⟩, fun hbase hn => ?_⟩
    exact (h.elim (· hbase) (Nat.not_lt.mpr hn)).elim
  · obtain ⟨hbase, hn⟩ := not_or.mp h
    obtain rfl := Decidable.not_not.mp hbase
    rw [exponentialDelay_zero (Nat.not_lt.mp hn)] at hdelay
    refine ⟨⟨fun hformula => ?_, ?_⟩, fun _ _ => hdelay⟩
    · -- The formula is no time at all, so there is no time for the bound either.
      have hbound : maxWait.toNat = 0 := by
        rw [hdelay.unique hformula, UInt64.toNat_zero, Nat.zero_mul, Nat.zero_min]
      exact .inr (.inr (UInt64.toNat_inj.mp hbound))
    · rintro (hne | hlt | rfl)
      · exact absurd rfl hne
      · exact absurd hlt hn
      · simpa using hdelay

/-- The product fits for the 62nd retry and not for the 63rd, the power not for the 64th. -/
theorem delays_formula_iff_limits :
    let policy := exponential 3 (.ofNat (2 ^ 64 - 1)) 64
    policy.Delays 62 (3 * (2 ^ 62 - 1)) ∧ policy.Delays 63 (2 ^ 64 - 1) ∧
      policy.Delays 64 (2 ^ 64 - 1) := by
  have hformula (n : UInt32) (hfirst : 1 ≤ n) (hlast : n ≤ 64) :=
    (delays_formula_iff 3 (.ofNat (2 ^ 64 - 1)) 64 n hfirst hlast).1.mpr (.inl (by decide))
  exact ⟨hformula 62 (by decide) (by decide), hformula 63 (by decide) (by decide),
    hformula 64 (by decide) (by decide)⟩

/-- With a base of zero there is no delay before the 63rd retry, and one of a second before the
64th, where the formula has none. -/
theorem delays_zeroBase :
    (exponential 0 1000 64).Delays 63 0 ∧ (exponential 0 1000 64).Delays 64 1000 ∧
      ¬ (exponential 0 1000 64).Delays 64 (min (0 * (2 ^ 64 - 1)) 1000) := by
  have hbound : (exponential 0 1000 64).Delays 64 1000 := delays_exponential (by decide) (by decide)
  refine ⟨delays_exponential (by decide) (by decide), hbound, fun hformula => ?_⟩
  exact absurd (hbound.unique hformula) (by decide)

/-- **The laws of delays.**  Retries are made from the first one up to the greatest number and no
others; a constant delay is always the same; a growing one grows and stays within its bound. -/
theorem delays_laws :
    (∀ (p : RetryPolicy) (n : UInt32),
      (∃ delay, p.delayBefore? n = some delay) ↔ 1 ≤ n ∧ n ≤ p.maxAttempts) ∧
    (∀ n, noRetry.delayBefore? n = none) ∧
    (∀ p : RetryPolicy, p.delayBefore? 0 = none) ∧
    (∀ wait maxAttempts n, 1 ≤ n → n ≤ maxAttempts →
      (constantDelay wait maxAttempts).delayBefore? n = some (.ofMillis wait)) ∧
    (∀ base maxWait maxAttempts m n, 1 ≤ m → m ≤ n → n ≤ maxAttempts →
      ∃ a b, (exponential base maxWait maxAttempts).Delays m a ∧
        (exponential base maxWait maxAttempts).Delays n b ∧ a ≤ b ∧ b ≤ maxWait.toNat) := by
  refine ⟨fun p n => exists_delayBefore?_iff, fun n => ?_, fun p => ?_, ?_, ?_⟩
  · refine Option.eq_none_iff_forall_ne_some.mpr fun delay hdelay => ?_
    exact absurd (retries_of_delayBefore? hdelay) (by decide)
  · refine Option.eq_none_iff_forall_ne_some.mpr fun delay hdelay => ?_
    exact absurd (exists_delayBefore?_iff.mp ⟨delay, hdelay⟩).1 (by decide)
  · exact fun wait maxAttempts n => delayBefore?_constantDelay
  · intro base maxWait maxAttempts m n hfirst hmn hlast
    exact ⟨_, _, delays_exponential hfirst (UInt32.le_trans hmn hlast),
      delays_exponential (UInt32.le_trans hfirst hmn) hlast,
      exponentialDelay_mono (UInt32.le_iff_toNat_le.mp hmn), exponentialDelay_le⟩

/-- Delays grow across the retry from which the power does not fit, also with a base of zero. -/
theorem delays_laws_zeroBase :
    ∃ a b, (exponential 0 1000 64).Delays 63 a ∧ (exponential 0 1000 64).Delays 64 b ∧
      a ≤ b ∧ b ≤ 1000 := by
  obtain ⟨-, -, -, -, hgrow⟩ := delays_laws
  exact hgrow 0 1000 64 63 64 (by decide) (by decide) (by decide)

end DurableWorkflow.RetryPolicy
