import DurableWorkflow.Proofs.Text.Natural
import DurableWorkflow.Timeout

/-!
# Timeouts as texts

A timeout is written in whole seconds, so it is read back rounded up, and what has been rounded is
written and read back as it is.  More is read than is written: numerals may have a sign and zeros in
front.

## Main Definitions

* `Duration.ceilSeconds`: the least number of whole seconds that is not below a duration.
* `Timeout.roundUp`: a timeout rounded up to whole seconds.
* `Timeout.IsWhole`: timeouts that rounding leaves as they are.
* `Timeout.ReadBack`: a duration that is written comes back as another one.

## Main Statements

* `Duration.ceilSeconds_le_iff`: `ceilSeconds` is the least such number.
* `Timeout.ofText?_text`: the written form is read as the rounded timeout.
* `Timeout.text_roundUp`: rounding does not change the written form.
* `Timeout.isWhole_of_ofText?`: what is read is whole.
* `Timeout.ofText?_eq_after_iff`: the texts that are read as durations.
* `Timeout.text_codec`: what is read, what is refused, and what comes back.
-/

namespace DurableWorkflow

/-! ### Rounding up -/

namespace Duration

/-- The least number of whole seconds that is not below a duration. -/
def ceilSeconds (d : Duration) : Nat := (d.total + (nanosPerSecond - 1)) / nanosPerSecond

/-- **Numbers of seconds that are not below a duration are those from `ceilSeconds` on.** -/
theorem ceilSeconds_le_iff (d : Duration) (n : Nat) :
    d.ceilSeconds ≤ n ↔ d.total ≤ n * nanosPerSecond := by
  rw [ceilSeconds, nanosPerSecond]
  omega

/-- Seconds are rounded up by one if any nanoseconds are left. -/
theorem ceilSeconds_eq (d : Duration) :
    d.ceilSeconds = d.seconds + (if 0 < d.nanos then 1 else 0) := by
  rw [ceilSeconds, seconds, nanos, nanosPerSecond]
  split <;> omega

theorem total_ofSeconds (n : Nat) :
    (ofSeconds n).total = min n (UInt64.size - 1) * nanosPerSecond := rfl

/-- A duration is a number of whole seconds if its nanoseconds are. -/
theorem eq_ofSeconds_iff {d : Duration} {n : Nat} (hn : n < UInt64.size) :
    d = .ofSeconds n ↔ d.total = n * nanosPerSecond := by
  have hmin : min n (UInt64.size - 1) = n := Nat.min_eq_left (Nat.le_sub_one_of_lt hn)
  rw [← hmin, ← total_ofSeconds, hmin]
  cases d
  simp [ofSeconds]

theorem nanos_ofSeconds (n : Nat) : (ofSeconds n).nanos = 0 := Nat.mul_mod_left ..

theorem ceilSeconds_ofSeconds (n : Nat) : (ofSeconds n).ceilSeconds = min n (UInt64.size - 1) := by
  rw [ceilSeconds, total_ofSeconds, nanosPerSecond]
  omega

/-- A duration of whole seconds is that many seconds. -/
theorem ofSeconds_ceilSeconds {d : Duration} (h : d.nanos = 0) : ofSeconds d.ceilSeconds = d := by
  have hlt := d.total_lt
  rw [nanos] at h
  have htotal : (ofSeconds d.ceilSeconds).total = d.total := by
    rw [total_ofSeconds, ceilSeconds]
    simp only [nanosPerSecond, UInt64.size] at h hlt ⊢
    omega
  cases d
  simpa [ofSeconds] using htotal

end Duration

namespace Timeout

/-- A timeout rounded up to whole seconds, at most as many as fit 64 bits. -/
def roundUp : Timeout → Timeout
  | .unlimited => .unlimited
  | .after d => .after (.ofSeconds d.ceilSeconds)

/-- The timeout is a number of whole seconds, or switched off. -/
def IsWhole : Timeout → Prop
  | .unlimited => True
  | .after d => d.nanos = 0

/-- Rounding up does not lead beyond the largest number of seconds. -/
theorem wholeSeconds_eq (d : Duration) : wholeSeconds d = min d.ceilSeconds (UInt64.size - 1) := by
  rw [wholeSeconds, d.ceilSeconds_eq]

theorem roundUp_of_isWhole {t : Timeout} (h : t.IsWhole) : t.roundUp = t := by
  cases t with
  | unlimited => rfl
  | after d => exact congrArg after (Duration.ofSeconds_ceilSeconds h)

/-- A timeout that has been rounded up is whole. -/
theorem isWhole_roundUp (t : Timeout) : t.roundUp.IsWhole := by
  cases t with
  | unlimited => trivial
  | after d => exact Duration.nanos_ofSeconds _

/-- Rounding does not change the written form. -/
theorem text_roundUp (t : Timeout) : t.roundUp.text = t.text := by
  cases t with
  | unlimited => rfl
  | after d =>
      simp only [roundUp, text, wholeSeconds_eq, Duration.ceilSeconds_ofSeconds, Nat.min_assoc,
        Nat.min_self]

/-- The word for a timeout that is switched off is no numeral. -/
theorem not_numeral_noTimeout {value : Nat} : ¬ Text.Numeral noTimeout value := by
  rintro (h | ⟨digits, hdigits, -⟩)
  · exact absurd (h.isDigit 'N' (by decide)) (by decide)
  · have hletters : ['N', 'O', 'N', 'E'] = '+' :: digits := hdigits
    cases hletters

theorem wholeSeconds_lt (d : Duration) : wholeSeconds d < UInt64.size :=
  Nat.lt_of_le_of_lt (Nat.min_le_right ..) (by decide)

/-- A duration is written as the numeral of its seconds, rounded up. -/
theorem numeral_text_after (d : Duration) :
    Text.Numeral (Timeout.after d).text (wholeSeconds d) := by
  refine .inl ?_
  rw [text, String.toList_ofList]
  exact Text.digits_toDigits _

/-- A number of seconds is not written with letters. -/
theorem text_after_ne_noTimeout (d : Duration) : (Timeout.after d).text ≠ noTimeout := by
  intro h
  have hnumeral := numeral_text_after d
  rw [h] at hnumeral
  exact not_numeral_noTimeout hnumeral

/-- **The written form is read as the rounded timeout.** -/
theorem ofText?_text (t : Timeout) : ofText? t.text = some t.roundUp := by
  cases t with
  | unlimited => rfl
  | after d =>
      have hread : Text.readNat64 (Timeout.after d).text = .ok (wholeSeconds d) :=
        Text.readNat64_eq_ok_iff.mpr ⟨numeral_text_after d, wholeSeconds_lt d⟩
      have hseconds : Duration.ofSeconds (wholeSeconds d) = .ofSeconds d.ceilSeconds := by
        simp only [Duration.ofSeconds, wholeSeconds_eq, Nat.min_assoc, Nat.min_self]
      rw [ofText?, if_neg (text_after_ne_noTimeout d), hread, roundUp, ← hseconds]

/-- What is read is whole. -/
theorem isWhole_of_ofText? {text : String} {t : Timeout} (h : ofText? text = some t) :
    t.IsWhole := by
  rw [ofText?] at h
  split at h
  · cases h
    trivial
  · split at h
    · cases h
      exact Duration.nanos_ofSeconds _
    · cases h

/-! ### What is read -/

variable {s : String} {d d' : Duration}

theorem ofText?_eq_unlimited_iff : ofText? s = some .unlimited ↔ s = noTimeout := by
  rw [ofText?]
  split
  · next hnone => exact ⟨fun _ => hnone, fun _ => rfl⟩
  · next hnone =>
      refine ⟨fun h => ?_, fun h => (hnone h).elim⟩
      split at h <;> cases h

/-- The texts that are read as durations are the numerals of values that fit 64 bits. -/
theorem ofText?_eq_after_iff :
    ofText? s = some (.after d) ↔
      ∃ value, Text.Numeral s value ∧ value < UInt64.size ∧
        d.total = value * nanosPerSecond := by
  constructor
  · intro h
    rw [ofText?] at h
    split at h
    · cases h
    · split at h
      · next value hvalue =>
          obtain ⟨hnumeral, hfits⟩ := Text.readNat64_eq_ok_iff.mp hvalue
          cases h
          exact ⟨value, hnumeral, hfits, (Duration.eq_ofSeconds_iff hfits).mp rfl⟩
      · cases h
  · rintro ⟨value, hnumeral, hfits, htotal⟩
    have hword : s ≠ noTimeout := by
      rintro rfl
      exact not_numeral_noTimeout hnumeral
    rw [ofText?, if_neg hword, Text.readNat64_eq_ok_iff.mpr ⟨hnumeral, hfits⟩,
      (Duration.eq_ofSeconds_iff hfits).mpr htotal]

/-- Nothing else is read. -/
theorem ofText?_eq_none_iff :
    ofText? s = none ↔
      s ≠ noTimeout ∧ ∀ value, Text.Numeral s value → UInt64.size ≤ value := by
  constructor
  · refine fun hnone => ⟨?_, fun value hnumeral => Nat.not_lt.mp fun hfits => ?_⟩
    · rintro rfl
      cases hnone
    · have hread : ofText? s = some (.after (.ofSeconds value)) := ofText?_eq_after_iff.mpr
        ⟨value, hnumeral, hfits, (Duration.eq_ofSeconds_iff hfits).mp rfl⟩
      rw [hnone] at hread
      cases hread
  · rintro ⟨hword, hlarge⟩
    refine Option.eq_none_iff_forall_ne_some.mpr fun t ht => ?_
    cases t with
    | unlimited => exact hword (ofText?_eq_unlimited_iff.mp ht)
    | after d =>
        obtain ⟨value, hnumeral, hfits, -⟩ := ofText?_eq_after_iff.mp ht
        exact Nat.not_lt.mpr (hlarge value hnumeral) hfits

theorem ofText_eq_ok_iff {t : Timeout} : ofText s = .ok t ↔ ofText? s = some t := by
  rw [ofText]
  cases ofText? s <;> simp

theorem ofText_eq_error_iff {e : Error} :
    ofText s = .error e ↔ e = .invalidTimeout s ∧ ofText? s = none := by
  rw [ofText]
  cases ofText? s <;> simp [eq_comm]

/-- A duration that is written comes back as another one. -/
def ReadBack (d d' : Duration) : Prop := ofText (Timeout.after d).text = .ok (.after d')

/-- A duration is read back as the least number of whole seconds that is not below it. -/
theorem readBack_iff : ReadBack d d' ↔ d' = .ofSeconds d.ceilSeconds := by
  rw [ReadBack, ofText_eq_ok_iff, ofText?_text, roundUp]
  simp [eq_comm]

theorem readBack_of_nanos_eq_zero (h : d.nanos = 0) : ReadBack d d :=
  readBack_iff.mpr (Duration.ofSeconds_ceilSeconds h).symm

/-- What comes back is not shorter, but for durations beyond what is written. -/
theorem ReadBack.le (h : ReadBack d d') (hd : d.total ≤ (UInt64.size - 1) * nanosPerSecond) :
    d.total ≤ d'.total := by
  obtain rfl := readBack_iff.mp h
  have hceil : d.ceilSeconds ≤ UInt64.size - 1 := (d.ceilSeconds_le_iff _).mpr hd
  rw [Duration.total_ofSeconds, Nat.min_eq_left hceil]
  exact (d.ceilSeconds_le_iff _).mp (Nat.le_refl _)

/-- Longer durations are not read back as shorter ones. -/
theorem ReadBack.mono {a b a' b' : Duration} (ha : ReadBack a a') (hb : ReadBack b b')
    (hab : a.total ≤ b.total) : a'.total ≤ b'.total := by
  obtain rfl := readBack_iff.mp ha
  obtain rfl := readBack_iff.mp hb
  have hceil : a.ceilSeconds ≤ b.ceilSeconds :=
    (a.ceilSeconds_le_iff _).mpr (Nat.le_trans hab ((b.ceilSeconds_le_iff _).mp (Nat.le_refl _)))
  rw [Duration.total_ofSeconds, Duration.total_ofSeconds]
  exact Nat.mul_le_mul_right _ (by omega)

/-- **Timeouts as texts.**  Just the word for none and the numerals of 64 bits are read, everything
else is refused with an error that shows the text.  A duration comes back as the least number of
whole seconds that is not below it, as far as that fits. -/
theorem text_codec :
    (∀ s, ofText s = .ok .unlimited ↔ s = "NONE") ∧
    (∀ s d, ofText s = .ok (.after d) ↔
      ∃ value, Text.Numeral s value ∧ value < UInt64.size ∧ d.total = value * nanosPerSecond) ∧
    (∀ s e, ofText s = .error e ↔
      e = .invalidTimeout s ∧ s ≠ "NONE" ∧ ∀ value, Text.Numeral s value → UInt64.size ≤ value) ∧
    ofText (text .unlimited) = .ok .unlimited ∧
    (∀ d, ∃ d' n, ReadBack d d' ∧ (∀ m, n ≤ m ↔ d.total ≤ m * nanosPerSecond) ∧
      d'.total = min n (UInt64.size - 1) * nanosPerSecond) ∧
    (∀ d, d.nanos = 0 → ReadBack d d) ∧
    (∀ d d', ReadBack d d' → d.total ≤ (UInt64.size - 1) * nanosPerSecond →
      d.total ≤ d'.total) ∧
    (∀ a b a' b', ReadBack a a' → ReadBack b b' → a.total ≤ b.total → a'.total ≤ b'.total) ∧
    (∀ t : Timeout, ∃ t', ofText t.text = .ok t' ∧ t'.text = t.text) := by
  refine ⟨fun s => ?_, fun s d => ?_, fun s e => ?_, rfl, fun d => ?_,
    fun _ => readBack_of_nanos_eq_zero, fun _ _ => ReadBack.le, fun _ _ _ _ => ReadBack.mono,
    fun t => ?_⟩
  · rw [ofText_eq_ok_iff, ofText?_eq_unlimited_iff, noTimeout]
  · rw [ofText_eq_ok_iff, ofText?_eq_after_iff]
  · rw [ofText_eq_error_iff, ofText?_eq_none_iff, noTimeout]
  · exact ⟨_, d.ceilSeconds, readBack_iff.mpr rfl, d.ceilSeconds_le_iff,
      Duration.total_ofSeconds _⟩
  · exact ⟨t.roundUp, ofText_eq_ok_iff.mpr (ofText?_text t), text_roundUp t⟩

/-- A sign and zeros in front are read and a fraction is not; the longest duration comes back
shorter. -/
theorem text_codec_limits :
    ofText "+0030" = .ok (.after (.ofSeconds 30)) ∧
      ofText "1.5" = .error (.invalidTimeout "1.5") ∧
      ∃ d, ReadBack .longest d ∧ d.total < Duration.longest.total := by
  obtain ⟨-, hafter, herror, -, hback, -⟩ := text_codec
  refine ⟨(hafter _ _).mpr ⟨30, .inr ⟨['0', '0', '3', '0'], by decide, ?_⟩, by decide, rfl⟩,
    (herror _ _).mpr ⟨rfl, by decide, fun value hnumeral => ?_⟩, ?_⟩
  · exact ⟨List.cons_ne_nil _ _, by simp, rfl⟩
  · rcases hnumeral with h | ⟨digits, hdigits, -⟩
    · exact absurd (h.isDigit '.' (by decide)) (by decide)
    · have hpoint : ['1', '.', '5'] = '+' :: digits := hdigits
      cases hpoint
  · obtain ⟨d, n, hd, -, htotal⟩ := hback .longest
    refine ⟨d, hd, ?_⟩
    calc d.total
      _ = min n (UInt64.size - 1) * nanosPerSecond := htotal
      _ ≤ (UInt64.size - 1) * nanosPerSecond := Nat.mul_le_mul_right _ (Nat.min_le_right ..)
      _ < Duration.longest.total := by decide

end Timeout

end DurableWorkflow
