import DurableWorkflow.Proofs.Json.Scan
import DurableWorkflow.Text.Natural

/-!
# Numerals

Which texts are read as natural numbers: one or more decimal digits, optionally after a plus sign,
with a value that fits 64 bits.  Zeros in front do not matter.

## Main Definitions

* `Text.Digits`: one or more decimal digits and their value.
* `Text.Numeral`: a text is written for a value.

## Main Statements

* `Text.readDigits_eq_ok_iff`: digits are read as their value, if it fits.
* `Text.readNat64_eq_ok_iff`: the texts that are read, and as what.
* `Text.digits_toDigits`: a decimal is written for its number.
-/

namespace DurableWorkflow.Text

/-- One or more decimal digits and their value. -/
structure Digits (cs : List Char) (value : Nat) : Prop where
  ne_nil : cs ≠ []
  isDigit : ∀ c ∈ cs, c.isDigit = true
  value_eq : value = Nat.ofDigitChars 10 cs 0

/-- A text is written for a value: as digits, optionally after a plus sign. -/
def Numeral (text : String) (value : Nat) : Prop :=
  Digits text.toList value ∨ ∃ digits, text.toList = '+' :: digits ∧ Digits digits value

/-! ### Digits -/

/-- Digits only make a number larger. -/
theorem le_ofDigitChars (ds : List Char) (n : Nat) : n ≤ Nat.ofDigitChars 10 ds n := by
  induction ds generalizing n with
  | nil => exact Nat.le_refl n
  | cons d ds ih =>
      rw [Nat.ofDigitChars_cons]
      exact Nat.le_trans (by omega) (ih _)

/-- Digits behind a value that fits are read as their value if it fits, and nothing else is read. -/
theorem readDigits_eq_ok_iff {ds : List Char} {n value : Nat} (hn : n ≤ maxNat64) :
    readDigits ds n = .ok value ↔
      (∀ d ∈ ds, d.isDigit = true) ∧ value = Nat.ofDigitChars 10 ds n ∧ value ≤ maxNat64 := by
  induction ds generalizing n with
  | nil =>
      constructor
      · intro h
        cases h
        exact ⟨fun _ hd => (List.not_mem_nil hd).elim, rfl, hn⟩
      · rintro ⟨-, rfl, -⟩
        rfl
  | cons d ds ih =>
      rw [readDigits, Nat.ofDigitChars_cons, List.forall_mem_cons]
      by_cases hd : d.isDigit = true
      · rw [if_pos hd]
        dsimp only
        by_cases hstep : maxNat64 < 10 * n + (d.toNat - '0'.toNat)
        · -- What is too large stays too large.
          have hle := le_ofDigitChars ds (10 * n + (d.toNat - '0'.toNat))
          rw [if_pos hstep]
          refine ⟨nofun, ?_⟩
          rintro ⟨-, rfl, hfits⟩
          omega
        · rw [if_neg hstep, ih (Nat.not_lt.mp hstep)]
          simp only [hd, true_and]
      · rw [if_neg hd]
        exact ⟨nofun, fun h => (hd h.1.1).elim⟩

theorem readDigits_zero_eq_ok_iff {ds : List Char} {value : Nat} (hne : ds ≠ []) :
    readDigits ds 0 = .ok value ↔ Digits ds value ∧ value ≤ maxNat64 := by
  rw [readDigits_eq_ok_iff (Nat.zero_le _)]
  constructor
  · rintro ⟨hdigit, hvalue, hfits⟩
    exact ⟨⟨hne, hdigit, hvalue⟩, hfits⟩
  · rintro ⟨⟨-, hdigit, hvalue⟩, hfits⟩
    exact ⟨hdigit, hvalue, hfits⟩

theorem isDigit_of_mem_toDigits {n : Nat} {d : Char} (h : d ∈ Nat.toDigits 10 n) :
    d.isDigit = true := Nat.isDigit_of_mem_toDigits (by decide) (by decide) h

/-- A decimal is written for its number. -/
theorem digits_toDigits (n : Nat) : Digits (Nat.toDigits 10 n) n where
  ne_nil := by
    obtain ⟨d, ds, hds, -⟩ := Json.toDigits_eq_cons n
    rw [hds]
    exact List.cons_ne_nil d ds
  isDigit := fun _ => isDigit_of_mem_toDigits
  value_eq := Nat.ofDigitChars_ten_toDigits.symm

/-- A sign is no digit. -/
theorem not_digits_plus {ds : List Char} {value : Nat} : ¬ Digits ('+' :: ds) value := by
  intro h
  exact absurd (h.isDigit _ List.mem_cons_self) (by decide)

/-! ### Texts -/

theorem readNat64Chars_eq_ok_iff {cs : List Char} {value : Nat} :
    readNat64Chars cs = .ok value ↔
      (Digits cs value ∨ ∃ digits, cs = '+' :: digits ∧ Digits digits value) ∧
        value ≤ maxNat64 := by
  unfold readNat64Chars
  split
  · refine ⟨nofun, ?_⟩
    rintro ⟨h | ⟨ds, hcs, -⟩, -⟩
    · exact (h.ne_nil rfl).elim
    · cases hcs
  · refine ⟨nofun, ?_⟩
    rintro ⟨h | ⟨ds, hcs, h⟩, -⟩
    · exact (not_digits_plus h).elim
    · cases hcs
      exact (h.ne_nil rfl).elim
  · next rest hrest =>
      have hne : rest ≠ [] := fun hnil => hrest (by rw [hnil])
      rw [readDigits_zero_eq_ok_iff hne]
      refine and_congr_left fun _ => ⟨fun h => .inr ⟨rest, rfl, h⟩, ?_⟩
      rintro (h | ⟨ds, hcs, h⟩)
      · exact (not_digits_plus h).elim
      · cases hcs
        exact h
  · next hempty _ hplus =>
      rw [readDigits_zero_eq_ok_iff hempty]
      refine and_congr_left fun _ => ⟨.inl, ?_⟩
      rintro (h | ⟨ds, hcs, -⟩)
      · exact h
      · exact (hplus ds hcs).elim

/-- **The texts that are read are the numerals of the values that fit.** -/
theorem readNat64_eq_ok_iff {text : String} {value : Nat} :
    readNat64 text = .ok value ↔ Numeral text value ∧ value < UInt64.size := by
  rw [Nat.lt_iff_le_pred (by decide)]
  exact readNat64Chars_eq_ok_iff

end DurableWorkflow.Text
