import DurableWorkflow.Json.Parse
import DurableWorkflow.Proofs.Json.Scan

/-!
# The parts of a value that are no containers

Whether a value is written without loss depends on its leaves alone, and of the leaves of a value
that has been read from a text something is known: their integers fit 64 bits.

## Main Definitions

* `Json.leaves`: the parts that are no containers.
* `Json.WordsFit`: every integer in a value fits 64 bits.

## Main Statements

* `exact_of_leaves`: a value is exact if its leaves are.
* `wordsFit_of_parse?`: what is read from a text has only integers that fit.

## Design Notes

Scanner and assembly each keep an invariant of their own: the tokens read so far carry values that
fit, and so do the parts of the open containers.
-/

namespace DurableWorkflow.Json

mutual

/-- The parts that are no containers, from left to right. -/
def leaves : Json → List Json
  | .array items => itemLeaves items
  | .object fields => fieldLeaves fields
  | .null => [.null]
  | .bool b => [.bool b]
  | .int n => [.int n]
  | .double d => [.double d]
  | .string s => [.string s]
  | .broken => [.broken]

/-- The leaves of the items of an array. -/
def itemLeaves : List Json → List Json
  | [] => []
  | x :: rest => leaves x ++ itemLeaves rest

/-- The leaves of the fields of an object. -/
def fieldLeaves : List (String × Json) → List Json
  | [] => []
  | (_, x) :: rest => leaves x ++ fieldLeaves rest

end

theorem mem_itemLeaves {x : Json} {items : List Json} :
    x ∈ itemLeaves items ↔ ∃ v ∈ items, x ∈ v.leaves := by
  induction items with
  | nil => simp [itemLeaves]
  | cons v rest ih => simp [itemLeaves, ih]

theorem mem_fieldLeaves {x : Json} {fields : List (String × Json)} :
    x ∈ fieldLeaves fields ↔ ∃ f ∈ fields, x ∈ f.2.leaves := by
  induction fields with
  | nil => simp [fieldLeaves]
  | cons f rest ih =>
      obtain ⟨k, v⟩ := f
      simp [fieldLeaves, ih]

/-! ### Exactness -/

/-- The items of a list are written as they are if each of them is. -/
theorem exactItems_iff {items : List Json} : ExactItems items ↔ ∀ v ∈ items, Exact v := by
  induction items with
  | nil => simp [ExactItems]
  | cons v rest ih => simp [ExactItems, ih]

/-- Parts that can be written without loss: neither broken nor floating-point numbers, and integers
only if they fit 64 bits. -/
def Writable (parts : List Json) : Prop :=
  ∀ x ∈ parts, x ≠ .broken ∧ (∀ d, x ≠ .double d) ∧ ∀ n, x = .int n → FitsWord n

/-- Parts can be written together if they can be written apart. -/
theorem writable_append {parts rest : List Json} :
    Writable (parts ++ rest) ↔ Writable parts ∧ Writable rest := List.forall_mem_append

mutual

/-- A value is written without loss if its leaves are. -/
theorem exact_of_leaves : ∀ v : Json, Writable v.leaves → Exact v
  | .null, _ | .bool _, _ | .string _, _ => trivial
  | .int n, h => (h (.int n) (by simp [leaves])).2.2 n rfl
  | .double d, h => absurd rfl ((h (.double d) (by simp [leaves])).2.1 d)
  | .broken, h => absurd rfl (h .broken (by simp [leaves])).1
  | .array items, h => exactItems_of_leaves items (by rwa [leaves] at h)
  | .object fields, h => exactFields_of_leaves fields (by rwa [leaves] at h)

/-- Items whose leaves can all be written are written as they are. -/
theorem exactItems_of_leaves : ∀ items : List Json, Writable (itemLeaves items) → ExactItems items
  | [], _ => trivial
  | v :: rest, h => by
      obtain ⟨hv, hrest⟩ := writable_append.mp h
      exact ⟨exact_of_leaves v hv, exactItems_of_leaves rest hrest⟩

/-- Fields whose leaves can all be written are written as they are. -/
theorem exactFields_of_leaves :
    ∀ fields : List (String × Json), Writable (fieldLeaves fields) → ExactFields fields
  | [], _ => trivial
  | (_, v) :: rest, h => by
      obtain ⟨hv, hrest⟩ := writable_append.mp h
      exact ⟨exact_of_leaves v hv, exactFields_of_leaves rest hrest⟩

end

/-! ### Integers that fit -/

/-- Every integer in the value fits 64 bits, with or without sign. -/
def WordsFit (v : Json) : Prop := ∀ n, .int n ∈ v.leaves → FitsWord n

/-- The numbers of a list are those of its items. -/
theorem wordsFit_array {items : List Json} :
    WordsFit (.array items) ↔ ∀ v ∈ items, WordsFit v := by
  simp only [WordsFit, leaves, mem_itemLeaves]
  exact ⟨fun h v hv n hn => h n ⟨v, hv, hn⟩, fun h n ⟨v, hv, hn⟩ => h v hv n hn⟩

/-- The numbers of a record are those of its fields. -/
theorem wordsFit_object {fields : List (String × Json)} :
    WordsFit (.object fields) ↔ ∀ f ∈ fields, WordsFit f.2 := by
  simp only [WordsFit, leaves, mem_fieldLeaves]
  exact ⟨fun h f hf n hn => h n ⟨f, hf, hn⟩, fun h n ⟨f, hf, hn⟩ => h f hf n hn⟩

/-- A value without containers and integers. -/
theorem wordsFit_of_leaf {v : Json} (hleaf : v.leaves = [v]) (hint : ∀ n, v ≠ .int n) :
    WordsFit v := by
  intro n hn
  rw [hleaf, List.mem_singleton] at hn
  exact absurd hn.symm (hint n)

theorem wordsFit_null : WordsFit .null := wordsFit_of_leaf rfl (by simp)

namespace NumberText

theorem wordsFit_double (t : NumberText) : WordsFit t.double := by
  rcases hwhole : takeWhole t.whole 0 with ⟨n, skipped⟩
  rcases hfraction : takeFraction (t.fraction.getD []) n with ⟨significand, taken⟩
  simp only [double, hwhole, hfraction]
  split
  · exact wordsFit_of_leaf rfl (by simp)
  · exact wordsFit_of_leaf rfl (by simp)

/-- A literal denotes an integer only if the integer fits. -/
theorem wordsFit_value (t : NumberText) : WordsFit t.value := by
  have hmin : Int64.minValue.toInt = -9223372036854775808 := by decide
  have hmax : UInt64.size = 18446744073709551616 := by decide
  have hfits {n m : Int} (hn : FitsWord n) (hm : Json.int m ∈ (Json.int n).leaves) :
      FitsWord m := by
    simp only [leaves, List.mem_singleton, Json.int.injEq] at hm
    rwa [hm]
  rw [value]
  split
  · dsimp only
    split
    · split
      · next hrange =>
          rw [hmin] at hrange
          exact fun m => hfits ⟨by rw [hmin]; omega, by rw [hmax]; omega⟩
      · exact t.wordsFit_double
    · split
      · next hrange =>
          rw [hmax] at hrange
          exact fun m => hfits ⟨by rw [hmin]; omega, by rw [hmax]; omega⟩
      · exact t.wordsFit_double
  · exact t.wordsFit_double

end NumberText

/-! ### Tokens -/

/-- What each step of a partial computation keeps holds at its end. -/
theorem invariant_of_foldlM {α β : Type} {step : β → α → Option β} (motive : β → Prop)
    {items : List α} (hstep : ∀ b, motive b → ∀ x ∈ items, ∀ b', step b x = some b' → motive b')
    {init final : β} (hinit : motive init) (h : items.foldlM step init = some final) :
    motive final := by
  induction items generalizing init with
  | nil =>
      cases h
      exact hinit
  | cons x rest ih =>
      rw [List.foldlM_cons] at h
      obtain ⟨next, hnext, hrest⟩ := Option.bind_eq_some_iff.mp h
      exact ih (fun b hb y hy => hstep b hb y (List.mem_cons_of_mem _ hy))
        (hstep init hinit x List.mem_cons_self next hnext) hrest

/-- The value that a token carries fits. -/
def Token.Fits : Token → Prop
  | .scalar v => WordsFit v
  | _ => True

/-- The tokens read so far fit, and so does the value of the word that is being read. -/
structure Scanner.Fits (s : Scanner) : Prop where
  tokens : ∀ t ∈ s.tokens, t.Fits
  word : ∀ left value, s.mode = .word left value → WordsFit value

namespace Scanner.Fits

variable {s : Scanner} (hs : s.Fits)

theorem start : Scanner.start.Fits := ⟨by simp [Scanner.start], by simp [Scanner.start]⟩

include hs

/-- A scanner may give a token whose number fits. -/
theorem emit {t : Token} (ht : t.Fits) : (s.emit t).Fits :=
  ⟨List.forall_mem_cons.mpr ⟨ht, hs.tokens⟩, by simp [Scanner.emit]⟩

/-- A scanner may go into a mode that stands for a number that fits. -/
theorem into {mode : Mode} (hmode : ∀ left value, mode = .word left value → WordsFit value) :
    (s.into mode).Fits := ⟨hs.tokens, hmode⟩

/-- A scanner gives a number as it is only if it fits. -/
theorem number (negative : Bool) (whole : List Char) (fraction : Option (List Char))
    (exponent : Option (Bool × List Char)) : (s.number negative whole fraction exponent).Fits :=
  hs.emit (NumberText.wordsFit_value _)

theorem open? {t : Scanner} {c : Char} (h : s.open? c = some t) : t.Fits := by
  have hword {left : List Char} {v : Json} (hv : WordsFit v) :
      ∀ left' value, Mode.word left v = .word left' value → WordsFit value := by
    rintro _ _ ⟨⟩
    exact hv
  unfold Scanner.open? at h
  split at h
  · cases h
    exact hs.into (by simp)
  · split at h
    -- Between two tokens a bracket or a separator is a token, and all else starts one.
    case h_9 | h_10 | h_11 =>
      cases h
      exact hs.into (hword (wordsFit_of_leaf rfl (by simp)))
    case h_7 | h_8 => cases h; exact hs.into (by simp)
    case h_12 =>
      split at h
      · cases h
        exact hs.into (by simp)
      · cases h
    all_goals
      cases h
      exact hs.emit trivial

/-- A character more. -/
theorem feed {t : Scanner} {c : Char} (h : s.feed c = some t) : t.Fits := by
  have hplain {mode : Mode} (hmode : ∀ left value, mode ≠ .word left value) :
      (s.into mode).Fits := hs.into fun left value heq => absurd heq (hmode left value)
  unfold Scanner.feed at h
  split at h
  case h_1 => exact hs.open? h
  case h_2 left value hmode =>
    have hvalue := hs.word left value hmode
    split at h
    · cases h
    · split at h
      · cases h
        exact hs.emit hvalue
      · cases h
    · split at h
      · cases h
        refine hs.into ?_
        rintro _ _ ⟨⟩
        exact hvalue
      · cases h
  case h_12 =>
    obtain ⟨d, -, rfl⟩ := Option.map_eq_some_iff.mp h
    split
    · exact hplain (by simp)
    · exact hplain (by simp)
  case h_11 =>
    split at h
    · cases h
      exact hplain (by simp)
    · obtain ⟨e, -, rfl⟩ := Option.map_eq_some_iff.mp h
      exact hplain (by simp)
  -- In a number or a text, a character ends the number and opens what follows it, fails, is one
  -- more character of the same token, or ends the text.
  all_goals
    repeat' split at h
    all_goals
      first
      | exact (hs.number _ _ _ _).open? h
      | (cases h; done)
      | (cases h; exact hplain (by simp))
      | (cases h; exact hs.emit trivial)

/-- The tokens of a scanner at its end. -/
theorem finish? {ts : List Token} (h : s.finish? = some ts) : ∀ t ∈ ts, t.Fits := by
  unfold Scanner.finish? at h
  split at h
  case h_1 =>
    cases h
    simpa using hs.tokens
  case h_5 => cases h
  all_goals
    cases h
    simpa using (hs.number _ _ _ _).tokens

end Scanner.Fits

/-- The tokens of a text carry integers that fit. -/
theorem fits_of_tokens? {text : String} {ts : List Token} (h : tokens? text = some ts) :
    ∀ t ∈ ts, t.Fits := by
  obtain ⟨s, hrun, hfinish⟩ := Option.bind_eq_some_iff.mp h
  exact (invariant_of_foldlM Scanner.Fits (fun _ hs _ _ _ => hs.feed) .start hrun).finish? hfinish

/-! ### Assembled values -/

/-- The parts of an open container fit. -/
def Frame.Fits : Frame → Prop
  | .array items => ∀ v ∈ items, WordsFit v
  | .object fields _ _ => ∀ f ∈ fields, WordsFit f.2

/-- The parts of all open containers fit, and so does the whole value. -/
structure Assembly.Fits (a : Assembly) : Prop where
  stack : ∀ frame ∈ a.stack, frame.Fits
  result : WordsFit a.result

namespace Assembly.Fits

theorem start : Assembly.start.Fits := ⟨by simp [Assembly.start], wordsFit_null⟩

/-- A value whose numbers fit may be put into what is being put together. -/
theorem deliver {v : Json} (hv : WordsFit v) {stack : List Frame}
    (hstack : ∀ frame ∈ stack, frame.Fits) : (deliver v stack).Fits := by
  unfold Assembly.deliver
  split
  · exact ⟨by simp, hv⟩
  · next items stack =>
      obtain ⟨hitems, hrest⟩ := List.forall_mem_cons.mp hstack
      exact ⟨List.forall_mem_cons.mpr ⟨List.forall_mem_cons.mpr ⟨hv, hitems⟩, hrest⟩,
        wordsFit_null⟩
  · next fields sound key stack =>
      obtain ⟨hfields, hrest⟩ := List.forall_mem_cons.mp hstack
      split
      · exact ⟨List.forall_mem_cons.mpr ⟨List.forall_mem_cons.mpr ⟨hv, hfields⟩, hrest⟩,
          wordsFit_null⟩
      · exact ⟨List.forall_mem_cons.mpr ⟨hfields, hrest⟩, wordsFit_null⟩

variable {stack : List Frame} (hstack : ∀ frame ∈ stack, frame.Fits) {a : Assembly}

include hstack

theorem closeArray? (h : Assembly.closeArray? stack = some a) : a.Fits := by
  unfold Assembly.closeArray? at h
  split at h
  · next items rest =>
      cases h
      obtain ⟨hitems, hrest⟩ := List.forall_mem_cons.mp hstack
      refine deliver (wordsFit_array.mpr ?_) hrest
      simpa [Frame.Fits] using hitems
  · cases h

theorem closeObject? (h : Assembly.closeObject? stack = some a) : a.Fits := by
  unfold Assembly.closeObject? at h
  split at h
  · next fields sound key rest =>
      cases h
      obtain ⟨hfields, hrest⟩ := List.forall_mem_cons.mp hstack
      refine deliver ?_ hrest
      split
      · exact wordsFit_object.mpr (by simpa [Frame.Fits] using hfields)
      · exact wordsFit_of_leaf rfl (by simp)
  · cases h

/-- A token whose number fits is a value whose numbers fit. -/
theorem value? {t : Token} (ht : t.Fits) (h : Assembly.value? t stack = some a) : a.Fits := by
  unfold Assembly.value? at h
  split at h
  case h_1 | h_2 =>
    cases h
    exact ⟨List.forall_mem_cons.mpr ⟨by simp [Frame.Fits], hstack⟩, wordsFit_null⟩
  case h_3 =>
    cases h
    exact deliver ht hstack
  case h_4 | h_5 =>
    cases h
    exact deliver (wordsFit_of_leaf rfl (by simp)) hstack
  case h_6 => cases h

theorem key? {t : Token} (h : Assembly.key? t stack = some a) : a.Fits := by
  unfold Assembly.key? at h
  split at h
  · cases h
    obtain ⟨hfields, hrest⟩ := List.forall_mem_cons.mp hstack
    exact ⟨List.forall_mem_cons.mpr ⟨hfields, hrest⟩, wordsFit_null⟩
  · cases h

omit hstack in
/-- A token more. -/
theorem feed {b : Assembly} (ha : a.Fits) {t : Token} (ht : t.Fits) (h : a.feed t = some b) :
    b.Fits := by
  unfold Assembly.feed at h
  split at h
  case h_1 => exact value? ha.stack ht h
  case h_2 =>
    split at h
    · exact closeArray? ha.stack h
    · exact value? ha.stack ht h
  case h_3 =>
    split at h
    · exact closeObject? ha.stack h
    · exact key? ha.stack h
  case h_4 => exact key? ha.stack h
  case h_5 =>
    split at h
    · cases h
      exact ⟨ha.stack, wordsFit_null⟩
    · cases h
  case h_6 =>
    split at h
    · next hframe =>
        cases h
        exact ⟨ha.stack, wordsFit_null⟩
    · next hframe =>
        cases h
        exact ⟨ha.stack, wordsFit_null⟩
    · exact closeArray? ha.stack h
    · exact closeObject? ha.stack h
    · cases h
  case h_7 => cases h

end Assembly.Fits

/-- **What is read from a text has only integers that fit 64 bits.** -/
theorem wordsFit_of_parse? {text : String} {v : Json} (h : parse? text = some v) : WordsFit v := by
  obtain ⟨ts, htokens, hbuild⟩ := Option.bind_eq_some_iff.mp h
  obtain ⟨a, hrun, hfinish⟩ := Option.bind_eq_some_iff.mp hbuild
  have ha := invariant_of_foldlM Assembly.Fits
    (fun _ ha t ht _ => ha.feed (fits_of_tokens? htokens t ht)) .start hrun
  unfold Assembly.finish? at hfinish
  split at hfinish
  · cases hfinish
    exact ha.result
  · cases hfinish

end DurableWorkflow.Json
