import DurableWorkflow.Json.Print
import DurableWorkflow.Json.Token

/-!
# Scanning what has been written

The scanner reads the compact form of a value back as the tokens of the value.

## Main Definitions

* `Json.Exact`: a value that is written without loss, that is one without doubles and broken parts
  whose integers fit 64 bits.
* `Json.tokens`: the tokens of a value.
* `Scanner.run`: what the scanner makes of the characters that are left.

## Main Statements

* `Scanner.run_chars`: behind the compact form of a value the scanner stands between two tokens,
  with the tokens of the value read.
* `tokens?_render`: the tokens of the compact form are the tokens of the value.

## Design Notes

A number has no end of its own, so the statement for numbers, and with it the one for values, asks
that what follows cannot continue a number (`Closing`).
-/

namespace DurableWorkflow.Json

/-! ### Values that are written without loss -/

/-- An integer that is read as an integer: it fits 64 bits, with or without sign. -/
def FitsWord (n : Int) : Prop := Int64.minValue.toInt ≤ n ∧ n < UInt64.size

mutual

/-- No part is a double or broken, and every integer fits 64 bits. -/
def Exact : Json → Prop
  | .null | .bool _ | .string _ => True
  | .int n => FitsWord n
  | .double _ | .broken => False
  | .array items => ExactItems items
  | .object fields => ExactFields fields

/-- `Exact` of every item. -/
def ExactItems : List Json → Prop
  | [] => True
  | x :: rest => Exact x ∧ ExactItems rest

/-- `Exact` of every field's value. -/
def ExactFields : List (String × Json) → Prop
  | [] => True
  | (_, x) :: rest => Exact x ∧ ExactFields rest

end

mutual

/-- The tokens of a value. -/
def tokens : Json → List Token
  | .null => [.scalar .null]
  | .bool b => [.scalar (.bool b)]
  | .int n => [.scalar (.int n)]
  | .double d => [.scalar (.double d)]
  | .string s => [.text (some s)]
  | .array items => .openArray :: itemTokens items
  | .object fields => .openObject :: fieldTokens fields
  | .broken => [.scalar .broken]

/-- The tokens of the items of an array and of its end. -/
def itemTokens : List Json → List Token
  | [] => [.closeArray]
  | [x] => tokens x ++ [.closeArray]
  | x :: rest => tokens x ++ .comma :: itemTokens rest

/-- The tokens of the fields of an object and of its end. -/
def fieldTokens : List (String × Json) → List Token
  | [] => [.closeObject]
  | [(k, x)] => .text (some k) :: .colon :: (tokens x ++ [.closeObject])
  | (k, x) :: rest => .text (some k) :: .colon :: (tokens x ++ .comma :: fieldTokens rest)

end

/-! ### Runs of the scanner -/

namespace Scanner

/-- What the scanner makes of the characters that are left. -/
def run (s : Scanner) (cs : List Char) : Option (List Token) := (cs.foldlM feed s).bind finish?

theorem run_cons (s : Scanner) (c : Char) (cs : List Char) :
    s.run (c :: cs) = (s.feed c).bind fun s' => s'.run cs := by
  simp only [run, List.foldlM_cons]
  cases s.feed c <;> rfl

theorem run_cons_of_feed {s t : Scanner} {c : Char} (h : s.feed c = some t) (cs : List Char) :
    s.run (c :: cs) = t.run cs := by
  rw [run_cons, h, Option.bind_some]

end Scanner

/-- The characters cannot continue a number: there are none, or the first separates or closes. -/
def Closing (cs : List Char) : Prop := ∀ c rest, cs = c :: rest → c = ',' ∨ c = ']' ∨ c = '}'

theorem closing_nil : Closing [] := by
  intro c rest h
  cases h

theorem closing_comma (cs : List Char) : Closing (',' :: cs) := by
  intro c rest h
  cases h
  exact Or.inl rfl

theorem closing_bracket (cs : List Char) : Closing (']' :: cs) := by
  intro c rest h
  cases h
  exact Or.inr (Or.inl rfl)

theorem closing_brace (cs : List Char) : Closing ('}' :: cs) := by
  intro c rest h
  cases h
  exact Or.inr (Or.inr rfl)

/-! ### Numbers -/

theorem digitsValue_toDigits (n : Nat) : digitsValue (Nat.toDigits 10 n) = n := by
  have h := Nat.ofDigitChars_ten_toDigits (n := n)
  rwa [Nat.ofDigitChars_eq_foldl] at h

/-- A decimal is a zero alone, or starts with another digit. -/
theorem toDigits_eq_cons (n : Nat) :
    ∃ c cs, Nat.toDigits 10 n = c :: cs ∧ (cs = [] ∨ c ≠ '0') := by
  induction n using Nat.strongRecOn with
  | _ n ih =>
      by_cases h : n < 10
      · exact ⟨n.digitChar, [], Nat.toDigits_of_lt_base h, Or.inl rfl⟩
      · obtain ⟨c, cs, hcs, hc⟩ := ih (n / 10) (by omega)
        refine ⟨c, cs ++ [(n % 10).digitChar], ?_, Or.inr ?_⟩
        · rw [Nat.toDigits_of_base_le (by decide) (by omega), hcs, List.cons_append]
        · rcases hc with rfl | hc
          · intro hzero
            have hval : digitsValue [c] = n / 10 := by rw [← hcs, digitsValue_toDigits]
            subst hzero
            have : n / 10 = 0 := by rw [← hval]; rfl
            omega
          · exact hc

/-- The value of an integer literal. -/
theorem value_decimal {n : Int} (h : FitsWord n) :
    NumberText.value ⟨decide (n < 0), Nat.toDigits 10 n.natAbs, none, none⟩ = .int n := by
  obtain ⟨hlow, hhigh⟩ := h
  have hmin : Int64.minValue.toInt = -9223372036854775808 := by decide
  rw [hmin] at hlow
  simp only [NumberText.value, digitsValue_toDigits, hmin]
  by_cases hneg : n < 0
  · rw [if_pos (by simpa using hneg), if_pos (by omega)]
    congr 1
    omega
  · rw [if_neg (by simpa using hneg), if_pos (by omega)]
    congr 1
    omega

namespace Scanner

/-- A digit starts a number. -/
theorem open?_digit (s : Scanner) {c : Char} (h : c.isDigit = true) :
    s.open? c = some (s.into (.whole false [c])) := by
  have hne : ∀ x : Char, x.isDigit = false → c ≠ x := by
    rintro x hx rfl
    rw [h] at hx
    cases hx
  have hblank : isBlank c = false := by
    simp [isBlank, hne ' ' rfl, hne '\n' rfl, hne '\t' rfl, hne '\r' rfl]
  simp [open?, hblank, h, hne '[' rfl, hne ']' rfl, hne '{' rfl, hne '}' rfl, hne ',' rfl,
    hne ':' rfl, hne '"' rfl, hne '-' rfl, hne 'n' rfl, hne 't' rfl, hne 'f' rfl]

/-- Digits behind a first one are taken up one by one. -/
theorem run_whole (negative : Bool) (ts : List Token) (cs : List Char) :
    ∀ (ds acc : List Char), (∀ d ∈ ds, d.isDigit = true) → acc ≠ [] → (ds = [] ∨ acc ≠ ['0']) →
      run ⟨.whole negative acc, ts⟩ (ds ++ cs) =
        run ⟨.whole negative (ds.reverse ++ acc), ts⟩ cs := by
  intro ds
  induction ds with
  | nil => intro acc _ _ _; rfl
  | cons d ds ih =>
      intro acc hds hne hzero
      have hd : d.isDigit = true := hds d (by simp)
      have hacc : acc ≠ ['0'] := by simpa using hzero
      have hfeed : feed ⟨.whole negative acc, ts⟩ d = some ⟨.whole negative (d :: acc), ts⟩ := by
        simp [feed, hd, hacc, into]
      rw [List.cons_append, run_cons_of_feed hfeed]
      rw [ih (d :: acc) (fun x hx => hds x (by simp [hx])) (by simp) (Or.inr (by simp [hne]))]
      simp

/-- A number ends where what follows cannot continue it. -/
theorem run_whole_closing {cs : List Char} (hcs : Closing cs) (negative : Bool) (ds : List Char)
    (ts : List Token) :
    run ⟨.whole negative ds.reverse, ts⟩ cs =
      run ⟨.blank, .scalar (NumberText.value ⟨negative, ds, none, none⟩) :: ts⟩ cs := by
  cases cs with
  | nil => simp [run, finish?, number, emit]
  | cons c rest =>
      have hfeed : feed ⟨.whole negative ds.reverse, ts⟩ c =
          feed ⟨.blank, .scalar (NumberText.value ⟨negative, ds, none, none⟩) :: ts⟩ c := by
        rcases hcs c rest rfl with rfl | rfl | rfl <;>
          simp [feed, number, emit]
      rw [run_cons, run_cons, hfeed]

/-- An integer is read back. -/
theorem run_decimal {n : Int} (h : FitsWord n) (ts : List Token) {cs : List Char}
    (hcs : Closing cs) :
    run ⟨.blank, ts⟩ (decimal n ++ cs) = run ⟨.blank, .scalar (.int n) :: ts⟩ cs := by
  obtain ⟨d, ds, hds, hzero⟩ := toDigits_eq_cons n.natAbs
  have hdigit : ∀ x ∈ d :: ds, x.isDigit = true := by
    intro x hx
    rw [← hds] at hx
    exact Nat.isDigit_of_mem_toDigits (by decide) (by decide) hx
  have hd : d.isDigit = true := hdigit d (by simp)
  have hfirst : ds = [] ∨ [d] ≠ ['0'] := by simpa using hzero
  have hrest : ∀ negative : Bool, run ⟨.whole negative [d], ts⟩ (ds ++ cs) =
      run ⟨.blank, .scalar (NumberText.value ⟨negative, d :: ds, none, none⟩) :: ts⟩ cs := by
    intro negative
    rw [run_whole negative ts cs ds [d] (fun x hx => hdigit x (by simp [hx])) (by simp) hfirst]
    simpa using run_whole_closing hcs negative (d :: ds) ts
  have hval := value_decimal h
  rw [hds] at hval
  by_cases hneg : n < 0
  · rw [decide_eq_true hneg] at hval
    have hminus : feed ⟨.blank, ts⟩ '-' = some ⟨.minus, ts⟩ := rfl
    have hopen : feed ⟨.minus, ts⟩ d = some ⟨.whole true [d], ts⟩ := by simp [feed, hd, into]
    simp only [decimal, if_pos hneg, hds, List.cons_append]
    rw [run_cons_of_feed hminus, run_cons_of_feed hopen, hrest, hval]
  · rw [decide_eq_false hneg] at hval
    have hopen : feed ⟨.blank, ts⟩ d = some ⟨.whole false [d], ts⟩ := open?_digit ⟨.blank, ts⟩ hd
    simp only [decimal, if_neg hneg, hds, List.cons_append]
    rw [run_cons_of_feed hopen, hrest, hval]

end Scanner

/-! ### Strings -/

theorem hexValue?_hexDigit : ∀ n < 16, hexValue? (hexDigit n) = some n := by decide

namespace Scanner

/-- A character is read back as it has been written. -/
theorem run_escape (c : Char) (done : List Char) (ts : List Token) (cs : List Char) :
    run ⟨.text ⟨done, true, none⟩, ts⟩ (escape c ++ cs) =
      run ⟨.text ⟨c :: done, true, none⟩, ts⟩ cs := by
  unfold escape
  -- The escapes of single characters are read back by evaluation.
  by_cases hquote : c = '"'
  · subst hquote; rfl
  by_cases hslash : c = '\\'
  · subst hslash; rfl
  by_cases hback : c = '\x08'
  · subst hback; rfl
  by_cases hfeed : c = '\x0c'
  · subst hfeed; rfl
  by_cases hline : c = '\n'
  · subst hline; rfl
  by_cases hreturn : c = '\r'
  · subst hreturn; rfl
  by_cases htab : c = '\t'
  · subst htab; rfl
  simp only [if_neg hquote, if_neg hslash, if_neg hback, if_neg hfeed, if_neg hline, if_neg hreturn,
    if_neg htab]
  -- A control character is written by number, and its four digits are read one after the other.
  by_cases hcontrol : c.toNat < 0x20
  · have hhigh := hexValue?_hexDigit (c.toNat / 16) (by omega)
    have hlow := hexValue?_hexDigit (c.toNat % 16) (by omega)
    have hsum : 16 * (c.toNat / 16) + c.toNat % 16 = c.toNat := by omega
    simp only [if_pos hcontrol, List.cons_append, List.nil_append]
    rw [run_cons_of_feed (t := ⟨.escape ⟨done, true, none⟩, ts⟩) rfl,
      run_cons_of_feed (t := ⟨.unit ⟨done, true, none⟩ 4 0, ts⟩) rfl,
      run_cons_of_feed (t := ⟨.unit ⟨done, true, none⟩ 3 0, ts⟩) rfl,
      run_cons_of_feed (t := ⟨.unit ⟨done, true, none⟩ 2 0, ts⟩) rfl,
      run_cons_of_feed (t := ⟨.unit ⟨done, true, none⟩ 1 (c.toNat / 16), ts⟩)
        (by simp [feed, hhigh, into])]
    refine run_cons_of_feed ?_ cs
    simp only [feed, hlow, Option.map_some, into, Quoted.pushUnit, hsum, Char.ofNat_toNat]
    rw [if_pos (by decide)]
    simp [show ¬ 0xDC00 ≤ c.toNat by omega, show ¬ 0xD800 ≤ c.toNat by omega]
  · simp only [if_neg hcontrol, List.cons_append, List.nil_append]
    refine run_cons_of_feed ?_ cs
    simp [feed, hquote, hslash, hcontrol, into, Quoted.push]

/-- A string literal is read back. -/
theorem run_quote (s : String) (ts : List Token) (cs : List Char) :
    run ⟨.blank, ts⟩ (quote s ++ cs) = run ⟨.blank, .text (some s) :: ts⟩ cs := by
  have hbody : ∀ (body done : List Char),
      run ⟨.text ⟨done, true, none⟩, ts⟩ (body.flatMap escape ++ '"' :: cs) =
        run ⟨.blank, .text (some (String.ofList (done.reverse ++ body))) :: ts⟩ cs := by
    intro body
    induction body with
    | nil =>
        intro done
        refine run_cons_of_feed ?_ cs
        simp [feed, emit, Quoted.text?]
    | cons c body ih =>
        intro done
        rw [List.flatMap_cons, List.append_assoc, run_escape, ih]
        simp
  have hopen : feed ⟨.blank, ts⟩ '"' = some ⟨.text .empty, ts⟩ := rfl
  rw [quote, List.cons_append, run_cons_of_feed hopen, List.append_assoc]
  simpa [Quoted.empty] using hbody s.toList []

/-! ### Values -/

mutual

/-- **Behind the compact form of a value its tokens have been read.** -/
theorem run_chars : ∀ v : Json, Exact v → ∀ (ts : List Token) (cs : List Char), Closing cs →
    run ⟨.blank, ts⟩ (chars v ++ cs) = run ⟨.blank, v.tokens.reverse ++ ts⟩ cs
  | .null, _, ts, cs, _ => by rw [chars, Json.tokens]; rfl
  | .bool true, _, ts, cs, _ => by rw [chars, Json.tokens]; rfl
  | .bool false, _, ts, cs, _ => by rw [chars, Json.tokens]; rfl
  | .int n, h, ts, cs, hcs => by
      rw [Exact] at h
      rw [chars, Json.tokens, run_decimal h ts hcs]
      rfl
  | .string s, _, ts, cs, _ => by
      rw [chars, Json.tokens, run_quote]
      rfl
  | .array items, h, ts, cs, _ => by
      rw [Exact] at h
      have hopen : feed ⟨.blank, ts⟩ '[' = some ⟨.blank, .openArray :: ts⟩ := rfl
      rw [chars, Json.tokens, List.cons_append, run_cons_of_feed hopen, run_itemChars items h]
      simp
  | .object fields, h, ts, cs, _ => by
      rw [Exact] at h
      have hopen : feed ⟨.blank, ts⟩ '{' = some ⟨.blank, .openObject :: ts⟩ := rfl
      rw [chars, Json.tokens, List.cons_append, run_cons_of_feed hopen, run_fieldChars fields h]
      simp
  | .double _, h, _, _, _ => by simp [Exact] at h
  | .broken, h, _, _, _ => by simp [Exact] at h

/-- The items of a list are scanned as their tokens. -/
theorem run_itemChars : ∀ items : List Json, ExactItems items → ∀ (ts : List Token)
    (cs : List Char),
    run ⟨.blank, ts⟩ (itemChars items ++ cs) = run ⟨.blank, (itemTokens items).reverse ++ ts⟩ cs
  | [], _, ts, cs => by rw [itemChars, itemTokens]; rfl
  | [x], h, ts, cs => by
      rw [ExactItems] at h
      have hclose : feed ⟨.blank, x.tokens.reverse ++ ts⟩ ']' =
          some ⟨.blank, .closeArray :: (x.tokens.reverse ++ ts)⟩ := rfl
      rw [itemChars, itemTokens, List.append_assoc, List.cons_append, List.nil_append,
        run_chars x h.1 ts _ (closing_bracket cs), run_cons_of_feed hclose]
      simp
  | x :: y :: rest, h, ts, cs => by
      rw [ExactItems] at h
      have hcomma : feed ⟨.blank, x.tokens.reverse ++ ts⟩ ',' =
          some ⟨.blank, .comma :: (x.tokens.reverse ++ ts)⟩ := rfl
      rw [itemChars, itemTokens, List.append_assoc, List.cons_append,
        run_chars x h.1 ts _ (closing_comma _), run_cons_of_feed hcomma,
        run_itemChars (y :: rest) h.2]
      all_goals simp

/-- The fields of a record are scanned as their tokens. -/
theorem run_fieldChars : ∀ fields : List (String × Json), ExactFields fields →
    ∀ (ts : List Token) (cs : List Char),
    run ⟨.blank, ts⟩ (fieldChars fields ++ cs) =
      run ⟨.blank, (fieldTokens fields).reverse ++ ts⟩ cs
  | [], _, ts, cs => by rw [fieldChars, fieldTokens]; rfl
  | [(k, x)], h, ts, cs => by
      rw [ExactFields] at h
      have hcolon : feed ⟨.blank, .text (some k) :: ts⟩ ':' =
          some ⟨.blank, .colon :: .text (some k) :: ts⟩ := rfl
      have hclose (ts : List Token) : feed ⟨.blank, ts⟩ '}' =
          some ⟨.blank, .closeObject :: ts⟩ := rfl
      rw [fieldChars, fieldTokens, List.append_assoc, run_quote, List.cons_append,
        run_cons_of_feed hcolon, List.append_assoc, List.cons_append, List.nil_append,
        run_chars x h.1 _ _ (closing_brace cs), run_cons_of_feed (hclose _)]
      simp
  | (k, x) :: y :: rest, h, ts, cs => by
      rw [ExactFields] at h
      have hcolon : feed ⟨.blank, .text (some k) :: ts⟩ ':' =
          some ⟨.blank, .colon :: .text (some k) :: ts⟩ := rfl
      have hcomma (ts : List Token) : feed ⟨.blank, ts⟩ ',' = some ⟨.blank, .comma :: ts⟩ := rfl
      rw [fieldChars, fieldTokens, List.append_assoc, run_quote, List.cons_append,
        run_cons_of_feed hcolon, List.append_assoc, List.cons_append,
        run_chars x h.1 _ _ (closing_comma _), run_cons_of_feed (hcomma _),
        run_fieldChars (y :: rest) h.2]
      all_goals simp

end

end Scanner

/-- The tokens of the compact form of a value are the tokens of the value. -/
theorem tokens?_render {v : Json} (h : Exact v) : tokens? v.render = some v.tokens := by
  have hrun := Scanner.run_chars v h [] [] closing_nil
  rw [List.append_nil, List.append_nil] at hrun
  have hrender : tokens? v.render = Scanner.run .start (chars v) := by
    rw [tokens?, render, String.toList_ofList]
    rfl
  rw [hrender, Scanner.start, hrun]
  simp [Scanner.run, Scanner.finish?]

end DurableWorkflow.Json
