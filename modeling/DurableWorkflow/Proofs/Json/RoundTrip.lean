import DurableWorkflow.Json.Decode
import DurableWorkflow.Proofs.Json.Scan

/-!
# Reading back what has been written

A value that is written without loss is read back from its compact form.

## Main Statements

* `Assembly.foldlM_tokens`: the tokens of a value deliver the value to the container that is open.
* `parse?_render`: the compact form of an exact value is read as the value.
* `decode?_render`: a typed reader sees the value that has been written.
-/

namespace DurableWorkflow.Json

/-! ### Assembling the tokens of a value -/

/-- The first token of a value is not the end of an array. -/
theorem tokens_eq_cons (v : Json) : ∃ t rest, v.tokens = t :: rest ∧ t ≠ .closeArray := by
  cases v <;> exact ⟨_, _, rfl, by simp⟩

namespace Assembly

theorem foldlM_cons_of_feed {a b : Assembly} {t : Token} (h : a.feed t = some b) (ts : List Token) :
    (t :: ts).foldlM feed a = ts.foldlM feed b := by
  rw [List.foldlM_cons, h]
  rfl

theorem deliver_array (v : Json) (done : List Json) (stack : List Frame) :
    deliver v (.array done :: stack) = ⟨.more, .array (v :: done) :: stack, .null⟩ := rfl

theorem deliver_object (v : Json) (k : String) (done : List (String × Json))
    (stack : List Frame) :
    deliver v (.object done true (some k) :: stack) =
      ⟨.more, .object ((k, v) :: done) true none :: stack, .null⟩ := rfl

/-- Where the first item may come or the array may end, a token other than the end starts one. -/
theorem feed_item {t : Token} (h : t ≠ .closeArray) (stack : List Frame) :
    feed ⟨.item, stack, .null⟩ t = feed ⟨.value, stack, .null⟩ t := by
  cases t <;> first | rfl | exact absurd rfl h

theorem foldlM_item (v : Json) (rest : List Token) (stack : List Frame) :
    (v.tokens ++ rest).foldlM feed ⟨.item, stack, .null⟩ =
      (v.tokens ++ rest).foldlM feed ⟨.value, stack, .null⟩ := by
  obtain ⟨t, ts, hts, ht⟩ := tokens_eq_cons v
  rw [hts, List.cons_append, List.foldlM_cons, List.foldlM_cons, feed_item ht]

/-- A key and its colon open the value of a field. -/
theorem foldlM_key (k : String) (ts : List Token) (done : List (String × Json))
    (stack : List Frame) :
    (.text (some k) :: .colon :: ts).foldlM feed ⟨.key, .object done true none :: stack, .null⟩ =
      ts.foldlM feed ⟨.value, .object done true (some k) :: stack, .null⟩ := by
  rw [foldlM_cons_of_feed (b := ⟨.colon, .object done true (some k) :: stack, .null⟩) rfl,
    foldlM_cons_of_feed rfl]

mutual

/-- **The tokens of a value deliver the value.** -/
theorem foldlM_tokens : ∀ (v : Json) (stack : List Frame),
    v.tokens.foldlM feed ⟨.value, stack, .null⟩ = some (deliver v stack)
  | .null, _ | .bool _, _ | .int _, _ | .double _, _ | .string _, _ | .broken, _ => rfl
  | .array [], _ => rfl
  | .array (x :: rest), stack => by
      obtain ⟨ts, hts⟩ : ∃ ts, itemTokens (x :: rest) = x.tokens ++ ts := by
        cases rest <;> exact ⟨_, rfl⟩
      have hitems := foldlM_itemTokens (x :: rest) (by simp) [] stack
      rw [hts, ← foldlM_item, ← hts] at hitems
      rw [tokens, foldlM_cons_of_feed rfl]
      exact hitems
  | .object [], _ => rfl
  | .object (field :: rest), stack => by
      obtain ⟨ts, hts⟩ : ∃ ts, fieldTokens (field :: rest) = .text (some field.1) :: ts := by
        cases rest <;> exact ⟨_, rfl⟩
      have hfields := foldlM_fieldTokens (field :: rest) (by simp) [] stack
      rw [hts] at hfields
      rw [tokens, hts, foldlM_cons_of_feed rfl]
      exact hfields

/-- The items of a list are put together in order. -/
theorem foldlM_itemTokens : ∀ items : List Json, items ≠ [] →
    ∀ (done : List Json) (stack : List Frame),
    (itemTokens items).foldlM feed ⟨.value, .array done :: stack, .null⟩ =
      some (deliver (.array (done.reverse ++ items)) stack)
  | [], h, _, _ => absurd rfl h
  | [x], _, done, stack => by
      rw [itemTokens, List.foldlM_append, foldlM_tokens x]
      simp only [deliver_array, Option.bind_eq_bind, Option.bind_some]
      rw [foldlM_cons_of_feed rfl]
      simp
  | x :: y :: rest, _, done, stack => by
      have hrest := foldlM_itemTokens (y :: rest) (by simp) (x :: done) stack
      rw [itemTokens, List.foldlM_append, foldlM_tokens x]
      · simp only [deliver_array, Option.bind_eq_bind, Option.bind_some]
        rw [foldlM_cons_of_feed rfl, hrest]
        simp
      · simp

/-- The fields of a record are put together in order. -/
theorem foldlM_fieldTokens : ∀ fields : List (String × Json), fields ≠ [] →
    ∀ (done : List (String × Json)) (stack : List Frame),
    (fieldTokens fields).foldlM feed ⟨.key, .object done true none :: stack, .null⟩ =
      some (deliver (.object (done.reverse ++ fields)) stack)
  | [], h, _, _ => absurd rfl h
  | [(k, x)], _, done, stack => by
      rw [fieldTokens, foldlM_key, List.foldlM_append, foldlM_tokens x]
      simp only [deliver_object, Option.bind_eq_bind, Option.bind_some]
      rw [foldlM_cons_of_feed rfl]
      simp
  | (k, x) :: y :: rest, _, done, stack => by
      have hrest := foldlM_fieldTokens (y :: rest) (by simp) ((k, x) :: done) stack
      rw [fieldTokens, foldlM_key, List.foldlM_append, foldlM_tokens x]
      · simp only [deliver_object, Option.bind_eq_bind, Option.bind_some]
        rw [foldlM_cons_of_feed rfl, hrest]
        simp
      · simp

end

end Assembly

/-- **A value that is written without loss is read back.** -/
theorem parse?_render {v : Json} (h : Exact v) : parse? v.render = some v := by
  rw [parse?, tokens?_render h, Option.bind_some, Assembly.start, Assembly.foldlM_tokens v []]
  rfl

theorem exact_ofText? (text : Option String) : Exact (ofText? text) := by
  cases text <;> trivial

/-- A typed reader sees the value that has been written. -/
theorem decode?_render {α : Type} (reader : Reader α) {v : Json} (h : Exact v) :
    decode? reader v.render = reader Scope.whole v := by
  rw [decode?, parse?_render h, Option.bind_some]

end DurableWorkflow.Json
