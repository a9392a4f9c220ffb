import Mathlib.Data.Finset.Card
import DurableWorkflow.Proofs.History.Log

/-!
# Which deliveries make a log

A delivery is a list of events in any order, with any numbers, and with any number of events under
one number.  It makes a log if its numbers run from 1 without a gap, and only then.

## Main Definitions

* `Delivery.ids`: the numbers that have been delivered.
* `Delivery.Complete`: they run from 1 without a gap.
* `Delivery.LowestMissing`: the lowest number above 0 that has not been delivered.
* `EventLog.Collects`: what the log of a delivery is like.

## Main Statements

* `EventLog.find?_kept`: sorting is stable, so of several events with one number the first one
  delivered is kept.
* `EventLog.firstGap?_of_pos`, `EventLog.firstGap?_of_nonpos`: what the first gap is.
* `EventLog.assemble_iff_complete`: when there is a log, and what it is like.
* `EventLog.assemble_names_missing`: when the number that is reported is the one that is missing.

## Design Notes

What has been delivered is told by the set of numbers and by the first event of each number.  Both
are the same for the delivery and for the list that is looked through for a gap (`mem_ids_iff_kept`,
`find?_kept`), so nothing below depends on how that list is made.
-/

namespace DurableWorkflow

namespace Delivery

/-- The numbers that have been delivered. -/
def ids (delivered : List Event) : Finset Int := (delivered.map (·.id)).toFinset

/-- The numbers run from 1 up to how many there are. -/
def Complete (delivered : List Event) : Prop :=
  ∀ i, i ∈ ids delivered ↔ 1 ≤ i ∧ i ≤ (ids delivered).card

/-- Whether a delivery is complete can be computed. -/
theorem complete_iff {delivered : List Event} :
    ids delivered = (Finset.range (ids delivered).card).image (fun k : Nat => (k : Int) + 1) ↔
      Complete delivered := by
  have hmem (i : Int) (n : Nat) :
      i ∈ (Finset.range n).image (fun k : Nat => (k : Int) + 1) ↔ 1 ≤ i ∧ i ≤ n := by
    simp only [Finset.mem_image, Finset.mem_range]
    constructor
    · rintro ⟨k, hk, rfl⟩
      omega
    · intro hi
      exact ⟨(i - 1).toNat, by omega, by omega⟩
  rw [Finset.ext_iff]
  simp only [hmem, Complete]

instance (delivered : List Event) : Decidable (Complete delivered) :=
  decidable_of_iff _ complete_iff

/-- A number is the lowest one above 0 that has not been delivered. -/
structure LowestMissing (delivered : List Event) (m : Int) : Prop where
  pos : 0 < m
  missing : m ∉ ids delivered
  lower : ∀ i, 0 < i → i < m → i ∈ ids delivered

/-- A delivery of signals with given numbers and names. -/
def ofSignals (named : List (Int × String)) : List Event :=
  named.map fun (id, name) => ⟨id, .epoch, .workflowExecutionSignaled name none⟩

theorem mem_ids {delivered : List Event} {i : Int} :
    i ∈ ids delivered ↔ ∃ e ∈ delivered, e.id = i := by
  simp [ids]

end Delivery

/-! ### Numbers without a gap -/

/-- A complete history has an event of each number up to its length, and of no other. -/
theorem Numbered.exists_id_iff {events : List Event} (h : Numbered events) {i : Int} :
    (∃ e ∈ events, e.id = i) ↔ 1 ≤ i ∧ i ≤ events.length := by
  constructor
  · rintro ⟨e, he, rfl⟩
    exact h.id_bounds e he
  · intro hi
    induction events with
    | nil =>
        simp only [List.length_nil] at hi
        omega
    | cons x rest ih =>
        obtain ⟨hx, hrest⟩ := h
        rcases eq_or_ne i (rest.length + 1) with rfl | hne
        · exact ⟨x, List.mem_cons_self .., hx⟩
        · rw [List.length_cons] at hi
          obtain ⟨e, he, hid⟩ := ih hrest ⟨hi.1, by omega⟩
          exact ⟨e, List.mem_cons_of_mem _ he, hid⟩

/-- The numbers of a complete history, written out. -/
theorem Numbered.map_id {events : List Event} (h : Numbered events) :
    events.map (·.id) =
      (List.range events.length).map fun (k : Nat) => (events.length : Int) - k := by
  induction events with
  | nil => rfl
  | cons x rest ih =>
      obtain ⟨hx, hrest⟩ := h
      rw [List.map_cons, ih hrest, hx, List.length_cons, List.range_succ_eq_map, List.map_cons,
        List.map_map]
      refine List.cons_eq_cons.mpr ⟨by simp, List.map_congr_left fun k _ => ?_⟩
      simp only [Function.comp_apply]
      omega

namespace EventLog

open Delivery (ids mem_ids Complete LowestMissing ofSignals)

variable {delivered events : List Event} {boundary : Int}

/-! ### What is kept of a delivery -/

/-- What is kept of a delivery, by descending number. -/
def kept (delivered : List Event) : List Event := dropRepeated (sortDescending delivered)

/-- An event is put behind all others with its number. -/
theorem find?_insertDescending (e : Event) (i : Int)
    (h : events.Pairwise fun a b => b.id ≤ a.id) :
    (insertDescending e events).find? (·.id = i) = (events ++ [e]).find? (·.id = i) := by
  induction events with
  | nil => rfl
  | cons x rest ih =>
      obtain ⟨hx, hrest⟩ := List.pairwise_cons.mp h
      unfold insertDescending
      split
      · next hlt =>
          -- All that the event overtakes has lower numbers, so it hides nothing.
          by_cases he : e.id = i
          · have hnone : (x :: rest).find? (·.id = i) = none := by
              refine List.find?_eq_none.mpr fun y hy => ?_
              have hle : y.id ≤ x.id := by
                rcases List.mem_cons.mp hy with rfl | hy
                · exact Int.le_refl _
                · exact hx y hy
              simp only [decide_eq_true_eq]
              omega
            rw [List.find?_append, hnone]
            simp [he]
          · rw [List.find?_append]
            simp [he]
      · simp only [List.cons_append, List.find?_cons, ih hrest]

/-- Sorting is stable. -/
theorem find?_sortDescending (delivered : List Event) (i : Int) :
    (sortDescending delivered).find? (·.id = i) = delivered.find? (·.id = i) := by
  induction delivered using List.reverseRecOn with
  | nil => rfl
  | append_singleton delivered e ih =>
      have hstep : sortDescending (delivered ++ [e])
          = insertDescending e (sortDescending delivered) := by
        simp [sortDescending]
      rw [hstep, find?_insertDescending e i (sortDescending_perm_sorted delivered).2,
        List.find?_append, ih, List.find?_append]

/-- Of neighbours with one number the first one stays. -/
theorem find?_dropRepeated (events : List Event) (i : Int) :
    (dropRepeated events).find? (·.id = i) = events.find? (·.id = i) := by
  induction events with
  | nil => rfl
  | cons x rest ih =>
      unfold dropRepeated
      split
      · next hnil =>
          rw [hnil] at ih
          simp only [List.find?_cons, ← ih]
      · next y more hcons =>
          rw [hcons] at ih
          split
          · next heq =>
              by_cases hx : x.id = i
              · simp [hx]
              · have hy : ¬ y.id = i := heq ▸ hx
                simpa [List.find?_cons, hx, hy] using ih
          · simp only [List.find?_cons, ← ih]

/-- **Of several events with one number the first one delivered is kept.** -/
theorem find?_kept (delivered : List Event) (i : Int) :
    (kept delivered).find? (·.id = i) = delivered.find? (·.id = i) := by
  rw [kept, find?_dropRepeated, find?_sortDescending]

theorem kept_descending (delivered : List Event) : Descending (kept delivered) :=
  (dropRepeated_spec _ (sortDescending_perm_sorted delivered).2).2.2

theorem mem_ids_iff_kept {i : Int} : i ∈ ids delivered ↔ ∃ e ∈ kept delivered, e.id = i := by
  have hkept :
      ((kept delivered).find? (·.id = i)).isSome = (delivered.find? (·.id = i)).isSome := by
    rw [find?_kept]
  rw [mem_ids]
  simpa [List.find?_isSome] using (Bool.eq_iff_iff.mp hkept).symm

theorem kept_eq_nil_iff : kept delivered = [] ↔ delivered = [] := by
  constructor
  · intro hkept
    refine List.eq_nil_iff_forall_not_mem.mpr fun e he => ?_
    obtain ⟨x, hx, -⟩ := mem_ids_iff_kept.mp (mem_ids.mpr ⟨e, he, rfl⟩)
    rw [hkept] at hx
    exact List.not_mem_nil hx
  · rintro rfl
    rfl

/-- Of each number one event is kept. -/
theorem card_ids (delivered : List Event) : (ids delivered).card = (kept delivered).length := by
  have hids : ids delivered = ((kept delivered).map (·.id)).toFinset := by
    ext i
    rw [mem_ids_iff_kept]
    simp
  have hnodup : ((kept delivered).map (·.id)).Nodup :=
    List.pairwise_map.mpr ((kept_descending delivered).imp fun hlt => by omega)
  rw [hids, List.toFinset_card_of_nodup hnodup, List.length_map]

/-! ### The first gap -/

/-- The first gap of ascending numbers: what comes before it is there, it is not, and something
comes behind it. -/
theorem firstGap?_eq_some {n m : Int} (h : events.Pairwise fun a b => a.id < b.id)
    (hlow : ∀ e ∈ events, n < e.id) (hgap : firstGap? (n + 1) events = some m) :
    n < m ∧ (∀ e ∈ events, e.id ≠ m) ∧ (∀ i, n < i → i < m → ∃ e ∈ events, e.id = i) ∧
      ∃ e ∈ events, m < e.id := by
  induction events generalizing n with
  | nil => cases hgap
  | cons x rest ih =>
      obtain ⟨hx, hrest⟩ := List.pairwise_cons.mp h
      have hxlow := hlow x (List.mem_cons_self ..)
      rw [firstGap?] at hgap
      split at hgap
      · next hnext =>
          have hlow' : ∀ e ∈ rest, n + 1 < e.id := fun e he => hnext ▸ hx e he
          obtain ⟨hlt, hmissing, hlower, e, he, hbeyond⟩ := ih hrest hlow' hgap
          refine ⟨by omega, ?_, ?_, e, List.mem_cons_of_mem _ he, hbeyond⟩
          · intro e he
            rcases List.mem_cons.mp he with rfl | he
            · omega
            · exact hmissing e he
          · intro i hni him
            rcases eq_or_ne i (n + 1) with rfl | hne
            · exact ⟨x, List.mem_cons_self .., hnext⟩
            · obtain ⟨y, hy, hid⟩ := hlower i (by omega) him
              exact ⟨y, List.mem_cons_of_mem _ hy, hid⟩
      · next hnext =>
          cases hgap
          have hbeyond : n + 1 < x.id := by omega
          refine ⟨by omega, ?_, fun i hni him => by omega, x, List.mem_cons_self .., hbeyond⟩
          intro e he
          rcases List.mem_cons.mp he with rfl | he
          · exact hnext
          · have := hx e he
            omega

theorem kept_reverse_ascending (delivered : List Event) :
    (kept delivered).reverse.Pairwise fun a b => a.id < b.id :=
  List.pairwise_reverse.mpr (kept_descending delivered)

/-- If all numbers are above 0, the first gap is the lowest number missing. -/
theorem firstGap?_of_pos {m : Int} (hpos : ∀ i ∈ ids delivered, 0 < i)
    (hgap : firstGap? 1 (kept delivered).reverse = some m) :
    LowestMissing delivered m ∧ ∃ i ∈ ids delivered, m < i := by
  have hlow : ∀ e ∈ (kept delivered).reverse, 0 < e.id := fun e he =>
    hpos e.id (mem_ids_iff_kept.mpr ⟨e, List.mem_reverse.mp he, rfl⟩)
  obtain ⟨hlt, hmissing, hlower, e, he, hbeyond⟩ :=
    firstGap?_eq_some (kept_reverse_ascending delivered) hlow hgap
  refine ⟨⟨hlt, fun hm => ?_, fun i hi him => ?_⟩,
    e.id, mem_ids_iff_kept.mpr ⟨e, List.mem_reverse.mp he, rfl⟩, hbeyond⟩
  · obtain ⟨x, hx, hid⟩ := mem_ids_iff_kept.mp hm
    exact hmissing x (List.mem_reverse.mpr hx) hid
  · obtain ⟨x, hx, hid⟩ := hlower i hi him
    exact mem_ids_iff_kept.mpr ⟨x, List.mem_reverse.mp hx, hid⟩

/-- If a number is not above 0, the first gap is said to be at 1, whatever else there is. -/
theorem firstGap?_of_nonpos {i : Int} (hmem : i ∈ ids delivered) (hi : i ≤ 0) :
    firstGap? 1 (kept delivered).reverse = some 1 := by
  obtain ⟨e, he, rfl⟩ := mem_ids_iff_kept.mp hmem
  have hascending := kept_reverse_ascending delivered
  have he : e ∈ (kept delivered).reverse := List.mem_reverse.mpr he
  cases hevents : (kept delivered).reverse with
  | nil =>
      rw [hevents] at he
      cases he
  | cons x rest =>
      rw [hevents] at he hascending
      have hle : x.id ≤ e.id := by
        rcases List.mem_cons.mp he with rfl | he
        · exact Int.le_refl _
        · exact Int.le_of_lt ((List.pairwise_cons.mp hascending).1 e he)
      exact if_neg (by omega)

/-! ### Complete deliveries -/

theorem kept_numbered_iff : Numbered (kept delivered) ↔ Complete delivered := by
  constructor
  · intro hnumbered i
    rw [mem_ids_iff_kept, hnumbered.exists_id_iff, card_ids]
  · intro hcomplete
    refine firstGap?_reverse_eq_none_iff.mp ?_
    by_contra hgap
    obtain ⟨m, hm⟩ := Option.ne_none_iff_exists'.mp hgap
    obtain ⟨hmissing, i, hi, hlt⟩ := firstGap?_of_pos (fun i hi => ((hcomplete i).mp hi).1) hm
    -- The gap lies below a number that is there, so it would have to be there as well.
    have hile := ((hcomplete i).mp hi).2
    exact hmissing.missing ((hcomplete m).mpr ⟨hmissing.pos, by omega⟩)

/-- What can come of a delivery. -/
theorem assemble_cases (delivered : List Event) (boundary : Int) :
    (delivered = [] ∧ assemble delivered boundary = .error .emptyHistory) ∨
    (delivered ≠ [] ∧ Complete delivered ∧
      assemble delivered boundary = .ok ⟨kept delivered, boundary⟩) ∨
    (delivered ≠ [] ∧ ¬ Complete delivered ∧
      ∃ m, firstGap? 1 (kept delivered).reverse = some m ∧
        assemble delivered boundary = .error (.incompleteHistory m)) := by
  by_cases hempty : delivered = []
  · subst hempty
    exact .inl ⟨rfl, rfl⟩
  · have hkept : (kept delivered).isEmpty = false :=
      List.isEmpty_eq_false_iff.mpr fun hnil => hempty (kept_eq_nil_iff.mp hnil)
    cases hgap : firstGap? 1 (kept delivered).reverse with
    | none =>
        have hnumbered := firstGap?_reverse_eq_none_iff.mp hgap
        refine .inr (.inl ⟨hempty, kept_numbered_iff.mp hnumbered, ?_⟩)
        rw [kept] at hkept hgap ⊢
        simp only [assemble, hkept, hgap, Bool.false_eq_true, if_false]
    | some m =>
        refine .inr (.inr ⟨hempty, fun hcomplete => ?_, m, rfl, ?_⟩)
        · rw [firstGap?_reverse_eq_none_iff.mpr (kept_numbered_iff.mpr hcomplete)] at hgap
          cases hgap
        · rw [kept] at hkept hgap
          simp only [assemble, hkept, hgap, Bool.false_eq_true, if_false]

/-- Every log is a complete history, and keeps the boundary that was delivered with it. -/
theorem assemble_numbered {log : EventLog} (h : assemble delivered boundary = .ok log) :
    Numbered log.events ∧ log.previousStartedEventId = boundary := by
  rcases assemble_cases delivered boundary with ⟨-, h'⟩ | ⟨-, hcomplete, h'⟩ | ⟨-, -, m, -, h'⟩ <;>
    rw [h] at h' <;> cases h'
  exact ⟨kept_numbered_iff.mpr hcomplete, rfl⟩

/-- What the log of a delivery is like. -/
structure Collects (log : EventLog) (delivered : List Event) (boundary : Int) : Prop where
  previous : log.previousStartedEventId = boundary
  /-- There are as many events as there are different numbers. -/
  size : log.size = (ids delivered).card
  /-- The numbers are `n`, `n - 1`, and so on down to 1. -/
  descending : log.events.map (·.id) =
    (List.range log.size).map fun (k : Nat) => (log.size : Int) - k
  /-- The event of a number is the first one delivered with it. -/
  first : ∀ e ∈ log.events, delivered.find? (·.id = e.id) = some e
  /-- Looking up a number gives its event. -/
  found : ∀ i : Int, 1 ≤ i → i ≤ log.size →
    ∃ e ∈ log.events, e.id = i ∧ log.get? i = some e ∧ delivered.find? (·.id = i) = some e
  /-- There is no other number. -/
  unknown : ∀ i : Int, ¬ (1 ≤ i ∧ i ≤ log.size) → log.get? i = none

theorem collects_kept (h : Complete delivered) (boundary : Int) :
    Collects ⟨kept delivered, boundary⟩ delivered boundary := by
  have hnumbered := kept_numbered_iff.mpr h
  have hget (i : Int) (e : Event) :
      (EventLog.mk (kept delivered) boundary).get? i = some e ↔ e ∈ kept delivered ∧ e.id = i :=
    get?_eq_some_iff (show Numbered (EventLog.mk (kept delivered) boundary).events from hnumbered)
  refine ⟨rfl, (card_ids delivered).symm, hnumbered.map_id, fun e he => ?_, fun i hlow hhigh => ?_,
    fun i hi => ?_⟩
  · rw [← find?_kept]
    exact (hget e.id e).mpr ⟨he, rfl⟩
  · obtain ⟨e, he, hid⟩ := hnumbered.exists_id_iff.mpr ⟨hlow, hhigh⟩
    have hfound := (hget i e).mpr ⟨he, hid⟩
    exact ⟨e, he, hid, hfound, (find?_kept delivered i).symm.trans hfound⟩
  · refine Option.eq_none_iff_forall_ne_some.mpr fun e he => hi ?_
    obtain ⟨hmem, rfl⟩ := (hget i e).mp he
    exact hnumbered.id_bounds e hmem

/-- **A delivery makes a log if and only if it is complete.**  Of several events with one number the
log has the first one delivered, whatever the others say. -/
theorem assemble_iff_complete (delivered : List Event) (boundary : Int) :
    ((∃ log, assemble delivered boundary = .ok log) ↔ delivered ≠ [] ∧ Complete delivered) ∧
    (assemble delivered boundary = .error .emptyHistory ↔ delivered = []) ∧
    ((∃ m, assemble delivered boundary = .error (.incompleteHistory m)) ↔
      delivered ≠ [] ∧ ¬ Complete delivered) ∧
    ∀ log, assemble delivered boundary = .ok log → log.Collects delivered boundary := by
  rcases assemble_cases delivered boundary with
    ⟨hempty, h⟩ | ⟨hne, hcomplete, h⟩ | ⟨hne, hcomplete, m, -, h⟩
  · simp only [h]
    simp [hempty]
  · refine ⟨by simp [h, hne, hcomplete], by simp [h, hne], by simp [h, hcomplete], ?_⟩
    intro log hlog
    obtain rfl := Except.ok.inj (h.symm.trans hlog)
    exact collects_kept hcomplete boundary
  · simp [h, hne, hcomplete]

/-- Two events come under number 2, one of them twice.  The first one delivered is in the log. -/
theorem assemble_iff_complete_repeated :
    let delivered := ofSignals [(2, "paid"), (1, "placed"), (2, "shipped"), (2, "paid")]
    ∃ log, assemble delivered 0 = .ok log ∧ log.Collects delivered 0 ∧
      log.events = ofSignals [(2, "paid"), (1, "placed")] := by
  intro delivered
  obtain ⟨hmakes, -, -, hcollects⟩ := assemble_iff_complete delivered 0
  obtain ⟨log, hlog⟩ := hmakes.mpr (by decide)
  refine ⟨log, hlog, hcollects log hlog, ?_⟩
  cases hlog
  rfl

/-- **The number that is reported as missing is the lowest one missing**, if no number up to 0 has
been delivered or 1 has not.  Otherwise 1 is reported. -/
theorem assemble_names_missing {m : Int}
    (h : assemble delivered boundary = .error (.incompleteHistory m)) :
    (LowestMissing delivered m ↔ (∀ i ∈ ids delivered, 0 < i) ∨ 1 ∉ ids delivered) ∧
    ((∃ i ∈ ids delivered, i ≤ 0) → m = 1) := by
  rcases assemble_cases delivered boundary with ⟨-, h'⟩ | ⟨-, -, h'⟩ | ⟨-, -, m', hgap, h'⟩ <;>
    rw [h] at h' <;> cases h'
  by_cases hpos : ∀ i ∈ ids delivered, 0 < i
  · refine ⟨iff_of_true (firstGap?_of_pos hpos hgap).1 (.inl hpos), fun ⟨i, hi, hle⟩ => ?_⟩
    have := hpos i hi
    omega
  · obtain ⟨i, hi, hle⟩ : ∃ i ∈ ids delivered, i ≤ 0 := by simpa using hpos
    obtain rfl : m = 1 := Option.some.inj (hgap.symm.trans (firstGap?_of_nonpos hi hle))
    refine ⟨?_, fun _ => rfl⟩
    rw [or_iff_right hpos]
    refine ⟨fun hlowest => hlowest.missing, fun hmissing => ⟨by omega, hmissing, ?_⟩⟩
    intro i hlow hhigh
    omega

/-- Of 1, 2 and 5 the number 3 is reported, which is the lowest one missing. -/
theorem assemble_names_missing_hole :
    let delivered := ofSignals [(5, "paid"), (2, "placed"), (1, "begun")]
    assemble delivered 0 = .error (.incompleteHistory 3) ∧ LowestMissing delivered 3 := by
  intro delivered
  have h : assemble delivered 0 = .error (.incompleteHistory 3) := rfl
  exact ⟨h, (assemble_names_missing h).1.mpr (.inl (by decide))⟩

/-- Of 0, 1, 2 and 4 the number 1 is reported, though it is 3 that is missing. -/
theorem assemble_names_delivered :
    let delivered := ofSignals [(4, "paid"), (2, "placed"), (1, "begun"), (0, "early")]
    assemble delivered 0 = .error (.incompleteHistory 1) ∧ 1 ∈ ids delivered ∧
      LowestMissing delivered 3 ∧ ¬ LowestMissing delivered 1 := by
  intro delivered
  have hlower : ∀ i, 0 < i → i < 3 → i ∈ ids delivered := by
    intro i hlow hhigh
    obtain rfl | rfl : i = 1 ∨ i = 2 := by omega
    · decide
    · decide
  exact ⟨rfl, by decide, ⟨by decide, by decide, hlower⟩, fun h => h.missing (by decide)⟩

end EventLog

end DurableWorkflow
