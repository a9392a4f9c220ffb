import Mathlib.Data.List.Nodup
import DurableWorkflow.History.Log

/-!
# Logs of complete histories

Whatever the order in which the events of a complete history are delivered, and however often, the
log made of them is the history itself, the newest event first.

## Main Definitions

* `Numbered`: events numbered from 1, the newest first.
* `Following`: events that follow each other from a number on.
* `IsLatest`: an event is the latest one of which something holds.

## Main Statements

* `EventLog.firstGap?_reverse_eq_none_iff`: the histories without a gap are the complete ones.
* `EventLog.assemble_of_mem_iff`: the log of any delivery of a complete history.
* `EventLog.assemble_ok`: what every log is like.
* `EventLog.after_eq_filter`, `EventLog.after_following`: which events are beyond a number, and
  their order.
* `EventLog.get?_eq_some_iff`: looking up by number.
* `find?_eq_some_iff_isLatest`: the first hit from the newest event on is the latest one.
-/

namespace DurableWorkflow

/-- Events numbered from 1 without a gap, the newest first. -/
def Numbered : List Event → Prop
  | [] => True
  | e :: rest => e.id = rest.length + 1 ∧ Numbered rest

/-- The numbers descend. -/
abbrev Descending (events : List Event) : Prop := events.Pairwise fun a b => b.id < a.id

/-- Events numbered from `n + 1` without a gap, the oldest first. -/
def Following : Int → List Event → Prop
  | _, [] => True
  | n, e :: rest => e.id = n + 1 ∧ Following (n + 1) rest

namespace Numbered

variable {events : List Event}

/-- The numbers of a history of some length lie between one and that length. -/
theorem id_bounds (h : Numbered events) : ∀ e ∈ events, 1 ≤ e.id ∧ e.id ≤ events.length := by
  induction events with
  | nil => simp
  | cons x rest ih =>
      obtain ⟨hx, hrest⟩ := h
      intro e he
      rcases List.mem_cons.mp he with rfl | he
      · simp only [List.length_cons]
        omega
      · have := ih hrest e he
        simp only [List.length_cons]
        omega

theorem descending (h : Numbered events) : Descending events := by
  induction events with
  | nil => exact List.Pairwise.nil
  | cons x rest ih =>
      obtain ⟨hx, hrest⟩ := h
      refine List.pairwise_cons.mpr ⟨fun e he => ?_, ih hrest⟩
      have := (id_bounds hrest e he).2
      omega

/-- A number tells which event it is. -/
theorem eq_of_id_eq (h : Numbered events) {a b : Event} (ha : a ∈ events) (hb : b ∈ events)
    (hid : a.id = b.id) : a = b := by
  induction events with
  | nil => simp at ha
  | cons x rest ih =>
      obtain ⟨hx, hrest⟩ := h
      rcases List.mem_cons.mp ha with hax | ha' <;> rcases List.mem_cons.mp hb with hbx | hb'
      · rw [hax, hbx]
      · have := (id_bounds hrest b hb').2
        rw [← hid, hax] at this
        omega
      · have := (id_bounds hrest a ha').2
        rw [hid, hbx] at this
        omega
      · exact ih hrest ha' hb'

/-- Events that came later have higher numbers. -/
theorem length_lt_id {newer older : List Event} (h : Numbered (newer ++ older)) :
    ∀ e ∈ newer, older.length < e.id := by
  induction newer with
  | nil => simp
  | cons x newer ih =>
      obtain ⟨hx, hrest⟩ := h
      intro e he
      rcases List.mem_cons.mp he with rfl | he
      · rw [hx]
        simp only [List.append_eq, List.length_append]
        omega
      · exact ih hrest e he

/-- An event with an old number is an old event. -/
theorem mem_of_suffix {events older : List Event} (h : Numbered events) (hsuffix : older <:+ events)
    {e : Event} (he : e ∈ events) (hid : e.id ≤ older.length) : e ∈ older := by
  obtain ⟨newer, rfl⟩ := hsuffix
  rcases List.mem_append.mp he with he | he
  · have := length_lt_id h e he
    omega
  · exact he

/-- What a history was before is numbered as well. -/
theorem of_suffix {older : List Event} (h : Numbered events) (hsuffix : older <:+ events) :
    Numbered older := by
  obtain ⟨newer, rfl⟩ := hsuffix
  induction newer with
  | nil => exact h
  | cons x newer ih => exact ih h.2

end Numbered

/-- Strictly descending numbers and the events that occur determine a list. -/
theorem Descending.eq_of_mem_iff {as bs : List Event} (ha : Descending as) (hb : Descending bs)
    (hmem : ∀ e, e ∈ as ↔ e ∈ bs) : as = bs := by
  have hne (es : List Event) (h : Descending es) : es.Nodup :=
    h.imp fun hlt heq => by rw [heq] at hlt; omega
  have hperm : as.Perm bs := (List.perm_ext_iff_of_nodup (hne as ha) (hne bs hb)).mpr hmem
  exact hperm.eq_of_pairwise (fun a b _ _ hab hba => by omega) ha hb

theorem Following.append_singleton {e : Event} :
    ∀ {n : Int} {events : List Event}, Following n events → e.id = n + events.length + 1 →
      Following n (events ++ [e])
  | n, [], _, he => ⟨by simpa using he, trivial⟩
  | n, x :: rest, ⟨hx, hrest⟩, he => by
      refine ⟨hx, append_singleton hrest ?_⟩
      rw [he, List.length_cons]
      omega

theorem Following.of_concat {e : Event} :
    ∀ {n : Int} {events : List Event}, Following n (events ++ [e]) →
      Following n events ∧ e.id = n + events.length + 1
  | n, [], h => ⟨trivial, by simpa using h.1⟩
  | n, x :: rest, ⟨hx, h⟩ => by
      obtain ⟨hrest, he⟩ := of_concat h
      refine ⟨⟨hx, hrest⟩, ?_⟩
      rw [he, List.length_cons]
      omega

/-- A complete history, read from its beginning. -/
theorem following_reverse_iff {events : List Event} :
    Following 0 events.reverse ↔ Numbered events := by
  induction events with
  | nil => exact Iff.rfl
  | cons e rest ih =>
      rw [List.reverse_cons]
      constructor
      · intro h
        obtain ⟨hrest, he⟩ := h.of_concat
        rw [List.length_reverse] at he
        exact ⟨by omega, ih.mp hrest⟩
      · rintro ⟨he, hrest⟩
        refine (ih.mpr hrest).append_singleton ?_
        rw [he, List.length_reverse]
        omega

/-! ### The latest event -/

/-- An event is the latest one of which something holds. -/
structure IsLatest (events : List Event) (p : Event → Prop) (e : Event) : Prop where
  mem : e ∈ events
  holds : p e
  latest : ∀ x ∈ events, p x → x.id ≤ e.id

theorem isLatest_congr {events : List Event} {p q : Event → Prop} (h : ∀ x ∈ events, p x ↔ q x)
    {e : Event} :
    IsLatest events p e ↔ IsLatest events q e := by
  constructor
  · rintro ⟨hmem, hholds, hlatest⟩
    exact ⟨hmem, (h e hmem).mp hholds, fun x hx hq => hlatest x hx ((h x hx).mpr hq)⟩
  · rintro ⟨hmem, hholds, hlatest⟩
    exact ⟨hmem, (h e hmem).mpr hholds, fun x hx hp => hlatest x hx ((h x hx).mp hp)⟩

namespace IsLatest

/-- No two events of a numbered history are the latest of one kind. -/
theorem unique {events : List Event} {p : Event → Prop} {a b : Event} (hnumbered : Numbered events)
    (ha : IsLatest events p a) (hb : IsLatest events p b) : a = b :=
  hnumbered.eq_of_id_eq ha.mem hb.mem
    (Int.le_antisymm (hb.latest a ha.mem ha.holds) (ha.latest b hb.mem hb.holds))

/-- The latest event of a history is the latest one before the event that comes next, however the
history goes on. -/
theorem before {newer older : List Event} {p : Event → Prop} {s e : Event}
    (hnumbered : Numbered (newer ++ e :: older)) (h : IsLatest older p s) :
    IsLatest (newer ++ e :: older) (fun x => x.id < e.id ∧ p x) s := by
  have hsuffix : e :: older <:+ newer ++ e :: older := List.suffix_append ..
  obtain ⟨hid, hold⟩ := hnumbered.of_suffix hsuffix
  refine ⟨by simp [h.mem], ⟨?_, h.holds⟩, fun x hx ⟨hlt, hpx⟩ => h.latest x ?_ hpx⟩
  · have := (hold.id_bounds s h.mem).2
    omega
  · exact hnumbered.mem_of_suffix ((List.suffix_cons ..).trans hsuffix) hx (by omega)

end IsLatest

/-- Looking through a complete history from the newest event on, the first hit is the latest. -/
theorem find?_eq_some_iff_isLatest {events : List Event} (h : Numbered events) {p : Event → Bool}
    {e : Event} : events.find? p = some e ↔ IsLatest events (fun x => p x = true) e := by
  have hlatest {found : Event} (hfound : events.find? p = some found) :
      IsLatest events (fun x => p x = true) found := by
    obtain ⟨hholds, newer, older, rfl, hnewer⟩ := List.find?_eq_some_iff_append.mp hfound
    refine ⟨by simp, hholds, fun x hx hpx => ?_⟩
    rcases List.mem_append.mp hx with hx | hx
    · have hmiss := hnewer x hx
      rw [hpx] at hmiss
      cases hmiss
    · rcases List.mem_cons.mp hx with rfl | hx
      · exact Int.le_refl _
      · have hdescending := (List.pairwise_append.mp h.descending).2.1
        exact Int.le_of_lt ((List.pairwise_cons.mp hdescending).1 x hx)
  refine ⟨hlatest, fun he => ?_⟩
  obtain ⟨found, hfound⟩ := Option.isSome_iff_exists.mp
    (List.find?_isSome.mpr ⟨e, he.mem, he.holds⟩)
  rw [hfound, (hlatest hfound).unique h he]

namespace EventLog

/-! ### Sorting and dropping repetitions -/

theorem insertDescending_perm (e : Event) :
    ∀ events : List Event, (insertDescending e events).Perm (e :: events)
  | [] => List.Perm.refl _
  | x :: rest => by
      unfold insertDescending
      split
      · exact List.Perm.refl _
      · exact ((insertDescending_perm e rest).cons x).trans (List.Perm.swap e x rest)

/-- An event that is put in its place leaves the others in order. -/
theorem insertDescending_sorted (e : Event) (events : List Event)
    (h : events.Pairwise fun a b => b.id ≤ a.id) :
    (insertDescending e events).Pairwise fun a b => b.id ≤ a.id := by
  induction events with
  | nil => simp [insertDescending]
  | cons x rest ih =>
      obtain ⟨hx, hrest⟩ := List.pairwise_cons.mp h
      unfold insertDescending
      split
      · next hlt =>
          refine List.pairwise_cons.mpr ⟨fun y hy => ?_, h⟩
          rcases List.mem_cons.mp hy with rfl | hy
          · omega
          · have := hx y hy
            omega
      · next hge =>
          refine List.pairwise_cons.mpr ⟨fun y hy => ?_, ih hrest⟩
          rcases List.mem_cons.mp ((insertDescending_perm e rest).mem_iff.mp hy) with rfl | hy
          · omega
          · exact hx y hy

/-- Sorting puts the delivered events in order, and loses none. -/
theorem sortDescending_perm_sorted (delivered : List Event) :
    (sortDescending delivered).Perm delivered ∧
      (sortDescending delivered).Pairwise fun a b => b.id ≤ a.id := by
  have hfold : ∀ (more sorted : List Event), sorted.Pairwise (fun a b => b.id ≤ a.id) →
      (more.foldl (fun sorted e => insertDescending e sorted) sorted).Perm (sorted ++ more) ∧
        (more.foldl (fun sorted e => insertDescending e sorted) sorted).Pairwise
          fun a b => b.id ≤ a.id := by
    -- The induction is on what has not been inserted yet.
    intro more
    induction more with
    | nil =>
        intro sorted h
        exact ⟨by simp, h⟩
    | cons e more ih =>
        intro sorted h
        obtain ⟨hperm, hsorted⟩ := ih _ (insertDescending_sorted e sorted h)
        refine ⟨hperm.trans ?_, hsorted⟩
        refine ((insertDescending_perm e sorted).append_right more).trans ?_
        exact List.perm_middle.symm
  simpa [sortDescending] using hfold delivered [] List.Pairwise.nil

/-- Nothing is made up, every number is kept, and no number twice. -/
theorem dropRepeated_spec (events : List Event) (h : events.Pairwise fun a b => b.id ≤ a.id) :
    (∀ e ∈ dropRepeated events, e ∈ events) ∧
      (∀ e ∈ events, ∃ x ∈ dropRepeated events, x.id = e.id) ∧
      Descending (dropRepeated events) := by
  induction events with
  | nil => simp [dropRepeated, Descending]
  | cons x rest ih =>
      obtain ⟨hx, hrest⟩ := List.pairwise_cons.mp h
      obtain ⟨hsub, hids, hdesc⟩ := ih hrest
      unfold dropRepeated
      split
      · next hnil =>
          rw [hnil] at hids
          refine ⟨by simp, fun e he => ?_, by simp [Descending]⟩
          rcases List.mem_cons.mp he with rfl | he
          · exact ⟨e, by simp, rfl⟩
          · obtain ⟨y, hy, -⟩ := hids e he
            simp at hy
      · next y more hcons =>
          rw [hcons] at hsub hids hdesc
          obtain ⟨hy, hmore⟩ := List.pairwise_cons.mp hdesc
          have hyx : y.id ≤ x.id := hx y (hsub y (by simp))
          split
          · next heq =>
              -- The kept event stands for the dropped one, which has the same number.
              refine ⟨?_, ?_, ?_⟩
              · intro e he
                rcases List.mem_cons.mp he with rfl | he
                · simp
                · exact List.mem_cons_of_mem _ (hsub e (by simp [he]))
              · intro e he
                rcases List.mem_cons.mp he with rfl | he
                · exact ⟨e, by simp, rfl⟩
                · obtain ⟨z, hz, hid⟩ := hids e he
                  rcases List.mem_cons.mp hz with rfl | hz
                  · exact ⟨x, by simp, by omega⟩
                  · exact ⟨z, by simp [hz], hid⟩
              · refine List.pairwise_cons.mpr ⟨fun z hz => ?_, hmore⟩
                have := hy z hz
                omega
          · next hne =>
              refine ⟨?_, ?_, ?_⟩
              · intro e he
                rcases List.mem_cons.mp he with rfl | he
                · simp
                · exact List.mem_cons_of_mem _ (hsub e he)
              · intro e he
                rcases List.mem_cons.mp he with rfl | he
                · exact ⟨e, by simp, rfl⟩
                · obtain ⟨z, hz, hid⟩ := hids e he
                  exact ⟨z, List.mem_cons_of_mem _ hz, hid⟩
              · refine List.pairwise_cons.mpr ⟨fun z hz => ?_, hdesc⟩
                rcases List.mem_cons.mp hz with rfl | hz
                · omega
                · have := hy z hz
                  omega

/-- Sorting and dropping repetitions brings any delivery of a complete history into one form. -/
theorem dropRepeated_sortDescending {events delivered : List Event} (h : Numbered events)
    (hmem : ∀ e, e ∈ delivered ↔ e ∈ events) :
    dropRepeated (sortDescending delivered) = events := by
  obtain ⟨hperm, hsorted⟩ := sortDescending_perm_sorted delivered
  obtain ⟨hsub, hids, hdesc⟩ := dropRepeated_spec _ hsorted
  have hevents : ∀ e ∈ dropRepeated (sortDescending delivered), e ∈ events := fun e he =>
    (hmem e).mp (hperm.mem_iff.mp (hsub e he))
  refine hdesc.eq_of_mem_iff h.descending fun e => ⟨hevents e, fun he => ?_⟩
  obtain ⟨x, hx, hid⟩ := hids e (hperm.mem_iff.mpr ((hmem e).mpr he))
  rwa [← h.eq_of_id_eq (hevents x hx) he hid]

/-! ### Gaps -/

/-- There is no gap exactly if each number follows on the one before. -/
theorem firstGap?_eq_none_iff {n : Int} {events : List Event} :
    firstGap? (n + 1) events = none ↔ Following n events := by
  induction events generalizing n with
  | nil => simp [firstGap?, Following]
  | cons e rest ih =>
      rw [firstGap?, Following, ← ih]
      split <;> simp [*]

/-- The histories without a gap are the complete ones. -/
theorem firstGap?_reverse_eq_none_iff {events : List Event} :
    firstGap? 1 events.reverse = none ↔ Numbered events :=
  firstGap?_eq_none_iff.trans following_reverse_iff

/-- **The log of any delivery of a complete history is the history.** -/
theorem assemble_of_mem_iff {events delivered : List Event} (h : Numbered events)
    (hne : events ≠ []) (hmem : ∀ e, e ∈ delivered ↔ e ∈ events) (boundary : Int) :
    assemble delivered boundary = .ok ⟨events, boundary⟩ := by
  have hempty : events.isEmpty = false := by simpa using hne
  simp [assemble, dropRepeated_sortDescending h hmem, hempty, firstGap?_reverse_eq_none_iff.mpr h]

/-- A numbered history is assembled as it is. -/
theorem assemble_of_numbered {events : List Event} (h : Numbered events) (hne : events ≠ [])
    (boundary : Int) : assemble events boundary = .ok ⟨events, boundary⟩ :=
  assemble_of_mem_iff h hne (fun _ => Iff.rfl) boundary

/-- Every log has its events in descending order, and the boundary that was delivered with them. -/
theorem assemble_ok {delivered : List Event} {boundary : Int} {log : EventLog}
    (h : assemble delivered boundary = .ok log) :
    Descending log.events ∧ log.previousStartedEventId = boundary := by
  simp only [assemble] at h
  split at h
  · cases h
  · split at h
    · cases h
    · cases h
      exact ⟨(dropRepeated_spec _ (sortDescending_perm_sorted delivered).2).2.2, rfl⟩

/-! ### Events beyond a number -/

theorem takeWhile_eq_filter {events : List Event} (h : Descending events) (boundary : Int) :
    events.takeWhile (fun e => decide (boundary < e.id))
      = events.filter fun e => decide (boundary < e.id) := by
  induction events with
  | nil => rfl
  | cons x rest ih =>
      obtain ⟨hx, hrest⟩ := List.pairwise_cons.mp h
      by_cases hlt : boundary < x.id
      · simp [hlt, ih hrest]
      · have hnone : rest.filter (fun e => decide (boundary < e.id)) = [] := by
          refine List.filter_eq_nil_iff.mpr fun e he => ?_
          have := hx e he
          simp only [decide_eq_true_eq]
          omega
        simp [hlt, hnone]

variable {log : EventLog}

/-- The events after a number are picked out one by one, although the scan stops at the first that
is not. -/
theorem after_eq_filter (h : Descending log.events) (boundary : Int) :
    log.after boundary = (log.events.filter fun e => decide (boundary < e.id)).reverse := by
  rw [after, takeWhile_eq_filter h]

/-- An event comes after a number if it has a higher one. -/
theorem mem_after (h : Descending log.events) {boundary : Int} {e : Event} :
    e ∈ log.after boundary ↔ e ∈ log.events ∧ boundary < e.id := by
  rw [after_eq_filter h]
  simp

theorem after_ascending (h : Descending log.events) (boundary : Int) :
    (log.after boundary).Pairwise fun a b => a.id < b.id := by
  rw [after_eq_filter h, List.pairwise_reverse]
  exact h.filter _

theorem mem_newEvents (h : Descending log.events) {e : Event} :
    e ∈ log.newEvents ↔ e ∈ log.events ∧ log.previousStartedEventId < e.id :=
  mem_after h

theorem newEvents_ascending (h : Descending log.events) :
    log.newEvents.Pairwise fun a b => a.id < b.id :=
  after_ascending h _

/-- The events beyond a number follow on it, without a gap. -/
theorem filter_following {events : List Event} (h : Numbered events) {boundary : Int}
    (hlow : 0 ≤ boundary) (hhigh : boundary ≤ events.length) :
    Following boundary (events.filter fun e => decide (boundary < e.id)).reverse ∧
      (events.filter fun e => decide (boundary < e.id)).length = events.length - boundary := by
  induction events with
  | nil =>
      simp only [List.length_nil] at hhigh
      exact ⟨trivial, by simp only [List.filter_nil, List.length_nil]; omega⟩
  | cons x rest ih =>
      have hbounds := h.id_bounds
      obtain ⟨hx, hrest⟩ := h
      simp only [List.length_cons] at hhigh hbounds
      by_cases hlt : boundary < x.id
      · obtain ⟨hfollowing, hlength⟩ := ih hrest (by omega)
        simp only [List.filter_cons, hlt, decide_true, if_true, List.reverse_cons,
          List.length_cons]
        exact ⟨hfollowing.append_singleton (by rw [List.length_reverse]; omega), by omega⟩
      · have hnone : (x :: rest).filter (fun e => decide (boundary < e.id)) = [] := by
          refine List.filter_eq_nil_iff.mpr fun e he => ?_
          have := (hbounds e he).2
          simp only [decide_eq_true_eq]
          omega
        simp only [hnone, List.reverse_nil, List.length_nil, List.length_cons]
        exact ⟨trivial, by omega⟩

/-- The events beyond a number follow it and each other. -/
theorem after_following (h : Numbered log.events) {boundary : Int} (hlow : 0 ≤ boundary)
    (hhigh : boundary ≤ log.events.length) :
    Following boundary (log.after boundary) ∧
      (log.after boundary).length = log.events.length - boundary := by
  rw [after_eq_filter h.descending, List.length_reverse]
  exact filter_following h hlow hhigh

/-! ### Looking events up -/

theorem mem_of_get? {id : Int} {e : Event} (h : log.get? id = some e) :
    e ∈ log.events ∧ e.id = id :=
  ⟨List.mem_of_find?_eq_some h, by simpa using List.find?_some h⟩

/-- A lookup finds the event of a number, if there is one. -/
theorem get?_eq_some_iff (h : Numbered log.events) {id : Int} {e : Event} :
    log.get? id = some e ↔ e ∈ log.events ∧ e.id = id := by
  refine ⟨mem_of_get?, ?_⟩
  rintro ⟨he, hid⟩
  have hsome : (log.get? id).isSome := List.find?_isSome.mpr ⟨e, he, by simpa using hid⟩
  obtain ⟨x, hx⟩ := Option.isSome_iff_exists.mp hsome
  obtain ⟨hxmem, hxid⟩ := mem_of_get? hx
  rw [hx, h.eq_of_id_eq hxmem he (hxid.trans hid.symm)]

end EventLog

end DurableWorkflow
