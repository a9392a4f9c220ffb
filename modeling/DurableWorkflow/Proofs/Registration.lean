import Mathlib.Data.List.Induction
import Mathlib.Data.List.Nodup
import DurableWorkflow.Dispatch.Registry
import DurableWorkflow.Task.Run

/-!
# Registration

Registries are made from entries in order.  An entry may be refused because of those before it.  The
first problem is what is reported in the end, whatever comes behind it; without a problem nothing is
lost.

## Main Definitions

* `HasProblem`, `FirstProblem`: an entry is refused, and the error of the first such entry.
* `Registration.Refused`, `TaskRegistry.Refused`: why an entry is refused.
* `lastSet`: what the last of the entries that set something sets.
* `Registry.MadeFrom`, `TaskRegistry.MadeFrom`: what a registry holds, told by its entries.

## Main Statements

* `Registry.Builder.Follows.add`, `TaskRegistry.Builder.Follows.register`: what one more entry
  keeps.
* `Registry.Builder.follows_entries`, `TaskRegistry.Builder.follows_executors`: what holds behind
  all entries.
* `Registry.build_eq_error_iff`, `TaskRegistry.build_eq_error_iff`: the error of a registration.
* `Registry.exists_build_iff`, `TaskRegistry.exists_build_iff`: when there is a registry.
* `registration_outcomes`: which registrations fail and with what, and what comes of the others.
-/

namespace DurableWorkflow

/-! ### The first problem -/

section Problems

variable {α : Type} (refused : List α → α → Error → Prop)

/-- An entry is refused after those before it. -/
def HasProblem (entries : List α) : Prop :=
  ∃ earlier entry e, earlier ++ [entry] <+: entries ∧ refused earlier entry e

/-- The error of the first entry that is refused. -/
def FirstProblem (entries : List α) (e : Error) : Prop :=
  ∃ earlier entry, earlier ++ [entry] <+: entries ∧ ¬ HasProblem refused earlier ∧
    refused earlier entry e

variable {refused} {made : List α} {entry : α} {e : Error}

theorem not_hasProblem_nil : ¬ HasProblem refused [] := by
  rintro ⟨earlier, entry, e, hprefix, -⟩
  simp at hprefix

/-- There is a problem if there was one before, or with the last entry. -/
theorem hasProblem_concat :
    HasProblem refused (made ++ [entry]) ↔
      HasProblem refused made ∨ ∃ e, refused made entry e := by
  constructor
  · rintro ⟨earlier, entry', e, hprefix, he⟩
    rw [List.prefix_concat_iff, List.append_singleton_inj] at hprefix
    rcases hprefix with ⟨rfl, rfl⟩ | hprefix
    · exact .inr ⟨e, he⟩
    · exact .inl ⟨earlier, entry', e, hprefix, he⟩
  · rintro (⟨earlier, entry', e, hprefix, he⟩ | ⟨e, he⟩)
    · exact ⟨earlier, entry', e, hprefix.trans (List.prefix_append ..), he⟩
    · exact ⟨made, entry, e, List.prefix_refl _, he⟩

/-- The first problem is the one before, or that of the last entry if there was none. -/
theorem firstProblem_concat :
    FirstProblem refused (made ++ [entry]) e ↔
      FirstProblem refused made e ∨ ¬ HasProblem refused made ∧ refused made entry e := by
  constructor
  · rintro ⟨earlier, entry', hprefix, hnone, he⟩
    rw [List.prefix_concat_iff, List.append_singleton_inj] at hprefix
    rcases hprefix with ⟨rfl, rfl⟩ | hprefix
    · exact .inr ⟨hnone, he⟩
    · exact .inl ⟨earlier, entry', hprefix, hnone, he⟩
  · rintro (⟨earlier, entry', hprefix, hnone, he⟩ | ⟨hnone, he⟩)
    · exact ⟨earlier, entry', hprefix.trans (List.prefix_append ..), hnone, he⟩
    · exact ⟨made, entry, List.prefix_refl _, hnone, he⟩

theorem FirstProblem.hasProblem (h : FirstProblem refused made e) : HasProblem refused made := by
  obtain ⟨earlier, entry, hprefix, -, he⟩ := h
  exact ⟨earlier, entry, e, hprefix, he⟩

/-- Where there are problems, there is a first one. -/
theorem exists_firstProblem_iff : (∃ e, FirstProblem refused made e) ↔ HasProblem refused made := by
  refine ⟨fun ⟨e, h⟩ => h.hasProblem, fun h => ?_⟩
  induction made using List.reverseRecOn with
  | nil => exact (not_hasProblem_nil h).elim
  | append_singleton made entry ih =>
      by_cases hmade : HasProblem refused made
      · obtain ⟨e, he⟩ := ih hmade
        exact ⟨e, firstProblem_concat.mpr (.inl he)⟩
      · obtain ⟨e, he⟩ := (hasProblem_concat.mp h).resolve_left hmade
        exact ⟨e, firstProblem_concat.mpr (.inr ⟨hmade, he⟩)⟩

/-- Behind a problem nothing changes what is the first one. -/
theorem firstProblem_concat_of_hasProblem (h : HasProblem refused made) :
    FirstProblem refused (made ++ [entry]) e ↔ FirstProblem refused made e := by
  rw [firstProblem_concat, or_iff_left]
  exact fun hnone => hnone.1 h

/-- Without a problem before it, an entry that is refused is the first problem. -/
theorem firstProblem_concat_of_not_hasProblem (h : ¬ HasProblem refused made) :
    FirstProblem refused (made ++ [entry]) e ↔ refused made entry e := by
  rw [firstProblem_concat, or_iff_right fun hfirst => h hfirst.hasProblem, and_iff_right h]

section Results

variable {β : Type} {result : Except Error β} {P : β → Prop}

/-- What fails with the first problem fails if and only if there is one. -/
theorem exists_error_iff (herror : ∀ e, result = .error e ↔ FirstProblem refused made e) :
    (∃ e, result = .error e) ↔ HasProblem refused made := by
  rw [← exists_firstProblem_iff]
  exact exists_congr herror

/-- What fails with the first problem, and gives something without one, gives it if and only if
there is none. -/
theorem exists_ok_iff (herror : ∀ e, result = .error e ↔ FirstProblem refused made e)
    (hok : ¬ HasProblem refused made → ∃ r, result = .ok r ∧ P r) :
    (∃ r, result = .ok r ∧ P r) ↔ ¬ HasProblem refused made := by
  refine ⟨?_, hok⟩
  rintro ⟨r, hr, -⟩ hproblem
  obtain ⟨e, he⟩ := (exists_error_iff herror).mpr hproblem
  rw [hr] at he
  cases he

end Results

end Problems

/-! ### Lists of keys and values -/

section Lists

variable {α β : Type}

/-- What the last of the entries that set something sets. -/
def lastSet (f : α → Option β) (entries : List α) : Option β := entries.reverse.findSome? f

/-- What has been set last is set by the last entry, or as before. -/
theorem lastSet_concat (f : α → Option β) (entries : List α) (entry : α) :
    lastSet f (entries ++ [entry]) = (f entry).or (lastSet f entries) := by
  rw [lastSet, List.reverse_concat, List.findSome?_cons]
  cases f entry <;> rfl

/-- Of values under different keys each one is found under its key. -/
theorem find?_key_eq_some_iff [DecidableEq α] {entries : List (α × β)}
    (h : (entries.map (·.1)).Nodup) {key : α} {value : β} :
    (entries.find? (·.1 = key)).map (·.2) = some value ↔ (key, value) ∈ entries := by
  induction entries with
  | nil => simp
  | cons entry rest ih =>
      obtain ⟨key', value'⟩ := entry
      obtain ⟨hnew, hrest⟩ := List.nodup_cons.mp h
      rw [List.find?_cons, List.mem_cons]
      by_cases hkey : key' = key
      · subst hkey
        have hother : (key', value) ∉ rest := fun hmem => hnew (List.mem_map.mpr ⟨_, hmem, rfl⟩)
        simp [hother, eq_comm]
      · have hne : (key, value) ≠ (key', value') := fun heq => hkey (Prod.mk.inj heq).1.symm
        simp only [hkey, decide_false, hne, false_or]
        exact ih hrest

theorem any_key_iff [DecidableEq α] {entries : List (α × β)} {key : α} :
    entries.any (·.1 = key) = true ↔ ∃ value, (key, value) ∈ entries := by
  rw [List.any_eq_true]
  constructor
  · rintro ⟨⟨key', value⟩, hmem, hkey⟩
    obtain rfl := of_decide_eq_true hkey
    exact ⟨value, hmem⟩
  · rintro ⟨value, hmem⟩
    exact ⟨(key, value), hmem, decide_eq_true rfl⟩

/-- A new key leaves keys distinct. -/
theorem nodup_keys_concat {entries : List (α × β)} (h : (entries.map (·.1)).Nodup) {key : α}
    {value : β} (hnew : ∀ value, (key, value) ∉ entries) :
    ((entries ++ [(key, value)]).map (·.1)).Nodup := by
  rw [List.map_append, List.map_singleton, List.nodup_append]
  refine ⟨h, List.nodup_singleton _, fun key' hmem _ hlast => ?_⟩
  rw [List.mem_singleton.mp hlast]
  rintro rfl
  obtain ⟨⟨_, value⟩, hentry, rfl⟩ := List.mem_map.mp hmem
  exact hnew value hentry

end Lists

/-! ### Handlers, policies and defaults -/

namespace Registration

/-- Why an entry is refused after others. -/
inductive Refused (earlier : List Registration) : Registration → Error → Prop
  /-- The name has another shape than events of the type are named by. -/
  | misnamed {key : HandlerKey} {handler : Handler} (h : key.name.category ≠ key.type.category) :
      Refused earlier (.handler key handler) (.invalidHandlerKey key.type key.name)
  /-- The key has a handler already. -/
  | repeated {key : HandlerKey} {handler first : Handler} (h : .handler key first ∈ earlier) :
      Refused earlier (.handler key handler) (.duplicateHandler key.type key.name)

/-- The handler of an entry, with its key. -/
def handler? : Registration → Option (HandlerKey × Handler)
  | .handler key value => some (key, value)
  | _ => none

/-- The policy that an entry sets for a task type. -/
def policy? (taskType : TaskType) : Registration → Option RetryPolicy
  | .retryPolicy taskType' policy => if taskType = taskType' then some policy else none
  | _ => none

/-- The policy that an entry sets for all task types without their own. -/
def standardPolicy? : Registration → Option RetryPolicy
  | .standardRetryPolicy policy => some policy
  | _ => none

/-- The defaults that an entry sets for a task type. -/
def defaults? (taskType : TaskType) : Registration → Option TaskOptions
  | .taskDefaults taskType' options => if taskType = taskType' then some options else none
  | _ => none

variable {made : List Registration}

theorem mem_filterMap_handler? {key : HandlerKey} {handler : Handler} :
    (key, handler) ∈ made.filterMap handler? ↔ .handler key handler ∈ made := by
  rw [List.mem_filterMap]
  refine ⟨?_, fun h => ⟨_, h, rfl⟩⟩
  rintro ⟨entry, hmem, hentry⟩
  cases entry with
  | handler => cases hentry; exact hmem
  | retryPolicy | standardRetryPolicy | taskDefaults => cases hentry

/-- Handlers that were not refused have names that fit. -/
theorem fits_of_mem {key : HandlerKey} {handler : Handler} (hnone : ¬ HasProblem Refused made)
    (h : .handler key handler ∈ made) : key.fits = true := by
  by_contra hfits
  obtain ⟨earlier, later, rfl⟩ := List.append_of_mem h
  exact hnone ⟨earlier, .handler key handler, _, ⟨later, by simp⟩,
    .misnamed fun hcategory => hfits (decide_eq_true hcategory)⟩

/-- Only handlers are refused. -/
theorem not_refused_of_handler? {entry : Registration} (h : entry.handler? = none) {e : Error} :
    ¬ Refused made entry e := by
  rintro (_ | _) <;> cases h

/-- A handler is refused if its key does not fit, or comes again. -/
theorem refused_iff {key : HandlerKey} {value : Handler} {e : Error} :
    Refused made (.handler key value) e ↔
      key.fits = false ∧ e = .invalidHandlerKey key.type key.name ∨
        (∃ first, .handler key first ∈ made) ∧ e = .duplicateHandler key.type key.name := by
  constructor
  · rintro (hcategory | hmem)
    · exact .inl ⟨decide_eq_false hcategory, rfl⟩
    · exact .inr ⟨⟨_, hmem⟩, rfl⟩
  · rintro (⟨hfits, rfl⟩ | ⟨⟨first, hmem⟩, rfl⟩)
    · exact .misnamed (of_decide_eq_false hfits)
    · exact .repeated hmem

end Registration

namespace Registry

open Registration (Refused)

/-! ### Settings -/

/-- The policies and defaults are those that were set last. -/
structure SetBy (r : Registry) (made : List Registration) : Prop where
  standard_eq : r.policies.standard = (lastSet Registration.standardPolicy? made).getD .noRetry
  own_eq : ∀ t, r.policies.own t = lastSet (Registration.policy? t) made
  defaults_eq : ∀ t, r.defaults t = lastSet (Registration.defaults? t) made

namespace SetBy

variable {r : Registry} {made : List Registration}

/-- Handlers set nothing. -/
theorem handler (h : r.SetBy made) (key : HandlerKey) (value : Handler)
    (handlers : List (HandlerKey × Handler)) :
    ({ r with handlers := handlers } : Registry).SetBy (made ++ [.handler key value]) where
  standard_eq := by rw [lastSet_concat]; exact h.standard_eq
  own_eq t := by rw [lastSet_concat]; exact h.own_eq t
  defaults_eq t := by rw [lastSet_concat]; exact h.defaults_eq t

theorem policy (h : r.SetBy made) (taskType : TaskType) (policy : RetryPolicy) :
    ({ r with policies := r.policies.set taskType policy } : Registry).SetBy
      (made ++ [.retryPolicy taskType policy]) where
  standard_eq := by rw [lastSet_concat]; exact h.standard_eq
  own_eq t := by
    rw [lastSet_concat, ← h.own_eq, RetryPolicies.set, Registration.policy?]
    dsimp only
    split <;> rfl
  defaults_eq t := by rw [lastSet_concat]; exact h.defaults_eq t

theorem standardPolicy (h : r.SetBy made) (policy : RetryPolicy) :
    ({ r with policies := r.policies.setStandard policy } : Registry).SetBy
      (made ++ [.standardRetryPolicy policy]) where
  standard_eq := by rw [lastSet_concat]; rfl
  own_eq t := by rw [lastSet_concat]; exact h.own_eq t
  defaults_eq t := by rw [lastSet_concat]; exact h.defaults_eq t

theorem defaults (h : r.SetBy made) (taskType : TaskType) (options : TaskOptions) :
    ({ r with defaults := fun t => if t = taskType then some options else r.defaults t } :
      Registry).SetBy (made ++ [.taskDefaults taskType options]) where
  standard_eq := by rw [lastSet_concat]; exact h.standard_eq
  own_eq t := by rw [lastSet_concat]; exact h.own_eq t
  defaults_eq t := by
    rw [lastSet_concat, ← h.defaults_eq, Registration.defaults?]
    dsimp only
    split <;> rfl

end SetBy

/-! ### Handlers -/

namespace Builder

/-- What is registered is what the entries say. -/
structure Follows (b : Builder) (made : List Registration) : Prop where
  rejected_iff : ∀ e, b.rejected = some e ↔ FirstProblem Refused made e
  nodup_keys : (b.registry.handlers.map (·.1)).Nodup
  /-- As long as there is no problem, the handlers are those of the entries in order. -/
  handlers_eq : ¬ HasProblem Refused made →
    b.registry.handlers = made.filterMap Registration.handler?
  settings : b.registry.SetBy made

variable {b : Builder} {made : List Registration}

theorem follows_start : start.Follows [] where
  rejected_iff _ := ⟨nofun, fun h => (not_hasProblem_nil h.hasProblem).elim⟩
  nodup_keys := List.nodup_nil
  handlers_eq _ := rfl
  settings := ⟨rfl, fun _ => rfl, fun _ => rfl⟩

namespace Follows

variable {key : HandlerKey} {value : Handler} {e : Error}

/-- Nothing is rejected exactly if there is no problem. -/
theorem rejected_eq_none_iff (h : b.Follows made) :
    b.rejected = none ↔ ¬ HasProblem Refused made := by
  rw [← exists_firstProblem_iff, Option.eq_none_iff_forall_ne_some, not_exists]
  exact forall_congr' fun e => not_congr (h.rejected_iff e)

/-- A key is taken if an entry before has it. -/
theorem mem_handlers_iff (h : b.Follows made) (hnone : ¬ HasProblem Refused made) :
    (key, value) ∈ b.registry.handlers ↔ .handler key value ∈ made := by
  rw [h.handlers_eq hnone, Registration.mem_filterMap_handler?]

theorem any_handlers_iff (h : b.Follows made) (hnone : ¬ HasProblem Refused made) :
    b.registry.handlers.any (·.1 = key) = true ↔ ∃ first, .handler key first ∈ made := by
  rw [any_key_iff]
  exact exists_congr fun first => h.mem_handlers_iff hnone

/-- Behind a problem a handler is passed over. -/
theorem passOver (h : b.Follows made) (hproblem : HasProblem Refused made) :
    b.Follows (made ++ [.handler key value]) where
  rejected_iff e := by rw [firstProblem_concat_of_hasProblem hproblem]; exact h.rejected_iff e
  nodup_keys := h.nodup_keys
  handlers_eq hnone := (hnone (hasProblem_concat.mpr (.inl hproblem))).elim
  settings := h.settings.handler key value b.registry.handlers

/-- The first handler that is refused is the first problem. -/
theorem refuse (h : b.Follows made) (hnone : ¬ HasProblem Refused made)
    (he : ∀ e', Refused made (.handler key value) e' ↔ e' = e) :
    ({ b with rejected := some e } : Builder).Follows (made ++ [.handler key value]) where
  rejected_iff e' := by
    rw [firstProblem_concat_of_not_hasProblem hnone, he, Option.some_inj, eq_comm]
  nodup_keys := h.nodup_keys
  handlers_eq hnone' := (hnone' (hasProblem_concat.mpr (.inr ⟨e, (he e).mpr rfl⟩))).elim
  settings := h.settings.handler key value b.registry.handlers

/-- A handler that is not refused is kept. -/
theorem accept (h : b.Follows made) (hnone : ¬ HasProblem Refused made)
    (he : ∀ e, ¬ Refused made (.handler key value) e)
    (hnew : ∀ first, .handler key first ∉ made) :
    ({ b with registry :=
      { b.registry with handlers := b.registry.handlers ++ [(key, value)] } } : Builder).Follows
      (made ++ [.handler key value]) where
  rejected_iff e := by
    rw [firstProblem_concat, or_iff_left fun hrefused => he e hrefused.2]
    exact h.rejected_iff e
  nodup_keys := nodup_keys_concat h.nodup_keys fun first hmem =>
    hnew first ((h.mem_handlers_iff hnone).mp hmem)
  handlers_eq _ := by
    rw [List.filterMap_append, ← h.handlers_eq hnone]
    rfl
  settings := h.settings.handler key value _

/-- Registering a handler goes on as the entries say. -/
theorem register (h : b.Follows made) (key : HandlerKey) (value : Handler) :
    (b.register key value).Follows (made ++ [.handler key value]) := by
  rw [Builder.register]
  split
  · next e he => exact h.passOver ((h.rejected_iff e).mp he).hasProblem
  · next hrejected =>
      have hnone := h.rejected_eq_none_iff.mp hrejected
      split
      · next hfits =>
          split
          · next htaken =>
              have hmem := (h.any_handlers_iff hnone).mp htaken
              refine h.refuse hnone fun e' => ?_
              rw [Registration.refused_iff, and_iff_right hmem, hfits]
              simp
          · next hfree =>
              rw [h.any_handlers_iff hnone] at hfree
              refine h.accept hnone (fun e => ?_) fun first hmem => hfree ⟨first, hmem⟩
              rw [Registration.refused_iff, hfits]
              simp [hfree]
      · next hfits =>
          have hfits' : key.fits = false := Bool.eq_false_iff.mpr hfits
          have hnew : ¬ ∃ first, .handler key first ∈ made := fun ⟨_, hmem⟩ =>
            hfits (Registration.fits_of_mem hnone hmem)
          refine h.refuse hnone fun e' => ?_
          rw [Registration.refused_iff, hfits']
          simp [hnew]

/-- Settings are no problem, and they leave the handlers as they are. -/
theorem set (h : b.Follows made) {entry : Registration} {r : Registry}
    (hentry : entry.handler? = none) (hhandlers : r.handlers = b.registry.handlers)
    (hr : r.SetBy (made ++ [entry])) :
    ({ b with registry := r } : Builder).Follows (made ++ [entry]) where
  rejected_iff e := by
    rw [firstProblem_concat, or_iff_left fun hrefused =>
      Registration.not_refused_of_handler? hentry hrefused.2]
    exact h.rejected_iff e
  nodup_keys := by rw [hhandlers]; exact h.nodup_keys
  handlers_eq hnone := by
    rw [hhandlers, h.handlers_eq fun hmade => hnone (hasProblem_concat.mpr (.inl hmade)),
      List.filterMap_append, List.filterMap_cons_none hentry, List.filterMap_nil, List.append_nil]
  settings := hr

/-- **One more entry.** -/
theorem add (h : b.Follows made) (entry : Registration) :
    (b.add entry).Follows (made ++ [entry]) := by
  cases entry with
  | handler key value => exact h.register key value
  | retryPolicy t policy => exact h.set rfl rfl (h.settings.policy t policy)
  | standardRetryPolicy policy => exact h.set rfl rfl (h.settings.standardPolicy policy)
  | taskDefaults t options => exact h.set rfl rfl (h.settings.defaults t options)

/-- **All entries.** -/
theorem foldl (h : b.Follows made) (entries : List Registration) :
    (entries.foldl Builder.add b).Follows (made ++ entries) := by
  induction entries generalizing b made with
  | nil => rwa [List.append_nil]
  | cons entry rest ih =>
      have hrest := ih (h.add entry)
      rwa [List.append_assoc] at hrest

end Follows

theorem follows_entries (entries : List Registration) :
    (entries.foldl add start).Follows entries := follows_start.foldl entries

end Builder

/-- What a registry holds that is made from entries. -/
structure MadeFrom (r : Registry) (entries : List Registration) : Prop where
  size_eq : r.size = entries.countP fun entry => entry.handler?.isSome
  handler_iff : ∀ key value, r.handler? key = some value ↔ .handler key value ∈ entries
  no_handler_iff : ∀ key, r.handler? key = none ↔ ∀ value, .handler key value ∉ entries
  /-- A task type's own policy goes before the one for all. -/
  policy_eq : ∀ t, r.policies.policyFor t =
    (lastSet (Registration.policy? t) entries).getD
      ((lastSet Registration.standardPolicy? entries).getD .noRetry)
  /-- The defaults are those of every draft of decisions. -/
  defaults_eq : ∀ fresh t, (r.draft fresh).defaults t = lastSet (Registration.defaults? t) entries

/-- A handler is found exactly if it was registered, unless there is a problem. -/
theorem Builder.Follows.handler?_eq_some_iff {b : Builder} {entries : List Registration}
    (h : b.Follows entries) (hnone : ¬ HasProblem Refused entries) {key : HandlerKey}
    {value : Handler} : b.registry.handler? key = some value ↔ .handler key value ∈ entries := by
  rw [handler?, find?_key_eq_some_iff h.nodup_keys, h.mem_handlers_iff hnone]

theorem Builder.Follows.madeFrom {b : Builder} {entries : List Registration}
    (h : b.Follows entries) (hnone : ¬ HasProblem Refused entries) :
    b.registry.MadeFrom entries where
  size_eq := by rw [size, h.handlers_eq hnone, List.length_filterMap_eq_countP]
  handler_iff _ _ := h.handler?_eq_some_iff hnone
  no_handler_iff key := by
    rw [Option.eq_none_iff_forall_ne_some]
    exact forall_congr' fun value => not_congr (h.handler?_eq_some_iff hnone)
  policy_eq t := by rw [RetryPolicies.policyFor, h.settings.own_eq, h.settings.standard_eq]
  defaults_eq _ t := h.settings.defaults_eq t

/-- The error of a registration is its first problem. -/
theorem build_eq_error_iff {entries : List Registration} {e : Error} :
    build entries = .error e ↔ FirstProblem Refused entries e := by
  rw [← (Builder.follows_entries entries).rejected_iff, build, Builder.build]
  cases (entries.foldl Builder.add .start).rejected <;> simp

/-- Without a problem there is a registry, and it holds all entries. -/
theorem exists_build_iff {entries : List Registration} :
    (∃ r, build entries = .ok r ∧ r.MadeFrom entries) ↔ ¬ HasProblem Refused entries := by
  refine exists_ok_iff (fun _ => build_eq_error_iff) fun hnone => ?_
  have hfollows := Builder.follows_entries entries
  refine ⟨_, ?_, hfollows.madeFrom hnone⟩
  rw [build, Builder.build, hfollows.rejected_eq_none_iff.mpr hnone]

end Registry

/-! ### Executors -/

namespace TaskRegistry

/-- An executor is refused after others if its task type has one already. -/
inductive Refused (earlier : List (TaskType × Executor)) : TaskType × Executor → Error → Prop
  | repeated {t : TaskType} {executor first : Executor} (h : (t, first) ∈ earlier) :
      Refused earlier (t, executor) (.duplicateExecutor t)

variable {made : List (TaskType × Executor)} {t : TaskType} {executor : Executor} {e : Error}

/-- An executor is refused if its type comes again. -/
theorem refused_iff :
    Refused made (t, executor) e ↔ (∃ first, (t, first) ∈ made) ∧ e = .duplicateExecutor t := by
  constructor
  · rintro ⟨hmem⟩
    exact ⟨⟨_, hmem⟩, rfl⟩
  · rintro ⟨⟨first, hmem⟩, rfl⟩
    exact .repeated hmem

namespace Builder

/-- What is registered is what was given. -/
structure Follows (b : Builder) (made : List (TaskType × Executor)) : Prop where
  repeated_iff : ∀ e, b.repeated.map .duplicateExecutor = some e ↔ FirstProblem Refused made e
  nodup_keys : (b.registry.executors.map (·.1)).Nodup
  /-- As long as no task type is repeated, the executors are those that were given. -/
  executors_eq : ¬ HasProblem Refused made → b.registry.executors = made

variable {b : Builder}

theorem follows_start : start.Follows [] where
  repeated_iff _ := ⟨nofun, fun h => (not_hasProblem_nil h.hasProblem).elim⟩
  nodup_keys := List.nodup_nil
  executors_eq _ := rfl

namespace Follows

theorem repeated_eq_none_iff (h : b.Follows made) :
    b.repeated = none ↔ ¬ HasProblem Refused made := by
  rw [← exists_firstProblem_iff, ← Option.map_eq_none_iff, Option.eq_none_iff_forall_ne_some,
    not_exists]
  exact forall_congr' fun e => not_congr (h.repeated_iff e)

/-- Behind a problem the first one is what is kept, whether or not the task type is free. -/
theorem register_of_hasProblem (h : b.Follows made) (hproblem : HasProblem Refused made) :
    (b.register t executor).repeated = b.repeated := by
  have hrepeated : b.repeated ≠ none := fun hnone => h.repeated_eq_none_iff.mp hnone hproblem
  obtain ⟨first, hfirst⟩ := Option.ne_none_iff_exists'.mp hrepeated
  rw [Builder.register]
  split
  · rw [hfirst, Option.some_or]
  · rfl

theorem nodup_register (h : b.Follows made) (t : TaskType) (executor : Executor) :
    ((b.register t executor).registry.executors.map (·.1)).Nodup := by
  rw [Builder.register]
  split
  · exact h.nodup_keys
  · next hfree =>
      exact nodup_keys_concat h.nodup_keys fun first hmem => hfree (any_key_iff.mpr ⟨first, hmem⟩)

/-- **One more executor.** -/
theorem register (h : b.Follows made) (t : TaskType) (executor : Executor) :
    (b.register t executor).Follows (made ++ [(t, executor)]) := by
  by_cases hproblem : HasProblem Refused made
  · refine ⟨fun e => ?_, h.nodup_register t executor, fun hnone => ?_⟩
    · rw [firstProblem_concat_of_hasProblem hproblem, h.register_of_hasProblem hproblem]
      exact h.repeated_iff e
    · exact (hnone (hasProblem_concat.mpr (.inl hproblem))).elim
  have hrepeated := h.repeated_eq_none_iff.mpr hproblem
  have htaken_iff : b.registry.contains t = true ↔ ∃ first, (t, first) ∈ made := by
    rw [contains, any_key_iff, h.executors_eq hproblem]
  refine ⟨fun e => ?_, h.nodup_register t executor, fun hnone => ?_⟩
  · rw [firstProblem_concat_of_not_hasProblem hproblem, refused_iff, ← htaken_iff, Builder.register,
      hrepeated]
    split
    · next htaken => simp [htaken, eq_comm]
    · next hfree => simp [hfree]
  · have hfree : b.registry.contains t ≠ true := fun htaken =>
      hnone (hasProblem_concat.mpr (.inr ⟨_, refused_iff.mpr ⟨htaken_iff.mp htaken, rfl⟩⟩))
    rw [Builder.register, if_neg hfree, ← h.executors_eq hproblem]

/-- **All executors.** -/
theorem foldl (h : b.Follows made) (executors : List (TaskType × Executor)) :
    (executors.foldl (fun b entry => b.register entry.1 entry.2) b).Follows
      (made ++ executors) := by
  induction executors generalizing b made with
  | nil => rwa [List.append_nil]
  | cons entry rest ih =>
      have hrest := ih (h.register entry.1 entry.2)
      rwa [List.append_assoc] at hrest

end Follows

theorem follows_executors (executors : List (TaskType × Executor)) :
    (executors.foldl (fun b entry => b.register entry.1 entry.2) start).Follows executors :=
  follows_start.foldl executors

end Builder

/-- What a registry holds that is made from executors. -/
structure MadeFrom (r : TaskRegistry) (executors : List (TaskType × Executor)) : Prop where
  size_eq : r.size = executors.length
  executor_iff : ∀ t executor, r.executor? t = some executor ↔ (t, executor) ∈ executors
  no_executor_iff : ∀ t, r.executor? t = none ↔ ∀ executor, (t, executor) ∉ executors

/-- An executor is found exactly if it was registered, unless there is a problem. -/
theorem Builder.Follows.executor?_eq_some_iff {b : Builder} (h : b.Follows made)
    (hnone : ¬ HasProblem Refused made) :
    b.registry.executor? t = some executor ↔ (t, executor) ∈ made := by
  rw [executor?, find?_key_eq_some_iff h.nodup_keys, h.executors_eq hnone]

theorem Builder.Follows.madeFrom {b : Builder} (h : b.Follows made)
    (hnone : ¬ HasProblem Refused made) : b.registry.MadeFrom made where
  size_eq := by rw [size, h.executors_eq hnone]
  executor_iff _ _ := h.executor?_eq_some_iff hnone
  no_executor_iff t := by
    rw [Option.eq_none_iff_forall_ne_some]
    exact forall_congr' fun executor => not_congr (h.executor?_eq_some_iff hnone)

/-- The error of a registration is its first problem. -/
theorem build_eq_error_iff {executors : List (TaskType × Executor)} {e : Error} :
    build executors = .error e ↔ FirstProblem Refused executors e := by
  rw [← (Builder.follows_executors executors).repeated_iff, build, Builder.build]
  cases (executors.foldl (fun b entry => b.register entry.1 entry.2) Builder.start).repeated <;>
    simp

/-- Without a problem there is a registry, and it holds all executors. -/
theorem exists_build_iff {executors : List (TaskType × Executor)} :
    (∃ r, build executors = .ok r ∧ r.MadeFrom executors) ↔ ¬ HasProblem Refused executors := by
  refine exists_ok_iff (fun _ => build_eq_error_iff) fun hnone => ?_
  have hfollows := Builder.follows_executors executors
  refine ⟨_, ?_, hfollows.madeFrom hnone⟩
  rw [build, Builder.build, hfollows.repeated_eq_none_iff.mpr hnone]

end TaskRegistry

/-! ### What comes of a registration -/

/-- **The first problem is what a registration ends with, and without one nothing is lost.**
Entries and executors are given in any number and order.  A registration fails if and only if one of
them is refused for what stands before it, with the error of the first of these; otherwise the
registry holds exactly what was given, and the last policies and defaults. -/
theorem registration_outcomes (entries : List Registration)
    (executors : List (TaskType × Executor)) :
    ((∃ e, Registry.build entries = .error e) ↔ HasProblem Registration.Refused entries) ∧
    (∀ e, Registry.build entries = .error e ↔ FirstProblem Registration.Refused entries e) ∧
    ((∃ r, Registry.build entries = .ok r ∧ r.MadeFrom entries) ↔
      ¬ HasProblem Registration.Refused entries) ∧
    ((∃ e, TaskRegistry.build executors = .error e) ↔
      HasProblem TaskRegistry.Refused executors) ∧
    (∀ e, TaskRegistry.build executors = .error e ↔
      FirstProblem TaskRegistry.Refused executors e) ∧
    ((∃ r, TaskRegistry.build executors = .ok r ∧ r.MadeFrom executors) ↔
      ¬ HasProblem TaskRegistry.Refused executors) := by
  have hentries (e : Error) :
      Registry.build entries = .error e ↔ FirstProblem Registration.Refused entries e :=
    Registry.build_eq_error_iff
  have hexecutors (e : Error) :
      TaskRegistry.build executors = .error e ↔ FirstProblem TaskRegistry.Refused executors e :=
    TaskRegistry.build_eq_error_iff
  exact ⟨exists_error_iff hentries, hentries, Registry.exists_build_iff,
    exists_error_iff hexecutors, hexecutors, TaskRegistry.exists_build_iff⟩

/-- Of a name of another shape and a key that is repeated behind it, the name is what is told.  Of
two task types that are repeated, it is the one whose repetition comes first. -/
theorem registration_outcomes_twoProblems :
    FirstProblem Registration.Refused
      [.handler ⟨.timerFired, .timer "a"⟩ fun _ => .done,
        .standardRetryPolicy (.constantDelay 3 5),
        .handler ⟨.timerFired, .signal "a"⟩ fun _ => .done,
        .handler ⟨.timerFired, .timer "a"⟩ fun _ => .fail "again"]
      (.invalidHandlerKey .timerFired (.signal "a")) ∧
    FirstProblem TaskRegistry.Refused
      [(⟨"a", "1"⟩, fun _ _ => .finish (.canceled none)),
        (⟨"b", "1"⟩, fun _ _ => .finish (.canceled none)),
        (⟨"b", "1"⟩, fun _ _ => .crash none), (⟨"a", "1"⟩, fun _ _ => .crash none)]
      (.duplicateExecutor ⟨"b", "1"⟩) :=
  ⟨((registration_outcomes _ []).2.1 _).mp rfl,
    ((registration_outcomes [] _).2.2.2.2.1 _).mp rfl⟩

end DurableWorkflow
