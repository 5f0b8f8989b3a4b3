import CloudSpace.Proofs.Plan.Arbitrary

/-!
# The order of changes

The planner of applications walks over the changes of an application and overwrites the sizes and
the health check that it met before, so that the last of them counts. Where they all come from one
manifest there is nothing to tell the last from the first, and changes in another order are planned
as the same calls in another order. The differ takes all changes of an application from one
manifest.
-/
namespace CloudSpace.Plan

/-- The changes for which there is a common call carry one manifest. -/
def ShareManifest (manifest : Manifest) (changes : List Change) : Prop :=
  ∀ change ∈ changes, Coalesces change → change.affected.manifest? = some manifest

section

variable {name : String} {changes others : List Change}

/-! ### Whether there is a plan -/

theorem eq_of_perm_of_whole {affected : Affected} (perm : changes.Perm others)
    (whole : Transition.of .applications name changes = .ok (.create affected) ∨
      Transition.of .applications name changes = .ok (.delete affected)) : others = changes := by
  rcases whole with made | deleted
  · cases Transition.describes_of made rfl with
    | created named other only => rw [only, List.singleton_perm.mp (only ▸ perm)]
  · cases Transition.describes_of deleted rfl with
    | deleted named other only => rw [only, List.singleton_perm.mp (only ▸ perm)]

theorem transition_update_perm (perm : changes.Perm others)
    (updates : Transition.of .applications name changes = .ok (.update changes)) :
    Transition.of .applications name others = .ok (.update others) := by
  cases (Transition.describes_of updates rfl).perm perm with
  | updated named fields => exact Transition.of_updated named fields

/-- What changes are refused for does not depend on their order. -/
theorem Refused.perm (perm : changes.Perm others) (refused : Refused name changes) :
    Refused name others := by
  cases refused with
  | transition error fails =>
    cases transition : Transition.of .applications name others with
    | error other => exact .transition other transition
    | ok described =>
      -- What another order describes is described in this order too.
      cases described with
      | create affected =>
        obtain rfl := eq_of_perm_of_whole perm.symm (.inl transition)
        exact nomatch fails.symm.trans transition
      | delete affected =>
        obtain rfl := eq_of_perm_of_whole perm.symm (.inr transition)
        exact nomatch fails.symm.trans transition
      | update given =>
        obtain rfl := eq_of_transition_update transition
        exact nomatch fails.symm.trans (transition_update_perm perm.symm transition)
  | record affected whole foreign =>
    obtain rfl := eq_of_perm_of_whole perm whole
    exact .record affected whole foreign
  | manifest updates change member coalesces foreign =>
    exact .manifest (transition_update_perm perm updates) change (perm.mem_iff.mp member)
      coalesces foreign

theorem exists_calls_perm (perm : changes.Perm others) :
    (∃ calls, (application name changes).calls = .ok calls) ↔
      ∃ calls, (application name others).calls = .ok calls := by
  rw [exists_calls_iff_not_refused, exists_calls_iff_not_refused, not_iff_not]
  exact ⟨.perm perm, .perm perm.symm⟩

/-! ### Which calls are planned -/

/-- The order of a list makes no difference if there is only one thing in it. -/
theorem eq_of_perm_of_eq {α : Type} {first second : List α} (only : Option α)
    (perm : first.Perm second) (same : ∀ one ∈ first, only = some one) : first = second := by
  have equal : ∀ one ∈ first, ∀ other ∈ first, one = other := fun one isOne other isOther =>
    Option.some.inj ((same one isOne).symm.trans (same other isOther))
  apply perm.eq_of_pairwise fun one other _ _ (same : one = other) _ => same
  · exact List.pairwise_of_forall_mem_list equal
  · exact List.pairwise_of_forall_mem_list fun one isOne other isOther =>
      equal one (perm.mem_iff.mpr isOne) other (perm.mem_iff.mpr isOther)

theorem filterMap_sizeSet_perm {manifest : Manifest} (shared : ShareManifest manifest changes)
    (perm : changes.Perm others) (dimension : Dimension) :
    changes.filterMap (sizeSet dimension) = others.filterMap (sizeSet dimension) := by
  apply eq_of_perm_of_eq (dimension.sizeIn manifest) (perm.filterMap _)
  intro size member
  obtain ⟨change, isChange, set⟩ := List.mem_filterMap.mp member
  rw [sizeSet] at set
  split at set
  next isSize => rwa [shared change isChange (coalesces_of_size isSize)] at set
  next => cases set

theorem filterMap_checkSet_perm {manifest : Manifest} (shared : ShareManifest manifest changes)
    (perm : changes.Perm others) :
    changes.filterMap checkSet = others.filterMap checkSet := by
  apply eq_of_perm_of_eq (some manifest) (perm.filterMap _)
  intro check member
  obtain ⟨change, isChange, set⟩ := List.mem_filterMap.mp member
  rw [checkSet] at set
  split at set
  next isCheck => rwa [shared change isChange (coalesces_of_check isCheck)] at set
  next => cases set

theorem scale_ext {first second : Scale}
    (same : ∀ dimension, Dimension.sizeOf dimension first = dimension.sizeOf second) :
    first = second := by
  obtain ⟨instances, memory, disk⟩ := first
  obtain ⟨otherInstances, otherMemory, otherDisk⟩ := second
  cases same .instances
  cases same .memory
  cases same .disk
  rfl

theorem MakesUp.perm {manifest : Manifest} {calls given : List Call}
    (shared : ShareManifest manifest changes) (perm : changes.Perm others)
    (first : MakesUp name changes calls) (second : MakesUp name others given) :
    calls.Perm given := by
  obtain ⟨scale, sizes, rfl⟩ := first
  obtain ⟨otherScale, otherSizes, rfl⟩ := second
  have same : scale = otherScale := scale_ext fun dimension => by
    rw [sizes, otherSizes, filterMap_sizeSet_perm shared perm]
  rw [same, filterMap_checkSet_perm shared perm]
  exact ((perm.flatMap_right _).append_right _).append_right _

/-- Reordered changes have reordered calls, as long as they share a manifest. -/
theorem calls_perm {manifest : Manifest} {calls given : List Call}
    (shared : ShareManifest manifest changes) (perm : changes.Perm others)
    (made : (application name changes).calls = .ok calls)
    (madeOther : (application name others).calls = .ok given) : calls.Perm given := by
  -- Whole records come alone, so that only updates have an order to speak of.
  cases transition : Transition.of .applications name changes with
  | error error =>
    exact absurd (.transition error transition) (exists_calls_iff_not_refused.mp ⟨calls, made⟩)
  | ok described =>
    cases described with
    | create affected =>
      obtain rfl := eq_of_perm_of_whole perm (.inl transition)
      cases made.symm.trans madeOther
      exact .refl _
    | delete affected =>
      obtain rfl := eq_of_perm_of_whole perm (.inr transition)
      cases made.symm.trans madeOther
      exact .refl _
    | update _ =>
      obtain rfl := eq_of_transition_update transition
      exact (makesUp_of_update transition made).perm shared perm
        (makesUp_of_update (transition_update_perm perm transition) madeOther)

end

/-! ### Changes of the differ -/

/-- A change of a field of an application carries the manifest, by itself or in the application. -/
theorem manifest?_owner : ∀ field ∈ Application.table, ∀ app : Application,
    (field.owner app).manifest? = some app.manifest := by
  have ofManifest : ∀ field ∈ Manifest.table, ∀ manifest : Manifest,
      (field.owner manifest).manifest? = some manifest := by
    simp only [Manifest.table, List.forall_mem_cons, List.not_mem_nil, false_implies, implies_true,
      and_true]
    and_intros <;> exact fun _ => rfl
  refine List.forall_mem_append.mpr ⟨?_, List.forall_mem_map.mpr fun field member app => ?_⟩
  · simp only [Application.ownTable, List.forall_mem_cons, List.not_mem_nil, false_implies,
      implies_true, and_true]
    exact ⟨fun _ => rfl, fun _ => rfl⟩
  · exact ofManifest field member app.manifest

theorem not_coalesces_of_isWhole {change : Change} (whole : change.IsWhole) :
    ¬ Coalesces change := by
  rintro ⟨field, _, isValue⟩
  rcases whole with added | removed
  · rw [Change.isValueOf, added] at isValue
    cases isValue
  · rw [Change.isValueOf, removed] at isValue
    cases isValue

theorem shareManifest_entityDiff (name : String) (live desired : Option Application) :
    ∃ manifest, ShareManifest manifest (Application.schema.entityDiff name live desired) := by
  cases live with
  | none =>
    cases desired with
    | none => exact ⟨{}, List.forall_mem_nil _⟩
    | some wanted =>
      -- A record that comes or goes as a whole sets no size, so that any manifest will do.
      refine ⟨{}, List.forall_mem_singleton.mpr fun coalesces => ?_⟩
      exact absurd coalesces (not_coalesces_of_isWhole (.inl rfl))
  | some held =>
    cases desired with
    | none =>
      refine ⟨{}, List.forall_mem_singleton.mpr fun coalesces => ?_⟩
      exact absurd coalesces (not_coalesces_of_isWhole (.inr rfl))
    | some wanted =>
      refine ⟨wanted.manifest, fun change member _ => ?_⟩
      obtain ⟨field, isField, changed⟩ := Application.schema.mem_compare.mp member
      obtain ⟨difference, _, rfl⟩ := Option.map_eq_some_iff.mp changed
      exact manifest?_owner field isField wanted

theorem shareManifest_diff (live desired : Space) (name : String) :
    ∃ manifest, ShareManifest manifest
      ((live.diff desired).filter (·.isWithin .applications name)) := by
  rw [filter_diff_application]
  exact shareManifest_entityDiff name _ _

/-- Changes in another order have a plan if they had one, with the same calls in another order if
those that coalesce carry one manifest. Those that the differ finds do. -/
theorem application_perm {changes others : List Change} (perm : changes.Perm others)
    (name : String) :
    ((∃ calls, (application name changes).calls = .ok calls) ↔
      ∃ calls, (application name others).calls = .ok calls) ∧
    (∀ manifest, ShareManifest manifest changes → ∀ calls given,
      (application name changes).calls = .ok calls →
      (application name others).calls = .ok given → calls.Perm given) ∧
    ∀ live desired : Space, ∃ manifest, ShareManifest manifest
      ((live.diff desired).filter (·.isWithin .applications name)) :=
  ⟨exists_calls_perm perm, fun _ shared _ _ => calls_perm shared perm,
    fun live desired => shareManifest_diff live desired name⟩

/-- Turned round, the scaling and the health check are the same and the others change places. -/
theorem application_perm_reverse :
    let held : Application := { manifest := {
      instances := some 2, services := ["db", "log"]
      environmentVariables := .ofList [("A", "1")] } }
    let wanted : Application := { manifest := {
      instances := some 3, memory := some 512, services := ["db"]
      healthCheckType := some .http, healthCheckHttpEndpoint := some "/up"
      environmentVariables := .ofList [("A", "2"), ("B", "")] } }
    let live : Space := { applications := .ofList [("web", held)] }
    let desired : Space := { applications := .ofList [("web", wanted)] }
    let changes := (live.diff desired).filter (·.isWithin .applications "web")
    let settings : List Call :=
      [.addEnvironmentVariable "web" "A" "2", .addEnvironmentVariable "web" "B" ""]
    let bindings : List Call := [.unbindService "web" "log"]
    let others : List Call := [.scaleApplication "web" { instances := some 3, memory := some 512 },
      .setHealthCheck "web" .http (some "/up")]
    changes.Perm changes.reverse ∧ (∃ manifest, ShareManifest manifest changes) ∧
    (application "web" changes).calls = .ok (settings ++ bindings ++ others) ∧
    (application "web" changes.reverse).calls = .ok (bindings ++ settings ++ others) ∧
    (settings ++ bindings ++ others).Perm (bindings ++ settings ++ others) := by
  intro held wanted live desired changes settings bindings others
  -- The planner is run on both orders, which gives different lists of calls.
  have perm : changes.Perm changes.reverse := (List.reverse_perm changes).symm
  have made : (application "web" changes).calls = .ok (settings ++ bindings ++ others) := by
    decide +kernel
  have reversed : (application "web" changes.reverse).calls =
    .ok (bindings ++ settings ++ others) := by decide +kernel
  obtain ⟨-, sameCalls, sharing⟩ := application_perm perm "web"
  obtain ⟨manifest, shared⟩ := sharing live desired
  exact ⟨perm, ⟨manifest, shared⟩, made, reversed, sameCalls manifest shared _ _ made reversed⟩

end CloudSpace.Plan
