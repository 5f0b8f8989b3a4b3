import CloudSpace.Proofs.Plan.Batch
import CloudSpace.Proofs.Platform.Independence

/-!
# Planned calls are apart

What the differ finds for one application never asks for two changes of one part of its
manifest: a variable differs in one way, a service is to be bound or to be unbound, and sizes
and health checks are coalesced. Together with the names being distinct, this makes the calls of
every batch pairwise apart.
-/
namespace CloudSpace.Plan

/-! ### Calls of one application -/

theorem apart_of_parts {first second : Call} {part other : ManifestPart}
    (isPart : first.part? = some part) (isOther : second.part? = some other)
    (distinct : part ≠ other) : first.Apart second :=
  fun _ => ⟨part, other, isPart, isOther, distinct⟩

section

variable {name : String} {call : Call}

theorem part?_environmentCall (name : String) (entry : EntryChange) :
    (environmentCall name entry).part? = some (.variable entry.key) ∧
      (environmentCall name entry).target = name := by
  rw [environmentCall]
  split <;> exact ⟨rfl, rfl⟩

theorem part?_of_mem_bindingCalls {live desired : List String}
    (member : call ∈ bindingCalls name live desired) :
    (∃ service, call.part? = some (.binding service)) ∧ call.target = name := by
  simp only [bindingCalls, List.mem_append, List.mem_map] at member
  rcases member with ⟨service, _, rfl⟩ | ⟨service, _, rfl⟩
  · exact ⟨⟨service, rfl⟩, rfl⟩
  · exact ⟨⟨service, rfl⟩, rfl⟩

theorem part?_of_mem_scaleCalls {scale : Scale} (member : call ∈ scaleCalls name scale) :
    call.part? = some .sizes ∧ call.target = name := by
  rw [scaleCalls] at member
  split at member
  · cases member
  · cases List.mem_singleton.mp member
    exact ⟨rfl, rfl⟩

theorem part?_of_mem_healthCheckCalls {manifest : Option Manifest}
    (member : call ∈ healthCheckCalls name manifest) :
    call.part? = some .healthCheck ∧ call.target = name := by
  cases manifest with
  | none => cases member
  | some manifest =>
    obtain ⟨type, _, rfl⟩ := List.mem_map.mp member
    exact ⟨rfl, rfl⟩

/-- Every call between two manifests is on a part, and on the application of that name. -/
theorem part?_of_mem_manifestCalls {live desired : Manifest}
    (member : call ∈ manifestCalls name live desired) :
    (∃ part, call.part? = some part) ∧ call.target = name := by
  simp only [manifestCalls, List.mem_append, List.mem_map] at member
  rcases member with ((⟨entry, _, rfl⟩ | binding) | scale) | healthCheck
  · obtain ⟨isPart, target⟩ := part?_environmentCall name entry
    exact ⟨⟨_, isPart⟩, target⟩
  · obtain ⟨⟨service, isPart⟩, target⟩ := part?_of_mem_bindingCalls binding
    exact ⟨⟨_, isPart⟩, target⟩
  · obtain ⟨isPart, target⟩ := part?_of_mem_scaleCalls scale
    exact ⟨⟨_, isPart⟩, target⟩
  · obtain ⟨isPart, target⟩ := part?_of_mem_healthCheckCalls healthCheck
    exact ⟨⟨_, isPart⟩, target⟩

end

section

variable (name : String)

/-- Services are bound and unbound at most once each. -/
theorem apart_bindingCalls (live desired : List String) :
    (bindingCalls name live desired).Pairwise Call.Apart := by
  obtain ⟨added, removed⟩ := ascending_collectionDelta live desired
  rw [bindingCalls, List.pairwise_append, List.pairwise_map, List.pairwise_map]
  refine ⟨added.imp ?_, removed.imp ?_, ?_⟩
  · intro first second less
    exact apart_of_parts rfl rfl (by simpa using String.ne_of_lt less)
  · intro first second less
    exact apart_of_parts rfl rfl (by simpa using String.ne_of_lt less)
  · intro bind isBind unbind isUnbind
    obtain ⟨service, gained, rfl⟩ := List.mem_map.mp isBind
    obtain ⟨other, lost, rfl⟩ := List.mem_map.mp isUnbind
    refine apart_of_parts rfl rfl ?_
    -- Only what is live is unbound, and only what is not live is bound.
    have absent := (mem_collectionDelta_added.mp gained).2
    have present := (mem_collectionDelta_removed.mp lost).1
    simp only [ne_eq, ManifestPart.binding.injEq]
    rintro rfl
    exact absent present

theorem apart_environmentCalls (live desired : NameMap String) :
    ((mapDelta live desired).map (environmentCall name)).Pairwise Call.Apart := by
  refine List.pairwise_map.mpr ((ascending_mapDelta _ _).imp ?_)
  intro first second less
  exact apart_of_parts (part?_environmentCall name first).1 (part?_environmentCall name second).1
    (by simpa using String.ne_of_lt less)

theorem apart_scaleCalls (scale : Scale) : (scaleCalls name scale).Pairwise Call.Apart := by
  rw [scaleCalls]
  split <;> simp

theorem apart_healthCheckCalls (manifest : Option Manifest) :
    (healthCheckCalls name manifest).Pairwise Call.Apart := by
  cases manifest with
  | none => exact .nil
  | some manifest => cases given : manifest.healthCheckType <;> simp [healthCheckCalls, given]

/-- No two calls between two manifests touch the same part. -/
theorem apart_manifestCalls (live desired : Manifest) :
    (manifestCalls name live desired).Pairwise Call.Apart := by
  let environment := (mapDelta live.environmentVariables desired.environmentVariables).map
    (environmentCall name)
  let bindings := bindingCalls name live.services desired.services
  have environmentPart {call : Call} (member : call ∈ environment) :
      ∃ key, call.part? = some (.variable key) := by
    obtain ⟨entry, _, rfl⟩ := List.mem_map.mp member
    exact ⟨entry.key, (part?_environmentCall name entry).1⟩
  -- Variables and bindings are told apart by their keys and names, sizes and health checks by
  -- there being one call for each.
  have listPart {call : Call} (member : call ∈ environment ++ bindings) :
      ∃ part, call.part? = some part ∧ part ≠ .sizes ∧ part ≠ .healthCheck := by
    rcases List.mem_append.mp member with isVariable | isBinding
    · obtain ⟨key, isPart⟩ := environmentPart isVariable
      exact ⟨_, isPart, by simp, by simp⟩
    · obtain ⟨⟨service, isPart⟩, _⟩ := part?_of_mem_bindingCalls isBinding
      exact ⟨_, isPart, by simp, by simp⟩
  rw [manifestCalls, List.pairwise_append, List.pairwise_append, List.pairwise_append]
  refine ⟨⟨⟨apart_environmentCalls name _ _, apart_bindingCalls name _ _, ?_⟩,
    apart_scaleCalls name _, ?_⟩, apart_healthCheckCalls name _, ?_⟩
  · intro call isVariable other isBinding
    obtain ⟨key, isPart⟩ := environmentPart isVariable
    obtain ⟨⟨service, isOther⟩, _⟩ := part?_of_mem_bindingCalls isBinding
    exact apart_of_parts isPart isOther (by simp)
  · intro call earlier other isScale
    obtain ⟨part, isPart, noSizes, _⟩ := listPart earlier
    exact apart_of_parts isPart (part?_of_mem_scaleCalls isScale).1 noSizes
  · intro call earlier other isCheck
    have isOther := (part?_of_mem_healthCheckCalls isCheck).1
    rcases List.mem_append.mp earlier with first | isScale
    · obtain ⟨part, isPart, _, noCheck⟩ := listPart first
      exact apart_of_parts isPart isOther noCheck
    · exact apart_of_parts (part?_of_mem_scaleCalls isScale).1 isOther (by simp)

/-- The calls of an application are apart, of its kind, and rename nothing. -/
theorem separate_applicationCalls (live desired : Option Application) :
    Separate .applications (applicationCalls name live desired) := by
  -- A call on a part is a call on an application and no rename.
  have kept {call : Call} {part : ManifestPart} (isPart : call.part? = some part) :
      call.kind = .applications ∧ call.isRename = false := by
    cases call <;> first | exact ⟨rfl, rfl⟩ | cases isPart
  cases live with
  | none =>
    cases desired with
    | none => exact .nil _
    | some desired => exact ⟨by simp [applicationCalls, Call.kind],
        by simp [applicationCalls, Call.isRename], List.pairwise_singleton _ _⟩
  | some live =>
    cases desired with
    | none => exact ⟨by simp [applicationCalls, Call.kind],
        by simp [applicationCalls, Call.isRename], List.pairwise_singleton _ _⟩
    | some desired =>
      refine ⟨?_, ?_, apart_manifestCalls name _ _⟩
      · intro call member
        obtain ⟨⟨part, isPart⟩, _⟩ := part?_of_mem_manifestCalls member
        exact (kept isPart).1
      · intro call member
        obtain ⟨⟨part, isPart⟩, _⟩ := part?_of_mem_manifestCalls member
        exact (kept isPart).2

/-- The calls of an application are all on it. -/
theorem target_applicationCalls (live desired : Option Application) :
    ∀ call ∈ applicationCalls name live desired, call.target = name := by
  cases live <;> cases desired <;> simp only [applicationCalls, List.mem_singleton,
    List.not_mem_nil, forall_eq, false_implies, implies_true]
  · rfl
  · rfl
  · exact fun call member => (part?_of_mem_manifestCalls member).2

/-! ### Calls of services and developers -/

theorem separate_serviceCalls (live desired : Option Service) :
    Separate .services (serviceCalls name live desired) := by
  cases live <;> cases desired <;> first
    | exact .nil _
    | exact ⟨by simp [serviceCalls, Call.kind], by simp [serviceCalls, Call.isRename],
        List.pairwise_singleton _ _⟩

theorem target_serviceCalls (live desired : Option Service) :
    ∀ call ∈ serviceCalls name live desired, call.target = name := by
  cases live <;> cases desired <;> simp [serviceCalls, Call.target]

end

/-- Nobody is both granted and revoked the role, and nobody twice. -/
theorem separate_roleCalls (live desired : List String) :
    Separate .developers (roleCalls live desired) := by
  -- Each of both lists ascends, and nobody is in both.
  obtain ⟨added, removed⟩ := ascending_collectionDelta live desired
  have apart {first second : Call} (distinct : first.target ≠ second.target) :
      first.Apart second := fun same => absurd same distinct
  refine ⟨?_, ?_, ?_⟩
  · simp [roleCalls, or_imp, forall_and, Call.kind]
  · simp [roleCalls, or_imp, forall_and, Call.isRename]
  · rw [roleCalls, List.pairwise_append, List.pairwise_map, List.pairwise_map]
    refine ⟨added.imp fun less => apart (String.ne_of_lt less),
      removed.imp fun less => apart (String.ne_of_lt less), ?_⟩
    intro grant isGrant revoke isRevoke
    obtain ⟨user, gained, rfl⟩ := List.mem_map.mp isGrant
    obtain ⟨other, lost, rfl⟩ := List.mem_map.mp isRevoke
    apply apart
    rintro rfl
    exact (mem_collectionDelta_added.mp gained).2 (mem_collectionDelta_removed.mp lost).1

/-! ### Calls of several entities -/

section

variable {kind : EntityKind} {names : List String} {block : String → List Call}

/-- Calls of different entities are apart since their targets are. -/
theorem separate_flatMap (ascending : names.Pairwise (· < ·))
    (separate : ∀ name, Separate kind (block name))
    (targets : ∀ name, ∀ call ∈ block name, call.target = name) :
    Separate kind (names.flatMap block) := by
  refine ⟨?_, ?_, ?_⟩
  · intro call member
    obtain ⟨name, _, inside⟩ := List.mem_flatMap.mp member
    exact (separate name).kinds call inside
  · intro call member
    obtain ⟨name, _, inside⟩ := List.mem_flatMap.mp member
    exact (separate name).keep call inside
  · refine List.pairwise_flatMap.mpr ⟨fun name _ => (separate name).apart, ascending.imp ?_⟩
    -- Calls of different entities have different targets, which is all that being apart asks for.
    intro name other less call inside another insideOther same
    rw [targets name call inside, targets other another insideOther] at same
    exact absurd same (String.ne_of_lt less)

end

/-- The calls of a plan are separate. -/
theorem separate_calls (kind : EntityKind) (live desired : Space) :
    Separate kind (calls kind live desired) := by
  cases kind with
  | applications =>
    exact separate_flatMap (ascending_distinctSorted _)
      (fun name => separate_applicationCalls name _ _)
      (fun name => target_applicationCalls name _ _)
  | services =>
    exact separate_flatMap (ascending_distinctSorted _)
      (fun name => separate_serviceCalls name _ _) (fun name => target_serviceCalls name _ _)
  | developers => exact separate_roleCalls _ _

end CloudSpace.Plan
