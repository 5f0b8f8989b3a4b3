import CloudSpace.Proofs.Reconcile.Preparation

/-!
# Convergence

Reconciling a kind on a platform where no call is set to fail brings its section to the desired
one as far as calls can: the names are the desired ones, new entities have their desired
records, and of an application that was there already the variables, sizes, health check and
bindings are merged, while everything else stays as it was.
-/
namespace CloudSpace

/-! ### What is reached -/

/-- An application that was live with one record and is desired with another, afterwards. -/
structure Application.Merged (services : NameMap Service) (live desired after : Application) :
    Prop where
  environment :
    after.manifest.environmentVariables = desired.manifest.environmentVariables
  instances : after.manifest.instances = desired.manifest.instances.or live.manifest.instances
  memory : after.manifest.memory = desired.manifest.memory.or live.manifest.memory
  disk : after.manifest.disk = desired.manifest.disk.or live.manifest.disk
  healthCheck : (after.manifest.healthCheckType, after.manifest.healthCheckHttpEndpoint) =
    if desired.manifest.healthCheckType.isSome then
      (desired.manifest.healthCheckType, desired.manifest.healthCheckHttpEndpoint)
    else (live.manifest.healthCheckType, live.manifest.healthCheckHttpEndpoint)
  /-- Bindings that are kept, and new ones to services that there are. -/
  bindings : ∀ service, service ∈ after.manifest.services ↔
    service ∈ desired.manifest.services ∧
      (service ∈ live.manifest.services ∨ services.contains service = true)
  others : after = { live with manifest := { live.manifest with
    environmentVariables := after.manifest.environmentVariables
    instances := after.manifest.instances
    memory := after.manifest.memory
    disk := after.manifest.disk
    healthCheckType := after.manifest.healthCheckType
    healthCheckHttpEndpoint := after.manifest.healthCheckHttpEndpoint
    services := after.manifest.services } }

/-- The applications that reconciling them reaches. -/
structure Space.ApplicationsReached (live desired after : Space) : Prop where
  names : after.applications.keys = desired.applications.keys
  created : ∀ name app, live.applications.get? name = none →
    desired.applications.get? name = some app → after.applications.get? name = some app
  merged : ∀ name held app, live.applications.get? name = some held →
    desired.applications.get? name = some app →
    ∃ result, after.applications.get? name = some result ∧ held.Merged live.services app result

/-- The services that reconciling them reaches. -/
structure Space.ServicesReached (live desired after : Space) : Prop where
  names : after.services.keys = desired.services.keys
  created : ∀ name service, live.services.get? name = none →
    desired.services.get? name = some service → after.services.get? name = some service
  kept : ∀ name held, live.services.get? name = some held →
    desired.services.contains name = true → after.services.get? name = some held

/-- What reconciling a kind reaches. -/
def Space.Reached (kind : EntityKind) (live desired after : Space) : Prop :=
  match kind with
  | .applications => live.ApplicationsReached desired after
  | .services => live.ServicesReached desired after
  | .developers => ∀ user, user ∈ after.developers ↔ user ∈ desired.developers

/-! ### What is accepted -/

namespace Memory

variable {memory : Memory}

theorem accepts_eq (noFailures : memory.failures = []) (call : Call) :
    memory.accepts call = (memory.space.refusal? call).isNone := by
  simp [accepts, fails, noFailures]

/-- A binding to an application that there is is accepted if there is the service. -/
theorem accepts_bind (noFailures : memory.failures = []) {name : String}
    (live : memory.space.applications.contains name = true) (service : String) :
    memory.accepts (.bindService name service) = memory.space.services.contains service := by
  rw [accepts_eq noFailures]
  cases bindable : memory.space.services.contains service <;>
    simp [Space.refusal?, live, bindable]

/-- Any other change of a part of an application that there is is accepted. -/
theorem accepts_part (noFailures : memory.failures = []) {call : Call} {part : ManifestPart}
    (isPart : call.part? = some part)
    (live : memory.space.applications.contains call.target = true)
    (noBinding : ∀ name service, call ≠ .bindService name service) :
    memory.accepts call = true := by
  rw [accepts_eq noFailures]
  cases call with
  | bindService name service => exact absurd rfl (noBinding name service)
  | scaleApplication | setHealthCheck | addEnvironmentVariable | removeEnvironmentVariable
  | unbindService => simp only [Space.refusal?, live, if_true, Option.isNone_none]
  | _ => cases isPart

end Memory

/-! ### Applications -/

open Plan

/-- Once all calls about an application were made but bindings to missing services, its live and
its desired record are merged. -/
theorem Plan.Advanced.merged {memory : Memory} {name : String} {live desired : Application}
    {after : Manifest} (noFailures : memory.failures = [])
    (held : memory.space.applications.get? name = some live)
    (advanced : Advanced name memory.accepts live.manifest desired.manifest after) :
    live.Merged memory.space.services desired { live with manifest := after } := by
  have contains : memory.space.applications.contains name = true := by
    rw [NameMap.contains_eq_isSome, held]
    rfl
  have binds := Memory.accepts_bind noFailures contains
  have unbinds (service : String) : memory.accepts (.unbindService name service) = true :=
    Memory.accepts_part noFailures rfl contains (by simp)
  have changes (entry : EntryChange) : memory.accepts (environmentCall name entry) = true := by
    rw [environmentCall]
    split <;> exact Memory.accepts_part noFailures rfl contains (by simp)
  have scales : memory.accepts (.scaleApplication name (scaleDelta live.manifest
      desired.manifest)) = true := Memory.accepts_part noFailures rfl contains (by simp)
  -- The health check is set if there is a type to set it to.
  have checks : setsHealthCheck name memory.accepts desired.manifest =
      desired.manifest.healthCheckType.isSome := by
    rw [setsHealthCheck]
    split
    next given => rw [given]; exact Memory.accepts_part noFailures rfl contains (by simp)
    next absent => rw [absent]; rfl
  obtain ⟨environment, bindings, sizes, healthCheck, others⟩ := advanced
  simp only [scales, if_true, Prod.mk.injEq] at sizes
  rw [checks] at healthCheck
  refine ⟨?_, sizes.1, sizes.2.1, sizes.2.2, healthCheck, ?_, congrArg _ others⟩
  -- Every variable that differs is changed, and one that does not differ is as desired already.
  · apply NameMap.ext_get?
    intro key
    rw [environment]
    split
    next => rfl
    next unsettled =>
      apply entryDelta_eq_none_iff.mp
      cases changed : entryDelta live.manifest.environmentVariables
          desired.manifest.environmentVariables key with
      | none => rfl
      | some entry =>
        have same := entryDelta_key changed
        subst same
        exact absurd ((settled_iff (mem_mapDelta.mpr changed)).mpr (changes entry)) unsettled
  · intro service
    simp only [bindings, binds, unbinds, mem_collectionDelta_added, mem_collectionDelta_removed,
      and_true]
    -- What is added was not bound and what is removed is not desired, so four cases decide.
    by_cases wanted : service ∈ desired.manifest.services <;>
      by_cases bound : service ∈ live.manifest.services <;> simp [wanted, bound]

section

variable {memory : Memory} {desired : Space} {name : String}

theorem created_application (noFailures : memory.failures = []) {app : Application}
    (absent : memory.space.applications.get? name = none)
    (wanted : desired.applications.get? name = some app) :
    (advance memory.accepts memory.space desired .applications).applications.get? name =
      some app := by
  have accepted : memory.accepts (.createApplication name app) = true := by
    simp [Memory.accepts_eq noFailures, Space.refusal?, NameMap.contains_eq_isSome, absent]
  rw [get?_applications_advance, absent, wanted]
  simp [applicationCalls, accepted, applicationEffect]

theorem deleted_application (noFailures : memory.failures = []) {held : Application}
    (live : memory.space.applications.get? name = some held)
    (unwanted : desired.applications.get? name = none) :
    (advance memory.accepts memory.space desired .applications).applications.get? name =
      none := by
  have accepted : memory.accepts (.deleteApplication name) = true := by
    simp [Memory.accepts_eq noFailures, Space.refusal?, NameMap.contains_eq_isSome, Call.target,
      live]
  rw [get?_applications_advance, live, unwanted]
  simp [applicationCalls, accepted, applicationEffect]

theorem merged_application (noFailures : memory.failures = []) {held app : Application}
    (live : memory.space.applications.get? name = some held)
    (wanted : desired.applications.get? name = some app) :
    ∃ result, (advance memory.accepts memory.space desired .applications).applications.get? name =
        some result ∧ held.Merged memory.space.services app result := by
  rw [get?_applications_advance, live, wanted, applicationCalls, foldl_manifestCalls]
  exact ⟨_, rfl, (advanced_manifestCalls name memory.accepts _ _).merged noFailures live⟩

theorem applicationsReached (noFailures : memory.failures = []) (desired : Space) :
    memory.space.ApplicationsReached desired
      (advance memory.accepts memory.space desired .applications) where
  -- A name is there afterwards exactly if it is desired, which is seen in all four cases.
  names := by
    apply NameMap.keys_eq_of_isSome
    intro name
    cases live : memory.space.applications.get? name with
    | none =>
      cases wanted : desired.applications.get? name with
      | none => rw [get?_applications_advance, live, wanted]; rfl
      | some app => rw [created_application noFailures live wanted]
    | some held =>
      cases wanted : desired.applications.get? name with
      | none => rw [deleted_application noFailures live wanted]
      | some app =>
        obtain ⟨result, found, _⟩ := merged_application noFailures live wanted
        rw [found]
        rfl
  created _ _ := created_application noFailures
  merged _ _ _ := merged_application noFailures

end

/-! ### Services and developers -/

section

variable {memory : Memory} {desired : Space} {name : String}

theorem created_service (noFailures : memory.failures = []) {service : Service}
    (absent : memory.space.services.get? name = none)
    (wanted : desired.services.get? name = some service) :
    (advance memory.accepts memory.space desired .services).services.get? name =
      some service := by
  have accepted : memory.accepts (.createService name service) = true := by
    simp [Memory.accepts_eq noFailures, Space.refusal?, NameMap.contains_eq_isSome, absent]
  rw [get?_services_advance, absent, wanted]
  simp [serviceCalls, accepted, serviceEffect]

theorem deleted_service (noFailures : memory.failures = []) {held : Service}
    (live : memory.space.services.get? name = some held)
    (unwanted : desired.services.get? name = none) :
    (advance memory.accepts memory.space desired .services).services.get? name = none := by
  have accepted : memory.accepts (.deleteService name) = true := by
    simp [Memory.accepts_eq noFailures, Space.refusal?, NameMap.contains_eq_isSome, live]
  rw [get?_services_advance, live, unwanted]
  simp [serviceCalls, accepted, serviceEffect]

theorem kept_service (accepts : Call → Bool) {held service : Service}
    (live : memory.space.services.get? name = some held)
    (wanted : desired.services.get? name = some service) :
    (advance accepts memory.space desired .services).services.get? name = some held := by
  rw [get?_services_advance, live, wanted]
  rfl

/-- Carrying out the plan reaches the desired services, but for those that differ. -/
theorem servicesReached (noFailures : memory.failures = []) (desired : Space) :
    memory.space.ServicesReached desired
      (advance memory.accepts memory.space desired .services) where
  -- As with applications a name is there afterwards exactly if it is desired.
  names := by
    apply NameMap.keys_eq_of_isSome
    intro name
    cases live : memory.space.services.get? name with
    | none =>
      cases wanted : desired.services.get? name with
      | none => rw [get?_services_advance, live, wanted]; rfl
      | some service => rw [created_service noFailures live wanted]
    | some held =>
      cases wanted : desired.services.get? name with
      | none => rw [deleted_service noFailures live wanted]
      | some service => rw [kept_service memory.accepts live wanted]; rfl
  created _ _ := created_service noFailures
  kept name held live wanted := by
    rw [NameMap.contains_eq_isSome, Option.isSome_iff_exists] at wanted
    obtain ⟨service, wanted⟩ := wanted
    exact kept_service memory.accepts live wanted

end

theorem developersReached {memory : Memory} (noFailures : memory.failures = [])
    (desired : Space) (user : String) :
    user ∈ (advance memory.accepts memory.space desired .developers).developers ↔
      user ∈ desired.developers := by
  have grants : memory.accepts (.grantDeveloper user) = true := by
    rw [Memory.accepts_eq noFailures]
    rfl
  have revokes : memory.accepts (.revokeDeveloper user) = true := by
    rw [Memory.accepts_eq noFailures]
    rfl
  rw [developers_advance, mem_developers_after, grants, revokes, mem_collectionDelta_added,
    mem_collectionDelta_removed]
  by_cases wanted : user ∈ desired.developers <;>
    by_cases held : user ∈ memory.space.developers <;> simp [wanted, held]

/-! ### The run -/

/-- Where no call is set to fail and no name is empty, reconciling a kind whose section is
present reports and reaches the desired section as far as calls can, and it leaves the other
sections as they were. -/
theorem apply_reaches {memory : Memory} {spec : Spec} {kind : EntityKind} {desired : Space}
    (noFailures : memory.failures = []) (present : spec.restrict? kind = some desired)
    (named : memory.space.Named kind) (namedDesired : desired.Named kind) :
    ∃ report after,
      Memory.run (Memory.platform.apply spec kind) memory = (.ok (some report), after) ∧
      memory.space.Reached kind desired after.space ∧
      ∀ other, kind ≠ other → after.space.restrict other = memory.space.restrict other := by
  -- Without failures set the live entities are fetched, and the kind is prepared.
  have fetches : memory.fails (Memory.fetchName kind) "" = false := by
    simp [Memory.fails, noFailures]
  obtain ⟨preparation, prepared⟩ := Memory.exists_prepared present fetches named namedDesired
  have applied := Memory.applied_of_prepared prepared
  refine ⟨memory.report preparation, memory.made preparation.batch.calls,
    (Memory.run_apply memory spec kind).trans applied, ?_, ?_⟩
  · rw [Memory.made_space_of_prepared prepared, Spec.eq_of_restrict? present]
    cases kind with
    | applications =>
      obtain ⟨names, created, merged⟩ := applicationsReached noFailures spec.toSpace
      exact ⟨names, created, merged⟩
    | services =>
      obtain ⟨names, created, kept⟩ := servicesReached noFailures spec.toSpace
      exact ⟨names, created, kept⟩
    | developers => exact developersReached noFailures spec.toSpace
  · intro other distinct
    have frame := Memory.restrict_applied memory spec distinct
    rwa [applied] at frame

/-- One application is deleted, one is made, and one is scaled and bound to the one service that
there is. -/
theorem apply_reaches_applications :
    let live : Space := {
      applications := .ofList [("old", {}), ("web", { manifest := { instances := some 2 } })]
      services := .ofList [("db", ⟨"sql", "small", [], ∅⟩)] }
    let desired : Space := {
      applications := .ofList [("new", {}),
        ("web", { manifest := { memory := some 512, services := ["cache", "db"] } })] }
    let spec : Spec := { applications := some desired.applications }
    ∃ report after,
      Memory.run (Memory.platform.apply spec .applications) { space := live } =
        (.ok (some report), after) ∧
      live.Reached .applications desired after.space ∧
      ∀ other, .applications ≠ other → after.space.restrict other = live.restrict other := by
  intro live desired spec
  have named : live.Named .applications := by decide +kernel
  have namedDesired : desired.Named .applications := by decide +kernel
  exact apply_reaches rfl rfl named namedDesired

end CloudSpace
