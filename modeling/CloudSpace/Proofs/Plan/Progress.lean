import CloudSpace.Proofs.Plan.Separation

/-!
# What remains of a plan

Some of the calls of a plan are made and the others are not, whatever decides which. What was
made has then left the difference between what is live and what is desired, and what was not
made has stayed in it in full, so that the next plan is the part that was not made, in the same
order. Changes that no call makes good never turn into one.
-/
namespace CloudSpace.Plan

/-! ### Lists -/

theorem mem_foldl_withElement (names live : List String) (name : String) :
    name ∈ names.foldl Space.withElement live ↔ name ∈ live ∨ name ∈ names := by
  induction names generalizing live with
  | nil => simp
  | cons head rest ih =>
    rw [List.foldl_cons, ih, Space.withElement, List.mem_cons]
    by_cases held : head ∈ live
    · by_cases same : name = head <;> simp_all
    · simp [held, or_assoc]

theorem mem_foldl_withoutElement (names live : List String) (name : String) :
    name ∈ names.foldl Space.withoutElement live ↔ name ∈ live ∧ name ∉ names := by
  induction names generalizing live with
  | nil => simp
  | cons head rest ih =>
    rw [List.foldl_cons, ih, Space.withoutElement, List.mem_cons]
    simp [and_assoc]

/-! ### The manifest after some calls -/

section

variable (name : String) (ok : Call → Bool) (manifest : Manifest)

/-- Calls that all change one part of a manifest change it one after the other. -/
theorem foldl_effect_part {β γ : Type} (make : β → Call) (put : γ → Manifest)
    (change : γ → β → γ)
    (changes : ∀ part item, (put part).effect (make item) = put (change part item))
    (items : List β) (part : γ) :
    ((items.map make).filter ok).foldl Manifest.effect (put part) =
      put ((items.filter fun item => ok (make item)).foldl change part) := by
  rw [List.filter_map, List.foldl_map]
  exact List.foldl_hom put changes

theorem foldl_environmentCalls (entries : List EntryChange) :
    ((entries.map (environmentCall name)).filter ok).foldl Manifest.effect manifest =
      let made := entries.filter fun entry => ok (environmentCall name entry)
      { manifest with
        environmentVariables := made.foldl settleEntry manifest.environmentVariables } := by
  apply foldl_effect_part ok (environmentCall name)
    (fun held => { manifest with environmentVariables := held }) settleEntry
  intro held entry
  rw [environmentCall, settleEntry]
  cases entry.kind <;> rfl

/-- Calls on the bindings change nothing but the services they are for. -/
theorem foldl_bindingCalls (live desired : List String) :
    ((bindingCalls name live desired).filter ok).foldl Manifest.effect manifest =
      let bound := (collectionDelta live desired).1.filter fun service =>
        ok (.bindService name service)
      let unbound := (collectionDelta live desired).2.filter fun service =>
        ok (.unbindService name service)
      { manifest with
        services := unbound.foldl Space.withoutElement
          (bound.foldl Space.withElement manifest.services) } := by
  -- The calls come in two runs, each of which acts on the list of services alone.
  let put (services : List String) : Manifest := { manifest with services }
  have binding := foldl_effect_part ok (.bindService name) put Space.withElement
    (fun _ _ => rfl) (collectionDelta live desired).1 manifest.services
  have unbinding := foldl_effect_part ok (.unbindService name) put Space.withoutElement
    (fun _ _ => rfl) (collectionDelta live desired).2
  rw [bindingCalls, List.filter_append, List.foldl_append]
  exact (congrArg (List.foldl Manifest.effect · _) binding).trans (unbinding _)

theorem foldl_scaleCalls (scale : Scale) :
    ((scaleCalls name scale).filter ok).foldl Manifest.effect manifest =
      let made := ok (.scaleApplication name scale)
      { manifest with
        instances := if made then scale.instances.or manifest.instances else manifest.instances
        memory := if made then scale.memory.or manifest.memory else manifest.memory
        disk := if made then scale.disk.or manifest.disk else manifest.disk } := by
  rw [scaleCalls]
  -- There is one call for all three sizes, or none if there is nothing to scale.
  split
  next empty =>
    simp only [Scale.isEmpty, Bool.and_eq_true, Option.isNone_iff_eq_none] at empty
    simp [empty]
  next =>
    cases made : ok (.scaleApplication name scale) <;>
      simp [made, Manifest.effect, Space.scaled]

/-- Whether the health check of a manifest has a type and may be set. -/
def setsHealthCheck (desired : Manifest) : Bool :=
  match desired.healthCheckType with
  | some type => ok (.setHealthCheck name type desired.healthCheckHttpEndpoint)
  | none => false

theorem foldl_healthCheckCalls (live desired : Manifest) :
    ((healthCheckCalls name (healthCheckDelta live desired)).filter ok).foldl Manifest.effect
        manifest =
      let made := (healthCheckDelta live desired).any (setsHealthCheck name ok)
      { manifest with
        healthCheckType := if made then desired.healthCheckType else manifest.healthCheckType
        healthCheckHttpEndpoint :=
          if made then desired.healthCheckHttpEndpoint else manifest.healthCheckHttpEndpoint } := by
  -- Without a type there is no call, and then neither field is set.
  rw [healthCheckDelta]
  split
  next => rfl
  next =>
    cases given : desired.healthCheckType with
    | none => simp [healthCheckCalls, setsHealthCheck, given]
    | some type =>
      cases made : ok (.setHealthCheck name type desired.healthCheckHttpEndpoint) <;>
        simp [healthCheckCalls, setsHealthCheck, given, made, Manifest.effect]

end

/-- The keys of the variables that differ and may be changed. -/
def settledKeys (name : String) (ok : Call → Bool) (live desired : Manifest) : List String :=
  ((mapDelta live.environmentVariables desired.environmentVariables).filter
    fun entry => ok (environmentCall name entry)).map (·.key)

/-- A manifest once those calls of a plan were made that may be made, part by part. -/
structure Advanced (name : String) (ok : Call → Bool) (live desired after : Manifest) :
    Prop where
  environment : ∀ key, after.environmentVariables.get? key =
    if key ∈ settledKeys name ok live desired then desired.environmentVariables.get? key
    else live.environmentVariables.get? key
  bindings : ∀ service, service ∈ after.services ↔
    (service ∈ live.services ∨ service ∈ (collectionDelta live.services desired.services).1 ∧
      ok (.bindService name service) = true) ∧
    ¬ (service ∈ (collectionDelta live.services desired.services).2 ∧
      ok (.unbindService name service) = true)
  sizes : (after.instances, after.memory, after.disk) =
    if ok (.scaleApplication name (scaleDelta live desired)) then
      (desired.instances.or live.instances, desired.memory.or live.memory,
        desired.disk.or live.disk)
    else (live.instances, live.memory, live.disk)
  healthCheck : (after.healthCheckType, after.healthCheckHttpEndpoint) =
    if setsHealthCheck name ok desired then
      (desired.healthCheckType, desired.healthCheckHttpEndpoint)
    else (live.healthCheckType, live.healthCheckHttpEndpoint)
  others : after = { live with
    environmentVariables := after.environmentVariables
    services := after.services
    instances := after.instances
    memory := after.memory
    disk := after.disk
    healthCheckType := after.healthCheckType
    healthCheckHttpEndpoint := after.healthCheckHttpEndpoint }

theorem or_of_ne {α : Type} [DecidableEq α] (live desired : Option α) :
    (if live = desired then none else desired).or live = desired.or live := by
  split
  next same => subst same; cases live <;> rfl
  next => rfl

/-- Whichever calls succeed, the manifest has advanced by what they were for. -/
theorem advanced_manifestCalls (name : String) (ok : Call → Bool) (live desired : Manifest) :
    Advanced name ok live desired
      (((manifestCalls name live desired).filter ok).foldl Manifest.effect live) := by
  simp only [manifestCalls, List.filter_append, List.foldl_append, foldl_environmentCalls,
    foldl_bindingCalls, foldl_scaleCalls, foldl_healthCheckCalls]
  constructor
  -- Variables, bindings, sizes and the health check advance on their own.
  · intro key
    exact get?_foldl_settleEntry _ (fun entry member => (List.mem_filter.mp member).1) _ key
  · intro service
    simp only [mem_foldl_withoutElement, mem_foldl_withElement, List.mem_filter]
  · have instances := or_of_ne live.instances desired.instances
    have memory := or_of_ne live.memory desired.memory
    have disk := or_of_ne live.disk desired.disk
    cases made : ok (.scaleApplication name (scaleDelta live desired)) with
    | false => rfl
    | true => exact Prod.ext instances (Prod.ext memory disk)
  · simp only [healthCheckDelta]
    split
    next same => simp [same.1, same.2]
    next => simp only [Option.any_some]; split <;> rfl
  · rfl

/-! ### The next plan of an application -/

section

variable {name : String} {ok : Call → Bool} {live desired after : Manifest}

theorem settled_iff {entry : EntryChange}
    (changed : entry ∈ mapDelta live.environmentVariables desired.environmentVariables) :
    entry.key ∈ settledKeys name ok live desired ↔ ok (environmentCall name entry) = true := by
  simp only [settledKeys, List.mem_map, List.mem_filter]
  constructor
  · rintro ⟨other, ⟨member, made⟩, same⟩
    -- A key differs in one way.
    have equal : some other = some entry := by
      rw [← mem_mapDelta.mp member, ← mem_mapDelta.mp changed, same]
    rwa [← Option.some.inj equal]
  · exact fun made => ⟨entry, ⟨changed, made⟩, rfl⟩

theorem Advanced.mapDelta (advanced : Advanced name ok live desired after) :
    mapDelta after.environmentVariables desired.environmentVariables =
      (mapDelta live.environmentVariables desired.environmentVariables).filter
        fun entry => !ok (environmentCall name entry) := by
  rw [mapDelta_after (fun key => decide (key ∈ settledKeys name ok live desired))
    (by simpa using advanced.environment)]
  apply List.filter_congr
  intro entry changed
  simp only [settled_iff changed, Bool.decide_eq_true]

theorem Advanced.bindingCalls (advanced : Advanced name ok live desired after) :
    bindingCalls name after.services desired.services =
      (bindingCalls name live.services desired.services).filter fun call => !ok call := by
  rw [Plan.bindingCalls, collectionDelta_after (fun service => ok (.bindService name service))
    (fun service => ok (.unbindService name service)) advanced.bindings]
  simp only [Plan.bindingCalls, List.filter_append, List.filter_map]
  rfl

/-- A scale is done as a whole or left as a whole. -/
theorem Advanced.scaleCalls (advanced : Advanced name ok live desired after) :
    scaleCalls name (scaleDelta after desired) =
      (scaleCalls name (scaleDelta live desired)).filter fun call => !ok call := by
  have sizes := advanced.sizes
  -- The sizes are one call, which was made as a whole or not at all.
  cases made : ok (.scaleApplication name (scaleDelta live desired)) with
  | false =>
    simp only [made, Bool.false_eq_true, if_false, Prod.mk.injEq] at sizes
    have same : scaleDelta after desired = scaleDelta live desired := by
      simp only [scaleDelta, sizes]
    rw [same, Plan.scaleCalls]
    split <;> simp [made]
  | true =>
    simp only [made, if_true, Prod.mk.injEq] at sizes
    have settled (live desired : Option UInt32) :
        (if desired.or live = desired then none else desired) = none := by
      cases desired <;> cases live <;> simp
    have nothing : (scaleDelta after desired).isEmpty = true := by
      simp only [scaleDelta, sizes, settled]
      rfl
    rw [Plan.scaleCalls, if_pos nothing, Plan.scaleCalls]
    split <;> simp [made]

/-- A health check is done as a whole or left as a whole. -/
theorem Advanced.healthCheckCalls (advanced : Advanced name ok live desired after) :
    healthCheckCalls name (healthCheckDelta after desired) =
      (healthCheckCalls name (healthCheckDelta live desired)).filter fun call => !ok call := by
  have check := advanced.healthCheck
  -- Without a type there is no call either, and the health check stays in the difference.
  cases made : setsHealthCheck name ok desired with
  | false =>
    simp only [made, Bool.false_eq_true, if_false, Prod.mk.injEq] at check
    have same : healthCheckDelta after desired = healthCheckDelta live desired := by
      simp only [healthCheckDelta, check]
    rw [same, healthCheckDelta]
    split
    next => rfl
    next =>
      rw [setsHealthCheck] at made
      cases given : desired.healthCheckType <;> simp_all [Plan.healthCheckCalls]
  | true =>
    simp only [made, if_true, Prod.mk.injEq] at check
    have settled : healthCheckDelta after desired = none := by
      rw [healthCheckDelta, if_pos check]
    rw [settled, healthCheckDelta]
    split
    next => rfl
    next =>
      rw [setsHealthCheck] at made
      cases given : desired.healthCheckType <;> simp_all [Plan.healthCheckCalls]

/-- The calls that were made are gone from the next plan of a manifest, and the others are
left. -/
theorem Advanced.manifestCalls (advanced : Advanced name ok live desired after) :
    manifestCalls name after desired =
      (manifestCalls name live desired).filter fun call => !ok call := by
  rw [Plan.manifestCalls, advanced.mapDelta, advanced.bindingCalls, advanced.scaleCalls,
    advanced.healthCheckCalls, Plan.manifestCalls, List.filter_append, List.filter_append,
    List.filter_append, List.filter_map]
  rfl

end

/-! ### The next plan of an entity -/

theorem foldl_applicationEffect {calls : List Call}
    (parts : ∀ call ∈ calls, ∃ part, call.part? = some part) (app : Application) :
    calls.foldl applicationEffect (some app) =
      some { app with manifest := calls.foldl Manifest.effect app.manifest } := by
  induction calls generalizing app with
  | nil => rfl
  | cons call rest ih =>
    have changed : applicationEffect (some app) call =
        some { app with manifest := app.manifest.effect call } := by
      obtain ⟨part, isPart⟩ := parts call List.mem_cons_self
      cases call <;> first | rfl | cases isPart
    have ih := ih fun other member => parts other (List.mem_cons_of_mem _ member)
    rw [List.foldl_cons, changed, ih, List.foldl_cons]

section

variable (name : String) (ok : Call → Bool)

/-- After some calls the manifest has advanced and the path is as it was. -/
theorem foldl_manifestCalls (live desired : Application) :
    let made := (manifestCalls name live.manifest desired.manifest).filter ok
    made.foldl applicationEffect (some live) =
      some { live with manifest := made.foldl Manifest.effect live.manifest } := by
  apply foldl_applicationEffect
  intro call member
  exact (part?_of_mem_manifestCalls (List.mem_filter.mp member).1).1

/-- Planning again an application after some calls gives the calls that failed. -/
theorem applicationCalls_after (live desired : Option Application) :
    applicationCalls name
        (((applicationCalls name live desired).filter ok).foldl applicationEffect live) desired =
      (applicationCalls name live desired).filter fun call => !ok call := by
  cases live with
  | none =>
    cases desired with
    | none => rfl
    | some desired =>
      -- An application that was made has its desired record, which leaves nothing to call for.
      have settled : manifestCalls name desired.manifest desired.manifest = [] := by
        simp [manifestCalls, mapDelta_self, bindingCalls, collectionDelta_self, scaleDelta,
          scaleCalls, Scale.isEmpty, healthCheckDelta, healthCheckCalls]
      cases made : ok (.createApplication name desired) <;>
        simp [applicationCalls, applicationEffect, made, settled]
  | some live =>
    cases desired with
    | none =>
      cases made : ok (.deleteApplication name) <;>
        simp [applicationCalls, applicationEffect, made]
    | some desired =>
      simp only [applicationCalls, foldl_manifestCalls]
      exact (advanced_manifestCalls name ok live.manifest desired.manifest).manifestCalls

theorem serviceDiff_self (path : Path) (service : Service) :
    Service.diff path service service = [] := by
  simp [Service.diff, Owner.text, Owner.value, Owner.collection, collectionDelta_self, Owner.map,
    mapDelta_self]

/-- Planning again a service after some calls gives the calls that failed and the same refusal. -/
theorem serviceCalls_after (live desired : Option Service) :
    let after := ((serviceCalls name live desired).filter ok).foldl serviceEffect live
    serviceCalls name after desired =
        (serviceCalls name live desired).filter (fun call => !ok call) ∧
      serviceRefusal? name after desired = serviceRefusal? name live desired := by
  -- A service that is on both sides has no call, so that nothing can have become of it.
  cases live with
  | none =>
    cases desired with
    | none => exact ⟨rfl, rfl⟩
    | some desired =>
      cases made : ok (.createService name desired) <;>
        simp [serviceCalls, serviceEffect, serviceRefusal?, made, serviceDiff_self]
  | some live =>
    cases desired with
    | none =>
      cases made : ok (.deleteService name) <;>
        simp [serviceCalls, serviceEffect, serviceRefusal?, made]
    | some desired => exact ⟨rfl, rfl⟩

end

/-! ### The next plan of the developers -/

theorem mem_developers_after (ok : Call → Bool) (live desired : List String) (user : String) :
    user ∈ ((roleCalls live desired).filter ok).foldl developersEffect live ↔
      (user ∈ live ∨ user ∈ (collectionDelta live desired).1 ∧
        ok (.grantDeveloper user) = true) ∧
      ¬ (user ∈ (collectionDelta live desired).2 ∧ ok (.revokeDeveloper user) = true) := by
  simp only [roleCalls, List.filter_append, List.foldl_append, List.filter_map, List.foldl_map,
    developersEffect]
  rw [mem_foldl_withoutElement, mem_foldl_withElement]
  simp only [List.mem_filter, Function.comp_apply]

theorem roleCalls_after (ok : Call → Bool) (live desired : List String) :
    roleCalls (((roleCalls live desired).filter ok).foldl developersEffect live) desired =
      (roleCalls live desired).filter fun call => !ok call := by
  rw [roleCalls, collectionDelta_after (fun user => ok (.grantDeveloper user))
    (fun user => ok (.revokeDeveloper user)) (mem_developers_after ok live desired)]
  simp only [roleCalls, List.filter_append, List.filter_map]
  rfl

end CloudSpace.Plan
