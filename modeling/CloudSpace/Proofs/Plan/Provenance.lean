import CloudSpace.Proofs.Plan.Separation

/-!
# What planned calls rest on

A planned call makes good a difference: it asks for something that is desired, and that is not so
yet. `Planned` has one rule for each way in which a call gets into a plan. There is none for
renaming an application, since no change is one of a name.

It follows that nothing live is in the way of a planned call but for a service that an application
is to be bound to and that does not exist.
-/
namespace CloudSpace

namespace Plan

/-- The calls that a difference between what is live and what is desired asks for. -/
inductive Planned (live desired : Space) : Call → Prop
  | createApplication {name : String} {app : Application}
    (absent : live.applications.get? name = none)
    (wanted : desired.applications.get? name = some app) :
    Planned live desired (.createApplication name app)
  | deleteApplication {name : String} {held : Application}
    (present : live.applications.get? name = some held)
    (unwanted : desired.applications.get? name = none) :
    Planned live desired (.deleteApplication name)
  | scaleApplication {name : String} {held app : Application}
    (present : live.applications.get? name = some held)
    (wanted : desired.applications.get? name = some app)
    (sized : (scaleDelta held.manifest app.manifest).isEmpty = false) :
    Planned live desired (.scaleApplication name (scaleDelta held.manifest app.manifest))
  | setHealthCheck {name : String} {held app : Application} {type : HealthCheckType}
    (present : live.applications.get? name = some held)
    (wanted : desired.applications.get? name = some app)
    (differs : healthCheckDelta held.manifest app.manifest = some app.manifest)
    (typed : app.manifest.healthCheckType = some type) :
    Planned live desired (.setHealthCheck name type app.manifest.healthCheckHttpEndpoint)
  | addEnvironmentVariable {name key value : String} {held app : Application}
    (present : live.applications.get? name = some held)
    (wanted : desired.applications.get? name = some app)
    (differs : held.manifest.environmentVariables.get? key ≠ some value)
    (given : app.manifest.environmentVariables.get? key = some value) :
    Planned live desired (.addEnvironmentVariable name key value)
  | removeEnvironmentVariable {name key : String} {held app : Application}
    (present : live.applications.get? name = some held)
    (wanted : desired.applications.get? name = some app)
    (differs : held.manifest.environmentVariables.get? key ≠ none)
    (missing : app.manifest.environmentVariables.get? key = none) :
    Planned live desired (.removeEnvironmentVariable name key)
  | bindService {name service : String} {held app : Application}
    (present : live.applications.get? name = some held)
    (wanted : desired.applications.get? name = some app)
    (unbound : service ∉ held.manifest.services) (listed : service ∈ app.manifest.services) :
    Planned live desired (.bindService name service)
  | unbindService {name service : String} {held app : Application}
    (present : live.applications.get? name = some held)
    (wanted : desired.applications.get? name = some app)
    (bound : service ∈ held.manifest.services) (unlisted : service ∉ app.manifest.services) :
    Planned live desired (.unbindService name service)
  | createService {name : String} {service : Service}
    (absent : live.services.get? name = none)
    (wanted : desired.services.get? name = some service) :
    Planned live desired (.createService name service)
  | deleteService {name : String} {held : Service}
    (present : live.services.get? name = some held)
    (unwanted : desired.services.get? name = none) :
    Planned live desired (.deleteService name)
  | grantDeveloper {user : String} (unlisted : user ∉ live.developers)
    (wanted : user ∈ desired.developers) :
    Planned live desired (.grantDeveloper user)
  | revokeDeveloper {user : String} (listed : user ∈ live.developers)
    (unwanted : user ∉ desired.developers) :
    Planned live desired (.revokeDeveloper user)

/-! ### Calls in plans -/

variable {live desired : Space} {call : Call}

/-- Every call between two manifests has its reason in what they differ in. -/
theorem planned_of_mem_manifestCalls {name : String} {held app : Application}
    (present : live.applications.get? name = some held)
    (wanted : desired.applications.get? name = some app)
    (member : call ∈ manifestCalls name held.manifest app.manifest) :
    Planned live desired call := by
  -- Variables, bindings, sizes and the health check make up the calls between two manifests, and
  -- for each of these the delta tells how the two sides differ.
  simp only [manifestCalls, List.mem_append] at member
  rcases member with ((change | binding) | scale) | check
  · obtain ⟨entry, changed, rfl⟩ := List.mem_map.mp change
    have isDelta := mem_mapDelta.mp changed
    obtain ⟨after, removed⟩ := entryDelta_after isDelta
    have differs : held.manifest.environmentVariables.get? entry.key ≠
        app.manifest.environmentVariables.get? entry.key := by
      intro same
      rw [entryDelta_eq_none_iff.mpr same] at isDelta
      cases isDelta
    rw [environmentCall]
    split
    next isRemoved =>
      have missing := removed.mp isRemoved
      exact .removeEnvironmentVariable present wanted (missing ▸ differs) missing
    next kept =>
      -- A variable that is not taken away has a desired value.
      obtain ⟨value, given⟩ := Option.ne_none_iff_exists'.mp (mt removed.mpr kept)
      rw [after, given]
      exact .addEnvironmentVariable present wanted (given ▸ differs) given
  · rcases List.mem_append.mp binding with bind | unbind
    · obtain ⟨service, gained, rfl⟩ := List.mem_map.mp bind
      obtain ⟨listed, unbound⟩ := mem_collectionDelta_added.mp gained
      exact .bindService present wanted unbound listed
    · obtain ⟨service, lost, rfl⟩ := List.mem_map.mp unbind
      obtain ⟨bound, unlisted⟩ := mem_collectionDelta_removed.mp lost
      exact .unbindService present wanted bound unlisted
  · rw [scaleCalls] at scale
    split at scale
    next => cases scale
    next sized =>
      cases List.mem_singleton.mp scale
      exact .scaleApplication present wanted (by simpa using sized)
  · have differs : healthCheckDelta held.manifest app.manifest = some app.manifest := by
      rw [healthCheckDelta] at check ⊢
      split at check
      next => cases check
      next distinct => exact if_neg distinct
    rw [differs] at check
    obtain ⟨type, typed, rfl⟩ := List.mem_map.mp check
    exact .setHealthCheck present wanted differs (by simpa using typed)

/-- An application's calls create it, delete it or bring its manifest forward. -/
theorem planned_of_mem_applicationCalls {name : String}
    (member : call ∈ applicationCalls name (live.applications.get? name)
      (desired.applications.get? name)) : Planned live desired call := by
  cases present : live.applications.get? name with
  | none =>
    cases wanted : desired.applications.get? name with
    | none => simp [present, wanted, applicationCalls] at member
    | some app =>
      simp only [present, wanted, applicationCalls, List.mem_singleton] at member
      rw [member]
      exact .createApplication present wanted
  -- With both records there only the manifest can differ, so that its calls are all there are.
  | some held =>
    cases wanted : desired.applications.get? name with
    | none =>
      simp only [present, wanted, applicationCalls, List.mem_singleton] at member
      rw [member]
      exact .deleteApplication present wanted
    | some app =>
      rw [present, wanted, applicationCalls] at member
      exact planned_of_mem_manifestCalls present wanted member

theorem planned_of_mem_serviceCalls {name : String}
    (member : call ∈ serviceCalls name (live.services.get? name) (desired.services.get? name)) :
    Planned live desired call := by
  cases present : live.services.get? name <;> cases wanted : desired.services.get? name <;>
    simp only [present, wanted, serviceCalls, List.mem_singleton, List.not_mem_nil] at member
  · rw [member]
    exact .createService present wanted
  · rw [member]
    exact .deleteService present wanted

theorem planned_of_mem_roleCalls
    (member : call ∈ roleCalls live.developers desired.developers) :
    Planned live desired call := by
  rcases List.mem_append.mp member with grant | revoke
  · obtain ⟨user, gained, rfl⟩ := List.mem_map.mp grant
    obtain ⟨wanted, unlisted⟩ := mem_collectionDelta_added.mp gained
    exact .grantDeveloper unlisted wanted
  · obtain ⟨user, lost, rfl⟩ := List.mem_map.mp revoke
    obtain ⟨listed, unwanted⟩ := mem_collectionDelta_removed.mp lost
    exact .revokeDeveloper listed unwanted

theorem planned_of_mem_calls {kind : EntityKind} (member : call ∈ calls kind live desired) :
    Planned live desired call := by
  cases kind with
  | applications =>
    obtain ⟨_, _, inside⟩ := List.mem_flatMap.mp member
    exact planned_of_mem_applicationCalls inside
  | services =>
    obtain ⟨_, _, inside⟩ := List.mem_flatMap.mp member
    exact planned_of_mem_serviceCalls inside
  | developers => exact planned_of_mem_roleCalls member

end Plan

/-! ### What is in the way of a call -/

/-- The service that a call binds to and that does not exist. -/
def Space.missingService? (space : Space) : Call → Option String
  | .bindService _ service => if space.services.contains service then none else some service
  | _ => none

/-- Of planned calls only bindings are refused, and only where there is no such service. -/
theorem Plan.Planned.refusal?_eq {live desired : Space} {call : Call}
    (planned : Planned live desired call) :
    live.refusal? call = (live.missingService? call).map (.notFound "service") := by
  -- An application that is found is there to be called on.
  have present {name : String} {held : Application}
      (found : live.applications.get? name = some held) :
      live.applications.contains name = true := by
    rw [NameMap.contains_eq_isSome, found]
    rfl
  cases planned with
  | createApplication found | createService found | deleteService found =>
    simp [Space.refusal?, Space.missingService?, NameMap.contains_eq_isSome, found]
  | grantDeveloper | revokeDeveloper => rfl
  -- Only a binding looks at something besides its application: the service may be missing.
  | @bindService _ service _ _ held =>
    cases bindable : live.services.contains service <;>
      simp [Space.refusal?, Space.missingService?, present held, bindable]
  | deleteApplication held | scaleApplication held | setHealthCheck held
  | addEnvironmentVariable held | removeEnvironmentVariable held | unbindService held =>
    simp [Space.refusal?, Space.missingService?, Call.target, present held]

end CloudSpace
