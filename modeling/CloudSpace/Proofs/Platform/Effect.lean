import CloudSpace.Platform.Memory
import CloudSpace.Proofs.NameMap

/-!
# Refusals and effects of calls

A call on a space is taken apart into the reason it is refused for, if there is one, and the
effect it has otherwise. A refusal only depends on which entities there are, and the effect of
every call but a renaming stays within the entity the call is about, so that a space can be
followed entity by entity.
-/
namespace CloudSpace

/-! ### Taking a call apart -/

/-- Whether a call moves an entity to another name. -/
def Call.isRename : Call → Bool
  | .renameApplication .. => true
  | _ => false

/-- What a call does to the manifest of the application it is about. -/
def Manifest.effect (manifest : Manifest) : Call → Manifest
  | .scaleApplication _ scale => Space.scaled scale manifest
  | .setHealthCheck _ type endpoint =>
    { manifest with healthCheckType := some type, healthCheckHttpEndpoint := endpoint }
  | .addEnvironmentVariable _ key value =>
    { manifest with environmentVariables := manifest.environmentVariables.insert key value }
  | .removeEnvironmentVariable _ key =>
    { manifest with environmentVariables := manifest.environmentVariables.erase key }
  | .bindService _ service =>
    { manifest with services := Space.withElement manifest.services service }
  | .unbindService _ service =>
    { manifest with services := Space.withoutElement manifest.services service }
  | _ => manifest

/-- What a call does to what is known under the name of an application it is about. -/
def applicationEffect (entry : Option Application) : Call → Option Application
  | .createApplication _ app => some app
  | .deleteApplication _ => none
  | .renameApplication _ _ => none
  | call => entry.map fun app => { app with manifest := app.manifest.effect call }

/-- What a call does to what is known under the name of a service it is about. -/
def serviceEffect (entry : Option Service) : Call → Option Service
  | .createService _ service => some service
  | .deleteService _ => none
  | _ => entry

def developersEffect (developers : List String) : Call → List String
  | .grantDeveloper username => Space.withElement developers username
  | .revokeDeveloper username => Space.withoutElement developers username
  | _ => developers

namespace Space

/-- Why a call is refused. -/
def refusal? (space : Space) : Call → Option PlatformError
  | .createApplication name _ =>
    if space.applications.contains name then some (.alreadyExists "application" name) else none
  | .createService name _ =>
    if space.services.contains name then some (.alreadyExists "service" name) else none
  | .deleteService name =>
    if space.services.contains name then none else some (.notFound "service" name)
  | .grantDeveloper _ => none
  | .revokeDeveloper _ => none
  | .bindService name service =>
    if !space.services.contains service then some (.notFound "service" service)
    else if space.applications.contains name then none
    else some (.notFound "application" name)
  | call =>
    if space.applications.contains call.target then none
    else some (.notFound "application" call.target)

/-- The space after a call that is not refused. -/
def effect (space : Space) : Call → Space
  | .createApplication name app => { space with applications := space.applications.insert name app }
  | .deleteApplication name => { space with applications := space.applications.erase name }
  | .renameApplication name newName =>
    match space.applications.get? name with
    | some app => { space with applications := (space.applications.erase name).insert newName app }
    | none => space
  | .createService name service => { space with services := space.services.insert name service }
  | .deleteService name => { space with services := space.services.erase name }
  | .grantDeveloper username => { space with developers := withElement space.developers username }
  | .revokeDeveloper username =>
    { space with developers := withoutElement space.developers username }
  | call =>
    { space with applications := space.applications.modify call.target fun app =>
        { app with manifest := app.manifest.effect call } }

/-- A call takes effect unless it is refused. -/
theorem after_eq (space : Space) (call : Call) :
    space.after call = match space.refusal? call with
      | some cause => .error cause
      | none => .ok (space.effect call) := by
  cases call with
  | renameApplication name newName =>
    simp only [after, refusal?, effect, Call.target, NameMap.contains_eq_isSome]
    cases space.applications.get? name <;> rfl
  | bindService name service =>
    simp only [after, refusal?, effect, updateManifest, updateApplication, Call.target,
      Manifest.effect]
    cases space.services.contains service <;> cases space.applications.contains name <;> rfl
  -- The other calls are guarded by the existence of one entity.
  | grantDeveloper _ => rfl
  | revokeDeveloper _ => rfl
  | _ =>
    simp only [after, refusal?, effect, updateManifest, updateApplication, Call.target,
      Manifest.effect]
    split <;> simp [*]

/-! ### One call -/

theorem get?_applications_effect (space : Space) (call : Call) (keeps : call.isRename = false)
    (name : String) :
    (space.effect call).applications.get? name =
      if name = call.target then applicationEffect (space.applications.get? name) call
      else space.applications.get? name := by
  cases call with
  | renameApplication => cases keeps
  | createApplication _ _ => exact NameMap.get?_insert ..
  | deleteApplication _ => exact NameMap.get?_erase ..
  | createService _ _ => simp [effect, applicationEffect, Manifest.effect]
  | deleteService _ => simp [effect, applicationEffect, Manifest.effect]
  | grantDeveloper _ => simp [effect, applicationEffect, Manifest.effect]
  | revokeDeveloper _ => simp [effect, applicationEffect, Manifest.effect]
  | _ => exact NameMap.get?_modify ..

theorem get?_services_effect (space : Space) (call : Call) (name : String) :
    (space.effect call).services.get? name =
      if name = call.target then serviceEffect (space.services.get? name) call
      else space.services.get? name := by
  cases call with
  | createService _ _ => exact NameMap.get?_insert ..
  | deleteService _ => exact NameMap.get?_erase ..
  | renameApplication name _ =>
    simp only [effect, serviceEffect]
    cases space.applications.get? name <;> simp
  | _ => simp [effect, serviceEffect]

/-- Calls act on the developers as on a list. -/
theorem developers_effect (space : Space) (call : Call) :
    (space.effect call).developers = developersEffect space.developers call := by
  cases call with
  | renameApplication name _ =>
    simp only [effect, developersEffect]
    cases space.applications.get? name <;> rfl
  | _ => rfl

/-- A call changes nothing of the kinds it is not about. -/
theorem restrict_effect (space : Space) (call : Call) (kind : EntityKind)
    (other : call.kind ≠ kind) : (space.effect call).restrict kind = space.restrict kind := by
  cases call with
  | renameApplication name _ =>
    simp only [effect]
    cases space.applications.get? name <;> cases kind <;> simp_all [restrict, Call.kind]
  | _ => cases kind <;> simp_all [effect, restrict, Call.kind]

/-! ### One call after the other -/

theorem get?_applications_foldl_effect (calls : List Call) (space : Space)
    (keep : ∀ call ∈ calls, call.isRename = false) (name : String) :
    (calls.foldl effect space).applications.get? name =
      (calls.filter (·.target = name)).foldl applicationEffect
        (space.applications.get? name) := by
  induction calls generalizing space with
  | nil => rfl
  | cons call rest ih =>
    rw [List.foldl_cons, ih _ fun other member => keep other (List.mem_cons_of_mem _ member),
      get?_applications_effect space call (keep call List.mem_cons_self)]
    by_cases same : call.target = name
    · simp [same]
    · simp [same, Ne.symm same]

theorem get?_services_foldl_effect (calls : List Call) (space : Space) (name : String) :
    (calls.foldl effect space).services.get? name =
      (calls.filter (·.target = name)).foldl serviceEffect (space.services.get? name) := by
  induction calls generalizing space with
  | nil => rfl
  | cons call rest ih =>
    rw [List.foldl_cons, ih, get?_services_effect]
    by_cases same : call.target = name
    · simp [same]
    · simp [same, Ne.symm same]

theorem developers_foldl_effect (calls : List Call) (space : Space) :
    (calls.foldl effect space).developers = calls.foldl developersEffect space.developers := by
  induction calls generalizing space with
  | nil => rfl
  | cons call rest ih => rw [List.foldl_cons, ih, developers_effect, List.foldl_cons]

end Space

end CloudSpace
