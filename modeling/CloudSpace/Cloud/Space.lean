import CloudSpace.Cloud.Client
import CloudSpace.Cloud.Description

/-!
# Spaces on a platform

The live state of a space, and calls on it, as requests. The space is looked up once, by the
names of its organization and its own. What a call changes is looked up by name just before.
-/
namespace CloudSpace.Cloud

/-- A client for one space. -/
structure SpaceClient (m : Type → Type) extends Client m where
  /-- The guid of the space. -/
  space : String

/-- A record with a guid, as relationships have it. -/
def guidData (guid : String) : Value :=
  .record [("data", .record [("guid", .text guid)])]

/-- A body of relationships beside other fields. -/
def withRelationships (fields relationships : List (String × Value)) : Body :=
  .json (.record (fields ++ [("relationships", .record relationships)]))

/-- What scaling an application sends. -/
def scaleBody (scale : Scale) : Value :=
  .record (Value.fieldOfWord? "instances" scale.instances ++
    Value.fieldOfWord? "memory_in_mb" scale.memory ++ Value.fieldOfWord? "disk_in_mb" scale.disk)

/-- What setting a health check sends. Only the check of an address has an endpoint. -/
def healthCheckBody (type : HealthCheckType) (endpoint : Option String) : Value :=
  let data := match type, endpoint with
    | .http, some endpoint => [("data", Value.record [("endpoint", .text endpoint)])]
    | _, _ => []
  .record [("health_check", .record (("type", .text type.name) :: data))]

/-- What setting a variable sends; null takes the variable away. -/
def variableBody (key : String) (value : Value) : Value :=
  .record [("var", .record [(key, value)])]

/-- What keeping annotations sends. -/
def metadataBody (annotations : NameMap String) : Value :=
  .record [("metadata", .record [("annotations", Value.ofTexts annotations.entries)])]

def developerRole : String := "space_developer"

namespace SpaceClient

variable {m : Type → Type} [Monad m]

/-! ### Looking up -/

def appGuid (client : SpaceClient m) (name : String) : Task m String :=
  NamedResource.guid <$> client.findOne NamedResource.reader "/v3/apps"
    [("names", name), ("space_guids", client.space)] "application" name

def serviceGuid (client : SpaceClient m) (name : String) : Task m String :=
  NamedResource.guid <$> client.findOne NamedResource.reader "/v3/service_instances"
    [("names", name), ("space_guids", client.space)] "service" name

/-- The package with the image of an application, if it is made from one. -/
def imageOf (client : SpaceClient m) (app : AppResource) : Task m (Option Package) :=
  if app.lifecycle.type = "docker" then do
    let packages ← client.list Package.reader s!"/v3/apps/{app.guid}/packages"
      [("types", "docker"), ("order_by", "-created_at")]
    return imagePackage? packages.resources
  else return none

def describe (client : SpaceClient m) (app : AppResource) : Task m Application := do
  let path := s!"/v3/apps/{app.guid}"
  let process ← client.get Process.reader (path ++ "/processes/web") []
  let settings ← client.get variablesReader (path ++ "/environment_variables") []
  let routes ← client.list routeReader (path ++ "/routes") []
  let bindings ← client.list Binding.reader "/v3/service_credential_bindings"
    [("app_guids", app.guid), ("include", "service_instance")]
  let image ← client.imageOf app
  return applicationOf app process settings routes.resources bindings image

/-- The parameters of a service instance, or none where the platform does not tell them. -/
def paramsOf (client : SpaceClient m) (guid : String) : Task m (NameMap String) := do
  let asked := client.get paramsReader s!"/v3/service_instances/{guid}/parameters" []
  match ← asked.attempt with
  | .ok params => return params.map Value.settingText
  | .error _ => return ∅

/-- The roles of the developers with the names of their users. -/
def roles (client : SpaceClient m) : Task m (List (String × String)) :=
  developerRoles <$> client.list Role.reader "/v3/roles"
    [("types", developerRole), ("space_guids", client.space), ("include", "user")]

/-! ### Fetching -/

def applications (client : SpaceClient m) : Task m (NameMap Application) := do
  let apps ← client.list AppResource.reader "/v3/apps" [("space_guids", client.space)]
  let found ← apps.resources.mapM fun app => do return (app.name, ← client.describe app)
  return NameMap.ofList found

def services (client : SpaceClient m) : Task m (NameMap Service) := do
  let found ← client.list ServiceInstance.reader "/v3/service_instances"
    [("space_guids", client.space), ("type", "managed")]
  -- Without instances there are no plans to ask for.
  if found.resources.isEmpty then return ∅
  let plans ← client.list ServicePlan.reader "/v3/service_plans"
    [("guids", ",".intercalate (planGuids found.resources)), ("include", "service_offering")]
  let params ← found.resources.mapM fun resource => client.paramsOf resource.guid
  return NameMap.ofList ((found.resources.zip params).map fun (resource, params) =>
    (resource.name, serviceOf plans params resource))

def developers (client : SpaceClient m) : Task m (List String) := do
  return (← client.roles).map (·.2)

/-! ### Calls -/

/-- Keep what the platform has no place for. -/
def annotate (client : SpaceClient m) (name : String) (app : Application) : Task m Unit := do
  let kept := annotations app
  if kept.isEmpty then return
  let guid ← client.appGuid name
  client.change .patch s!"/v3/apps/{guid}" (some (.json (metadataBody kept)))

def createApplication (client : SpaceClient m) (name : String) (app : Application) :
    Task m Unit := do
  -- The password is looked up before anything is sent.
  let password ← client.environment.dockerPassword app.manifest
  client.change .post s!"/v3/spaces/{client.space}/actions/apply_manifest"
    (some (.yaml (manifestText name app password)))
  client.annotate name app

def createService (client : SpaceClient m) (name : String) (service : Service) :
    Task m Unit := do
  let plan ← client.findOne ServicePlan.reader "/v3/service_plans"
    [("names", service.plan), ("service_offering_names", service.offering),
      ("space_guids", client.space)] "service plan" s!"{service.offering}/{service.plan}"
  client.change .post "/v3/service_instances" (some (withRelationships
    [("type", .text "managed"), ("name", .text name), ("tags", Value.ofTextList service.tags),
      ("parameters", Value.ofTexts service.params.entries)]
    [("space", guidData client.space), ("service_plan", guidData plan.guid)]))

def setHealthCheck (client : SpaceClient m) (name : String) (type : HealthCheckType)
    (endpoint : Option String) : Task m Unit := do
  -- The check belongs to the process of the application, which has an identifier of its own.
  let guid ← client.appGuid name
  let process ← client.get Process.reader s!"/v3/apps/{guid}/processes/web" []
  client.change .patch s!"/v3/processes/{process.guid}"
    (some (.json (healthCheckBody type endpoint)))

def bindService (client : SpaceClient m) (name service : String) : Task m Unit := do
  let app ← client.appGuid name
  let instanceGuid ← client.serviceGuid service
  client.change .post "/v3/service_credential_bindings" (some (withRelationships
    [("type", .text "app")]
    [("app", guidData app), ("service_instance", guidData instanceGuid)]))

def unbindService (client : SpaceClient m) (name service : String) : Task m Unit := do
  let app ← client.appGuid name
  let instanceGuid ← client.serviceGuid service
  let binding ← client.findOne Binding.reader "/v3/service_credential_bindings"
    [("app_guids", app), ("service_instance_guids", instanceGuid)]
    "service binding" s!"{name}/{service}"
  client.change .delete s!"/v3/service_credential_bindings/{binding.guid}"

def grantDeveloper (client : SpaceClient m) (username : String) : Task m Unit :=
  client.change .post "/v3/roles" (some (withRelationships [("type", .text developerRole)]
    [("user", .record [("data", .record [("username", .text username)])]),
      ("space", guidData client.space)]))

def revokeDeveloper (client : SpaceClient m) (username : String) : Task m Unit := do
  -- Only the first role of the user is taken away.
  match (← client.roles).find? fun role => role.2 = username with
  | some role => client.change .delete s!"/v3/roles/{role.1}"
  | none => throw (.platform (.notFound "space developer" username))

/-- Make a call. -/
def perform (client : SpaceClient m) : Call → Task m Unit
  | .createApplication name app => client.createApplication name app
  | .deleteApplication name => do
    let guid ← client.appGuid name
    client.change .delete s!"/v3/apps/{guid}"
  | .renameApplication name newName => do
    let guid ← client.appGuid name
    client.change .patch s!"/v3/apps/{guid}" (some (.json (.record [("name", .text newName)])))
  | .scaleApplication name scale => do
    let guid ← client.appGuid name
    client.change .post s!"/v3/apps/{guid}/processes/web/actions/scale"
      (some (.json (scaleBody scale)))
  | .setHealthCheck name type endpoint => client.setHealthCheck name type endpoint
  | .addEnvironmentVariable name key value => do
    let guid ← client.appGuid name
    client.change .patch s!"/v3/apps/{guid}/environment_variables"
      (some (.json (variableBody key (.text value))))
  | .removeEnvironmentVariable name key => do
    let guid ← client.appGuid name
    client.change .patch s!"/v3/apps/{guid}/environment_variables"
      (some (.json (variableBody key .null)))
  | .bindService name service => client.bindService name service
  | .unbindService name service => client.unbindService name service
  | .createService name service => client.createService name service
  | .deleteService name => do
    let guid ← client.serviceGuid name
    client.change .delete s!"/v3/service_instances/{guid}"
  | .grantDeveloper username => client.grantDeveloper username
  | .revokeDeveloper username => client.revokeDeveloper username

/-- The platform that the space is on. -/
def platform (client : SpaceClient m) : Platform m where
  name := "cloudfoundry"
  applications := client.applications
  services := client.services
  developers := client.developers
  perform := client.perform

end SpaceClient

/-! ### Connecting -/

/-- A client for the space that a target names. -/
def connect {m : Type → Type} [Monad m] (transport : Transport m) (environment : Environment)
    (target : Target) (token : String) : Task m (SpaceClient m) := do
  match Url.parse? target.api with
  | none =>
    throw (.config (.invalid "Invalid API endpoint: not an address" (some "target.api")))
  | some base =>
    let client : Client m := { transport, base, token, environment }
    let organization ← client.findOne NamedResource.reader "/v3/organizations"
      [("names", target.organization)] "organization" target.organization
    let space ← client.findOne NamedResource.reader "/v3/spaces"
      [("names", target.space), ("organization_guids", organization.guid)] "space" target.space
    return { transport, base, token, environment, space := space.guid }

end CloudSpace.Cloud
