import CloudSpace.Cloud.Manifest
import CloudSpace.Cloud.Resource
import CloudSpace.Record.Space

/-!
# Records from resources

What the platform's resources say about an application or a service instance, put together to a
record. Some settings are only kept in annotations, and a path that is common to all routes is
taken off each route again.
-/
namespace CloudSpace.Cloud

/-- The names of the service instances that an application is bound to. -/
def boundServices (bindings : Listing Binding) : List String :=
  let names := namesByGuid bindings.instances
  (bindings.resources.filterMap Binding.service).filterMap names.get?

/-- The application that resources describe. -/
def applicationOf (app : AppResource) (process : Process) (settings : NameMap Value)
    (routes : List String) (bindings : Listing Binding) (image : Option Package) :
    Application :=
  let isBuildpack := app.lifecycle.type = "buildpack"
  let routePath := annotated? app.annotations routePathKey
  { path := annotated? app.annotations pathKey
    metadata := annotated? app.annotations metadataKey
    manifest :=
      { buildpack := if isBuildpack then app.lifecycle.buildpacks.head? else none
        command := process.command
        disk := some process.disk
        dockerImage := image.bind Package.image
        dockerUsername := image.bind Package.username
        environmentVariables := settings.map Value.settingText
        healthCheckHttpEndpoint := process.healthCheck.endpoint
        healthCheckType := HealthCheckType.parse? process.healthCheck.type
        instances := some process.instances
        memory := some process.memory
        routePath
        routes := routes.map (bareRoute routePath)
        services := boundServices bindings
        stack := if isBuildpack then app.lifecycle.stack else none
        timeout := process.healthCheck.timeout } }

/-- The package with the image of an application, the newest one. -/
def imagePackage? (packages : List Package) : Option Package :=
  packages.find? fun package => package.type = "docker"

/-- The guids of the plans of some service instances, each once. -/
def planGuids (instances : List ServiceInstance) : List String :=
  distinctSorted (instances.filterMap ServiceInstance.plan)

/-- The service that resources describe. -/
def serviceOf (plans : Listing ServicePlan) (params : NameMap String)
    (resource : ServiceInstance) : Service :=
  let byGuid := NameMap.ofList (plans.resources.map fun plan => (plan.guid, plan))
  let plan := resource.plan.bind byGuid.get?
  let offering := (plan.bind ServicePlan.offering).bind (namesByGuid plans.offerings).get?
  { offering := offering.getD ""
    plan := (plan.map ServicePlan.name).getD ""
    tags := resource.tags
    params }

/-- Each role with the name of its user, if the user has one. -/
def developerRoles (roles : Listing Role) : List (String × String) :=
  let names := NameMap.ofList (roles.users.filterMap fun user =>
    user.username.map fun name => (user.guid, name))
  roles.resources.filterMap fun role =>
    (role.user.bind names.get?).map fun name => (role.guid, name)

end CloudSpace.Cloud
