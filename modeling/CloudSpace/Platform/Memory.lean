import CloudSpace.Platform.Basic

/-!
# A platform in memory

The live space is a value. Every call is recorded, one that is set to fail does nothing else,
and any other is a function on spaces that either gives the space after the call or says why
there is none.
-/
namespace CloudSpace

/-! ### Calls as functions on spaces -/

namespace Space

/-- Change the application with a name. -/
def updateApplication (space : Space) (name : String) (change : Application → Application) :
    Except PlatformError Space :=
  if space.applications.contains name then
    .ok { space with applications := space.applications.modify name change }
  else .error (.notFound "application" name)

/-- Change the manifest of the application with a name. -/
def updateManifest (space : Space) (name : String) (change : Manifest → Manifest) :
    Except PlatformError Space :=
  space.updateApplication name fun app => { app with manifest := change app.manifest }

/-- A manifest with the sizes that a scaling sets. -/
def scaled (scale : Scale) (manifest : Manifest) : Manifest :=
  { manifest with
    instances := scale.instances.or manifest.instances
    memory := scale.memory.or manifest.memory
    disk := scale.disk.or manifest.disk }

/-- A list with an element at its end, unless it has it already. -/
def withElement (names : List String) (name : String) : List String :=
  if names.contains name then names else names ++ [name]

/-- A list without an element. -/
def withoutElement (names : List String) (name : String) : List String :=
  names.filter (· != name)

/-- The space after a call, or why the call is refused. -/
def after (space : Space) : Call → Except PlatformError Space
  | .createApplication name app =>
    if space.applications.contains name then .error (.alreadyExists "application" name)
    else .ok { space with applications := space.applications.insert name app }
  | .deleteApplication name =>
    if space.applications.contains name then
      .ok { space with applications := space.applications.erase name }
    else .error (.notFound "application" name)
  | .renameApplication name newName =>
    match space.applications.get? name with
    | some app =>
      .ok { space with applications := (space.applications.erase name).insert newName app }
    | none => .error (.notFound "application" name)
  | .scaleApplication name scale => space.updateManifest name (scaled scale)
  | .setHealthCheck name type endpoint =>
    space.updateManifest name fun manifest =>
      { manifest with healthCheckType := some type, healthCheckHttpEndpoint := endpoint }
  | .addEnvironmentVariable name key value =>
    space.updateManifest name fun manifest =>
      { manifest with environmentVariables := manifest.environmentVariables.insert key value }
  | .removeEnvironmentVariable name key =>
    space.updateManifest name fun manifest =>
      { manifest with environmentVariables := manifest.environmentVariables.erase key }
  | .bindService name service =>
    if space.services.contains service then
      space.updateManifest name fun manifest =>
        { manifest with services := withElement manifest.services service }
    else .error (.notFound "service" service)
  | .unbindService name service =>
    space.updateManifest name fun manifest =>
      { manifest with services := withoutElement manifest.services service }
  | .createService name service =>
    if space.services.contains name then .error (.alreadyExists "service" name)
    else .ok { space with services := space.services.insert name service }
  | .deleteService name =>
    if space.services.contains name then
      .ok { space with services := space.services.erase name }
    else .error (.notFound "service" name)
  | .grantDeveloper username =>
    .ok { space with developers := withElement space.developers username }
  | .revokeDeveloper username =>
    .ok { space with developers := withoutElement space.developers username }

end Space

/-! ### The platform -/

/-- The state of the platform. -/
structure Memory where
  space : Space := {}
  /-- The calls made so far. -/
  calls : List RecordedCall := []
  /-- The names and targets of calls that fail; a fetch has no target. -/
  failures : List (String × String) := []
deriving DecidableEq, Inhabited

namespace Memory

/-- The platform with one more call that fails. -/
def failOn (memory : Memory) (name target : String) : Memory :=
  { memory with failures := memory.failures ++ [(name, target)] }

def fails (memory : Memory) (name target : String) : Bool :=
  memory.failures.contains (name, target)

/-- The error of a call that is set to fail. -/
def injected (name target : String) : Error :=
  .platform (.request 500 s!"injected failure for {name} {target}")

/-- Make a call. -/
def step (memory : Memory) (call : Call) : Except Error Unit × Memory :=
  -- A call that is set to fail is on record too.
  let recorded := { memory with calls := memory.calls ++ [call.recorded] }
  if memory.fails call.name call.target then
    (.error (injected call.name call.target), recorded)
  else
    match memory.space.after call with
    | .ok space => (.ok (), { recorded with space })
    | .error cause => (.error (.platform cause), recorded)

/-- Fetch a part of the space. -/
def fetch {α : Type} (memory : Memory) (name : String) (part : Space → α) : Except Error α :=
  if memory.fails name "" then .error (injected name "") else .ok (part memory.space)

/-- A task that is a function on the state. -/
def task {α : Type} (act : Memory → Except Error α × Memory) : Task (StateM Memory) α :=
  ExceptT.mk (StateT.lift (fun memory => act memory))

def platform : Platform (StateM Memory) where
  name := "memory"
  applications := task fun memory => (memory.fetch "fetch_applications" Space.applications, memory)
  services := task fun memory => (memory.fetch "fetch_services" Space.services, memory)
  developers :=
    task fun memory => (memory.fetch "fetch_space_developers" Space.developers, memory)
  perform call := task fun memory => memory.step call

end Memory

end CloudSpace
