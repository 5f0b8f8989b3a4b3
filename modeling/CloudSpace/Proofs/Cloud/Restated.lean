import CloudSpace.Proofs.Cloud.Answers
import CloudSpace.Proofs.Cloud.Entry
import CloudSpace.Proofs.Diff.Schema

/-!
# Accounts that restate an application

An account restates an application if its answers say what creating the application sent, each in
its own place, and beside whatever else. Such an account describes the application except for the
settings that a platform cannot tell: empty annotations, what is of no use to an image or without
one, and whether routes were to be made up.
-/
namespace CloudSpace

open Cloud

/-! ### What can be read back -/

/-- The sizes that a platform always tells, and a health check, are given. -/
structure Manifest.Sized (manifest : Manifest) : Prop where
  disk : manifest.disk ≠ none
  memory : manifest.memory ≠ none
  instances : manifest.instances ≠ none
  healthCheckType : manifest.healthCheckType ≠ none

namespace Application

/-- An application as far as a platform that restates it tells. -/
def readBack (config : Application) : Application :=
  let manifest := config.manifest
  { path := config.path.filter nonEmpty
    metadata := config.metadata.filter nonEmpty
    manifest :=
      { manifest with
        buildpack := if manifest.dockerImage = none then manifest.buildpack else none
        dockerUsername := manifest.dockerImage.bind fun _ => manifest.dockerUsername
        noRoute := none
        randomRoute := none
        routePath := manifest.routePath.filter nonEmpty
        stack := if manifest.dockerImage = none then manifest.stack else none } }

/-- Nothing is given that is not kept: no empty annotation, nothing for staging beside an image,
and no user without one. -/
structure Describable (config : Application) : Prop where
  path : config.path ≠ some ""
  metadata : config.metadata ≠ some ""
  routePath : config.manifest.routePath ≠ some ""
  staging : config.manifest.dockerImage ≠ none →
    config.manifest.buildpack = none ∧ config.manifest.stack = none
  username : config.manifest.dockerImage = none → config.manifest.dockerUsername = none

theorem filter_nonEmpty_eq_self_iff (content : Option String) :
    content.filter nonEmpty = content ↔ content ≠ some "" := by
  cases content with
  | none => simp
  | some text => by_cases empty : text = "" <;> simp [nonEmpty, empty]

/-- What is read back agrees with what was wanted, exactly where all of it can be described. -/
theorem readBack_agrees_iff {config : Application} (noRoute : config.manifest.noRoute = none)
    (randomRoute : config.manifest.randomRoute = none) :
    config.readBack.Agrees config ↔ config.Describable := by
  obtain ⟨path, metadata, manifest⟩ := config
  -- What is dropped beside an image is the same exactly if it is not given there.
  have staged (content : Option String) :
      (if manifest.dockerImage = none then content else none) = content ↔
        (manifest.dockerImage ≠ none → content = none) := by
    by_cases image : manifest.dockerImage = none <;> simp [image, eq_comm]
  have user : (manifest.dockerImage.bind fun _ => manifest.dockerUsername) =
      manifest.dockerUsername ↔ (manifest.dockerImage = none → manifest.dockerUsername = none) := by
    cases manifest.dockerImage <;> simp [eq_comm]
  constructor
  -- Agreement says of each field that it is the same, and for some fields that is all there is to
  -- it.
  · rintro ⟨samePath, sameMetadata, manifestAgrees⟩
    obtain ⟨buildpack, -, -, -, username, -, -, -, -, -, -, -, routePath, -, -, stack, -⟩ :=
      (Manifest.mk.injEq ..).mp manifestAgrees.others
    exact {
      path := (filter_nonEmpty_eq_self_iff _).mp samePath
      metadata := (filter_nonEmpty_eq_self_iff _).mp sameMetadata
      routePath := (filter_nonEmpty_eq_self_iff _).mp routePath
      staging := fun image => ⟨(staged _).mp buildpack image, (staged _).mp stack image⟩
      username := user.mp username }
  -- Where all can be described, each field that might be dropped is not.
  · intro describable
    have buildpack := (staged manifest.buildpack).mpr fun image => (describable.staging image).1
    have stack := (staged manifest.stack).mpr fun image => (describable.staging image).2
    have username := user.mpr describable.username
    have routePath := (filter_nonEmpty_eq_self_iff _).mpr describable.routePath
    refine ⟨(filter_nonEmpty_eq_self_iff _).mpr describable.path,
      (filter_nonEmpty_eq_self_iff _).mpr describable.metadata, ?_, fun _ => .rfl, fun _ => .rfl⟩
    dsimp only at noRoute randomRoute routePath
    simp only [readBack, buildpack, stack, username, routePath, noRoute, randomRoute]

end Application

namespace Cloud

open Value

/-! ### Answers that restate -/

/-- A process is run as an entry of a manifest says. -/
structure Runs (entry process : Value) : Prop where
  guid : ∃ guid, process.Has "guid" (.text guid)
  command : process.Gives "command" (entry.under ["command"])
  instances : process.Has "instances" (entry.under ["instances"])
  memory : ∀ size : Nat, entry.under ["memory"] = .text s!"{size}M" →
    process.Has "memory_in_mb" (.int size)
  disk : ∀ size : Nat, entry.under ["disk_quota"] = .text s!"{size}M" →
    process.Has "disk_in_mb" (.int size)
  check : ∃ check data, process.Has "health_check" check ∧
    check.Has "type" (entry.under ["health-check-type"]) ∧
    check.HasOr (.record []) "data" data ∧
    data.Gives "endpoint" (entry.under ["health-check-http-endpoint"]) ∧
    data.Gives "timeout" (entry.under ["timeout"])

/-- A package has an image and who may fetch it as an entry says. -/
structure Carries (entry package : Value) : Prop where
  guid : ∃ guid, package.Has "guid" (.text guid)
  type : package.Has "type" (.text "docker")
  data : ∃ data, package.HasOr (.record []) "data" data ∧
    data.Gives "image" (entry.under ["docker", "image"]) ∧
    data.Gives "username" (entry.under ["docker", "username"])

/-- An application is staged as an entry says: from its image, whose package is the newest, or
else with its buildpacks on its stack. -/
inductive Staged (entry lifecycle packages : Value) : Prop
  | image (given : entry.under ["docker", "image"] ≠ .null)
      (typed : lifecycle.Has "type" (.text "docker"))
      (readable : ∃ read, Lifecycle.ofValue? lifecycle = some read)
      (newest : ∃ page package older, Listing.ofValue? some packages = some page ∧
        page.resources = package :: older ∧ Carries entry package ∧
        ∀ other ∈ older, ∃ read, Package.ofValue? other = some read)
  | buildpacks (missing : entry.under ["docker", "image"] = .null)
      (typed : lifecycle.Has "type" (.text "buildpack"))
      (data : ∃ data, lifecycle.HasOr (.record []) "data" data ∧
        data.HasOr (.list []) "buildpacks" (.list (entry.each "buildpacks")) ∧
        data.Gives "stack" (entry.under ["stack"]))

/-- A binding is to a service instance of a name, which is found among some instances. -/
def Binds (instances : List NamedResource) (binding : Value) (service : String) : Prop :=
  ∃ own relations relation data guid, binding.Has "guid" (.text own) ∧
    binding.Has "relationships" relations ∧ relations.Has "service_instance" relation ∧
    relation.Has "data" data ∧ data.Has "guid" (.text guid) ∧
    (namesByGuid instances).get? guid = some service

/-- A resource and the account of it say what an entry and annotations beside it do. Routes and
bindings may come in any order. -/
structure Account.Restates (account : Account) (entry : Value) (kept : NameMap String)
    (resource : Value) : Prop where
  guid : ∃ guid, resource.Has "guid" (.text guid)
  annotations : ∃ metadata bindings, resource.HasOr (.record []) "metadata" metadata ∧
    metadata.HasOr (.record []) "annotations" (ofTexts bindings) ∧
    NameMap.ofList bindings = kept
  staging : ∃ lifecycle, resource.Has "lifecycle" lifecycle ∧
    Staged entry lifecycle account.packages
  process : Runs entry account.process
  settings : ∃ fields, account.settings.HasOr (.record []) "var" (.record fields) ∧
    ∀ key, (record fields).get? key = (entry.under ["env"]).get? key
  routes : ∃ page urls, Listing.ofValue? some account.routes = some page ∧
    List.Forall₂ (fun route url => route.Has "url" (.text url)) page.resources urls ∧
    ∀ url, url ∈ urls ↔ .text url ∈ (entry.each "routes").map (·.under ["route"])
  bindings : ∃ page services, Listing.ofValue? some account.bindings = some page ∧
    List.Forall₂ (Binds page.instances) page.resources services ∧
    ∀ service, service ∈ services ↔ .text service ∈ entry.each "services"

/-! ### Reading them -/

section

variable {entry : Value} {manifest : Manifest}

/-- A process that runs as an entry says is read as what the manifest asks for. -/
theorem Runs.ofValue? {process : Value} (runs : Runs entry process) (written : Says entry manifest)
    (sized : manifest.Sized) : ∃ read, Process.ofValue? process = some read ∧
      read.command = manifest.command ∧ some read.instances = manifest.instances ∧
      some read.memory = manifest.memory ∧ some read.disk = manifest.disk ∧
      HealthCheckType.parse? read.healthCheck.type = manifest.healthCheckType ∧
      read.healthCheck.endpoint = manifest.healthCheckHttpEndpoint ∧
      read.healthCheck.timeout = manifest.timeout := by
  obtain ⟨guid, hasGuid⟩ := runs.guid
  -- All sizes are given, so that there are numbers to compare.
  obtain ⟨instances, sameInstances⟩ := Option.ne_none_iff_exists.mp sized.instances
  obtain ⟨memory, sameMemory⟩ := Option.ne_none_iff_exists.mp sized.memory
  obtain ⟨disk, sameDisk⟩ := Option.ne_none_iff_exists.mp sized.disk
  obtain ⟨type, sameType⟩ := Option.ne_none_iff_exists.mp sized.healthCheckType
  -- The process has what the entry says, which is what the manifest gives.
  have command := runs.command
  rw [written.command] at command
  have hasInstances := runs.instances
  rw [written.instances, ← sameInstances] at hasInstances
  have hasMemory := runs.memory memory.toNat (by rw [written.memory, ← sameMemory]; rfl)
  have hasDisk := runs.disk disk.toNat (by rw [written.disk, ← sameDisk]; rfl)
  obtain ⟨check, data, hasCheck, typed, hasData, found, waits⟩ := runs.check
  rw [written.checkType, ← sameType] at typed
  rw [written.endpoint] at found
  rw [written.timeout] at waits
  refine ⟨⟨guid, manifest.command, instances, memory, disk, ⟨type.name, _, _⟩⟩,
    Process.ofValue?_eq_some_iff.mpr ⟨?_, ?_, ?_, ?_, ?_, ?_⟩, rfl, sameInstances, sameMemory,
    sameDisk, (parse?_name type).trans sameType, rfl, rfl⟩
  · exact hasGuid.required _
  · exact command.nullable_text
  · rw [hasInstances.required, ofWord?, word32?_toNat]
  · rw [hasMemory.required, word32?_toNat]
  · rw [hasDisk.required, word32?_toNat]
  · rw [hasCheck.withDefault]
    exact HealthCheck.ofValue?_eq typed hasData found waits

/-- The package with the image of a manifest, if it has one. -/
def imagePackageOf (manifest : Manifest) : Option Package :=
  manifest.dockerImage.map fun image => ⟨"docker", some image, manifest.dockerUsername⟩

theorem bind_imagePackageOf (manifest : Manifest) :
    (imagePackageOf manifest).bind Package.image = manifest.dockerImage ∧
      (imagePackageOf manifest).bind Package.username =
        manifest.dockerImage.bind fun _ => manifest.dockerUsername := by
  rw [imagePackageOf]
  cases manifest.dockerImage <;> exact ⟨rfl, rfl⟩

/-- A package that carries what an entry says is read as the one that the manifest leads to. -/
theorem Carries.ofValue? {package : Value} (carries : Carries entry package)
    (written : Says entry manifest) (given : manifest.dockerImage ≠ none) :
    Package.ofValue? package = imagePackageOf manifest := by
  obtain ⟨guid, hasGuid⟩ := carries.guid
  obtain ⟨data, hasData, image, username⟩ := carries.data
  obtain ⟨name, same⟩ := Option.ne_none_iff_exists.mp given
  rw [written.image, ← same] at image
  rw [written.username, ← same, Option.bind_some] at username
  rw [Package.ofValue?, hasGuid.required, text?, Option.bind_eq_bind, Option.bind_some,
    carries.type.withDefault, text?, Option.bind_some, hasData.withDefault]
  · rw [image.nullable_text, username.nullable_text, imagePackageOf, ← same]
    rfl
  · rfl

/-- Bindings of some services are read, and lead to the names of these services. -/
theorem ofValue?_of_binds {instances : List NamedResource} {bindings : List Value}
    {services : List String} (binds : List.Forall₂ (Binds instances) bindings services) :
    ∃ read, bindings.mapM Binding.ofValue? = some read ∧
      (read.filterMap Binding.service).filterMap (namesByGuid instances).get? = services := by
  -- By induction on the bindings, of which each leads to its service by the guid of the instance.
  induction binds with
  | nil => exact ⟨[], rfl, rfl⟩
  | @cons binding service bindings services first _ ih =>
    obtain ⟨own, relations, relation, data, guid, hasOwn, hasRelations, hasRelation, hasData,
      hasGuid, named⟩ := first
    obtain ⟨read, readRest, same⟩ := ih
    have related : relatedGuid? relation = some (some guid) := by
      have given : data ≠ .null := by
        rintro rfl
        exact nomatch hasGuid
      rw [relatedGuid?, Gives.nullable (.inl hasData) given, hasGuid.required]
      rfl
    have readFirst : Binding.ofValue? binding = some ⟨own, some guid⟩ := by
      rw [Binding.ofValue?, hasOwn.required, hasRelations.required, relationship?,
        hasRelation.withDefault, related]
      rfl
    refine ⟨⟨own, some guid⟩ :: read, ?_, ?_⟩
    · rw [List.mapM_cons, readFirst, readRest]
      rfl
    · simp [named, same]

theorem Lifecycle.type_of_ofValue? {lifecycle : Value} {type : String} {read : Lifecycle}
    (typed : lifecycle.Has "type" (.text type))
    (done : Lifecycle.ofValue? lifecycle = some read) : read.type = type := by
  rw [ofValue?, typed.withDefault, text?, Option.bind_eq_bind, Option.bind_some] at done
  rcases of_withDefault done with ⟨-, rfl⟩ | ⟨data, -, readData⟩
  · rfl
  · simp only [Option.bind_eq_bind, Option.bind_eq_some_iff, Option.pure_def,
      Option.some.injEq] at readData
    obtain ⟨buildpacks, -, stack, -, rfl⟩ := readData
    rfl

/-- From how an application is staged its image is read, or else its buildpack and its stack. -/
theorem Staged.ofValue? {account : Account} {lifecycle : Value}
    (staged : Staged entry lifecycle account.packages) (written : Says entry manifest) :
    ∃ read, Lifecycle.ofValue? lifecycle = some read ∧
      (∀ app : AppResource, app.lifecycle = read →
        account.image? app = some (imagePackageOf manifest)) ∧
      (if read.type = "buildpack" then read.buildpacks.head? else none) =
        (if manifest.dockerImage = none then manifest.buildpack else none) ∧
      (if read.type = "buildpack" then read.stack else none) =
        (if manifest.dockerImage = none then manifest.stack else none) := by
  -- The application is made from an image or with buildpacks, and has one lifecycle or the other.
  cases staged with
  | image given typed readable newest =>
    obtain ⟨read, readLifecycle⟩ := readable
    obtain ⟨page, package, older, paged, listed, carries, others⟩ := newest
    have type := Lifecycle.type_of_ofValue? typed readLifecycle
    have isImage : manifest.dockerImage ≠ none := by
      intro missing
      rw [written.image, missing] at given
      exact given rfl
    obtain ⟨first, same⟩ : ∃ first, imagePackageOf manifest = some first :=
      Option.isSome_iff_exists.mp (by simpa [imagePackageOf, Option.isSome_iff_ne_none])
    have readFirst : Package.ofValue? package = some first :=
      (carries.ofValue? written isImage).trans same
    have isDocker : first.type = "docker" := by
      obtain ⟨_, _, rfl⟩ := Option.map_eq_some_iff.mp same
      rfl
    -- The newest package comes first and carries the image; the others only have to be readable.
    obtain ⟨rest, readRest⟩ := exists_mapM_eq_some others
    have readAll : page.resources.mapM Package.ofValue? = some (first :: rest) := by
      rw [listed, List.mapM_cons, readFirst, readRest]
      rfl
    refine ⟨read, readLifecycle, fun app sameRead => ?_, ?_, ?_⟩
    · rw [Account.image?, sameRead, type, if_pos rfl, Listing.ofValue?_of_page paged readAll, same]
      simp [imagePackage?, isDocker]
    · rw [type, if_neg (by decide), if_neg isImage]
    · rw [type, if_neg (by decide), if_neg isImage]
  -- Without an image, the lifecycle has just the buildpack and the stack of the manifest.
  | buildpacks missing typed data =>
    obtain ⟨data, hasData, buildpacks, stack⟩ := data
    have isNone : manifest.dockerImage = none := by
      rw [written.image] at missing
      cases image : manifest.dockerImage with
      | none => rfl
      | some _ =>
        rw [image] at missing
        cases missing
    rw [written.buildpacks] at buildpacks
    rw [written.stack] at stack
    have texts : texts? (.list (manifest.buildpack.toList.map .text)) =
        some manifest.buildpack.toList := by
      cases manifest.buildpack <;> rfl
    have readLifecycle : Lifecycle.ofValue? lifecycle =
        some ⟨"buildpack", manifest.buildpack.toList, manifest.stack⟩ := by
      rw [Lifecycle.ofValue?, typed.withDefault, text?, Option.bind_eq_bind, Option.bind_some,
        hasData.withDefault]
      · rw [buildpacks.withDefault, texts, stack.nullable_text]
        · rfl
        · rfl
      · rfl
    refine ⟨_, readLifecycle, fun app same => ?_, ?_, ?_⟩
    · have unasked : ¬ "buildpack" = "docker" := by decide
      rw [Account.image?, same, if_neg unasked, imagePackageOf, isNone]
      rfl
    · rw [if_pos rfl, if_pos isNone, Option.head?_toList]
    · rw [if_pos rfl, if_pos isNone]

end

/-! ### Accounts that restate -/

section

variable {account : Account} {entry resource : Value} {config : Application} {name : String}

theorem Account.Restates.resource? {kept : NameMap String}
    (restates : account.Restates entry kept resource) (named : resource.Has "name" (.text name))
    (written : Says entry config.manifest) :
    ∃ app, AppResource.ofValue? resource = some app ∧ app.name = name ∧ app.annotations = kept ∧
      account.image? app = some (imagePackageOf config.manifest) ∧
      (if app.lifecycle.type = "buildpack" then app.lifecycle.buildpacks.head? else none) =
        config.readBack.manifest.buildpack ∧
      (if app.lifecycle.type = "buildpack" then app.lifecycle.stack else none) =
        config.readBack.manifest.stack := by
  -- What the server restates is taken apart first, so that each field is read by rewriting.
  obtain ⟨guid, hasGuid⟩ := restates.guid
  obtain ⟨metadata, bindings, hasMetadata, hasAnnotations, same⟩ := restates.annotations
  obtain ⟨lifecycle, hasLifecycle, staged⟩ := restates.staging
  obtain ⟨read, readLifecycle, image, buildpack, stack⟩ := staged.ofValue? written
  have annotations :
      metadata.withDefault ∅ (mapOf text?) "annotations" = some (NameMap.ofList bindings) := by
    rw [hasAnnotations.withDefault, mapOf_ofTexts]
    rfl
  refine ⟨⟨guid, name, read, kept⟩, ?_, rfl, rfl, image _ rfl, buildpack, stack⟩
  rw [AppResource.ofValue?, hasGuid.required, named.required, hasLifecycle.withDefault,
    readLifecycle, hasMetadata.withDefault, annotations, same]
  · rfl
  · rfl

section

variable {kept : NameMap String} (restates : account.Restates entry kept resource)
  (written : Says entry config.manifest)

include restates written

theorem Account.Restates.settings? : ∃ settings, variablesOf? account.settings = some settings ∧
    settings.map settingText = config.manifest.environmentVariables := by
  obtain ⟨fields, hasFields, same⟩ := restates.settings
  refine ⟨NameMap.ofList fields, ?_, NameMap.ext_get? fun key => ?_⟩
  · rw [variablesOf?, hasFields.withDefault, mapOf_some_record]
    rfl
  · rw [NameMap.get?_map, ← get?_record, same, written.settings, Option.map_map]
    -- The text of a setting that is a text is that text.
    exact congrFun Option.map_id _

theorem Account.Restates.routes? : ∃ page, Listing.ofValue? routeOf? account.routes = some page ∧
    SameMembers (page.resources.map (bareRoute (config.manifest.routePath.filter nonEmpty)))
      config.manifest.routes := by
  obtain ⟨page, urls, paged, each, same⟩ := restates.routes
  have read : page.resources.mapM routeOf? = some urls :=
    mapM_eq_some_iff.mpr (each.imp fun _ _ has => has.required _)
  refine ⟨_, Listing.ofValue?_of_page paged read, fun route => ?_⟩
  simp only [List.mem_map, same, written.routes, Value.text.injEq]
  -- What was written with the common path at its end is the route once the path is off.
  constructor
  · rintro ⟨_, ⟨original, member, rfl⟩, rfl⟩
    rwa [bareRoute_fullRoute]
  · intro member
    exact ⟨_, ⟨route, member, rfl⟩, bareRoute_fullRoute _ _⟩

theorem Account.Restates.bindings? :
    ∃ page, Listing.ofValue? Binding.ofValue? account.bindings = some page ∧
      SameMembers (boundServices page) config.manifest.services := by
  obtain ⟨page, services, paged, each, same⟩ := restates.bindings
  obtain ⟨bindings, read, bound⟩ := ofValue?_of_binds each
  refine ⟨_, Listing.ofValue?_of_page paged read, fun service => ?_⟩
  dsimp only [boundServices]
  rw [bound, same, written.services]
  simp

end

/-- An account that restates an application describes it, as far as it can be read back. -/
theorem Account.Restates.application?
    (restates : account.Restates entry (Cloud.annotations config) resource)
    (named : resource.Has "name" (.text name)) (written : Says entry config.manifest)
    (sized : config.manifest.Sized) :
    ∃ app live, AppResource.ofValue? resource = some app ∧ app.name = name ∧
      account.application? app = some live ∧ live.Agrees config.readBack := by
  -- Each answer is read, and says its part of the application.
  obtain ⟨app, readApp, isNamed, kept, image, buildpack, stack⟩ :=
    restates.resource? named written
  obtain ⟨process, readProcess, command, instances, memory, disk, type, endpoint, timeout⟩ :=
    restates.process.ofValue? written sized
  obtain ⟨settings, readSettings, sameSettings⟩ := restates.settings? written
  obtain ⟨routes, readRoutes, sameRoutes⟩ := restates.routes? written
  obtain ⟨bindings, readBindings, sameServices⟩ := restates.bindings? written
  obtain ⟨package, username⟩ := bind_imagePackageOf config.manifest
  obtain ⟨metadata, path, routePath⟩ := annotated?_annotations config
  rw [← kept] at metadata path routePath
  refine ⟨app, _, readApp, isNamed, application?_eq_some_iff.mpr ⟨process, settings, routes,
    bindings, _, readProcess, readSettings, readRoutes, readBindings, image, rfl⟩, path, metadata,
    ?_, ?_, sameServices⟩
  · -- Setting by setting, in the order of a manifest.
    exact (Manifest.mk.injEq ..).mpr ⟨buildpack, command, disk, package, username, sameSettings,
      endpoint, type, instances, memory, rfl, rfl, routePath, rfl, rfl, stack, timeout⟩
  · dsimp only [applicationOf]
    rw [routePath]
    exact sameRoutes

end

end Cloud

end CloudSpace
