import CloudSpace.Proofs.Cloud.Restated
import CloudSpace.Proofs.Cloud.Table

/-!
# Reading back what was created

From a server that restates an application the application is fetched as far as it can be read
back, whatever other applications there are. A document that is read back so leaves nothing to
change exactly where it has no setting that a platform cannot tell.
-/
namespace CloudSpace.Cloud

open Value

/-! ### Servers that restate -/

section

variable {σ : Type}

/-- A server gives an account of a resource. It restates the application of a name, and any other
application only has to be readable. -/
def Server.Covers (server : Server σ) (client : SpaceClient (StateM (Session σ))) (name : String)
    (entry : Value) (kept : NameMap String) (holds : σ → Prop) (resource : Value) : Prop :=
  ∃ account : Account,
    (∀ app, AppResource.ofValue? resource = some app → server.Accounts client app account holds) ∧
    (resource.Has "name" (.text name) ∧ account.Restates entry kept resource ∨
      ∃ other record, AppResource.ofValue? resource = some other ∧ other.name ≠ name ∧
        account.application? other = some record)

/-- As long as something holds of its state, a server lists an application of a name and restates
an entry and annotations for it. -/
structure Server.Restates (server : Server σ) (client : SpaceClient (StateM (Session σ)))
    (name : String) (entry : Value) (kept : NameMap String) (holds : σ → Prop) : Prop where
  reaches : client.transport = server.transport
  lists : ∃ listing page,
    (∀ state, holds state → server.Tells client.toClient "/v3/apps"
      [("space_guids", client.space), ("per_page", "5000")]
      (Listing.reader AppResource.reader).wanted listing holds state) ∧
    Listing.ofValue? some listing = some page ∧
    (∃ resource ∈ page.resources, resource.Has "name" (.text name)) ∧
    ∀ resource ∈ page.resources, server.Covers client name entry kept holds resource

variable {server : Server σ} {client : SpaceClient (StateM (Session σ))} {holds : σ → Prop}
  {before : Session σ}

/-- The applications that are fetched are those that the accounts of the listed ones describe. -/
theorem SpaceClient.leads_applications (reaches : client.transport = server.transport)
    (fits : AppResource → Application → Prop) {listing : Value} {apps : Listing AppResource}
    (tells : server.Tells client.toClient "/v3/apps"
      [("space_guids", client.space), ("per_page", "5000")]
      (Listing.reader AppResource.reader).wanted listing holds before.state)
    (read : Listing.ofValue? AppResource.ofValue? listing = some apps)
    (each : ∀ app ∈ apps.resources, ∃ account record, server.Accounts client app account holds ∧
      account.application? app = some record ∧ fits app record) :
    client.applications.Leads before fun result _ => ∃ found,
      result = .ok (NameMap.ofList found) ∧ List.Forall₂
        (fun app entry => entry.1 = app.name ∧ fits app entry.2) apps.resources found := by
  refine ((Client.leads_get reaches tells).of_toOption read).bind_ok fun after held => ?_
  -- Every application is described out of a state that the answers still hold in.
  have described : ∀ app ∈ apps.resources, ∀ earlier : Session σ, holds earlier.state →
      Task.Leads (do return (app.name, ← client.describe app)) earlier fun result later =>
        ∃ entry, result = .ok entry ∧ (entry.1 = app.name ∧ fits app entry.2) ∧
          holds later.state := by
    intro app member earlier held
    obtain ⟨account, record, accounts, known, fit⟩ := each app member
    refine ((leads_describe reaches accounts held).of_toOption known).bind_ok fun later held => ?_
    exact Task.leads_pure ⟨_, rfl, ⟨rfl, fit⟩, held⟩
  refine (Task.Leads.mapM described held).bind_found ?_
  intro found last ⟨fitting, _⟩
  exact Task.leads_pure ⟨found, rfl, fitting⟩

theorem AppResource.name_of_ofValue? {resource : Value} {name : String} {app : AppResource}
    (named : resource.Has "name" (.text name)) (read : AppResource.ofValue? resource = some app) :
    app.name = name := by
  simp only [ofValue?, named.required, text?, Option.bind_eq_bind, Option.bind_eq_some_iff,
    Option.pure_def, Option.some.injEq] at read
  obtain ⟨guid, -, _, rfl, lifecycle, -, annotations, -, rfl⟩ := read
  rfl

/-- From a server that restates an application it is fetched, as far as it can be read back. -/
theorem fetched_of_restates {name : String} {config : Application} {password : Option String}
    (sized : config.manifest.Sized)
    (restates : server.Restates client name (manifestEntry name config password)
      (annotations config) holds) (held : holds before.state) :
    ∃ found live, (client.applications.runOn before).1 = .ok found ∧
      found.get? name = some live ∧ live.Agrees config.readBack := by
  obtain ⟨listing, page, tells, paged, ⟨resource, listed, named⟩, covers⟩ := restates.lists
  have written := says_manifestEntry name config password
  -- Every listed resource is read, and one of the name agrees with what is to be read back.
  have reads : ∀ resource ∈ page.resources, ∃ app account record,
      AppResource.ofValue? resource = some app ∧ server.Accounts client app account holds ∧
      account.application? app = some record ∧
      (app.name = name → record.Agrees config.readBack) := by
    intro resource member
    obtain ⟨account, accounts, ⟨named, own⟩ | ⟨other, record, read, isOther, known⟩⟩ :=
      covers resource member
    · obtain ⟨app, live, read, -, known, agrees⟩ := own.application? named written sized
      exact ⟨app, account, live, read, accounts app read, known, fun _ => agrees⟩
    · exact ⟨other, account, record, read, accounts other read, known, fun same =>
        absurd same isOther⟩
  obtain ⟨apps, readApps⟩ := exists_mapM_eq_some fun resource member =>
    (reads resource member).imp fun app read => read.choose_spec.choose_spec.1
  have each := mapM_eq_some_iff.mp readApps
  have described : ∀ app ∈ apps, ∃ account record, server.Accounts client app account holds ∧
      account.application? app = some record ∧
      (app.name = name → record.Agrees config.readBack) := by
    intro app member
    obtain ⟨resource, listed, read⟩ := exists_left_of_forall₂ each member
    -- It was read twice, and to the same.
    obtain ⟨_, account, record, sameRead, rest⟩ := reads resource listed
    cases read.symm.trans sameRead
    exact ⟨account, record, rest⟩
  obtain ⟨found, result, fitting⟩ := (SpaceClient.leads_applications restates.reaches _
    (tells _ held) (Listing.ofValue?_of_page paged readApps) described).runOn
  -- One resource has the name, so something is found under it, and whichever of that name counts
  -- in the end agrees.
  obtain ⟨app, isApp, isNamed⟩ : ∃ app ∈ apps, app.name = name := by
    obtain ⟨app, isApp, read⟩ := exists_left_of_forall₂ each.flip listed
    exact ⟨app, isApp, AppResource.name_of_ofValue? named read⟩
  obtain ⟨⟨_, record⟩, isFound, ⟨rfl, -⟩⟩ := exists_left_of_forall₂ fitting.flip isApp
  obtain ⟨live, bound⟩ := NameMap.exists_get?_ofList isFound
  obtain ⟨other, -, sameName, agrees⟩ :=
    exists_left_of_forall₂ fitting (NameMap.mem_of_get?_ofList bound)
  rw [isNamed] at bound
  exact ⟨_, live, result, bound, agrees (sameName.symm.trans isNamed)⟩

/-- A document that is read back from a server that restates it leaves nothing to change, exactly
where all of it can be read back. -/
theorem diff_fetched_eq_nil_iff {name : String} {config : Application} {password : Option String}
    (sized : config.manifest.Sized) (noRoute : config.manifest.noRoute = none)
    (randomRoute : config.manifest.randomRoute = none)
    (restates : server.Restates client name (manifestEntry name config password)
      (annotations config) holds) (held : holds before.state) :
    ∃ found live, (client.applications.runOn before).1 = .ok found ∧
      found.get? name = some live ∧
      ∀ path, Application.diff path live config = [] ↔ config.Describable := by
  obtain ⟨found, live, result, bound, agrees⟩ := fetched_of_restates sized restates held
  refine ⟨found, live, result, bound, fun path => ?_⟩
  refine Application.schema.compare_eq_nil_iff.trans ?_
  rw [← Application.readBack_agrees_iff noRoute randomRoute]
  exact ⟨agrees.symm.trans, agrees.trans⟩

end

/-! ### A server that restates an application with an image -/

namespace ImageServer

/-- Applications that make no difference to a platform: of an image, with the rest as it may be. -/
def config (path buildpack : Option String) (noRoute : Option Bool) : Application :=
  { path
    metadata := some "team"
    manifest :=
      { buildpack
        disk := some 1024
        dockerImage := some "app:1"
        dockerUsername := some "deployer"
        environmentVariables := NameMap.ofList [("A", "b")]
        healthCheckType := some .process
        instances := some 2
        memory := some 512
        noRoute
        routePath := some "/api"
        routes := ["app.example.com"]
        services := ["db"] } }

def account : Account where
  process := .record [("guid", .text "2"), ("command", .null), ("instances", .int 2),
    ("memory_in_mb", .int 512), ("disk_in_mb", .int 1024),
    ("health_check", .record [("type", .text "process")])]
  settings := .record [("var", .record [("A", .text "b")])]
  routes := .record [("resources", .list [.record [("url", .text "app.example.com/api")]])]
  bindings := .record [
    ("resources", .list [.record [("guid", .text "3"), ("relationships", .record [
      ("service_instance", .record [("data", .record [("guid", .text "4")])])])]]),
    ("included", .record [("service_instances", .list [
      .record [("guid", .text "4"), ("name", .text "db")]])])]
  packages := .record [("resources", .list [.record [("guid", .text "5"), ("type", .text "docker"),
    ("data", .record [("image", .text "app:1"), ("username", .text "deployer")])]])]

def resource : Value :=
  .record [("guid", .text "1"), ("name", .text "web"),
    ("lifecycle", .record [("type", .text "docker"), ("data", .record [])]),
    ("metadata", .record [("annotations",
      ofTexts [(metadataKey, "team"), (routePathKey, "/api")])])]

def listing : Value := .record [("resources", .list [resource])]

def table : Table := account.answers ++ [(["v3", "apps"], listing)]

def server : Server Table := .ofTable (fun _ => false) []

def start : Session Table := { state := table }

theorem printed : account.Printed := by
  constructor <;> apply Json.read?_of_isSame <;>
    simp only [account, Json.compact, Json.compactFields, Json.compactItems, Json.scalar,
      Json.quote, String.foldl_eq_foldl_toList] <;>
    decide +kernel

section

variable (path buildpack : Option String) (noRoute : Option Bool)

theorem sized : (config path buildpack noRoute).manifest.Sized := ⟨nofun, nofun, nofun, nofun⟩

/-- What is sent of the application is restated, whatever is sent besides. -/
theorem restates (silent : path.filter nonEmpty = none) (password : Option String) :
    account.Restates (manifestEntry "web" (config path buildpack noRoute) password)
      (annotations (config path buildpack noRoute)) resource := by
  have written := says_manifestEntry "web" (config path buildpack noRoute) password
  -- The entry is known only by what it says of each field, so that its text plays no part.
  generalize manifestEntry "web" (config path buildpack noRoute) password = entry at written
  constructor
  case guid => exact ⟨"1", rfl⟩
  case annotations =>
    have kept : annotations (config path buildpack noRoute) =
        NameMap.ofList [(metadataKey, "team"), (routePathKey, "/api")] := by
      simp only [annotations, config, List.filterMap_cons, silent]
      rfl
    exact ⟨_, _, .inl rfl, .inl rfl, kept.symm⟩
  case staging =>
    refine ⟨_, rfl, .image ?_ rfl ⟨_, rfl⟩ ⟨_, _, [], rfl, rfl, ?_, List.forall_mem_nil _⟩⟩
    · rw [written.image]
      exact nofun
    · refine ⟨⟨"5", rfl⟩, rfl, _, .inl rfl, .inl ?_, .inl ?_⟩
      · rw [written.image]
        rfl
      · rw [written.username]
        rfl
  -- The process is said to be as the manifest asks for it.
  case process =>
    constructor
    case guid => exact ⟨"2", rfl⟩
    case command =>
      rw [written.command]
      exact .inl rfl
    case instances =>
      rw [written.instances]
      rfl
    case memory =>
      intro size same
      rw [written.memory] at same
      rw [← size_inj (Value.text.inj same)]
      rfl
    case disk =>
      intro size same
      rw [written.disk] at same
      rw [← size_inj (Value.text.inj same)]
      rfl
    case check =>
      refine ⟨_, .record [], rfl, ?_, .inr ⟨rfl, rfl⟩, .inr ⟨?_, rfl⟩, .inr ⟨?_, rfl⟩⟩
      · rw [written.checkType]
        rfl
      · rw [written.endpoint]
        rfl
      · rw [written.timeout]
        rfl
  case settings =>
    refine ⟨_, .inl rfl, fun key => ?_⟩
    rw [written.settings]
    exact get?_ofTexts (NameMap.ofList [("A", "b")]) key
  case routes =>
    refine ⟨_, ["app.example.com/api"], rfl, .cons rfl .nil, fun url => ?_⟩
    rw [written.routes]
    simp [config, fullRoute]
  case bindings =>
    refine ⟨_, ["db"], rfl, .cons ?_ .nil, fun service => ?_⟩
    · exact ⟨_, _, _, _, _, rfl, rfl, rfl, rfl, rfl, rfl⟩
    · rw [written.services]
      simp [config]

theorem serves (silent : path.filter nonEmpty = none) (password : Option String) :
    server.Restates server.localClient "web"
      (manifestEntry "web" (config path buildpack noRoute) password)
      (annotations (config path buildpack noRoute)) (· = table) := by
  have told : Json.read? (Listing.reader AppResource.reader).wanted (Json.compact listing) =
      some listing := by
    apply Json.read?_of_isSame
    simp only [listing, resource, ofTexts, List.map_cons, List.map_nil, Json.compact,
      Json.compactFields, Json.compactItems, Json.scalar, Json.quote, String.foldl_eq_foldl_toList]
    decide +kernel
  have accounts (app : AppResource) (read : AppResource.ofValue? resource = some app) :
      server.Accounts server.localClient app account (· = table) := by
    have known : AppResource.ofValue? resource =
        some ⟨"1", "web", ⟨"docker", [], none⟩, _⟩ := rfl
    cases known.symm.trans read
    exact accounts_ofTable rfl [(["v3", "apps"], listing)] fun held same => ⟨printed, same⟩
  -- There is one resource, which has the name and is covered by the account.
  refine ⟨rfl, listing, ⟨[resource], [], [], []⟩, ?_, rfl, ⟨resource, List.mem_cons_self, rfl⟩, ?_⟩
  · rintro _ rfl
    exact tells_ofTable ["v3", "apps"] _ rfl (by decide) rfl told rfl
  · intro other member
    cases List.mem_singleton.mp member
    exact ⟨account, accounts, .inl ⟨rfl, restates path buildpack noRoute silent password⟩⟩

end

end ImageServer

open ImageServer

/-- An application made from an image, with everything but a path set, differs in nothing when it is
read back. -/
theorem diff_fetched_eq_nil_image :
    let app := config none none none
    app.manifest.Sized ∧ app.manifest.noRoute = none ∧ app.manifest.randomRoute = none ∧
    server.Restates server.localClient "web" (manifestEntry "web" app (some "secret"))
      (annotations app) (· = table) ∧
    ∃ found live, (server.localClient.applications.runOn start).1 = .ok found ∧
      found.get? "web" = some live ∧ ∀ path, Application.diff path live app = [] := by
  -- No field is empty, and beside the image there is neither a buildpack nor a stack.
  have describable : (config none none none).Describable :=
    ⟨nofun, nofun, by decide, fun _ => ⟨rfl, rfl⟩, nofun⟩
  have restated := serves none none none rfl (some "secret")
  have held : start.state = table := rfl
  obtain ⟨found, live, result, bound, unchanged⟩ :=
    diff_fetched_eq_nil_iff (sized _ _ _) rfl rfl restated held
  exact ⟨sized _ _ _, rfl, rfl, restated, found, live, result, bound, fun path =>
    (unchanged path).mpr describable⟩

/-- An application is restated, and what is fetched differs from it all the same. -/
def Drifts (app : Application) : Prop :=
  app.manifest.Sized ∧
    server.Restates server.localClient "web" (manifestEntry "web" app none) (annotations app)
      (· = table) ∧
    ∃ found live, (server.localClient.applications.runOn start).1 = .ok found ∧
      found.get? "web" = some live ∧ ∀ path, Application.diff path live app ≠ []

theorem drifts_of_not_agrees {path buildpack : Option String} {noRoute : Option Bool}
    (silent : path.filter nonEmpty = none)
    (other : ¬ (config path buildpack noRoute).readBack.Agrees (config path buildpack noRoute)) :
    Drifts (config path buildpack noRoute) := by
  have restated := serves path buildpack noRoute silent none
  have held : start.state = table := rfl
  obtain ⟨found, live, result, bound, agrees⟩ := fetched_of_restates (sized _ _ _) restated held
  refine ⟨sized _ _ _, restated, found, live, result, bound, fun place unchanged => ?_⟩
  exact other (agrees.symm.trans (Application.schema.compare_eq_nil_iff.mp unchanged))

/-- Nothing is kept of an empty path, of a buildpack beside an image, and of whether there are to
be no routes. -/
theorem drifts_path_buildpack_noRoute :
    Drifts (config (some "") none none) ∧ Drifts (config none (some "go") none) ∧
      Drifts (config none none (some false)) := by
  refine ⟨drifts_of_not_agrees rfl ?_, drifts_of_not_agrees rfl ?_, drifts_of_not_agrees rfl ?_⟩
  · exact fun agrees => absurd agrees.path (by decide)
  · exact fun agrees => nomatch congrArg Manifest.buildpack agrees.manifest.others
  · exact fun agrees => nomatch congrArg Manifest.noRoute agrees.manifest.others

end CloudSpace.Cloud
