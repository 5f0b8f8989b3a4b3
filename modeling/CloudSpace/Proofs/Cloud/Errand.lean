import CloudSpace.Cloud.Space
import CloudSpace.Proofs.Cloud.Mutation
import CloudSpace.Proofs.Cloud.Script

/-!
# Errands

Most calls on a platform are errands: some guids are looked up, each after those that it needs,
and then one thing is changed that they lead to. An errand whose lookup fails ends there, with
nothing changed, and one whose lookups succeed changes the very thing that was found.
-/
namespace CloudSpace.Cloud

/-! ### Lookups -/

/-- A guid that is asked for. -/
structure Lookup where
  path : String
  fields : List (String × String) := []
  /-- What an answer says about it, if it has the form that is expected. -/
  reader : Reader (Except Error String)

namespace Lookup

/-- What is found in the text of an answer. -/
def result (lookup : Lookup) (body : String) : Except Error String :=
  match lookup.reader.parse? body with
  | some found => found
  | none => .error (.platform (.invalidResponse
      s!"Failed to parse response of {lookup.path}: unexpected content"))

/-- The guid of the first of some resources; if there are none, it is not found. -/
def first {α : Type} (item : Reader α) (guid : α → String) (path : String)
    (fields : List (String × String)) (resource name : String) : Lookup where
  path
  fields := fields ++ [("per_page", "5000")]
  reader := (Listing.reader item).map fun listing =>
    match listing.resources with
    | found :: _ => .ok (guid found)
    | [] => .error (.platform (.notFound resource name))

def app (space name : String) : Lookup :=
  first NamedResource.reader (·.guid) "/v3/apps" [("names", name), ("space_guids", space)]
    "application" name

def service (space name : String) : Lookup :=
  first NamedResource.reader (·.guid) "/v3/service_instances"
    [("names", name), ("space_guids", space)] "service" name

def plan (space : String) (service : Service) : Lookup :=
  first ServicePlan.reader (·.guid) "/v3/service_plans"
    [("names", service.plan), ("service_offering_names", service.offering),
      ("space_guids", space)] "service plan" s!"{service.offering}/{service.plan}"

def process (app : String) : Lookup where
  path := s!"/v3/apps/{app}/processes/web"
  reader := Process.reader.map fun process => .ok process.guid

def binding (app service name serviceName : String) : Lookup :=
  first Binding.reader (·.guid) "/v3/service_credential_bindings"
    [("app_guids", app), ("service_instance_guids", service)] "service binding"
    s!"{name}/{serviceName}"

/-- The guid of the first role that is held by a user of a name. -/
def roleOf (username : String) (listing : Listing Role) : Except Error String :=
  match (developerRoles listing).find? fun role => role.2 = username with
  | some role => .ok role.1
  | none => .error (.platform (.notFound "space developer" username))

def role (space username : String) : Lookup where
  path := "/v3/roles"
  fields := [("types", developerRole), ("space_guids", space), ("include", "user"),
    ("per_page", "5000")]
  reader := (Listing.reader Role.reader).map (roleOf username)

end Lookup

variable {m : Type → Type}

/-- What comes of a lookup: the last reply to one question that is sent up to three times. -/
def Client.Finds (client : Client m) (lookup : Lookup) (asked : List Exchange)
    (found : Except Error String) : Prop :=
  ∃ url outcome, client.urlOf lookup.path lookup.fields = .ok url ∧
    Attempts (client.question url) (greatestAttempts - 1) asked outcome ∧
    found = outcome.bind fun answer => lookup.result answer.body

/-- A lookup that may have been left before its end. -/
def Client.Begins (client : Client m) (lookup : Lookup) (asked : List Exchange) : Prop :=
  ∃ rest found, client.Finds lookup (asked ++ rest) found

section

variable {client : Client m} {lookup : Lookup} {asked : List Exchange}

/-- Whatever a lookup finds, it only asks. -/
theorem Client.Finds.asks {found : Except Error String}
    (finds : client.Finds lookup asked found) :
    ∀ exchange ∈ asked, exchange.request.method = .get := by
  obtain ⟨url, outcome, -, attempts, -⟩ := finds
  intro exchange member
  rw [attempts.requests exchange member]
  rfl

theorem Client.Begins.asks (begins : client.Begins lookup asked) :
    ∀ exchange ∈ asked, exchange.request.method = .get := by
  obtain ⟨rest, found, finds⟩ := begins
  exact fun exchange member => finds.asks exchange (List.mem_append_left rest member)

end

/-! ### Errands -/

/-- Lookups, each after those that it needs, and the mutation that they lead to. -/
inductive Errand
  | change (mutation : Mutation)
  | find (lookup : Lookup) (next : String → Errand)
  | findBoth (left right : Lookup) (next : String → String → Errand)

namespace Errand

/-- What comes of the lookups of an errand: the mutation that they lead to with the guids that
were found, or the error of one that fails. What fails ends a lookup at the same time as well. -/
inductive Arrives (client : Client m) : Errand → List Exchange → Except Error Mutation → Prop
  | ready {mutation : Mutation} : Arrives client (.change mutation) [] (.ok mutation)
  | fails {lookup : Lookup} {next : String → Errand} {asked : List Exchange} {error : Error}
      (finds : client.Finds lookup asked (.error error)) :
      Arrives client (.find lookup next) asked (.error error)
  | goesOn {lookup : Lookup} {next : String → Errand} {asked rest : List Exchange}
      {guid : String} {arrival : Except Error Mutation}
      (finds : client.Finds lookup asked (.ok guid))
      (later : Arrives client (next guid) rest arrival) :
      Arrives client (.find lookup next) (asked ++ rest) arrival
  | failsLeft {left right : Lookup} {next : String → String → Errand}
      {ofLeft ofRight asked : List Exchange} {error : Error} (mixes : Mixes ofLeft ofRight asked)
      (finds : client.Finds left ofLeft (.error error)) (begins : client.Begins right ofRight) :
      Arrives client (.findBoth left right next) asked (.error error)
  | failsRight {left right : Lookup} {next : String → String → Errand}
      {ofLeft ofRight asked : List Exchange} {error : Error} (mixes : Mixes ofLeft ofRight asked)
      (begins : client.Begins left ofLeft) (finds : client.Finds right ofRight (.error error)) :
      Arrives client (.findBoth left right next) asked (.error error)
  | goesOnBoth {left right : Lookup} {next : String → String → Errand}
      {ofLeft ofRight asked rest : List Exchange} {guid other : String}
      {arrival : Except Error Mutation} (mixes : Mixes ofLeft ofRight asked)
      (findsLeft : client.Finds left ofLeft (.ok guid))
      (findsRight : client.Finds right ofRight (.ok other))
      (later : Arrives client (next guid other) rest arrival) :
      Arrives client (.findBoth left right next) (asked ++ rest) arrival

/-- An errand looks up what it needs with questions. If a lookup fails, that is all, and its error
is the result. Otherwise the mutation that was arrived at is all that follows. -/
def Done (client : Client m) (errand : Errand) (exchanges : List Exchange)
    (result : Except Error Unit) : Prop :=
  ∃ asked arrival, errand.Arrives client asked arrival ∧
    (∀ exchange ∈ asked, exchange.request.method = .get) ∧
    match arrival with
    | .error error => exchanges = asked ∧ result = .error error
    | .ok mutation => ∃ attempts polls, exchanges = asked ++ attempts ++ polls ∧
      client.Mutates mutation attempts polls result

end Errand

section

variable [Monad m]

/-- Look up a guid. -/
def Client.find (client : Client m) (lookup : Lookup) : Task m String := do
  let url ← client.urlOf lookup.path lookup.fields
  let answer ← client.execute .get url
  lookup.result answer.body

/-- Run an errand, with one lookup after the other. -/
def Errand.run (client : Client m) : Errand → Task m Unit
  | change mutation => client.change mutation.method mutation.path mutation.body
  | find lookup next => do (next (← client.find lookup)).run client
  | findBoth left right next => do
    let guid ← client.find left
    let other ← client.find right
    (next guid other).run client

end

/-- The errand that a call is. Creating an application is none, since it looks up afterwards. -/
def errand? (space : String) : Call → Option Errand
  | .createApplication _ _ => none
  -- What concerns an application is addressed by its guid.
  | .deleteApplication name => some (.find (.app space name) fun guid =>
    .change { method := .delete, path := s!"/v3/apps/{guid}" })
  | .renameApplication name newName => some (.find (.app space name) fun guid =>
    .change {
      method := .patch
      path := s!"/v3/apps/{guid}"
      body := some (.json (.record [("name", .text newName)])) })
  | .scaleApplication name scale => some (.find (.app space name) fun guid =>
    .change {
      method := .post
      path := s!"/v3/apps/{guid}/processes/web/actions/scale"
      body := some (.json (scaleBody scale)) })
  | .setHealthCheck name type endpoint => some (.find (.app space name) fun guid =>
    .find (.process guid) fun process => .change {
      method := .patch
      path := s!"/v3/processes/{process}"
      body := some (.json (healthCheckBody type endpoint)) })
  | .addEnvironmentVariable name key value => some (.find (.app space name) fun guid =>
    .change {
      method := .patch
      path := s!"/v3/apps/{guid}/environment_variables"
      body := some (.json (variableBody key (.text value))) })
  | .removeEnvironmentVariable name key => some (.find (.app space name) fun guid =>
    .change {
      method := .patch
      path := s!"/v3/apps/{guid}/environment_variables"
      body := some (.json (variableBody key .null)) })
  -- An application and a service are found at the same time.
  | .bindService name service => some (.findBoth (.app space name) (.service space service)
    fun app bound => .change {
      method := .post
      path := "/v3/service_credential_bindings"
      body := some (withRelationships [("type", .text "app")]
        [("app", guidData app), ("service_instance", guidData bound)]) })
  | .unbindService name service => some (.findBoth (.app space name) (.service space service)
    fun app bound => .find (.binding app bound name service) fun guid => .change {
      method := .delete
      path := s!"/v3/service_credential_bindings/{guid}" })
  -- A new service names its plan by guid, and what is taken away is addressed by its own.
  | .createService name service => some (.find (.plan space service) fun plan =>
    .change {
      method := .post
      path := "/v3/service_instances"
      body := some (withRelationships
        [("type", .text "managed"), ("name", .text name), ("tags", Value.ofTextList service.tags),
          ("parameters", Value.ofTexts service.params.entries)]
        [("space", guidData space), ("service_plan", guidData plan)]) })
  | .deleteService name => some (.find (.service space name) fun guid =>
    .change { method := .delete, path := s!"/v3/service_instances/{guid}" })
  | .grantDeveloper username => some (.change {
      method := .post
      path := "/v3/roles"
      body := some (withRelationships [("type", .text developerRole)]
        [("user", .record [("data", .record [("username", .text username)])]),
          ("space", guidData space)]) })
  | .revokeDeveloper username => some (.find (.role space username) fun guid =>
    .change { method := .delete, path := s!"/v3/roles/{guid}" })

/-- The mutation that makes an application from its manifest. -/
def creation (space name : String) (app : Application) (password : Option String) : Mutation where
  method := .post
  path := s!"/v3/spaces/{space}/actions/apply_manifest"
  body := some (.yaml (manifestText name app password))

/-- The errand that keeps what a platform has no place for. -/
def annotating (space name : String) (app : Application) : Errand :=
  .find (.app space name) fun guid => .change {
    method := .patch
    path := s!"/v3/apps/{guid}"
    body := some (.json (metadataBody (annotations app))) }

/-! ### Calls as errands -/

section

variable [Monad m] [LawfulMonad m]

theorem throw_bind {α β : Type} (error : Error) (next : α → Task m β) :
    (throw error >>= next) = throw error := by
  apply ExceptT.ext
  simp

namespace Client

variable {α : Type} {reader : Reader α}

/-- Looking something up is asking for it and making something of the answer. -/
theorem find_eq (client : Client m) {lookup : Lookup} {found : α → Except Error String}
    (reads : lookup.reader = reader.map found) :
    client.find lookup = (do
      let content ← client.get reader lookup.path lookup.fields
      liftM (found content)) := by
  rw [find, get, bind_assoc]
  -- Both send the same question; the answers differ only in when they are made something of.
  refine congrArg _ (funext fun url => ?_)
  rw [bind_assoc]
  refine congrArg _ (funext fun answer => ?_)
  rw [Lookup.result, reads, Reader.parse?_map]
  cases reader.parse? answer.body with
  | none => exact (throw_bind _ _).symm
  | some value => exact (pure_bind value fun content => liftM (found content)).symm

theorem find_first (client : Client m) (guid : α → String) (path : String)
    (fields : List (String × String)) (resource name : String) :
    client.find (.first reader guid path fields resource name) =
      guid <$> client.findOne reader path fields resource name := by
  rw [client.find_eq rfl, findOne, list, map_eq_pure_bind, bind_assoc]
  refine congrArg _ (funext fun listing => ?_)
  cases listing.resources with
  | nil => exact (throw_bind _ _).symm
  | cons first rest => exact (pure_bind first fun found => (pure (guid found) : Task m String)).symm

end Client

namespace SpaceClient

variable (client : SpaceClient m)

theorem appGuid_eq (name : String) :
    client.appGuid name = client.find (.app client.space name) :=
  (client.find_first ..).symm

theorem serviceGuid_eq (name : String) :
    client.serviceGuid name = client.find (.service client.space name) :=
  (client.find_first ..).symm

theorem find_process (app : String) :
    client.find (.process app) =
      Process.guid <$> client.get Process.reader s!"/v3/apps/{app}/processes/web" [] := by
  rw [client.find_eq rfl, map_eq_pure_bind]
  rfl

/-- A call that is an errand is made by running the errand. -/
theorem perform_eq_run {call : Call} {errand : Errand}
    (isErrand : errand? client.space call = some errand) :
    client.perform call = errand.run client.toClient := by
  cases call <;> cases isErrand
  -- Each lookup is the one that the client makes, and the rest is the same text.
  case deleteApplication | renameApplication | scaleApplication | addEnvironmentVariable |
      removeEnvironmentVariable | deleteService | bindService =>
    simp only [perform, bindService, appGuid_eq, serviceGuid_eq]
    rfl
  case setHealthCheck =>
    simp only [perform, setHealthCheck, appGuid_eq, Errand.run, find_process, bind_map_left]
  case unbindService =>
    simp only [perform, unbindService, appGuid_eq, serviceGuid_eq, Errand.run, Lookup.binding,
      Client.find_first, bind_map_left]
  case createService =>
    simp only [perform, createService, Errand.run, Lookup.plan, Client.find_first, bind_map_left]
  case grantDeveloper => rfl
  -- The roles are listed first; which of them is meant is decided out of the same listing.
  case revokeDeveloper username =>
    have finds : client.find (.role client.space username) = (do
        let listing ← client.list Role.reader "/v3/roles"
          [("types", developerRole), ("space_guids", client.space), ("include", "user")]
        liftM (Lookup.roleOf username listing)) := client.find_eq rfl
    simp only [perform, revokeDeveloper, roles, Errand.run, finds, bind_map_left, bind_assoc]
    refine congrArg _ (funext fun listing => ?_)
    rw [Lookup.roleOf]
    cases (developerRoles listing).find? fun role => role.2 = username with
    | none => exact (throw_bind _ _).symm
    | some role =>
      exact (pure_bind role.1 fun guid => client.change .delete s!"/v3/roles/{guid}").symm

/-- Annotating is an errand as well, unless there is nothing to keep. -/
theorem annotate_eq (name : String) (app : Application) :
    client.annotate name app =
      if (annotations app).isEmpty then pure ()
      else (annotating client.space name app).run client.toClient := by
  simp only [annotate, appGuid_eq]
  rfl

end SpaceClient

end

end CloudSpace.Cloud
