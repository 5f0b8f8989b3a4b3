import CloudSpace.Proofs.Cloud.Server
import CloudSpace.Reconcile

/-!
# Fetching only reads

Everything that is looked up on a platform is asked for with requests that change nothing, from
the first lookup of a space to the last parameter of its services. What is done with the answers
in memory, up to the plans, sends no further request.
-/
namespace CloudSpace

open Cloud

variable {σ α : Type}

namespace Cloud

variable {server : Server σ}

/-- A request that changes nothing. -/
def Request.Reads (request : Request) : Prop := request.method = .get

namespace Client

variable {client : Client (StateM (Session σ))} {reader : Reader α} {path : String}
  {fields : List (String × String)}

/-- Asking for something sends questions only, whatever comes of them. -/
theorem sends_get (reaches : client.transport = server.transport) :
    Sends Request.Reads (client.get reader path fields) := by
  refine (Sends.lift _).bind fun url => ?_
  have asked : Request.Reads { method := .get, url, token := client.token } := rfl
  refine (sends_sendUpTo reaches asked _).bind fun answer => ?_
  cases reader.parse? answer.body with
  | some result => exact .pure result
  | none => exact .throw _

theorem sends_list (reaches : client.transport = server.transport) :
    Sends Request.Reads (client.list reader path fields) :=
  sends_get reaches

theorem sends_findOne (reaches : client.transport = server.transport) {resource name : String} :
    Sends Request.Reads (client.findOne reader path fields resource name) := by
  refine (sends_list reaches).bind fun listing => ?_
  cases listing.resources with
  | nil => exact .throw _
  | cons first _ => exact .pure first

end Client

/-! ### The state of a space -/

namespace SpaceClient

variable {client : SpaceClient (StateM (Session σ))}

section

variable (reaches : client.transport = server.transport)

include reaches

theorem sends_imageOf (app : AppResource) : Sends Request.Reads (client.imageOf app) := by
  rw [imageOf]
  split
  · exact (Client.sends_list reaches).bind fun _ => .pure _
  · exact .pure _

theorem sends_describe (app : AppResource) : Sends Request.Reads (client.describe app) := by
  refine (Client.sends_get reaches).bind fun process => ?_
  refine (Client.sends_get reaches).bind fun settings => ?_
  refine (Client.sends_list reaches).bind fun routes => ?_
  refine (Client.sends_list reaches).bind fun bindings => ?_
  exact (sends_imageOf reaches app).bind fun image => .pure _

/-- The platform may not tell the parameters, but asking for them is no more than that. -/
theorem sends_paramsOf (guid : String) : Sends Request.Reads (client.paramsOf guid) := by
  refine (Client.sends_get reaches).attempt.bind fun found => ?_
  cases found with
  | ok params => exact .pure _
  | error _ => exact .pure _

theorem sends_applications : Sends Request.Reads client.applications := by
  refine (Client.sends_list reaches).bind fun apps => ?_
  have each : ∀ app : AppResource, Sends Request.Reads
      (do return (app.name, ← client.describe app)) := fun app =>
    (sends_describe reaches app).bind fun record => .pure _
  exact (Sends.mapM fun app _ => each app).bind fun found => .pure _

theorem sends_services : Sends Request.Reads client.services := by
  refine (Client.sends_list reaches).bind fun found => ?_
  -- Plans and parameters are looked up only where there are services to have them.
  dsimp only
  split
  · exact .pure _
  · refine (Client.sends_list reaches).bind fun plans => ?_
    refine (Sends.mapM fun resource _ => ?_).bind fun params => .pure _
    exact sends_paramsOf reaches resource.guid

theorem sends_developers : Sends Request.Reads client.developers :=
  ((Client.sends_list reaches).map developerRoles).bind fun _ => .pure _

end

end SpaceClient

/-- Looking up a space only reads, and it gives a client of the same server. -/
theorem leads_connect (server : Server σ) (environment : Environment) (target : Target)
    (token : String) (before : Session σ) :
    (connect server.transport environment target token).Leads before fun result after =>
      before.Grows Request.Reads after ∧
        ∀ client, result = .ok client → client.transport = server.transport := by
  rw [connect]
  cases Url.parse? target.api with
  | none => exact Task.leads_throw ⟨.refl _, fun _ same => nomatch same⟩
  | some base =>
    let client : Client (StateM (Session σ)) :=
      { transport := server.transport, base, token, environment }
    have reaches : client.transport = server.transport := rfl
    -- The organization is found first and the space in it; a failure of either leaves no client.
    refine (Client.sends_findOne reaches before).bind
      (fun error after grows => ⟨grows, fun _ same => nomatch same⟩)
      fun organization middle early => ?_
    refine (Client.sends_findOne reaches middle).bind
      (fun error after late => ⟨early.trans late, fun _ same => nomatch same⟩)
      fun space after late => ?_
    refine Task.leads_pure ⟨early.trans late, ?_⟩
    rintro found ⟨⟩
    rfl

end Cloud

/-! ### Plans -/

namespace Platform

variable {platform : Platform (StateM (Session σ))} {allowed : Cloud.Request → Prop}

/-- Fetching from a platform sends allowed requests only, whatever its calls send. -/
structure Fetches (allowed : Cloud.Request → Prop) (platform : Platform (StateM (Session σ))) :
    Prop where
  applications : Sends allowed platform.applications
  services : Sends allowed platform.services
  developers : Sends allowed platform.developers

/-- A platform that is reached is one that fetching only reads from. -/
theorem fetches_of_reaches {server : Server σ} {client : SpaceClient (StateM (Session σ))}
    (reaches : client.transport = server.transport) :
    client.platform.Fetches Cloud.Request.Reads where
  applications := SpaceClient.sends_applications reaches
  services := SpaceClient.sends_services reaches
  developers := SpaceClient.sends_developers reaches

namespace Fetches

variable (fetches : platform.Fetches allowed)

include fetches

/-- Fetching any kind does what fetching its part of the space does. -/
theorem fetch (kind : EntityKind) : Sends allowed (platform.fetch kind) := by
  cases kind with
  | applications => exact .wrapError _ (fetches.applications.bind fun _ => .pure _)
  | services => exact .wrapError _ (fetches.services.bind fun _ => .pure _)
  | developers => exact .wrapError _ (fetches.developers.bind fun _ => .pure _)

theorem fetchLive : Sends allowed platform.fetchLive := by
  refine (fetches.fetch .applications).bind fun applications => ?_
  refine (fetches.fetch .services).bind fun services => ?_
  exact (fetches.fetch .developers).bind fun developers => .pure _

theorem diff (spec : Spec) (kind : EntityKind) : Sends allowed (platform.diff spec kind) := by
  rw [Platform.diff]
  cases spec.restrict? kind with
  | none => exact .pure _
  | some desired => exact (fetches.fetch kind).bind fun live => .pure _

/-- Preparing a plan does nothing more than fetching what it is about. -/
theorem prepare (spec : Spec) (kind : EntityKind) :
    Sends allowed (platform.prepare spec kind) := by
  rw [Platform.prepare]
  cases spec.restrict? kind with
  | none => exact .pure _
  | some desired =>
    -- Changes are found and grouped in memory.
    have groups : Sends allowed (platform.groups kind desired) := by
      refine (fetches.fetch kind).bind fun live => ?_
      cases ChangeGroups.build (live.diff desired) with
      | ok groups => exact .pure groups
      | error error => exact .throw error
    exact groups.bind fun groups => (Sends.warn _).bind fun _ => .pure _

/-- A plan holds calls, but making it makes none of them. -/
theorem planEach (spec : Spec) (kinds : List EntityKind) :
    Sends allowed (platform.planEach spec kinds) := by
  have each : ∀ kind, Sends allowed (platform.plan spec kind) := fun kind =>
    (fetches.prepare spec kind).bind fun _ => .pure _
  exact (Sends.mapM fun kind _ => each kind).bind fun _ => .pure _

end Fetches

end Platform

end CloudSpace
