import CloudSpace.Proofs.Cloud.ReadBack
import CloudSpace.Proofs.Cloud.Reading

/-!
# Listings in pages

A server may answer a question for the entities of a space in several pages, where each page gives
the address of the one after it. The client asks for as many entities in one answer as a platform
gives, takes the first page and goes to no other. What it fetches is therefore what the first page
lists, and nothing is missing exactly if no later page lists anything else.
-/
namespace CloudSpace.Cloud

variable {σ : Type}

/-! ### Pages -/

/-- The address of the next page, read as the platform means it: a page is no list, and whatever
else is on it is passed over. -/
def nextReader : Reader String where
  wanted := .record [("pagination", .record [("next", .record [("href", .value)] 2)] 2)] 2
  ofValue? page :=
    (((page.get? "pagination").bind (·.get? "next")).bind (·.get? "href")).bind Value.text?

/-- The answer at an address is a page, and something holds afterwards. -/
def Server.Shows (server : Server σ) (client : Client (StateM (Session σ))) (url : Url)
    (page : String) (holds : σ → Prop) (state : σ) : Prop :=
  server.Answers { method := .get, url, token := client.token }
    (fun answer after => answer.body = page ∧ holds after) (greatestAttempts - 1) state

/-- As long as something holds of its state, a server shows pages, each of them at the address that
the one before it gives. -/
inductive Server.Pages (server : Server σ) (client : Client (StateM (Session σ)))
    (holds : σ → Prop) : Url → List String → Prop
  | last {url : Url} {page : String}
      (shown : ∀ state, holds state → server.Shows client url page holds state)
      (ends : nextReader.parse? page = none) : server.Pages client holds url [page]
  | next {url after : Url} {page : String} {rest : List String}
      (shown : ∀ state, holds state → server.Shows client url page holds state)
      (linked : nextReader.parse? page = some after.text)
      (pages : server.Pages client holds after rest) :
      server.Pages client holds url (page :: rest)

theorem Server.Pages.first {server : Server σ} {client : Client (StateM (Session σ))}
    {holds : σ → Prop} {url : Url} {page : String} {rest : List String}
    (pages : server.Pages client holds url (page :: rest)) {state : σ} (held : holds state) :
    server.Shows client url page holds state := by
  cases pages with
  | last shown _ => exact shown state held
  | next shown _ _ => exact shown state held

/-! ### Listings of a kind -/

def listingPath : EntityKind → String
  | .applications => "/v3/apps"
  | .services => "/v3/service_instances"
  | .developers => "/v3/roles"

def listingFields (space : String) : EntityKind → List (String × String)
  | .applications => [("space_guids", space), ("per_page", "5000")]
  | .services => [("space_guids", space), ("type", "managed"), ("per_page", "5000")]
  | .developers => [("types", developerRole), ("space_guids", space), ("include", "user"),
      ("per_page", "5000")]

/-- The names of the entities that a page lists, if it can be read. -/
def namesOn? (kind : EntityKind) (page : String) : Option (List String) :=
  match kind with
  | .applications =>
    ((Listing.reader AppResource.reader).parse? page).map (·.resources.map AppResource.name)
  | .services => ((Listing.reader ServiceInstance.reader).parse? page).map
      (·.resources.map ServiceInstance.name)
  | .developers =>
    ((Listing.reader Role.reader).parse? page).map fun roles => (developerRoles roles).map (·.2)

def Lists (kind : EntityKind) (page : String) (name : String) : Prop :=
  ∃ names, namesOn? kind page = some names ∧ name ∈ names

def entityNames (kind : EntityKind) (space : Space) : List String :=
  match kind with
  | .applications => space.applications.keys
  | .services => space.services.keys
  | .developers => space.developers

/-- The answers about the entities that a page lists can be read. -/
def Server.Details (server : Server σ) (client : SpaceClient (StateM (Session σ)))
    (kind : EntityKind) (page : String) (holds : σ → Prop) : Prop :=
  match kind with
  | .applications => ∀ apps, (Listing.reader AppResource.reader).parse? page = some apps →
      ∀ app ∈ apps.resources, ∃ account record, server.Accounts client app account holds ∧
        account.application? app = some record
  | .services => ∀ found, (Listing.reader ServiceInstance.reader).parse? page = some found →
      found.resources ≠ [] → ∃ content plans,
        Listing.ofValue? ServicePlan.ofValue? content = some plans ∧
        ∀ state, holds state → server.Tells client.toClient "/v3/service_plans"
          [("guids", ",".intercalate (planGuids found.resources)),
            ("include", "service_offering"), ("per_page", "5000")]
          (Listing.reader ServicePlan.reader).wanted content holds state
  | .developers => True

/-- As long as something holds of its state, a server lists the entities of a kind in pages that can
be read, a first one and others. -/
structure Server.Paginates (server : Server σ) (client : SpaceClient (StateM (Session σ)))
    (kind : EntityKind) (holds : σ → Prop) (first : String) (others : List String) : Prop where
  reaches : client.transport = server.transport
  pages : ∃ url, client.urlOf (listingPath kind) (listingFields client.space kind) = .ok url ∧
    server.Pages client.toClient holds url (first :: others)
  readable : ∀ page ∈ first :: others, ∃ names, namesOn? kind page = some names
  details : server.Details client kind first holds

/-! ### What is fetched -/

section

variable {server : Server σ} {client : SpaceClient (StateM (Session σ))} {holds : σ → Prop}
  {first : String} {others : List String} {before : Session σ}

/-- To the question for a listing, the server tells what can be read of the first page. -/
theorem Server.Paginates.tells {kind : EntityKind}
    (paginates : server.Paginates client kind holds first others) (held : holds before.state)
    {α : Type} {reader : Reader α} {found : α} (readable : reader.parse? first = some found) :
    ∃ content, reader.ofValue? content = some found ∧
      server.Tells client.toClient (listingPath kind) (listingFields client.space kind)
        reader.wanted content holds before.state := by
  obtain ⟨url, asked, pages⟩ := paginates.pages
  obtain ⟨content, parsed, read⟩ := Option.bind_eq_some_iff.mp readable
  refine ⟨content, read, url, asked, (pages.first held).imp ?_⟩
  rintro answer after ⟨rfl, held⟩
  exact ⟨parsed, held⟩

theorem mem_keys_ofList {α : Type} {bindings : List (String × α)} {name : String} :
    name ∈ (NameMap.ofList bindings).keys ↔ name ∈ bindings.map Prod.fst := by
  rw [NameMap.mem_keys, Option.isSome_iff_exists]
  constructor
  · rintro ⟨value, bound⟩
    exact List.mem_map_of_mem (NameMap.mem_of_get?_ofList bound)
  · intro member
    obtain ⟨⟨_, value⟩, isBinding, rfl⟩ := List.mem_map.mp member
    exact NameMap.exists_get?_ofList isBinding

theorem lists_iff_of_readable {kind : EntityKind} {page : String} {names : List String}
    (readable : namesOn? kind page = some names) (name : String) :
    Lists kind page name ↔ name ∈ names := by
  simp [Lists, readable]

/-- The applications that are fetched are those that the first page lists. -/
theorem leads_applications_first
    (paginates : server.Paginates client .applications holds first others)
    (held : holds before.state) :
    client.applications.Leads before fun result _ => ∃ found, result = .ok found ∧
      ∀ name, name ∈ found.keys ↔ Lists .applications first name := by
  obtain ⟨names, readable⟩ := paginates.readable first List.mem_cons_self
  obtain ⟨apps, read, rfl⟩ := Option.map_eq_some_iff.mp readable
  have each : ∀ app ∈ apps.resources, ∃ account record, server.Accounts client app account holds ∧
      account.application? app = some record ∧ True := by
    intro app member
    obtain ⟨account, record, accounts, known⟩ := paginates.details apps read app member
    exact ⟨account, record, accounts, known, trivial⟩
  obtain ⟨content, known, tells⟩ := paginates.tells held read
  refine (SpaceClient.leads_applications paginates.reaches (fun _ _ => True) tells known
    each).imp ?_
  rintro _ _ ⟨found, rfl, fitting⟩
  -- Each application keeps the name that the page gives it, whatever its description says.
  have named : found.map Prod.fst = apps.resources.map AppResource.name := by
    generalize apps.resources = resources at fitting
    induction fitting with
    | nil => rfl
    | cons fits _ ih => rw [List.map_cons, List.map_cons, fits.1, ih]
  refine ⟨_, rfl, fun name => ?_⟩
  rw [lists_iff_of_readable readable, mem_keys_ofList, named]

/-- Whatever the platform answers about the parameters of a service, there are some. -/
theorem leads_paramsOf (reaches : client.transport = server.transport) (guid : String)
    (before : Session σ) :
    (client.paramsOf guid).Leads before fun result _ => ∃ params, result = .ok params := by
  have asks : (client.get paramsReader s!"/v3/service_instances/{guid}/parameters"
      []).Leads before fun _ _ => True := (Client.sends_get reaches before).imp fun _ _ _ => trivial
  refine asks.attempt.bind_found fun found after _ => ?_
  cases found with
  | ok params => exact Task.leads_pure ⟨_, rfl⟩
  | error _ => exact Task.leads_pure ⟨_, rfl⟩

/-- The services that are fetched are those that the first page lists. -/
theorem leads_services_first
    (paginates : server.Paginates client .services holds first others)
    (held : holds before.state) :
    client.services.Leads before fun result _ => ∃ found, result = .ok found ∧
      ∀ name, name ∈ found.keys ↔ Lists .services first name := by
  obtain ⟨names, readable⟩ := paginates.readable first List.mem_cons_self
  obtain ⟨found, read, rfl⟩ := Option.map_eq_some_iff.mp readable
  obtain ⟨content, known, tells⟩ := paginates.tells held read
  refine ((Client.leads_get paginates.reaches tells).of_toOption known).bind_ok fun after held => ?_
  -- Plans and parameters are looked up only where there are services to have them.
  dsimp only
  split
  next none =>
    refine Task.leads_pure ⟨_, rfl, fun name => ?_⟩
    rw [lists_iff_of_readable readable, List.isEmpty_iff.mp none]
    simp
  next some =>
    -- There are instances, so that the plans are asked for as well, and that answer can be read.
    have instances : found.resources ≠ [] := fun none => some (List.isEmpty_iff.mpr none)
    obtain ⟨content, plans, readPlans, tellsPlans⟩ := paginates.details found read instances
    have tells := tellsPlans _ held
    refine ((Client.leads_get paginates.reaches tells).of_toOption readPlans).bind_ok
      fun after _ => ?_
    have params : (found.resources.mapM fun resource =>
        client.paramsOf resource.guid).Leads after fun result _ => ∃ values, result = .ok values ∧
          List.Forall₂ (fun _ _ => True) found.resources values ∧ True := by
      refine Task.Leads.mapM (fun resource _ before _ => ?_) trivial
      refine (leads_paramsOf paginates.reaches resource.guid before).imp ?_
      rintro _ _ ⟨params, rfl⟩
      exact ⟨params, rfl, trivial, trivial⟩
    refine params.bind_found ?_
    intro values last ⟨fitting, _⟩
    -- There are parameters for every service, so that pairing them loses no name.
    have named : (found.resources.zip values).map (ServiceInstance.name ∘ Prod.fst) =
        found.resources.map ServiceInstance.name := by
      rw [← List.map_map, List.map_fst_zip (Nat.le_of_eq fitting.length_eq)]
    refine Task.leads_pure ⟨_, rfl, fun name => ?_⟩
    rw [lists_iff_of_readable readable, mem_keys_ofList, List.map_map, ← named]
    exact Iff.rfl

theorem leads_developers_first
    (paginates : server.Paginates client .developers holds first others)
    (held : holds before.state) :
    client.developers.Leads before fun result _ => ∃ found, result = .ok found ∧
      ∀ name, name ∈ found ↔ Lists .developers first name := by
  obtain ⟨names, readable⟩ := paginates.readable first List.mem_cons_self
  obtain ⟨roles, read, rfl⟩ := Option.map_eq_some_iff.mp readable
  have listed : client.roles.Leads before fun result after =>
      result = .ok (developerRoles roles) ∧ holds after.state := by
    rw [SpaceClient.roles, map_eq_pure_bind]
    obtain ⟨content, known, tells⟩ := paginates.tells held read
    refine ((Client.leads_get paginates.reaches tells).of_toOption known).bind_ok
      fun after held => ?_
    exact Task.leads_pure ⟨rfl, held⟩
  refine listed.bind_ok fun after _ => Task.leads_pure ⟨_, rfl, fun name => ?_⟩
  rw [lists_iff_of_readable readable]

/-- Of any kind, what is fetched is what the first page lists. -/
theorem leads_fetch_first {kind : EntityKind}
    (paginates : server.Paginates client kind holds first others) (held : holds before.state) :
    (client.platform.fetch kind).Leads before fun result _ => ∃ space, result = .ok space ∧
      ∀ name, name ∈ entityNames kind space ↔ Lists kind first name := by
  -- Each kind has a question of its own, and the same is done with its answer.
  cases kind with
  | applications =>
    exact .wrapError ((leads_applications_first paginates held).bind_found fun found _ listed =>
      Task.leads_pure ⟨_, rfl, listed⟩)
  | services =>
    exact .wrapError ((leads_services_first paginates held).bind_found fun found _ listed =>
      Task.leads_pure ⟨_, rfl, listed⟩)
  | developers =>
    exact .wrapError ((leads_developers_first paginates held).bind_found fun found _ listed =>
      Task.leads_pure ⟨_, rfl, listed⟩)

/-- What is fetched is what the first page lists, so that it is what all pages list exactly if the
others list nothing else. -/
theorem fetch_complete_iff {kind : EntityKind}
    (paginates : server.Paginates client kind holds first others) (held : holds before.state) :
    ∃ space, ((client.platform.fetch kind).runOn before).1 = .ok space ∧
      (∀ name, name ∈ entityNames kind space ↔ Lists kind first name) ∧
      ((∀ name, name ∈ entityNames kind space ↔ ∃ page ∈ first :: others, Lists kind page name) ↔
        ∀ page ∈ others, ∀ name, Lists kind page name → Lists kind first name) := by
  obtain ⟨space, fetched, listed⟩ := (leads_fetch_first paginates held).runOn
  refine ⟨space, fetched, listed, ?_⟩
  simp only [listed, List.mem_cons, exists_eq_or_imp]
  constructor
  -- What is fetched is on the first page, so that what other pages list has to be there already.
  · intro complete page member name here
    exact (complete name).mpr (.inr ⟨page, member, here⟩)
  · intro others name
    constructor
    · exact .inl
    · rintro (here | ⟨page, member, here⟩)
      · exact here
      · exact others page member name here

end

/-! ### A server with two pages of roles -/

namespace RoleServer

def address : Url := { localUrl ["v3", "roles"] with query := some "page=2" }

def page (next : Value) (guid user : String) : String :=
  Json.compact <| .record [("pagination", .record [("next", next)]),
    ("resources", .list [.record [("guid", .text guid), ("relationships", .record [
      ("user", .record [("data", .record [("guid", .text user)])])])]]),
    ("included", .record [("users", .list [
      .record [("guid", .text user), ("username", .text user)]])])]

def first : String := page (.record [("href", .text address.text)]) "1" "ann"

def second : String := page .null "2" "bob"

def server : Server Unit where
  reply request _ :=
    (.response 200 none none (if request.url = address then second else first), ())
  pass _ _ := ()

def start : Session Unit := { state := () }

/-- The first page lists a developer and leads to the second one. -/
theorem reads_first :
    namesOn? .developers first = some ["ann"] ∧ nextReader.parse? first = some address.text := by
  simp only [first, page, Json.compact, Json.compactFields, Json.compactItems, Json.scalar,
    Json.quote, String.foldl_eq_foldl_toList]
  decide +kernel

/-- The second page lists another developer and is the last one. -/
theorem reads_second :
    namesOn? .developers second = some ["bob"] ∧ nextReader.parse? second = none := by
  simp only [second, page, Json.compact, Json.compactFields, Json.compactItems, Json.scalar,
    Json.quote, String.foldl_eq_foldl_toList]
  decide +kernel

def question : Url := (localUrl ["v3", "roles"]).withFields (listingFields "space" .developers)

theorem asked_question : server.localClient.urlOf (listingPath .developers)
    (listingFields "space" .developers) = .ok question := by
  have split : (localUrl []).join? "/v3/roles" =
      some (localUrl (Url.resolveDots [] ["v3", "roles"])) := rfl
  exact urlOf_localClient server _ split (by decide)

theorem outcome_reply (request : Request) (state : Unit) :
    (server.reply request state).1.outcome =
      .ok ⟨if request.url = address then second else first, none⟩ := rfl

theorem paginates :
    server.Paginates server.localClient .developers (fun _ => True) first [second] where
  reaches := rfl
  pages := by
    refine ⟨question, asked_question, .next ?_ reads_first.2 (.last ?_ reads_second.2)⟩
    · intro state _
      -- The question has no page in it, so that it is not the address of the second page.
      have other : question ≠ address := by decide +kernel
      exact .inl ⟨_, outcome_reply _ state, if_neg other, trivial⟩
    · intro state _
      have same : (if address = address then second else first) = second := if_pos rfl
      exact .inl ⟨_, outcome_reply _ state, same, trivial⟩
  readable := by
    simp only [List.forall_mem_cons, List.not_mem_nil, false_implies, implies_true, and_true]
    exact ⟨⟨_, reads_first.1⟩, ⟨_, reads_second.1⟩⟩
  details := trivial

end RoleServer

open RoleServer

/-- Nothing that is fetched is missing where the second page lists nothing else. -/
theorem fetch_complete_iff_roles :
    server.Paginates server.localClient .developers (fun _ => True) first [second] ∧
    ∃ space, ((server.localClient.platform.fetch .developers).runOn start).1 = .ok space ∧
      (∀ name, name ∈ entityNames .developers space ↔ Lists .developers first name) ∧
      ((∀ name, name ∈ entityNames .developers space ↔
          ∃ page ∈ [first, second], Lists .developers page name) ↔
        ∀ page ∈ [second], ∀ name, Lists .developers page name → Lists .developers first name) :=
  ⟨paginates, fetch_complete_iff paginates trivial⟩

/-- The developer of the second page is not fetched. -/
theorem fetch_misses_second_page :
    server.Paginates server.localClient .developers (fun _ => True) first [second] ∧
    Lists .developers second "bob" ∧
    ∃ space, ((server.localClient.platform.fetch .developers).runOn start).1 = .ok space ∧
      "bob" ∉ space.developers := by
  have bob : Lists .developers second "bob" := ⟨_, reads_second.1, List.mem_singleton_self _⟩
  have leads : (server.localClient.platform.fetch .developers).Leads start fun result _ =>
      ∃ space, result = .ok space ∧ ∀ name, name ∈ entityNames .developers space ↔
        Lists .developers first name := leads_fetch_first paginates trivial
  obtain ⟨space, fetched, listed⟩ := leads.runOn
  refine ⟨paginates, bob, space, fetched, fun member => ?_⟩
  obtain ⟨names, readable, isListed⟩ := (listed "bob").mp member
  cases reads_first.1.symm.trans readable
  exact absurd isListed (by decide)

end CloudSpace.Cloud
