import CloudSpace.Proofs.Cloud.Conduct
import CloudSpace.Proofs.Cloud.Field
import CloudSpace.Proofs.Cloud.Gathering

/-!
# Services out of their parts

The platform tells of a service in parts: the instances with the guids of their plans, the plans
with the guids of their offerings, the offerings, and the parameters of each instance, which the
client asks for at the same time. The parts are put together by guid, and the parameters by the
place of the instance, whatever the order in which the answers come in.
-/
namespace CloudSpace

variable {α β : Type}

/-! ### The last of some items -/

/-- The last of some items with a property. -/
def IsLast (holds : α → Prop) (items : List α) (item : α) : Prop :=
  ∃ earlier later, items = earlier ++ item :: later ∧ holds item ∧ ∀ other ∈ later, ¬ holds other

/-- The name of the last item with a property, or no name where no item has it. -/
def NamesLast (holds : α → Prop) (name : α → String) (items : List α) (text : String) : Prop :=
  (∃ item, IsLast holds items item ∧ name item = text) ∨
    (∀ item ∈ items, ¬ holds item) ∧ text = ""

/-- The last of some items is the first of them when they are looked at from the end. -/
theorem isLast_iff {holds : α → Prop} [DecidablePred holds] {items : List α} {item : α} :
    IsLast holds items item ↔ items.reverse.find? (holds ·) = some item := by
  simp only [List.find?_eq_some_iff_append, decide_eq_true_eq, Bool.not_eq_true',
    decide_eq_false_iff_not]
  constructor
  · rintro ⟨earlier, later, rfl, held, last⟩
    refine ⟨held, later.reverse, earlier.reverse, by simp, fun other member => ?_⟩
    exact last other (List.mem_reverse.mp member)
  · rintro ⟨held, later, earlier, reversed, last⟩
    refine ⟨earlier.reverse, later.reverse, ?_, held, fun other member => ?_⟩
    · rw [← List.reverse_reverse items, reversed]
      simp
    · exact last other (List.mem_reverse.mp member)

theorem IsLast.unique {holds : α → Prop} {items : List α} {item other : α}
    (isLast : IsLast holds items item) (also : IsLast holds items other) : item = other := by
  classical
  exact Option.some.inj ((isLast_iff.mp isLast).symm.trans (isLast_iff.mp also))

theorem IsLast.mem {holds : α → Prop} {items : List α} {item : α}
    (isLast : IsLast holds items item) : item ∈ items ∧ holds item := by
  obtain ⟨earlier, later, rfl, held, _⟩ := isLast
  exact ⟨by simp, held⟩

theorem NamesLast.unique {holds : α → Prop} {name : α → String} {items : List α}
    {text other : String} (names : NamesLast holds name items text)
    (also : NamesLast holds name items other) : text = other := by
  obtain ⟨item, isLast, rfl⟩ | ⟨none, rfl⟩ := names
  · obtain ⟨found, alsoLast, rfl⟩ | ⟨none, _⟩ := also
    · rw [isLast.unique alsoLast]
    · exact absurd isLast.mem.2 (none item isLast.mem.1)
  · obtain ⟨found, alsoLast, _⟩ | ⟨_, rfl⟩ := also
    · exact absurd alsoLast.mem.2 (none found alsoLast.mem.1)
    · rfl

namespace NameMap

variable {items : List α} {key : α → String} {value : α → β} {name : String}

/-- Under a name there is what the last item with this key has. -/
theorem get?_ofList_map_eq_some_iff {found : β} :
    (ofList (items.map fun item => (key item, value item))).get? name = some found ↔
      ∃ item, IsLast (key · = name) items item ∧ value item = found := by
  rw [get?_ofList, ← List.map_reverse, List.find?_map, Option.map_map, Option.map_eq_some_iff]
  simp only [isLast_iff]
  rfl

theorem get?_ofList_eq_some_iff {bindings : List (String × β)} {found : β} :
    (ofList bindings).get? name = some found ↔
      ∃ binding, IsLast (·.1 = name) bindings binding ∧ binding.2 = found := by
  rw [get?_ofList, Option.map_eq_some_iff]
  simp only [isLast_iff]
  rfl

theorem get?_ofList_map_eq_none_iff :
    (ofList (items.map fun item => (key item, value item))).get? name = none ↔
      ∀ item ∈ items, key item ≠ name := by
  rw [get?_ofList, Option.map_eq_none_iff, List.find?_eq_none]
  simp

/-- What a guid leads to is the last item with it. -/
theorem bind_get?_eq_some_iff {guid : Option String} {found : β} :
    guid.bind (ofList (items.map fun item => (key item, value item))).get? = some found ↔
      ∃ item, IsLast (fun item => guid = some (key item)) items item ∧ value item = found := by
  cases guid with
  | none => simp [IsLast]
  | some guid =>
    have same : (fun item => some guid = some (key item)) = (key · = guid) :=
      funext fun item => propext (Option.some_inj.trans eq_comm)
    rw [same]
    exact get?_ofList_map_eq_some_iff

theorem namesLast_bind_get? (guid : Option String) (text : β → String) :
    NamesLast (fun item => guid = some (key item)) (fun item => text (value item)) items
      (((guid.bind (ofList (items.map fun item => (key item, value item))).get?).map text).getD
        "") := by
  cases found : guid.bind (ofList (items.map fun item => (key item, value item))).get? with
  | some held =>
    obtain ⟨item, isLast, rfl⟩ := bind_get?_eq_some_iff.mp found
    exact .inl ⟨item, isLast, rfl⟩
  | none =>
    refine .inr ⟨fun item member same => ?_, rfl⟩
    rw [same, Option.bind_some] at found
    exact get?_ofList_map_eq_none_iff.mp found item member rfl

end NameMap

namespace Cloud

/-! ### Parts that belong together -/

/-- The plan of a service instance: of all plans with its guid, the last one. -/
def PlanOf (plans : Listing ServicePlan) (resource : ServiceInstance) : ServicePlan → Prop :=
  IsLast (fun plan => resource.plan = some plan.guid) plans.resources

/-- A service has the names that its guids lead to, and what its instance has of its own. -/
structure Describes (plans : Listing ServicePlan) (resource : ServiceInstance)
    (params : NameMap String) (service : Service) : Prop where
  plan : NamesLast (fun plan => resource.plan = some plan.guid) ServicePlan.name plans.resources
    service.plan
  offering : NamesLast (fun offering => ∃ plan, PlanOf plans resource plan ∧
    plan.offering = some offering.guid) NamedResource.name plans.offerings service.offering
  tags : service.tags = resource.tags
  params : service.params = params

theorem describes_serviceOf (plans : Listing ServicePlan) (resource : ServiceInstance)
    (params : NameMap String) :
    Describes plans resource params (serviceOf plans params resource) where
  plan := NameMap.namesLast_bind_get? resource.plan ServicePlan.name
  offering := by
    -- The guid of the plan leads to the plan first, and that of its offering to the name.
    let byGuid := NameMap.ofList (plans.resources.map fun plan => (plan.guid, plan))
    have planned (plan : ServicePlan) :
        resource.plan.bind byGuid.get? = some plan ↔ PlanOf plans resource plan :=
      NameMap.bind_get?_eq_some_iff.trans (by simp [PlanOf])
    -- From here on the plan is gone, and only the guid of its offering is followed.
    let guid? := (resource.plan.bind byGuid.get?).bind ServicePlan.offering
    have leads (offering : NamedResource) :
        (∃ plan, PlanOf plans resource plan ∧ plan.offering = some offering.guid) ↔
          guid? = some offering.guid := by
      simp only [guid?, Option.bind_eq_some_iff, planned]
    have names : NamesLast (fun offering => guid? = some offering.guid) NamedResource.name
        plans.offerings (((guid?.bind (namesByGuid plans.offerings).get?).map id).getD "") :=
      NameMap.namesLast_bind_get? guid? id
    rw [Option.map_id] at names
    simp only [leads]
    exact names
  tags := rfl
  params := rfl

theorem Describes.unique {plans : Listing ServicePlan} {resource : ServiceInstance}
    {params : NameMap String} {service other : Service}
    (describes : Describes plans resource params service)
    (also : Describes plans resource params other) : service = other := by
  cases service
  cases other
  cases describes.plan.unique also.plan
  cases describes.offering.unique also.offering
  cases describes.tags.trans also.tags.symm
  cases describes.params.trans also.params.symm
  rfl

/-! ### Parameters -/

/-- Parameters as texts: of each name the last value, and nothing at all if they are not known. -/
def Renders (outcome : Except Error (List (String × Value))) (params : NameMap String) : Prop :=
  match outcome with
  | .ok fields => ∀ name text, params.get? name = some text ↔
      ∃ field, IsLast (·.1 = name) fields field ∧ field.2.settingText = text
  | .error _ => params = ∅

theorem renders_map (fields : List (String × Value)) :
    Renders (.ok fields) ((NameMap.ofList fields).map Value.settingText) := by
  intro name text
  rw [NameMap.get?_map, Option.map_eq_some_iff]
  constructor
  · rintro ⟨value, found, rfl⟩
    obtain ⟨field, isLast, rfl⟩ := NameMap.get?_ofList_eq_some_iff.mp found
    exact ⟨field, isLast, rfl⟩
  · rintro ⟨field, isLast, rfl⟩
    exact ⟨field.2, NameMap.get?_ofList_eq_some_iff.mpr ⟨field, isLast, rfl⟩, rfl⟩

/-- The fields of an answer as they stand in it. -/
def fieldsReader : Reader (List (String × Value)) where
  wanted := .value
  ofValue? := Value.fields?

/-- A map is read just where fields are, and of the same name the last one counts. -/
theorem paramsReader_parse? (content : String) :
    paramsReader.parse? content = (fieldsReader.parse? content).map NameMap.ofList := by
  rw [Reader.parse?, Reader.parse?, Option.map_bind]
  refine congrArg (Option.bind _) (funext fun value => ?_)
  cases value with
  | record fields => exact Value.mapOf_some_record fields
  | _ => rfl

/-- Asking for a map is asking for fields; only what is made of them differs. -/
theorem Client.Gets.fields {m : Type → Type} {client : Client m} {path : String}
    {asked : List Exchange} {result : Except Error (NameMap Value)}
    (gets : client.Gets paramsReader path [] asked result) :
    ∃ fields, client.Gets fieldsReader path [] asked fields ∧
      result = fields.map NameMap.ofList := by
  obtain ⟨error, nowhere, rfl, rfl⟩ | ⟨url, outcome, address, attempts, reads⟩ := gets
  · exact ⟨.error error, .inl ⟨error, nowhere, rfl, rfl⟩, rfl⟩
  -- An answer that cannot be read as fields cannot be read as a map either, with the same error.
  · cases reads with
    | failed => exact ⟨_, .inr ⟨url, _, address, attempts, .failed⟩, rfl⟩
    | unreadable unreadable =>
      rw [paramsReader_parse?, Option.map_eq_none_iff] at unreadable
      exact ⟨_, .inr ⟨url, _, address, attempts, .unreadable unreadable⟩, rfl⟩
    | readable readable =>
      rw [paramsReader_parse?, Option.map_eq_some_iff] at readable
      obtain ⟨fields, known, rfl⟩ := readable
      exact ⟨_, .inr ⟨url, _, address, attempts, .readable known⟩, rfl⟩

/-- What became of asking for the parameters of one instance. -/
structure Told where
  asked : List Exchange
  params : NameMap String

namespace SpaceClient

variable {m : Type → Type} {σ : Type} {server : Server σ}

/-- The parameters of a service instance are those in the answer about this very instance. -/
def TellsParams (client : SpaceClient m) (resource : ServiceInstance) (told : Told) : Prop :=
  ∃ outcome, client.Gets fieldsReader s!"/v3/service_instances/{resource.guid}/parameters" []
    told.asked outcome ∧ Renders outcome told.params

/-- Asking for the parameters of an instance never fails, and whatever it comes to is told. -/
theorem converses_paramsOf {client : SpaceClient (StateM (Recording σ))}
    (reaches : client.transport = server.recorder) (resource : ServiceInstance) :
    Converses (client.paramsOf resource.guid) fun asked result =>
      ∃ params, result = .ok params ∧ client.TellsParams resource ⟨asked, params⟩ := by
  have gets := Client.converses_gets reaches paramsReader
    s!"/v3/service_instances/{resource.guid}/parameters" []
  -- Whatever comes of the question is gone on with, an error as well.
  refine gets.attempt.bind_found fun asked found gets => ?_
  obtain ⟨outcome, tells, rfl⟩ := gets.fields
  rw [← List.append_nil asked] at tells
  cases outcome with
  | ok fields => exact .pure ⟨_, rfl, .ok fields, tells, renders_map fields⟩
  | error error => exact .pure ⟨_, rfl, .error error, tells, rfl⟩

/-- A client that only writes its requests down. -/
def scripted (client : SpaceClient m) : SpaceClient Script :=
  { client.toClient.scripted with space := client.space }

/-- The script of asking for the parameters of an instance. -/
def paramsScript (client : SpaceClient m) (resource : ServiceInstance) :
    Script (Except Error (NameMap String)) :=
  .ofTask (client.scripted.paramsOf resource.guid)

theorem followed_paramsOf [Monad m] [LawfulMonad m] (client : SpaceClient m) (guid : String) :
    Script.followed client.transport (client.scripted.paramsOf guid) = client.paramsOf guid := by
  rw [paramsOf, Script.followed_bind, Script.followed_attempt]
  refine congr (congrArg _ (congrArg _ (client.followed_get _ _ _))) (funext fun found => ?_)
  cases found <;> rfl

theorem tellsParams_of_goes {client : SpaceClient m} {resource : ServiceInstance}
    {asked : List Exchange} {result : Except Error (NameMap String)}
    (goes : (client.paramsScript resource).Goes asked (.done result)) :
    ∃ params, result = .ok params ∧ client.TellsParams resource ⟨asked, params⟩ := by
  let replayed : SpaceClient (StateM (Recording (List Reply))) :=
    { client with transport := Server.replaying.recorder }
  have reaches : replayed.transport = Server.replaying.recorder := rfl
  have tells : Converses (replayed.paramsOf resource.guid) fun asked result =>
      ∃ params, result = .ok params ∧ client.TellsParams resource ⟨asked, params⟩ :=
    converses_paramsOf reaches resource
  rw [← replayed.followed_paramsOf] at tells
  exact Script.post_of_goes tells goes

theorem follow_paramsScript {client : SpaceClient (StateM σ)} {resource : ServiceInstance}
    {before after : σ} {result : Except Error (NameMap String)}
    (ran : (client.paramsOf resource.guid).runOn before = (result, after)) :
    ((client.paramsScript resource).follow client.transport).run before = (result, after) := by
  rw [paramsScript, Script.follow_ofTask, client.followed_paramsOf, ran]

/-- Asking for the parameters of one instance after the other is one way to ask for all. -/
theorem leads_mapM_paramsOf {client : SpaceClient (StateM (Recording σ))}
    (reaches : client.transport = server.recorder) (resources : List ServiceInstance)
    (before : Recording σ) :
    (resources.mapM fun resource => client.paramsOf resource.guid).Leads before
      fun result after => ∃ params, result = .ok params ∧
        Script.Gathers client.transport (resources.map client.paramsScript) before
          (params.map .ok) after := by
  -- By induction on the instances, each of which gets all of its turns before the next.
  induction resources generalizing before with
  | nil => exact Task.leads_pure ⟨[], rfl, .nil before⟩
  | cons resource rest ih =>
    rw [List.mapM_cons]
    refine (converses_paramsOf reaches resource before).exactly.bind ?_ ?_
    · rintro error after ⟨_, _, _, _, same, _⟩
      cases same
    · rintro value middle ⟨ran, _, _, params, ⟨⟩, _⟩
      refine (ih middle).bind_found fun others after gathers => ?_
      exact Task.leads_pure ⟨value :: others, rfl, .cons (follow_paramsScript ran) gathers⟩

/-- In whichever order the requests are sent, every instance gets its own parameters. -/
theorem tellsParams_of_gathers {client : SpaceClient (StateM (Recording σ))}
    (reaches : client.transport = server.recorder) {resources : List ServiceInstance}
    {before after : Recording σ} {values : List (Except Error (NameMap String))}
    (gathers : Script.Gathers client.transport (resources.map client.paramsScript) before
      values after) :
    ∃ mixed told, after.exchanges = before.exchanges ++ mixed ∧
      Interleaves (told.map Told.asked) mixed ∧ values = told.map (.ok ·.params) ∧
      List.Forall₂ client.TellsParams resources told := by
  rw [reaches] at gathers
  obtain ⟨mixed, runs, added, interleaves, rfl, each⟩ := gathers.interleaves
  rw [List.forall₂_map_left_iff] at each
  -- A script that has ended is a run of its own, against the replies that it got.
  have all : ∃ told, List.Forall₂ client.TellsParams resources told ∧
      runs = told.map fun told => (told.asked, .ok told.params) := by
    clear gathers interleaves
    induction each with
    | nil => exact ⟨[], .nil, rfl⟩
    | cons goes _ ih =>
      obtain ⟨told, tells, rfl⟩ := ih
      obtain ⟨params, same, first⟩ := tellsParams_of_goes goes
      exact ⟨⟨_, params⟩ :: told, .cons first tells, by rw [List.map_cons, ← same]⟩
  obtain ⟨told, tells, rfl⟩ := all
  rw [List.map_map] at interleaves
  exact ⟨mixed, told, added, interleaves, List.map_map, tells⟩

/-! ### Services -/

theorem mapM_id_ok {ε : Type} (items : List α) :
    (items.map Except.ok).mapM id = (.ok items : Except ε (List α)) := by
  induction items with
  | nil => rfl
  | cons item rest ih =>
    rw [List.map_cons, List.mapM_cons, ih]
    rfl

/-- The service instances of the space. -/
def instances [Monad m] (client : SpaceClient m) : Task m (Listing ServiceInstance) :=
  client.list ServiceInstance.reader "/v3/service_instances"
    [("space_guids", client.space), ("type", "managed")]

/-- The plans of some service instances, with their offerings. -/
def plansOf [Monad m] (client : SpaceClient m) (resources : List ServiceInstance) :
    Task m (Listing ServicePlan) :=
  client.list ServicePlan.reader "/v3/service_plans"
    [("guids", ",".intercalate (planGuids resources)), ("include", "service_offering")]

/-- What comes of asking for the service instances. -/
def ListsInstances (client : SpaceClient m) :
    List Exchange → Except Error (Listing ServiceInstance) → Prop :=
  client.Gets (Listing.reader ServiceInstance.reader) "/v3/service_instances"
    [("space_guids", client.space), ("type", "managed"), ("per_page", "5000")]

/-- What comes of asking for the plans of some service instances. -/
def ListsPlans (client : SpaceClient m) (resources : List ServiceInstance) :
    List Exchange → Except Error (Listing ServicePlan) → Prop :=
  client.Gets (Listing.reader ServicePlan.reader) "/v3/service_plans"
    [("guids", ",".intercalate (planGuids resources)), ("include", "service_offering"),
      ("per_page", "5000")]

/-- The services that instances, plans and parameters make up. -/
def assembled (resources : List ServiceInstance) (plans : Listing ServicePlan)
    (params : List (NameMap String)) : NameMap Service :=
  NameMap.ofList ((resources.zip params).map fun (resource, params) =>
    (resource.name, serviceOf plans params resource))

/-- The ways to fetch services. The questions for the parameters may take turns in any order. -/
inductive Collects (client : SpaceClient (StateM (Recording σ))) (before : Recording σ) :
    Except Error (NameMap Service) → Recording σ → Prop
  | unlisted {error : Error} {after : Recording σ}
      (failed : client.instances.runOn before = (.error error, after)) :
      Collects client before (.error error) after
  | nothing {found : Listing ServiceInstance} {after : Recording σ}
      (listed : client.instances.runOn before = (.ok found, after))
      (empty : found.resources = []) : Collects client before (.ok ∅) after
  | unplanned {found : Listing ServiceInstance} {error : Error} {middle after : Recording σ}
      (listed : client.instances.runOn before = (.ok found, middle))
      (filled : found.resources ≠ [])
      (failed : (client.plansOf found.resources).runOn middle = (.error error, after)) :
      Collects client before (.error error) after
  | gathered {found : Listing ServiceInstance} {plans : Listing ServicePlan}
      {values : List (Except Error (NameMap String))} {middle last after : Recording σ}
      (listed : client.instances.runOn before = (.ok found, middle))
      (filled : found.resources ≠ [])
      (planned : (client.plansOf found.resources).runOn middle = (.ok plans, last))
      (gathers : Script.Gathers client.transport (found.resources.map client.paramsScript) last
        values after) :
      Collects client before ((values.mapM id).map (assembled found.resources plans)) after

/-- What fetching services comes to. Nothing but the instances is asked for where there are none,
and nothing fails but the questions for the instances and for the plans. Under each name there is
the last instance with it, put together of what belongs to it. -/
inductive Fetches (client : SpaceClient m) :
    List Exchange → Except Error (NameMap Service) → Prop
  | unlisted {asked : List Exchange} {error : Error}
      (failed : client.ListsInstances asked (.error error)) : Fetches client asked (.error error)
  | nothing {asked : List Exchange} {found : Listing ServiceInstance}
      (listed : client.ListsInstances asked (.ok found)) (empty : found.resources = []) :
      Fetches client asked (.ok ∅)
  | unplanned {asked more : List Exchange} {found : Listing ServiceInstance} {error : Error}
      (listed : client.ListsInstances asked (.ok found)) (filled : found.resources ≠ [])
      (failed : client.ListsPlans found.resources more (.error error)) :
      Fetches client (asked ++ more) (.error error)
  | joined {asked more mixed : List Exchange} {found : Listing ServiceInstance}
      {plans : Listing ServicePlan} {told : List Told} {services : NameMap Service}
      (listed : client.ListsInstances asked (.ok found)) (filled : found.resources ≠ [])
      (planned : client.ListsPlans found.resources more (.ok plans))
      (mixes : Interleaves (told.map Told.asked) mixed)
      (tells : List.Forall₂ client.TellsParams found.resources told)
      (joins : ∀ name service, services.get? name = some service ↔
        ∃ part, IsLast (·.1.name = name) (found.resources.zip told) part ∧
          Describes plans part.1 part.2.params service) :
      Fetches client (asked ++ more ++ mixed) (.ok services)

theorem get?_assembled_eq_some_iff {resources : List ServiceInstance}
    {plans : Listing ServicePlan} {told : List Told} {name : String} {service : Service} :
    (assembled resources plans (told.map Told.params)).get? name = some service ↔
      ∃ part, IsLast (·.1.name = name) (resources.zip told) part ∧
        Describes plans part.1 part.2.params service := by
  -- The parts of a service leave no choice, so that it is the one that is put together.
  have describes (part : ServiceInstance × Told) :
      serviceOf plans part.2.params part.1 = service ↔
        Describes plans part.1 part.2.params service := by
    have described := describes_serviceOf plans part.1 part.2.params
    exact ⟨fun same => same ▸ described, described.unique⟩
  rw [assembled, List.zip_map_right, List.map_map]
  simp only [← describes]
  exact NameMap.get?_ofList_map_eq_some_iff

section

variable {client : SpaceClient (StateM (Recording σ))}
  (reaches : client.transport = server.recorder)

include reaches

theorem converses_instances : Converses client.instances client.ListsInstances :=
  Client.converses_gets reaches _ _ _

theorem converses_plansOf (resources : List ServiceInstance) :
    Converses (client.plansOf resources) (client.ListsPlans resources) :=
  Client.converses_gets reaches _ _ _

/-- Asking for one thing after the other is one way to fetch services. -/
theorem leads_services (before : Recording σ) :
    client.services.Leads before (client.Collects before) := by
  refine (converses_instances reaches before).exactly.bind ?_ ?_
  · exact fun error after ⟨ran, _⟩ => .unlisted ran
  · rintro found middle ⟨listed, _⟩
    dsimp only
    split
    next empty => exact Task.leads_pure (.nothing listed (List.isEmpty_iff.mp empty))
    next filled =>
      -- Only where there are instances, their plans and parameters are asked for.
      have filled : found.resources ≠ [] := fun empty => filled (List.isEmpty_iff.mpr empty)
      refine (converses_plansOf reaches found.resources middle).exactly.bind ?_ ?_
      · exact fun error after ⟨ran, _⟩ => .unplanned listed filled ran
      · rintro plans last ⟨planned, _⟩
        refine (leads_mapM_paramsOf reaches found.resources last).bind_found ?_
        intro params after gathers
        have collects := Collects.gathered listed filled planned gathers
        rw [mapM_id_ok] at collects
        exact Task.leads_pure collects

/-- However services are fetched, it comes to what it should, whatever the server replies. -/
theorem fetches_of_collects {before after : Recording σ}
    {result : Except Error (NameMap Service)} (collects : client.Collects before result after) :
    ∃ exchanges, after.exchanges = before.exchanges ++ exchanges ∧
      client.Fetches exchanges result := by
  -- However the fetching ended, its questions are one after the other what was asked until then.
  cases collects with
  | unlisted failed =>
    obtain ⟨asked, added, failed⟩ := (converses_instances reaches).of_runOn failed
    exact ⟨asked, added, .unlisted failed⟩
  | nothing listed empty =>
    obtain ⟨asked, added, listed⟩ := (converses_instances reaches).of_runOn listed
    exact ⟨asked, added, .nothing listed empty⟩
  | unplanned listed filled failed =>
    obtain ⟨asked, added, listed⟩ := (converses_instances reaches).of_runOn listed
    obtain ⟨more, addedMore, failed⟩ := (converses_plansOf reaches _).of_runOn failed
    refine ⟨asked ++ more, ?_, .unplanned listed filled failed⟩
    rw [addedMore, added, List.append_assoc]
  | gathered listed filled planned gathers =>
    obtain ⟨asked, added, listed⟩ := (converses_instances reaches).of_runOn listed
    obtain ⟨more, addedMore, planned⟩ := (converses_plansOf reaches _).of_runOn planned
    obtain ⟨mixed, told, addedMixed, mixes, rfl, tells⟩ := tellsParams_of_gathers reaches gathers
    refine ⟨asked ++ more ++ mixed, ?_, ?_⟩
    · simp only [addedMixed, addedMore, added, List.append_assoc]
    · -- No value is an error, since parameters that are not known are empty.
      have all : (told.map fun told => Except.ok told.params).mapM id =
          (.ok (told.map Told.params) : Except Error (List (NameMap String))) := by
        rw [← mapM_id_ok, List.map_map]
        rfl
      rw [all]
      exact .joined listed filled planned mixes tells fun _ _ => get?_assembled_eq_some_iff

/-- Whatever a server replies, and in whichever order the parameters are asked for, there is one
service under each name that an instance has, which is put together of the parts that belong to
the last of these instances. -/
theorem services_joined (before : Recording σ) :
    client.Collects before (client.services.runOn before).1 (client.services.runOn before).2 ∧
      ∀ result after, client.Collects before result after →
        ∃ exchanges, after.exchanges = before.exchanges ++ exchanges ∧
          client.Fetches exchanges result :=
  ⟨(leads_services reaches before).runOn, fun _ _ => fetches_of_collects reaches⟩

end

end SpaceClient

/-! ### A server with some answers -/

/-- A server that has a text for the questions at some places, and knows nothing else. -/
def Server.ofTexts (texts : List (List String × String)) : Server Unit where
  reply request _ :=
    (match texts.find? fun entry => request.url.place = .names entry.1 with
      | some (_, text) => .response 200 none none text
      | none => .response 404 none none "", ())
  pass _ _ := ()

/-- Of two instances with one name the last counts, which has a plan and parameters, also where the
parameters of the last instance are asked for first. -/
theorem services_joined_reversed :
    let server := Server.ofTexts
      [(["v3", "service_instances"], "\x7b\"resources\":[\x7b\"guid\":\"1\",\"name\":\"db\"\x7d," ++
          "\x7b\"guid\":\"2\",\"name\":\"db\",\"relationships\":" ++
          "\x7b\"service_plan\":\x7b\"data\":\x7b\"guid\":\"p\"\x7d\x7d\x7d\x7d]\x7d"),
        (["v3", "service_plans"], "\x7b\"resources\":[\x7b\"guid\":\"p\",\"name\":\"small\"," ++
          "\"relationships\":\x7b\"service_offering\":" ++
          "\x7b\"data\":\x7b\"guid\":\"o\"\x7d\x7d\x7d\x7d],\"included\":" ++
          "\x7b\"service_offerings\":[\x7b\"guid\":\"o\",\"name\":\"sql\"\x7d]\x7d\x7d"),
        (["v3", "service_instances", "2", "parameters"], "\x7b\"size\":3\x7d")]
    let client := server.recordedClient
    let before : Recording Unit := { state := () }
    let services := NameMap.ofList
      [("db", { offering := "sql", plan := "small", params := NameMap.ofList [("size", "3")] })]
    let targets (after : Recording Unit) :=
      after.exchanges.map fun exchange => exchange.request.url.target
    client.transport = server.recorder ∧
      client.Collects before (client.services.runOn before).1 (client.services.runOn before).2 ∧
      ∃ reversed, client.Collects before (.ok services) reversed ∧
        client.Fetches reversed.exchanges (.ok services) ∧
        (targets reversed).drop 2 =
          ["/v3/service_instances/2/parameters", "/v3/service_instances/1/parameters"] := by
  intro server client before services targets
  have reaches : client.transport = server.recorder := rfl
  -- The general theorem is applied once for the order of the client, and once for the reversed one.
  obtain ⟨inOrder, general⟩ := client.services_joined reaches before
  let first : ServiceInstance := { guid := "1", name := "db" }
  let second : ServiceInstance := { guid := "2", name := "db", plan := some "p" }
  let found : Listing ServiceInstance := { resources := [first, second] }
  let plans : Listing ServicePlan :=
    { resources := [{ guid := "p", name := "small", offering := some "o" }],
      offerings := [{ guid := "o", name := "sql" }] }
  let params : Except Error (NameMap String) := .ok (NameMap.ofList [("size", "3")])
  let listing := (client.instances.runOn before).2
  let planning := ((client.plansOf found.resources).runOn listing).2
  let middle := ((client.paramsOf second.guid).runOn planning).2
  let last := ((client.paramsOf first.guid).runOn middle).2
  have listed : client.instances.runOn before = (.ok found, listing) :=
    Task.runOn_eq_of_result (by decide +kernel)
  have planned : (client.plansOf found.resources).runOn listing = (.ok plans, planning) :=
    Task.runOn_eq_of_result (by decide +kernel)
  have ranSecond : (client.paramsOf second.guid).runOn planning = (params, middle) :=
    Task.runOn_eq_of_result (by decide +kernel)
  have ranFirst : (client.paramsOf first.guid).runOn middle = (.ok ∅, last) :=
    Task.runOn_eq_of_result (by decide +kernel)
  -- The second script has all its turns before the first.
  have others : Script.Gathers client.transport
      ([client.paramsScript first] ++ .done params :: []) middle [.ok ∅, params] last :=
    .cons (SpaceClient.follow_paramsScript ranFirst) (.cons_done (.nil last) params)
  have gathers : Script.Gathers client.transport
      ([client.paramsScript first] ++ client.paramsScript second :: []) planning
      [.ok ∅, params] last :=
    .follow (SpaceClient.follow_paramsScript ranSecond) others
  have reversed := SpaceClient.Collects.gathered listed (List.cons_ne_nil _ _) planned gathers
  have assembled : ([.ok ∅, params].mapM id).map
      (SpaceClient.assembled found.resources plans) = .ok services := by decide +kernel
  rw [assembled] at reversed
  obtain ⟨exchanges, added, fetches⟩ := general _ _ reversed
  obtain rfl : last.exchanges = exchanges := added
  exact ⟨reaches, inOrder, last, reversed, fetches, by decide +kernel⟩

end Cloud

end CloudSpace
