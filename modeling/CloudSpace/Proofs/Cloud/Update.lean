import CloudSpace.Proofs.Cloud.Field
import CloudSpace.Proofs.Cloud.Table
import CloudSpace.Proofs.Platform.Atomic

/-!
# Updates of single settings

Scaling, setting a health check and changing a variable are partial updates: the client sends what
is to change, and the platform overwrites that and keeps the rest. An application that is read back
after such an update is the one that the platform in memory has after the same call, provided that
the address of a health check is only set where the check asks for an address.
-/
namespace CloudSpace

open Cloud

namespace Value

variable {α : Type} {value before after body : Value} {name : String}

/-! ### Overwriting -/

/-- The fields of a body take the place of those of a record, and all others stay. -/
structure Overwrites (body before after : Value) : Prop where
  given : ∀ name content, body.Has name content → after.Has name content
  kept : ∀ name, body.Lacks name → after.named? name = before.named? name

/-- The health check of a process is that of a body, only that its timeout stays. -/
structure Rechecks (body before after : Value) : Prop where
  kept : ∀ name, name ≠ "health_check" → after.named? name = before.named? name
  checked : ∃ check data, after.Has "health_check" check ∧
    check.Has "type" (body.under ["health_check", "type"]) ∧ check.Has "data" data ∧
    data.Gives "endpoint" (body.under ["health_check", "data", "endpoint"]) ∧
    data.Gives "timeout" (before.under ["health_check", "data", "timeout"])

/-- The variables of a body are set, those that it has null for are taken away, and all others
stay. -/
def Rebinds (body before after : Value) : Prop :=
  ∃ fields, after.Has "var" (.record fields) ∧ ∀ key, (record fields).get? key =
    match (body.under ["var"]).get? key with
    | some .null => none
    | some content => some content
    | none => (before.under ["var"]).get? key

/-! ### What a reading says of a record -/

theorem has_of_required_text {content : String} (read : value.required text? name = some content) :
    value.Has name (.text content) := by
  rw [required] at read
  split at read
  next given has =>
    cases given with
    | text _ =>
      cases read
      exact has
    | _ => cases read
  next => cases read

theorem eq_of_word32? {content : Value} {word : UInt32} (read : word32? content = some word) :
    content = .int word.toNat := by
  cases content with
  | int number =>
    rw [word32?] at read
    split at read
    next bounds =>
      obtain ⟨natural, small⟩ := bounds
      cases read
      obtain ⟨n, rfl⟩ := Int.eq_ofNat_of_zero_le natural
      -- The number is below the range of a word, so that nothing of it is lost.
      have within : n < 2 ^ 32 := by exact_mod_cast small
      rw [Int.toNat_natCast, Nat.toUInt32, UInt32.toNat_ofNat_of_lt' within]
    next => cases read
  | _ => cases read

/-- A word that may be missing was read of what it is written as. -/
theorem under_of_nullable_word {word : Option UInt32}
    (read : value.nullable word32? name = some word) : value.under [name] = ofWord? word := by
  -- A word may be missing, null, or a number; a value that is none of these is not read.
  rw [nullable] at read
  split at read
  next lacks =>
    cases read
    rw [under, Lacks.get? lacks]
    rfl
  next null =>
    cases read
    exact Has.under null []
  next content _ has =>
    obtain ⟨number, found, rfl⟩ := Option.map_eq_some_iff.mp read
    rw [eq_of_word32? found] at has
    exact Has.under has []
  next => cases read

theorem required_congr (same : after.named? name = before.named? name) (read : Value → Option α) :
    after.required read name = before.required read name := by
  rw [required, required, same]

theorem nullable_congr (same : after.named? name = before.named? name) (read : Value → Option α) :
    after.nullable read name = before.nullable read name := by
  rw [nullable, nullable, same]

theorem withDefault_congr (same : after.named? name = before.named? name) (default : α)
    (read : Value → Option α) :
    after.withDefault default read name = before.withDefault default read name := by
  rw [withDefault, withDefault, same]

end Value

namespace Cloud

open Value

section

variable {before after body : Value}

/-! ### Processes -/

def sizes (size : Option UInt32) : List Value := size.toList.map fun word => .int word.toNat

theorem named?_scaleBody (scale : Scale) :
    (scaleBody scale).named? "instances" = some (sizes scale.instances) ∧
      (scaleBody scale).named? "memory_in_mb" = some (sizes scale.memory) ∧
      (scaleBody scale).named? "disk_in_mb" = some (sizes scale.disk) := by
  obtain ⟨instances, memory, disk⟩ := scale
  cases instances <;> cases memory <;> cases disk <;> exact ⟨rfl, rfl, rfl⟩

/-- Scaling sends nothing but sizes. -/
theorem lacks_scaleBody (scale : Scale) {name : String} (instances : name ≠ "instances")
    (memory : name ≠ "memory_in_mb") (disk : name ≠ "disk_in_mb") :
    (scaleBody scale).Lacks name := by
  obtain ⟨first, second, third⟩ := scale
  cases first <;> cases second <;> cases third <;>
    simp [Lacks, scaleBody, named?, fields?, fieldOfWord?, Ne.symm instances, Ne.symm memory,
      Ne.symm disk]

/-- A size that is sent is read back, and otherwise the one before it. -/
theorem required_word_of_overwrites (overwrites : body.Overwrites before after) {name : String}
    {size : Option UInt32} (sent : body.named? name = some (sizes size)) {held : UInt32}
    (read : before.required word32? name = some held) :
    after.required word32? name = some (size.getD held) := by
  cases size with
  | some word => rw [(overwrites.given name _ sent).required, word32?_toNat]; rfl
  | none => rw [required_congr (overwrites.kept name sent), read]; rfl

/-- A process that was overwritten has the sizes that were sent, and everything else as before. -/
theorem Process.ofValue?_scaled {scale : Scale} {process : Process}
    (overwrites : (scaleBody scale).Overwrites before after)
    (read : Process.ofValue? before = some process) :
    Process.ofValue? after = some { process with
      instances := scale.instances.getD process.instances
      memory := scale.memory.getD process.memory
      disk := scale.disk.getD process.disk } := by
  obtain ⟨guid, command, instances, memory, disk, check⟩ := ofValue?_eq_some_iff.mp read
  obtain ⟨sentInstances, sentMemory, sentDisk⟩ := named?_scaleBody scale
  -- What is no size is not sent, and so it stays.
  have kept {name : String} (other : name ∉ ["instances", "memory_in_mb", "disk_in_mb"]) :
      after.named? name = before.named? name := by
    simp only [List.mem_cons, List.not_mem_nil, or_false, not_or] at other
    exact overwrites.kept _ (lacks_scaleBody scale other.1 other.2.1 other.2.2)
  refine ofValue?_eq_some_iff.mpr ⟨?_, ?_, ?_, ?_, ?_, ?_⟩
  · rwa [required_congr (kept (by decide))]
  · rwa [nullable_congr (kept (by decide))]
  · exact required_word_of_overwrites overwrites sentInstances instances
  · exact required_word_of_overwrites overwrites sentMemory memory
  · exact required_word_of_overwrites overwrites sentDisk disk
  · rwa [withDefault_congr (kept (by decide))]

/-- The timeout of a process, as it stands in the answer. -/
theorem Process.under_timeout {process : Process} (read : Process.ofValue? before = some process) :
    before.under ["health_check", "data", "timeout"] = ofWord? process.healthCheck.timeout := by
  obtain ⟨-, -, -, -, -, checked⟩ := ofValue?_eq_some_iff.mp read
  -- The check may be missing, and so may its data and the timeout among them.
  rcases of_withDefault checked with ⟨lacks, same⟩ | ⟨check, has, checkRead⟩
  · rw [same, under, lacks.get?]
    rfl
  · rw [has.under]
    simp only [HealthCheck.ofValue?, Option.bind_eq_bind, Option.bind_eq_some_iff] at checkRead
    obtain ⟨type, -, dataRead⟩ := checkRead
    rcases of_withDefault dataRead with ⟨lacks, same⟩ | ⟨data, hasData, read⟩
    · rw [same, under, lacks.get?]
      rfl
    · rw [hasData.under]
      simp only [Option.bind_eq_some_iff, Option.pure_def, Option.some.injEq] at read
      obtain ⟨endpoint, -, timeout, waits, same⟩ := read
      rw [← same]
      exact under_of_nullable_word waits

/-- The endpoint of a health check as far as it is sent. -/
def sentEndpoint (type : HealthCheckType) (endpoint : Option String) : Option String :=
  if type = .http then endpoint else none

theorem under_healthCheckBody_type (type : HealthCheckType) (endpoint : Option String) :
    (healthCheckBody type endpoint).under ["health_check", "type"] = .text type.name := by
  cases type <;> cases endpoint <;> rfl

theorem under_healthCheckBody_endpoint (type : HealthCheckType) (endpoint : Option String) :
    (healthCheckBody type endpoint).under ["health_check", "data", "endpoint"] =
      ofText? (sentEndpoint type endpoint) := by
  cases type <;> cases endpoint <;> rfl

theorem Process.ofValue?_rechecked {type : HealthCheckType} {endpoint : Option String}
    {process : Process} (rechecks : (healthCheckBody type endpoint).Rechecks before after)
    (read : Process.ofValue? before = some process) :
    Process.ofValue? after = some { process with
      healthCheck :=
        { type := type.name
          endpoint := sentEndpoint type endpoint
          timeout := process.healthCheck.timeout } } := by
  obtain ⟨guid, command, instances, memory, disk, -⟩ := ofValue?_eq_some_iff.mp read
  obtain ⟨check, data, hasCheck, typed, hasData, found, waits⟩ := rechecks.checked
  rw [under_healthCheckBody_type] at typed
  rw [under_healthCheckBody_endpoint] at found
  rw [under_timeout read] at waits
  refine ofValue?_eq_some_iff.mpr ⟨?_, ?_, ?_, ?_, ?_, ?_⟩
  -- What a health check does not name was kept, so that it is read as it was.
  · rwa [required_congr (rechecks.kept _ (by decide))]
  · rwa [nullable_congr (rechecks.kept _ (by decide))]
  · rwa [required_congr (rechecks.kept _ (by decide))]
  · rwa [required_congr (rechecks.kept _ (by decide))]
  · rwa [required_congr (rechecks.kept _ (by decide))]
  · rw [hasCheck.withDefault]
    exact HealthCheck.ofValue?_eq typed (.inl hasData) found waits

/-! ### Variables -/

theorem variablesOf?_rebound {settings : NameMap Value} (rebinds : body.Rebinds before after)
    (read : variablesOf? before = some settings) :
    ∃ rebound, variablesOf? after = some rebound ∧ ∀ key, rebound.get? key =
      match (body.under ["var"]).get? key with
      | some .null => none
      | some content => some content
      | none => settings.get? key := by
  obtain ⟨fields, has, bound⟩ := rebinds
  refine ⟨NameMap.ofList fields, ?_, fun key => ?_⟩
  · rw [variablesOf?, has.withDefault, mapOf_some_record]
  · rw [← get?_record, bound key, get?_of_variablesOf? read]

theorem get?_variableBody (key other : String) (content : Value) :
    ((variableBody key content).under ["var"]).get? other =
      if other = key then some content else none := by
  change (record [(key, content)]).get? other = _
  rw [get?_record]
  exact NameMap.get?_insert NameMap.empty key other content

end

/-! ### Accounts -/

namespace Account

/-- An account after a call: what the body of the call's request says is overwritten. -/
inductive Updated (account : Account) : Call → Account → Prop
  | scale {name : String} {scale : Scale} {process : Value}
      (overwrites : (scaleBody scale).Overwrites account.process process) :
      account.Updated (.scaleApplication name scale) { account with process }
  | recheck {name : String} {type : HealthCheckType} {endpoint : Option String} {process : Value}
      (rechecks : (healthCheckBody type endpoint).Rechecks account.process process) :
      account.Updated (.setHealthCheck name type endpoint) { account with process }
  | bind {name key value : String} {settings : Value}
      (rebinds : (variableBody key (.text value)).Rebinds account.settings settings) :
      account.Updated (.addEnvironmentVariable name key value) { account with settings }
  | unbind {name key : String} {settings : Value}
      (rebinds : (variableBody key .null).Rebinds account.settings settings) :
      account.Updated (.removeEnvironmentVariable name key) { account with settings }

/-- A call as far as the client sends it. -/
def sentCall : Call → Call
  | .setHealthCheck name type endpoint => .setHealthCheck name type (sentEndpoint type endpoint)
  | call => call

/-- An updated account describes the application after the call as it was sent. -/
theorem Updated.application? {account updated : Account} {app : AppResource} {call : Call}
    {record : Application} (update : account.Updated call updated)
    (described : account.application? app = some record) :
    updated.application? app =
      some { record with manifest := record.manifest.effect (sentCall call) } := by
  obtain ⟨process, settings, routes, bindings, image, readProcess, readVariables, readRoutes,
    readBindings, readImage, rfl⟩ := application?_eq_some_iff.mp described
  cases update with
  -- Each call changes one resource of the account, and the others are read as before.
  | @scale name scale _ overwrites =>
    refine application?_eq_some_iff.mpr ⟨_, settings, routes, bindings, image,
      Process.ofValue?_scaled overwrites readProcess, readVariables, readRoutes, readBindings,
      readImage, ?_⟩
    obtain ⟨instances, memory, disk⟩ := scale
    cases instances <;> cases memory <;> cases disk <;> rfl
  | recheck rechecks =>
    refine application?_eq_some_iff.mpr ⟨_, settings, routes, bindings, image,
      Process.ofValue?_rechecked rechecks readProcess, readVariables, readRoutes, readBindings,
      readImage, ?_⟩
    simp [applicationOf, parse?_name, Manifest.effect, sentCall]
  | @bind name key value _ rebinds =>
    obtain ⟨rebound, read, bound⟩ := variablesOf?_rebound rebinds readVariables
    refine application?_eq_some_iff.mpr ⟨process, rebound, routes, bindings, image, readProcess,
      read, readRoutes, readBindings, readImage, ?_⟩
    -- The variables sent are merged into those that were there.
    have same : rebound.map settingText = (settings.map settingText).insert key value := by
      refine NameMap.ext_get? fun other => ?_
      rw [NameMap.get?_insert, NameMap.get?_map, NameMap.get?_map, bound other, get?_variableBody]
      by_cases here : other = key
      · rw [if_pos here, if_pos here]
        rfl
      · rw [if_neg here, if_neg here]
    simp [applicationOf, same, Manifest.effect, sentCall]
  | @unbind name key _ rebinds =>
    obtain ⟨rebound, read, bound⟩ := variablesOf?_rebound rebinds readVariables
    refine application?_eq_some_iff.mpr ⟨process, rebound, routes, bindings, image, readProcess,
      read, readRoutes, readBindings, readImage, ?_⟩
    have same : rebound.map settingText = (settings.map settingText).erase key := by
      refine NameMap.ext_get? fun other => ?_
      -- Under the name that was taken away there is nothing, and under another one what there was.
      rw [NameMap.get?_erase, NameMap.get?_map, NameMap.get?_map, bound other, get?_variableBody]
      by_cases here : other = key
      · rw [if_pos here, if_pos here]
        rfl
      · rw [if_neg here, if_neg here]
    simp [applicationOf, same, Manifest.effect, sentCall]

end Account

/-! ### Servers -/

/-- A server that keeps an account of one application and finds the application by its name. -/
structure Server.Hosts {σ : Type} (server : Server σ) (client : SpaceClient (StateM (Session σ)))
    (app : AppResource) (shows : Account → σ → Prop) : Prop where
  reaches : client.transport = server.transport
  finds : ∀ account state, shows account state → ∃ listing found,
    server.Tells client.toClient "/v3/apps"
      [("names", app.name), ("space_guids", client.space), ("per_page", "5000")]
      (Listing.reader NamedResource.reader).wanted listing (shows account) state ∧
    (Listing.ofValue? NamedResource.ofValue? listing).bind (·.resources.head?) = some found ∧
    found.guid = app.guid
  accounts : ∀ account, server.Accounts client app account (shows account)

/-- A server takes the request that a call comes to, and what it shows is updated afterwards. -/
def Server.Obeys {σ : Type} (server : Server σ) (client : SpaceClient (StateM (Session σ)))
    (app : AppResource) (shows : Account → σ → Prop) (account : Account) (call : Call)
    (state : σ) : Prop :=
  let updates (after : σ) : Prop := ∃ updated, account.Updated call updated ∧ shows updated after
  match call with
  | .scaleApplication _ scale =>
    server.Takes client.toClient .post s!"/v3/apps/{app.guid}/processes/web/actions/scale"
      (scaleBody scale) updates state
  | .setHealthCheck _ type endpoint =>
    ∀ guid, account.process.Has "guid" (.text guid) →
      server.Takes client.toClient .patch s!"/v3/processes/{guid}"
        (healthCheckBody type endpoint) updates state
  | .addEnvironmentVariable _ key value =>
    server.Takes client.toClient .patch s!"/v3/apps/{app.guid}/environment_variables"
      (variableBody key (.text value)) updates state
  | .removeEnvironmentVariable _ key =>
    server.Takes client.toClient .patch s!"/v3/apps/{app.guid}/environment_variables"
      (variableBody key .null) updates state
  | _ => False

namespace SpaceClient

variable {σ : Type} {server : Server σ} {client : SpaceClient (StateM (Session σ))}
  {app : AppResource} {shows : Account → σ → Prop} {account : Account}

theorem leads_appGuid (hosts : server.Hosts client app shows) {before : Session σ}
    (shown : shows account before.state) :
    (client.appGuid app.name).Leads before fun result after =>
      result = .ok app.guid ∧ shows account after.state := by
  obtain ⟨listing, found, tells, first, same⟩ := hosts.finds account before.state shown
  rw [appGuid, map_eq_pure_bind]
  refine ((Client.leads_findOne hosts.reaches tells).of_toOption first).bind_ok fun after told => ?_
  exact Task.leads_pure ⟨by rw [same], told⟩

/-- A call for one setting succeeds, and leaves an account that is updated by it. -/
theorem leads_update (hosts : server.Hosts client app shows) {call : Call}
    (about : call.target = app.name) {process : Process}
    (read : Process.ofValue? account.process = some process)
    (obeys : ∀ state, shows account state → server.Obeys client app shows account call state)
    {before : Session σ} (shown : shows account before.state) :
    (client.perform call).Leads before fun result after =>
      result = .ok () ∧ ∃ updated, account.Updated call updated ∧ shows updated after.state := by
  -- The application is looked up by its name, and then the one request is sent.
  have found := leads_appGuid hosts shown
  cases call with
  -- A size, like a variable, is sent to the application itself.
  | scaleApplication name scale =>
    cases about
    exact found.bind_ok fun after shown =>
      Client.leads_change hosts.reaches (obeys after.state shown)
  | addEnvironmentVariable name key value =>
    cases about
    exact found.bind_ok fun after shown =>
      Client.leads_change hosts.reaches (obeys after.state shown)
  | removeEnvironmentVariable name key =>
    cases about
    exact found.bind_ok fun after shown =>
      Client.leads_change hosts.reaches (obeys after.state shown)
  | setHealthCheck name type endpoint =>
    cases about
    -- A health check is set on the process, whose guid is asked for in between.
    refine found.bind_ok fun middle shown => ?_
    have tells := (hosts.accounts account).process middle.state shown
    refine ((Client.leads_get hosts.reaches tells).of_toOption read).bind_ok fun after shown => ?_
    have has : account.process.Has "guid" (.text process.guid) :=
      has_of_required_text (Process.ofValue?_eq_some_iff.mp read).1
    exact Client.leads_change hosts.reaches (obeys after.state shown process.guid has)
  | _ => exact absurd (obeys before.state shown) not_false

end SpaceClient

/-! ### The platform in memory -/

/-- A call for one setting has its effect on the application it is about. -/
theorem run_perform_update {memory : Memory} {call : Call} {account updated : Account}
    (update : account.Updated call updated) {record : Application}
    (held : memory.space.applications.get? call.target = some record)
    (passes : memory.fails call.name call.target = false) :
    (Memory.run (Memory.platform.perform call) memory).1 = .ok () ∧
      (Memory.run (Memory.platform.perform call) memory).2.space.applications.get? call.target =
        some { record with manifest := record.manifest.effect call } := by
  rw [(Memory.yields_perform memory call).run_eq]
  -- The memory holds the application, so that nothing stands against the call.
  have there : memory.space.applications.contains call.target = true := by
    rw [NameMap.contains_eq_isSome, held]
    rfl
  have accepted : memory.accepts call = true := by
    cases update <;> simp_all [Memory.accepts, Space.refusal?, Call.target]
  refine ⟨(Memory.verdict_eq_ok_iff memory call).mpr accepted, ?_⟩
  have stays : call.isRename = false := by
    cases update <;> rfl
  dsimp only [Memory.next]
  rw [if_pos accepted, Space.get?_applications_effect _ _ stays, if_pos rfl, held]
  cases update <;> rfl

section

variable {σ : Type} {server : Server σ} {client : SpaceClient (StateM (Session σ))}
  {app : AppResource} {shows : Account → σ → Prop} {account : Account}

theorem application?_of_described (hosts : server.Hosts client app shows) {before : Session σ}
    (shown : shows account before.state) {record : Application}
    (described : ((client.describe app).runOn before).1 = .ok record) :
    account.application? app = some record := by
  have told := SpaceClient.leads_describe hosts.reaches (hosts.accounts account) shown
  rw [← told.runOn.1, described]
  rfl

/-- After a call for one setting the application is described as the call was sent. -/
theorem described_after_update (hosts : server.Hosts client app shows) {call : Call}
    (about : call.target = app.name)
    (obeys : ∀ state, shows account state → server.Obeys client app shows account call state)
    {before : Session σ} (shown : shows account before.state) {record : Application}
    (described : ((client.describe app).runOn before).1 = .ok record) :
    ∃ updated, account.Updated call updated ∧ ((client.perform call).runOn before).1 = .ok () ∧
      ((client.describe app).runOn ((client.perform call).runOn before).2).1 =
        .ok { record with manifest := record.manifest.effect (Account.sentCall call) } := by
  have known := application?_of_described hosts shown described
  obtain ⟨process, -, -, -, -, read, -⟩ := Account.application?_eq_some_iff.mp known
  obtain ⟨succeeded, updated, update, shownAfter⟩ :=
    (SpaceClient.leads_update hosts about read obeys shown).runOn
  have told := SpaceClient.leads_describe hosts.reaches (hosts.accounts updated) shownAfter
  refine ⟨updated, update, succeeded, Except.eq_ok_of_toOption ?_⟩
  rw [told.runOn.1, update.application? known]

/-- Reading an application back after a call for one of its settings gives the application that
the platform in memory has after the call. -/
theorem update_agrees_with_memory (hosts : server.Hosts client app shows) {call : Call}
    (about : call.target = app.name)
    (obeys : ∀ state, shows account state → server.Obeys client app shows account call state)
    (asksFor : ∀ name type endpoint,
      call = .setHealthCheck name type (some endpoint) → type = .http)
    {before : Session σ} (shown : shows account before.state) {record : Application}
    (described : ((client.describe app).runOn before).1 = .ok record) :
    ((client.perform call).runOn before).1 = .ok () ∧
      ∃ updated,
        ((client.describe app).runOn ((client.perform call).runOn before).2).1 = .ok updated ∧
        ∀ memory : Memory, memory.space.applications.get? app.name = some record →
          memory.fails call.name call.target = false →
          (Memory.run (Memory.platform.perform call) memory).1 = .ok () ∧
          (Memory.run (Memory.platform.perform call) memory).2.space.applications.get? app.name =
            some updated := by
  obtain ⟨_, update, succeeded, describedAfter⟩ :=
    described_after_update hosts about obeys shown described
  -- An endpoint is sent where the check asks for one, so that all of the call is sent.
  have whole : Account.sentCall call = call := by
    cases update with
    | @recheck name type endpoint =>
      rw [Account.sentCall, sentEndpoint]
      cases endpoint with
      | none => simp
      | some endpoint => simp [asksFor name type endpoint rfl]
    | _ => rfl
  refine ⟨succeeded, _, describedAfter, fun memory held passes => ?_⟩
  rw [whole, ← about]
  exact run_perform_update update (about ▸ held) passes

end

/-! ### A server that overwrites a health check -/

/-- An application with a process of which only the health check is left open. -/
def Account.checked (check : Value) : Account where
  process := .record [("guid", .text "2"), ("instances", .int 1), ("memory_in_mb", .int 64),
    ("disk_in_mb", .int 64), ("health_check", check)]
  settings := .record [("var", .record [])]
  routes := .record [("resources", .list [])]
  bindings := .record [("resources", .list [])]
  packages := .record [("resources", .list [])]

namespace HealthServer

def app : AppResource := { guid := "1", name := "web" }

def first : Account := .checked (.record [("type", .text "http"),
  ("data", .record [("endpoint", .text "/"), ("timeout", .int 5)])])

def second : Account := .checked (.record [("type", .text "process"),
  ("data", .record [("endpoint", .null), ("timeout", .int 5)])])

def listing : Value :=
  .record [("resources", .list [.record [("guid", .text "1"), ("name", .text "web")]])]

def table (account : Account) : Table := account.answers ++ [(["v3", "apps"], listing)]

/-- The change of a health check to one of the process. -/
def isChange (request : Request) : Bool :=
  request.method = .patch && request.url = localUrl ["v3", "processes", "2"] &&
    request.body.map Body.text = some (Body.json (healthCheckBody .process none)).text

def server : Server Table := .ofTable isChange (table second)

def shows (account : Account) (held : Table) : Prop :=
  (account = first ∨ account = second) ∧ held = table account

theorem printed {account : Account} (known : account = first ∨ account = second) :
    account.Printed := by
  -- Each of the values is printed, read, and compared.
  rcases known with rfl | rfl <;> constructor <;> apply Json.read?_of_isSame <;>
    simp only [first, second, Account.checked, Json.compact, Json.compactFields,
      Json.compactItems, Json.scalar, Json.quote, String.foldl_eq_foldl_toList] <;>
    decide +kernel

theorem hosts : server.Hosts server.localClient app shows where
  reaches := rfl
  finds account held shown := by
    -- The listing as printed is computed, and what is read from it is checked to be the same.
    have printed : Json.read? (Listing.reader NamedResource.reader).wanted (Json.compact listing) =
        some listing := by
      apply Json.read?_of_isSame
      simp only [listing, Json.compact, Json.compactFields, Json.compactItems, Json.scalar,
        Json.quote, String.foldl_eq_foldl_toList]
      decide +kernel
    refine ⟨listing, ⟨"1", "web"⟩, ?_, rfl, rfl⟩
    obtain ⟨known, rfl⟩ := shown
    exact tells_ofTable ["v3", "apps"] _ rfl (by decide) rfl printed ⟨known, rfl⟩
  accounts account := by
    refine accounts_ofTable rfl [(["v3", "apps"], listing)] (fun held shown => ?_)
    obtain ⟨known, rfl⟩ := shown
    exact ⟨printed known, rfl⟩

/-- Whatever endpoint there is besides, a check of the process is sent as one. -/
theorem obeys (endpoint : Option String) (held : Table) :
    server.Obeys server.localClient app shows first (.setHealthCheck "web" .process endpoint)
      held := by
  intro guid has
  obtain rfl : guid = "2" := by
    cases has
    rfl
  have update : first.Updated (.setHealthCheck "web" .process endpoint) second := by
    refine .recheck ⟨fun name other => ?_, _, _, rfl, rfl, rfl, .inl ?_, .inl rfl⟩
    · simp [first, Account.checked, Value.named?, Value.fields?, List.filter_cons, Ne.symm other]
    · rw [under_healthCheckBody_endpoint]
      rfl
  let request : Request :=
    { method := .patch
      url := localUrl ["v3", "processes", "2"]
      token := "token"
      body := some (.json (healthCheckBody .process endpoint)) }
  -- What is sent does not depend on the endpoint, so that it is the change that the server waits
  -- for.
  have taken : isChange request = true := by
    have same : healthCheckBody .process endpoint = healthCheckBody .process none := by
      cases endpoint <;> rfl
    simp [isChange, request, same]
  exact takes_ofTable ["v3", "processes", "2"] (by decide) rfl (by decide) taken
    ⟨second, update, .inr rfl, rfl⟩

def start : Session Table := { state := table first }

theorem shown : shows first start.state := ⟨.inl rfl, rfl⟩

theorem described : ∃ record, ((server.localClient.describe app).runOn start).1 = .ok record := by
  obtain ⟨record, found⟩ : ∃ record, first.application? app = some record :=
    Option.isSome_iff_exists.mp rfl
  have told := SpaceClient.leads_describe hosts.reaches (hosts.accounts first) shown
  exact ⟨record, Except.eq_ok_of_toOption (told.runOn.1.trans found)⟩

def memory (record : Application) : Memory :=
  { space := { applications := NameMap.ofList [("web", record)] } }

theorem held_memory (record : Application) :
    (memory record).space.applications.get? "web" = some record := rfl

end HealthServer

open HealthServer

/-- Setting the check of a process is seen in the description afterwards, just as in memory. -/
theorem update_agrees_with_memory_process :
    let client := server.localClient
    let call : Call := .setHealthCheck "web" .process none
    ((client.perform call).runOn start).1 = .ok () ∧ ∃ record updated,
      ((client.describe app).runOn start).1 = .ok record ∧
      ((client.describe app).runOn ((client.perform call).runOn start).2).1 = .ok updated ∧
      (Memory.run (Memory.platform.perform call) (memory record)).2.space.applications.get? "web" =
        some updated := by
  -- The application as described is what the memory starts with.
  obtain ⟨record, found⟩ := described
  have about : (Call.setHealthCheck "web" .process none).target = app.name := rfl
  obtain ⟨succeeded, updated, foundAfter, agrees⟩ :=
    update_agrees_with_memory hosts about (fun held _ => obeys none held)
      (fun _ _ _ same => nomatch same) shown found
  exact ⟨succeeded, record, updated, found, foundAfter, (agrees _ (held_memory record) rfl).2⟩

/-- An address for a check that does not ask for one is only kept in memory. -/
theorem update_differs_from_memory :
    let client := server.localClient
    let call : Call := .setHealthCheck "web" .process (some "/")
    server.Hosts client app shows ∧ (∀ held, server.Obeys client app shows first call held) ∧
    shows first start.state ∧ ∃ record updated,
      ((client.describe app).runOn start).1 = .ok record ∧
      ((client.perform call).runOn start).1 = .ok () ∧
      ((client.describe app).runOn ((client.perform call).runOn start).2).1 = .ok updated ∧
      (memory record).space.applications.get? "web" = some record ∧
      (Memory.run (Memory.platform.perform call) (memory record)).1 = .ok () ∧
      (Memory.run (Memory.platform.perform call) (memory record)).2.space.applications.get? "web" ≠
        some updated := by
  obtain ⟨record, found⟩ := described
  have about : (Call.setHealthCheck "web" .process (some "/")).target = app.name := rfl
  obtain ⟨account, update, succeeded, foundAfter⟩ :=
    described_after_update hosts about (fun held _ => obeys (some "/") held) shown found
  -- In memory the endpoint is set, and the client has not even sent it.
  have ran := run_perform_update update (held_memory record) rfl
  refine ⟨hosts, obeys _, shown, record, _, found, succeeded, foundAfter, rfl, ran.1, ?_⟩
  have after := ran.2
  intro same
  have kept := after.symm.trans same
  have endpoints := congrArg (fun app : Option Application =>
    app.bind fun app => app.manifest.healthCheckHttpEndpoint) kept
  exact nomatch endpoints

end Cloud

end CloudSpace
