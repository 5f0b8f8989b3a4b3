import CloudSpace.Proofs.Cloud.Server

/-!
# Answers of a server

A server answers a request if an attempt that the client makes gets through. What the client reads
is then a function of the value in the answer, as far as that is looked at, and what it reads of an
application is a function of the values in the answers about the application, its account.
-/
namespace CloudSpace

open Cloud

variable {σ α β : Type}

theorem Except.eq_ok_of_toOption {ε : Type} {result : Except ε α} {value : α}
    (found : result.toOption = some value) : result = .ok value := by
  cases result with
  | ok given =>
    cases found
    rfl
  | error _ => exact nomatch found

/-- What is known to be found is the result. -/
theorem Task.Leads.of_toOption {task : Task (StateM σ) α} {before : σ} {found : Option α}
    {value : α} {post : σ → Prop} (leads : task.Leads before fun result after =>
      result.toOption = found ∧ post after) (known : found = some value) :
    task.Leads before fun result after => result = .ok value ∧ post after :=
  leads.imp fun _ _ told => ⟨Except.eq_ok_of_toOption (told.1.trans known), told.2⟩

/-- Work goes on with what was found, if anything was. -/
theorem Task.Leads.bind_toOption {first : Task (StateM σ) α} {next : α → Task (StateM σ) β}
    {before : σ} {found : Option α} {rest : α → Option β} {middle post : σ → Prop}
    (leads : first.Leads before fun result after => result.toOption = found ∧ middle after)
    (fails : ∀ after, middle after → post after)
    (continues : ∀ value after, middle after → (next value).Leads after fun result last =>
      result.toOption = rest value ∧ post last) :
    (first >>= next).Leads before fun result after =>
      result.toOption = found.bind rest ∧ post after := by
  refine leads.bind ?_ ?_
  · rintro error after ⟨missing, holds⟩
    rw [← missing]
    exact ⟨rfl, fails after holds⟩
  · rintro value after ⟨same, holds⟩
    rw [← same]
    exact continues value after holds

namespace Cloud

namespace Server

/-- A request is answered, after so many failures at most that the client puts up with. -/
def Answers (server : Server σ) (request : Request) (post : Answer → σ → Prop) : Nat → σ → Prop
  | 0, state => ∃ answer, (server.reply request state).1.outcome = .ok answer ∧
      post answer (server.reply request state).2
  | left + 1, state =>
    (∃ answer, (server.reply request state).1.outcome = .ok answer ∧
      post answer (server.reply request state).2) ∨
    ∃ error, (server.reply request state).1.outcome = .error error ∧ error.isRetryable ∧
      server.Answers request post left
        (server.pass (pauseUnit * (greatestAttempts - 1 - left)) (server.reply request state).2)

theorem Answers.imp {server : Server σ} {request : Request} {post weaker : Answer → σ → Prop}
    (weaken : ∀ answer after, post answer after → weaker answer after) {left : Nat} {state : σ}
    (answers : server.Answers request post left state) :
    server.Answers request weaker left state := by
  induction left generalizing state with
  | zero =>
    obtain ⟨answer, answered, holds⟩ := answers
    exact ⟨answer, answered, weaken _ _ holds⟩
  | succ left ih =>
    obtain ⟨answer, answered, holds⟩ | ⟨error, failed, retryable, later⟩ := answers
    · exact .inl ⟨answer, answered, weaken _ _ holds⟩
    · exact .inr ⟨error, failed, retryable, ih later⟩

/-- The answer to a question has a value, as far as one is wanted, and something holds
afterwards. -/
def Tells (server : Server σ) (client : Client (StateM (Session σ))) (path : String)
    (fields : List (String × String)) (wanted : Json.Wanted) (content : Value) (holds : σ → Prop)
    (state : σ) : Prop :=
  ∃ url, client.urlOf path fields = .ok url ∧
    server.Answers { method := .get, url, token := client.token }
      (fun answer after => Json.read? wanted answer.body = some content ∧ holds after)
      (greatestAttempts - 1) state

/-- A change is made at once, and something holds afterwards. -/
def Takes (server : Server σ) (client : Client (StateM (Session σ))) (method : Method)
    (path : String) (body : Value) (holds : σ → Prop) (state : σ) : Prop :=
  ∃ url, client.urlOf path [] = .ok url ∧
    server.Answers { method, url, token := client.token, body := some (.json body) }
      (fun answer after =>
        (∀ location, answer.location = some location → Client.isJob location = false) ∧ holds after)
      (greatestAttempts - 1) state

end Server

/-! ### What the client makes of an answer -/

namespace Client

variable {server : Server σ} {client : Client (StateM (Session σ))}
  (reaches : client.transport = server.transport)

include reaches

theorem leads_sendUpTo {request : Request} {post : Answer → σ → Prop} {left : Nat}
    {before : Session σ} (answers : server.Answers request post left before.state) :
    (client.sendUpTo request left).Leads before fun result after =>
      ∃ answer, result = .ok answer ∧ post answer after.state := by
  have sends (earlier : Session σ) : Task.Leads (Task.act (client.transport.send request)) earlier
      fun result after => result = .ok (server.reply request earlier.state).1 ∧
        after = server.asked request earlier := by
    rw [reaches]
    exact Task.leads_act ⟨rfl, rfl⟩
  -- By induction on the failures that are left to put up with.
  induction left generalizing before with
  | zero =>
    obtain ⟨answer, answered, holds⟩ := answers
    refine (sends before).bind_ok ?_
    rintro _ rfl
    rw [answered]
    exact Task.leads_pure ⟨answer, rfl, holds⟩
  | succ left ih =>
    refine (sends before).bind_ok ?_
    rintro _ rfl
    obtain ⟨answer, answered, holds⟩ | ⟨error, failed, retryable, later⟩ := answers
    · rw [answered]
      exact Task.leads_pure ⟨answer, rfl, holds⟩
    -- What failed is sent again after a pause, in which the state of the server may pass on.
    · rw [failed]
      simp only [retryable, ↓reduceIte]
      have waits (earlier : Session σ) (milliseconds : Nat) :
          Task.Leads (Task.act (client.transport.wait milliseconds)) earlier fun result after =>
            result = .ok () ∧
              after = { earlier with state := server.pass milliseconds earlier.state } := by
        rw [reaches]
        exact Task.leads_act ⟨rfl, rfl⟩
      refine (waits _ _).bind_ok ?_
      rintro _ rfl
      exact ih later

theorem leads_get {reader : Reader α} {path : String} {fields : List (String × String)}
    {content : Value} {holds : σ → Prop} {before : Session σ}
    (tells : server.Tells client path fields reader.wanted content holds before.state) :
    (client.get reader path fields).Leads before fun result after =>
      result.toOption = reader.ofValue? content ∧ holds after.state := by
  obtain ⟨url, joined, answers⟩ := tells
  have located : Task.Leads (liftM (client.urlOf path fields)) before fun result after =>
      result = .ok url ∧ after = before := Task.leads_lift ⟨joined, rfl⟩
  refine located.bind_ok ?_
  rintro _ rfl
  refine (leads_sendUpTo reaches answers).bind_found ?_
  intro answer after ⟨parsed, told⟩
  simp only [Reader.parse?, parsed, Option.bind_some]
  cases reader.ofValue? content with
  | some found => exact Task.leads_pure ⟨rfl, told⟩
  | none => exact Task.leads_throw ⟨rfl, told⟩

theorem leads_findOne {reader : Reader α} {path : String} {fields : List (String × String)}
    {resource name : String} {content : Value} {holds : σ → Prop} {before : Session σ}
    (tells : server.Tells client path (fields ++ [("per_page", "5000")])
      (Listing.reader reader).wanted content holds before.state) :
    (client.findOne reader path fields resource name).Leads before fun result after =>
      result.toOption = (Listing.ofValue? reader.ofValue? content).bind (·.resources.head?) ∧
        holds after.state := by
  refine (leads_get reaches tells).bind_toOption (fun _ told => told) fun listing after told => ?_
  cases listing.resources with
  | cons first _ => exact Task.leads_pure ⟨rfl, told⟩
  | nil => exact Task.leads_throw ⟨rfl, told⟩

/-- A change that a server takes at once succeeds, and is not waited for. -/
theorem leads_change {method : Method} {path : String} {body : Value} {holds : σ → Prop}
    {before : Session σ} (takes : server.Takes client method path body holds before.state) :
    (client.change method path (some (.json body))).Leads before fun result after =>
      result = .ok () ∧ holds after.state := by
  obtain ⟨url, joined, answers⟩ := takes
  have located : Task.Leads (liftM (client.urlOf path [])) before fun result after =>
      result = .ok url ∧ after = before := Task.leads_lift ⟨joined, rfl⟩
  refine located.bind_ok ?_
  rintro _ rfl
  refine (leads_sendUpTo reaches answers).bind_found ?_
  intro answer after ⟨finished, done⟩
  -- There may be a location, but it is none to wait at.
  cases located : answer.location with
  | none => exact Task.leads_pure ⟨rfl, done⟩
  | some location =>
    simp only [finished location located]
    exact Task.leads_pure ⟨rfl, done⟩

end Client

/-! ### Accounts -/

/-- What a platform says about one application, question by question. -/
structure Account where
  process : Value
  settings : Value
  routes : Value
  bindings : Value
  /-- Asked for only where the application is made from an image. -/
  packages : Value

namespace Account

/-- The package with the image of an application, if it is made from one. -/
def image? (account : Account) (app : AppResource) : Option (Option Package) :=
  if app.lifecycle.type = "docker" then do
    let packages ← Listing.ofValue? Package.ofValue? account.packages
    return imagePackage? packages.resources
  else return none

/-- The application that an account describes. -/
def application? (account : Account) (app : AppResource) : Option Application := do
  let process ← Process.ofValue? account.process
  let settings ← variablesOf? account.settings
  let routes ← Listing.ofValue? routeOf? account.routes
  let bindings ← Listing.ofValue? Binding.ofValue? account.bindings
  let image ← account.image? app
  return applicationOf app process settings routes.resources bindings image

theorem application?_eq_some_iff {account : Account} {app : AppResource} {record : Application} :
    account.application? app = some record ↔ ∃ process settings routes bindings image,
      Process.ofValue? account.process = some process ∧
      variablesOf? account.settings = some settings ∧
      Listing.ofValue? routeOf? account.routes = some routes ∧
      Listing.ofValue? Binding.ofValue? account.bindings = some bindings ∧
      account.image? app = some image ∧
      applicationOf app process settings routes.resources bindings image = record := by
  simp only [application?, Option.bind_eq_bind, Option.bind_eq_some_iff, Option.pure_def,
    Option.some.injEq]
  grind

end Account

/-- As long as something holds of its state, a server gives an account of an application. -/
structure Server.Accounts (server : Server σ) (client : SpaceClient (StateM (Session σ)))
    (app : AppResource) (account : Account) (holds : σ → Prop) : Prop where
  process : ∀ state, holds state →
    server.Tells client.toClient s!"/v3/apps/{app.guid}/processes/web" []
      Process.reader.wanted account.process holds state
  settings : ∀ state, holds state →
    server.Tells client.toClient s!"/v3/apps/{app.guid}/environment_variables" []
      variablesReader.wanted account.settings holds state
  routes : ∀ state, holds state →
    server.Tells client.toClient s!"/v3/apps/{app.guid}/routes" [("per_page", "5000")]
      (Listing.reader routeReader).wanted account.routes holds state
  bindings : ∀ state, holds state →
    server.Tells client.toClient "/v3/service_credential_bindings"
      [("app_guids", app.guid), ("include", "service_instance"), ("per_page", "5000")]
      (Listing.reader Binding.reader).wanted account.bindings holds state
  packages : app.lifecycle.type = "docker" → ∀ state, holds state →
    server.Tells client.toClient s!"/v3/apps/{app.guid}/packages"
      [("types", "docker"), ("order_by", "-created_at"), ("per_page", "5000")]
      (Listing.reader Package.reader).wanted account.packages holds state

namespace SpaceClient

variable {server : Server σ} {client : SpaceClient (StateM (Session σ))} {app : AppResource}
  {account : Account} {holds : σ → Prop} {before : Session σ}

/-- Describing an application is reading its account. -/
theorem leads_describe (reaches : client.transport = server.transport)
    (accounts : server.Accounts client app account holds) (held : holds before.state) :
    (client.describe app).Leads before fun result after =>
      result.toOption = account.application? app ∧ holds after.state := by
  -- One question after the other, each answered out of a state that the account holds in.
  refine (Client.leads_get reaches (accounts.process _ held)).bind_toOption (fun _ told => told)
    fun process second held => ?_
  refine (Client.leads_get reaches (accounts.settings _ held)).bind_toOption (fun _ told => told)
    fun settings third held => ?_
  refine (Client.leads_get reaches (accounts.routes _ held)).bind_toOption (fun _ told => told)
    fun routes fourth held => ?_
  refine (Client.leads_get reaches (accounts.bindings _ held)).bind_toOption (fun _ told => told)
    fun bindings fifth held => ?_
  have image : (client.imageOf app).Leads fifth fun result after =>
      result.toOption = account.image? app ∧ holds after.state := by
    rw [imageOf, Account.image?]
    split
    next docker =>
      exact (Client.leads_get reaches (accounts.packages docker _ held)).bind_toOption
        (fun _ told => told) fun packages last held => Task.leads_pure ⟨rfl, held⟩
    next => exact Task.leads_pure ⟨rfl, held⟩
  refine image.bind_toOption (fun _ told => told) fun image last held => ?_
  exact Task.leads_pure ⟨rfl, held⟩

end SpaceClient

end Cloud

end CloudSpace
