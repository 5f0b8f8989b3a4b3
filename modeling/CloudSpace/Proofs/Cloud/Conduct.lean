import CloudSpace.Proofs.Cloud.Errand
import CloudSpace.Proofs.Cloud.Question

/-!
# How a client makes calls

An errand is run by its lookups and the mutation that they lead to, and lookups that do not need
each other may be asked for at once. In whichever order the requests are then sent, and whatever
the server replies to them, nothing is changed but what was found, and nothing at all if something
was not. An application is created the other way round: it is looked up after it was made.
-/
namespace CloudSpace.Cloud

/-! ### Lookups -/

section

variable {m : Type → Type} {σ : Type} {server : Server σ}

namespace Client

variable {client : Client (StateM (Recording σ))}

/-- A lookup is a question, whatever the server replies. -/
theorem converses_find (reaches : client.transport = server.recorder)
    (addresses : client.Addresses) (lookup : Lookup) :
    Converses (client.find lookup) (client.Finds lookup) := by
  obtain ⟨url, address⟩ := addresses.urlOf lookup.path lookup.fields
  refine .bind_lift address ((converses_execute reaches .get url none).bind ?_ ?_)
  · intro asked error attempts
    exact ⟨url, .error error, address, attempts, rfl⟩
  · intro asked answer attempts
    refine .lift ?_
    rw [List.append_nil]
    exact ⟨url, .ok answer, address, attempts, rfl⟩

end Client

namespace Client

variable {client : Client m} {lookup : Lookup} {asked : List Exchange}

/-- A lookup does the same whether its requests are sent or first written down. -/
theorem followed_find [Monad m] [LawfulMonad m] (client : Client m) (lookup : Lookup) :
    Script.followed client.transport (client.scripted.find lookup) = client.find lookup := by
  rw [find, Script.followed_bind]
  refine congrArg _ (funext fun url => ?_)
  rw [Script.followed_bind]
  exact congr (congrArg _ (client.followed_sendUpTo _ _)) rfl

/-- The script of a lookup. -/
def findScript (client : Client m) (lookup : Lookup) : Script (Except Error String) :=
  .ofTask (client.scripted.find lookup)

theorem follow_findScript {client : Client (StateM σ)} {before after : σ}
    {found : Except Error String} (ran : (client.find lookup).runOn before = (found, after)) :
    ((client.findScript lookup).follow client.transport).run before = (found, after) := by
  rw [findScript, Script.follow_ofTask, client.followed_find, ran]

theorem finds_of_goes (addresses : client.Addresses) {found : Except Error String}
    (goes : (client.findScript lookup).Goes asked (.done found)) :
    client.Finds lookup asked found := by
  let replayed : Client (StateM (Recording (List Reply))) :=
    { client with transport := Server.replaying.recorder }
  have reaches : replayed.transport = Server.replaying.recorder := rfl
  have finds : Converses (replayed.find lookup) (client.Finds lookup) :=
    converses_find reaches addresses lookup
  rw [← replayed.followed_find] at finds
  exact Script.post_of_goes finds goes

theorem begins_of_goes (addresses : client.Addresses) {left : Script (Except Error String)}
    (goes : (client.findScript lookup).Goes asked left) : client.Begins lookup asked := by
  obtain ⟨rest, found, ends⟩ := left.exists_goes_done
  exact ⟨rest, found, finds_of_goes addresses (goes.trans ends)⟩

end Client

/-! ### Runs -/

/-- The runs of an errand. Lookups that do not need each other may take turns in any order. -/
inductive Errand.Runs (client : Client (StateM (Recording σ))) : Errand → Recording σ →
    Except Error Unit → Recording σ → Prop
  | change {mutation : Mutation} {before after : Recording σ} {result : Except Error Unit}
      (ran : (client.change mutation.method mutation.path mutation.body).runOn before =
        (result, after)) :
      Runs client (.change mutation) before result after
  | fails {lookup : Lookup} {next : String → Errand} {before after : Recording σ} {error : Error}
      (ran : (client.find lookup).runOn before = (.error error, after)) :
      Runs client (.find lookup next) before (.error error) after
  | goesOn {lookup : Lookup} {next : String → Errand} {guid : String}
      {before middle after : Recording σ} {result : Except Error Unit}
      (ran : (client.find lookup).runOn before = (.ok guid, middle))
      (later : Runs client (next guid) middle result after) :
      Runs client (.find lookup next) before result after
  | failsBoth {left right : Lookup} {next : String → String → Errand}
      {before after : Recording σ} {error : Error}
      (joins : Script.Joins client.transport (client.findScript left) (client.findScript right)
        before (.error error) after) :
      Runs client (.findBoth left right next) before (.error error) after
  | goesOnBoth {left right : Lookup} {next : String → String → Errand} {guid other : String}
      {before middle after : Recording σ} {result : Except Error Unit}
      (joins : Script.Joins client.transport (client.findScript left) (client.findScript right)
        before (.ok (guid, other)) middle)
      (later : Runs client (next guid other) middle result after) :
      Runs client (.findBoth left right next) before result after

namespace Errand

variable {client : Client (StateM (Recording σ))}

/-- One lookup after the other is one way to run an errand. -/
theorem leads_run (reaches : client.transport = server.recorder) (addresses : client.Addresses)
    (errand : Errand) (before : Recording σ) :
    (errand.run client).Leads before fun result after =>
      errand.Runs client before result after := by
  have finds (lookup : Lookup) (before : Recording σ) :=
    (client.converses_find reaches addresses lookup before).exactly
  -- By induction on the errand: each lookup is run to its end, and what it finds leads on.
  induction errand generalizing before with
  | change mutation =>
    refine (Client.converses_change reaches addresses mutation before).exactly.imp ?_
    exact fun result after ⟨ran, _⟩ => .change ran
  | find lookup next ih =>
    refine (finds lookup before).bind (fun error after ⟨ran, _⟩ => .fails ran) ?_
    intro guid middle ⟨ran, _⟩
    exact (ih guid middle).imp fun result after => .goesOn ran
  | findBoth left right next ih =>
    refine (finds left before).bind ?_ ?_
    · intro error after ⟨ran, _⟩
      exact .failsBoth (.follow_left (Client.follow_findScript ran) .failsLeft)
    · intro guid middle ⟨ranLeft, _⟩
      -- The first lookup has had all its turns when the second begins.
      refine (finds right middle).bind ?_ ?_
      · intro error after ⟨ranRight, _⟩
        exact .failsBoth (.follow_left (Client.follow_findScript ranLeft)
          (.follow_right (Client.follow_findScript ranRight) .failsRight))
      · intro other last ⟨ranRight, _⟩
        have joins := Script.Joins.follow_left (Client.follow_findScript ranLeft)
          (.follow_right (Client.follow_findScript ranRight) .both)
        exact (ih guid other last).imp fun result after => .goesOnBoth joins

/-- Questions that lead from one errand to another come before what is done of that. -/
theorem Done.after {m : Type → Type} {client : Client m} {errand next : Errand}
    {asked rest : List Exchange} {result : Except Error Unit}
    (asks : ∀ exchange ∈ asked, exchange.request.method = .get)
    (leads : ∀ more arrival, next.Arrives client more arrival →
      errand.Arrives client (asked ++ more) arrival)
    (done : next.Done client rest result) : errand.Done client (asked ++ rest) result := by
  obtain ⟨later, arrival, arrives, asksLater, ends⟩ := done
  refine ⟨asked ++ later, arrival, leads later arrival arrives,
    List.forall_mem_append.mpr ⟨asks, asksLater⟩, ?_⟩
  -- Where an errand ends does not depend on what was asked before it.
  cases arrival with
  | error error =>
    obtain ⟨rfl, rfl⟩ := ends
    exact ⟨rfl, rfl⟩
  | ok mutation =>
    obtain ⟨attempts, polls, rfl, mutates⟩ := ends
    exact ⟨attempts, polls, by simp only [List.append_assoc], mutates⟩

/-- However an errand is run, it is done as it should be, whatever the server replies. -/
theorem done_of_runs (reaches : client.transport = server.recorder)
    (addresses : client.Addresses) {errand : Errand} {before after : Recording σ}
    {result : Except Error Unit} (runs : errand.Runs client before result after) :
    ∃ exchanges, after.exchanges = before.exchanges ++ exchanges ∧
      errand.Done client exchanges result := by
  have finds (lookup : Lookup) := client.converses_find reaches addresses lookup
  -- What each lookup asks comes before what is asked and changed with its guid.
  induction runs with
  | change ran =>
    obtain ⟨_, added, attempts, polls, rfl, mutates⟩ :=
      (Client.converses_change reaches addresses _).of_runOn ran
    exact ⟨_, added, [], _, .ready, List.forall_mem_nil _, attempts, polls, rfl, mutates⟩
  | fails ran =>
    obtain ⟨asked, added, fails⟩ := (finds _).of_runOn ran
    exact ⟨asked, added, asked, _, .fails fails, fails.asks, rfl, rfl⟩
  | goesOn ran _ ih =>
    obtain ⟨asked, added, found⟩ := (finds _).of_runOn ran
    obtain ⟨rest, addedRest, done⟩ := ih
    refine ⟨asked ++ rest, ?_, done.after found.asks fun _ _ => .goesOn found⟩
    rw [addedRest, added, List.append_assoc]
  -- What fails leaves the other lookup at wherever it had come to, and both have only asked.
  | failsBoth joins =>
    rw [reaches] at joins
    obtain ⟨asked, ofLeft, ofRight, _, _, added, mixes, left, right, settle⟩ := joins.mixes
    have asks := mixes.forall_mem (Client.begins_of_goes addresses left).asks
      (Client.begins_of_goes addresses right).asks
    rcases settle with rfl | rfl
    · exact ⟨asked, added, asked, _, .failsLeft mixes (Client.finds_of_goes addresses left)
        (Client.begins_of_goes addresses right), asks, rfl, rfl⟩
    · exact ⟨asked, added, asked, _, .failsRight mixes (Client.begins_of_goes addresses left)
        (Client.finds_of_goes addresses right), asks, rfl, rfl⟩
  -- Both lookups have ended, with all questions of the one among those of the other.
  | goesOnBoth joins _ ih =>
    rw [reaches] at joins
    obtain ⟨asked, ofLeft, ofRight, _, _, added, mixes, left, right, rfl, rfl⟩ := joins.mixes
    obtain ⟨rest, addedRest, done⟩ := ih
    have findsLeft := Client.finds_of_goes addresses left
    have findsRight := Client.finds_of_goes addresses right
    refine ⟨asked ++ rest, ?_, done.after (mixes.forall_mem findsLeft.asks findsRight.asks)
      fun _ _ => .goesOnBoth mixes findsLeft findsRight⟩
    rw [addedRest, added, List.append_assoc]

theorem converses_run (reaches : client.transport = server.recorder)
    (addresses : client.Addresses) (errand : Errand) :
    Converses (errand.run client) (errand.Done client) := fun before =>
  (leads_run reaches addresses errand before).imp fun _ _ => done_of_runs reaches addresses

end Errand

/-- What creating an application comes to: the manifest is sent, and what it has no place for is
kept where that succeeds and there is anything to keep. -/
def SpaceClient.Creates (client : SpaceClient m) (name : String) (app : Application)
    (password : Option String) (exchanges : List Exchange) (result : Except Error Unit) : Prop :=
  ∃ attempts polls created rest, exchanges = attempts ++ polls ++ rest ∧
    client.Mutates (creation client.space name app password) attempts polls created ∧
    ((rest = [] ∧ result = created ∧
        ((∃ error, created = .error error) ∨ (annotations app).isEmpty = true)) ∨
      (created = .ok () ∧ (annotations app).isEmpty = false ∧
        (annotating client.space name app).Done client.toClient rest result))

/-- A client that sends its requests to a server, and for which every path has an address. -/
structure SpaceClient.Ready (client : SpaceClient (StateM (Recording σ))) (server : Server σ) :
    Prop where
  reaches : client.transport = server.recorder
  addresses : client.Addresses

namespace SpaceClient

variable {client : SpaceClient (StateM (Recording σ))}

theorem converses_createApplication (ready : client.Ready server) (name : String)
    (app : Application) :
    Converses (client.createApplication name app) fun exchanges result =>
      match client.environment.dockerPassword app.manifest with
      | .error error => exchanges = [] ∧ result = .error error
      | .ok password => client.Creates name app password exchanges result := by
  rw [createApplication]
  cases known : client.environment.dockerPassword app.manifest with
  | error error =>
    -- Without the password nothing was sent yet.
    exact .bind_thrown rfl ⟨rfl, rfl⟩
  | ok password =>
    have changed := Client.converses_change ready.reaches ready.addresses
      (creation client.space name app password)
    -- Only a manifest that was applied, with its work done, leads on to the annotations.
    refine .bind_lift rfl (changed.bind ?_ ?_)
    · rintro _ error ⟨attempts, polls, rfl, mutates⟩
      exact ⟨attempts, polls, .error error, [], by rw [List.append_nil], mutates,
        .inl ⟨rfl, rfl, .inl ⟨error, rfl⟩⟩⟩
    · rintro _ _ ⟨attempts, polls, rfl, mutates⟩
      rw [annotate_eq]
      split
      next nothing =>
        exact .pure ⟨attempts, polls, .ok (), [], rfl, mutates, .inl ⟨rfl, rfl, .inr nothing⟩⟩
      next something =>
        have kept := Errand.converses_run ready.reaches ready.addresses
          (annotating client.space name app)
        exact kept.imp fun rest result done => ⟨attempts, polls, .ok (), rest, rfl, mutates,
          .inr ⟨rfl, Bool.eq_false_iff.mpr something, done⟩⟩

end SpaceClient

/-! ### Connecting -/

/-- Only a client that has addresses for all paths gets anything. -/
theorem Client.Gets.addresses {m : Type → Type} {client : Client m} {α : Type}
    {reader : Reader α} {path : String} {fields : List (String × String)}
    {asked : List Exchange} {found : α} (gets : client.Gets reader path fields asked (.ok found)) :
    client.Addresses := by
  obtain ⟨_, _, _, same⟩ | ⟨url, _, address, _, _⟩ := gets
  · cases same
  · exact .of_urlOf address

theorem Client.converses_findOne {client : Client (StateM (Recording σ))}
    (reaches : client.transport = server.recorder) {α : Type} (reader : Reader α)
    (path : String) (fields : List (String × String)) (resource name : String) :
    Converses (client.findOne reader path fields resource name) fun _ result =>
      ∀ found, result = .ok found → client.Addresses := by
  refine (converses_gets reaches _ path _).bind ?_ ?_
  · intro _ error _ found same
    cases same
  · intro _ listing gets
    cases listing.resources with
    | cons first rest => exact .pure fun _ _ => gets.addresses
    | nil =>
      refine .throw fun found same => ?_
      cases same

theorem leads_connect_ready (server : Server σ) (environment : Environment) (target : Target)
    (token : String) (before : Recording σ) :
    (connect server.recorder environment target token).Leads before fun result _ =>
      ∀ client, result = .ok client → client.Ready server := by
  rw [connect]
  cases Url.parse? target.api with
  | none => exact Task.leads_throw fun _ same => nomatch same
  | some base =>
    let client : Client (StateM (Recording σ)) :=
      { transport := server.recorder, base, token, environment }
    have reaches : client.transport = server.recorder := rfl
    have finds := Client.converses_findOne reaches NamedResource.reader
    refine (finds _ _ _ _ before).bind (fun _ _ _ _ same => nomatch same) ?_
    -- The organization was found, so that from now on there is an address for every path.
    rintro organization middle ⟨_, _, addresses⟩
    refine (finds _ _ _ _ middle).bind (fun _ _ _ _ same => nomatch same) ?_
    intro space after _
    refine Task.leads_pure ?_
    rintro _ ⟨⟩
    exact ⟨rfl, addresses organization rfl⟩

/-- What a call comes to: creating an application may stop for want of a password, and every other
call is an errand. -/
def SpaceClient.Performs (client : SpaceClient m) (call : Call) (exchanges : List Exchange)
    (result : Except Error Unit) : Prop :=
  match call with
  | .createApplication name app =>
    match client.environment.dockerPassword app.manifest with
    | .error error => exchanges = [] ∧ result = .error error
    | .ok password => client.Creates name app password exchanges result
  | call => ∃ errand, errand? client.space call = some errand ∧
    errand.Done client.toClient exchanges result

/-- The ways to make a call. Whatever becomes of them, there is nothing at the same time when an
application is created. -/
def SpaceClient.Runs (client : SpaceClient (StateM (Recording σ))) (call : Call)
    (before : Recording σ) (result : Except Error Unit) (after : Recording σ) : Prop :=
  match call with
  | .createApplication name app =>
    (client.createApplication name app).runOn before = (result, after)
  | call => ∃ errand, errand? client.space call = some errand ∧
    errand.Runs client.toClient before result after

/-- Whatever a server replies, a call changes only what its lookups lead to, and so it does if
lookups that do not need each other take turns in another order. -/
theorem mutates_what_is_found (server : Server σ) :
    (∀ environment target token before,
      (connect server.recorder environment target token).Leads before fun result _ =>
        ∀ client, result = .ok client → client.Ready server) ∧
    ∀ client : SpaceClient (StateM (Recording σ)), client.Ready server → ∀ call before,
      client.Runs call before ((client.perform call).runOn before).1
        ((client.perform call).runOn before).2 ∧
      ∀ result after, client.Runs call before result after →
        ∃ exchanges, after.exchanges = before.exchanges ++ exchanges ∧
          client.Performs call exchanges result := by
  refine ⟨leads_connect_ready server, fun client ready call before => ?_⟩
  -- Every call but one is an errand, so that what is known of errands is all that is needed.
  have runs {call : Call} {errand : Errand} (isErrand : errand? client.space call = some errand) :
      errand.Runs client.toClient before ((client.perform call).runOn before).1
        ((client.perform call).runOn before).2 := by
    rw [SpaceClient.perform_eq_run client isErrand]
    exact (Errand.leads_run ready.reaches ready.addresses errand before).runOn
  have done {call : Call} {result : Except Error Unit} {after : Recording σ} :
      (∃ errand, errand? client.space call = some errand ∧
        errand.Runs client.toClient before result after) →
      ∃ exchanges, after.exchanges = before.exchanges ++ exchanges ∧
        ∃ errand, errand? client.space call = some errand ∧
          errand.Done client.toClient exchanges result := by
    rintro ⟨errand, isErrand, runs⟩
    obtain ⟨exchanges, added, done⟩ := Errand.done_of_runs ready.reaches ready.addresses runs
    exact ⟨exchanges, added, errand, isErrand, done⟩
  cases call with
  | createApplication name app =>
    exact ⟨rfl, fun _ _ => (client.converses_createApplication ready name app).of_runOn⟩
  | _ => exact ⟨⟨_, rfl, runs rfl⟩, fun _ _ => done⟩

end

/-! ### A server with one listing -/

/-- A server that answers every question with the same text, and takes every mutation. -/
def Server.ofListing (listing : String) : Server Unit where
  reply request _ := (.response 200 none none (if request.method = .get then listing else ""), ())
  pass _ _ := ()

def Server.recordedClient {σ : Type} (server : Server σ) : SpaceClient (StateM (Recording σ)) where
  transport := server.recorder
  base := { scheme := "http", host := some "localhost", place := .names [] }
  token := "token"
  environment := ∅
  space := "space"

/-- A binding is made for the first application and the first service that are found, in whichever
order they are asked for, and none is made without an application. -/
theorem mutates_what_is_found_first :
    let found :=
      "\x7b\"guid\":\"1\",\"name\":\"a\"\x7d,\x7b\"guid\":\"2\",\"name\":\"b\"\x7d"
    let full := Server.ofListing ("\x7b\"resources\":[" ++ found ++ "]\x7d")
    let empty := Server.ofListing "\x7b\"resources\":[]\x7d"
    let call : Call := .bindService "web" "db"
    let sent (after : Recording Unit) := after.exchanges.map fun exchange =>
      (exchange.request.method, exchange.request.url.target)
    let app := (Method.get, "/v3/apps?names=web&space_guids=space&per_page=5000")
    let service :=
      (Method.get, "/v3/service_instances?names=db&space_guids=space&per_page=5000")
    let binding := (Method.post, "/v3/service_credential_bindings")
    let missing : Except Error Unit := .error (.platform (.notFound "application" "web"))
    let comesTo (server : Server Unit) (result : Except Error Unit) (requests : List _) :=
      ∃ after, server.recordedClient.Runs call { state := () } result after ∧
        sent after = requests ∧ server.recordedClient.Performs call after.exchanges result
    comesTo full (.ok ()) [app, service, binding] ∧
      comesTo full (.ok ()) [service, app, binding] ∧ comesTo empty missing [app] := by
  intro found full empty call sent app service binding missing comesTo
  let before : Recording Unit := { state := () }
  have ready (server : Server Unit) : server.recordedClient.Ready server := ⟨rfl, [], rfl⟩
  have general (server : Server Unit) :=
    (mutates_what_is_found server).2 server.recordedClient (ready server) call before
  -- What the requests are is computed, and that they are rightly so is what the theorem says.
  have comes {server : Server Unit} {result : Except Error Unit} {after : Recording Unit}
      {requests : List _} (runs : server.recordedClient.Runs call before result after)
      (requested : sent after = requests) : comesTo server result requests := by
    obtain ⟨exchanges, added, performs⟩ := (general server).2 result after runs
    obtain rfl : after.exchanges = exchanges := added
    exact ⟨after, runs, requested, performs⟩
  have inOrder {server : Server Unit} {result : Except Error Unit} {requests : List _}
      (same : ((server.recordedClient.perform call).runOn before).1 = result)
      (requested : sent ((server.recordedClient.perform call).runOn before).2 = requests) :
      comesTo server result requests := comes (same ▸ (general server).1) requested
  refine ⟨inOrder (by decide +kernel) (by decide +kernel), ?_,
    inOrder (by decide +kernel) (by decide +kernel)⟩
  -- The service is asked for first, and then the application.
  let client := full.recordedClient.toClient
  let middle := ((client.find (.service "space" "db")).runOn before).2
  let last := ((client.find (.app "space" "web")).runOn middle).2
  have service : (client.find (.service "space" "db")).runOn before = (.ok "1", middle) :=
    Prod.ext (by decide +kernel) rfl
  have app : (client.find (.app "space" "web")).runOn middle = (.ok "1", last) :=
    Prod.ext (by decide +kernel) rfl
  have joins := Script.Joins.follow_right (Client.follow_findScript service)
    (Script.Joins.follow_left (Client.follow_findScript app) .both)
  refine comes ⟨_, rfl, .goesOnBoth joins (.change (Prod.ext ?_ rfl))⟩ ?_
  · decide +kernel
  · decide +kernel

end CloudSpace.Cloud
