import CloudSpace.Proofs.Cloud.Exchange

/-!
# Mutations

A mutation is a request that changes something. It is sent as one request, again only after an
error that may pass, and the work it starts is waited for by asking. Whatever the server replies,
nothing else is sent, and the mutation succeeds only if the request and the work do.
-/
namespace CloudSpace.Cloud

/-- What a client has changed. -/
structure Mutation where
  method : Method
  path : String
  body : Option Body := none
  mutates : method ≠ .get := by decide

namespace Client

variable {m : Type → Type}

/-- A request that asks for what is at an address. -/
def question (client : Client m) (url : Url) : Request :=
  { method := .get, url, token := client.token }

/-- A request for a mutation at an address. -/
def demand (client : Client m) (mutation : Mutation) (url : Url) : Request :=
  { method := mutation.method, url, token := client.token, body := mutation.body }

/-- A client for whose platform every path has an address. -/
def Addresses (client : Client m) : Prop := ∃ names, client.base.place = .names names

theorem Addresses.urlOf {client : Client m} (addresses : client.Addresses) (path : String)
    (fields : List (String × String)) : ∃ url, client.urlOf path fields = .ok url := by
  obtain ⟨names, same⟩ := addresses
  exact ⟨_, by rw [Client.urlOf, Url.join?, same]⟩

/-- What has one address has all of them, since only an opaque base has none. -/
theorem Addresses.of_urlOf {client : Client m} {path : String} {fields : List (String × String)}
    {url : Url} (address : client.urlOf path fields = .ok url) : client.Addresses := by
  cases place : client.base.place with
  | names names => exact ⟨names, place⟩
  | opaqueText text =>
    rw [Client.urlOf, Url.join?, place] at address
    cases address

/-! ### Waiting for work -/

/-- The end of some work, if an answer about its state says that there is one. -/
def jobResult? (body : String) : Option (Except Error Unit) :=
  match Job.reader.parse? body with
  | none => some (.error (.platform (.invalidResponse "Failed to parse job: unexpected content")))
  | some job =>
    if job.state = "COMPLETE" then some (.ok ())
    else if job.state = "FAILED" then some (.error (jobFailure job.errors))
    else none

/-- What comes of asking for the state of work up to a number of times: the first answer that
tells an end counts, or the first question without an answer. -/
inductive Polls (client : Client m) (location : String) (url : Url) :
    Nat → List Exchange → Except Error Unit → Prop
  | late : Polls client location url 0 []
      (.error (.platform (.network s!"Job {location} did not finish in time")))
  | failed {left : Nat} {asked : List Exchange} {error : Error}
      (attempts : Attempts (client.question url) (greatestAttempts - 1) asked (.error error)) :
      Polls client location url (left + 1) asked (.error error)
  | ended {left : Nat} {asked : List Exchange} {answer : Answer} {result : Except Error Unit}
      (attempts : Attempts (client.question url) (greatestAttempts - 1) asked (.ok answer))
      (ends : jobResult? answer.body = some result) :
      Polls client location url (left + 1) asked result
  | again {left : Nat} {asked rest : List Exchange} {answer : Answer}
      {result : Except Error Unit}
      (attempts : Attempts (client.question url) (greatestAttempts - 1) asked (.ok answer))
      (goesOn : jobResult? answer.body = none)
      (later : Polls client location url left rest result) :
      Polls client location url (left + 1) (asked ++ rest) result

/-- What comes of sending a request with a change, which is possible if the path has an address. -/
inductive Submits (client : Client m) (method : Method) (path : String) (body : Option Body) :
    List Exchange → Except Error Answer → Prop
  | sent {url : Url} {attempts : List Exchange} {outcome : Except Error Answer}
      (address : client.urlOf path [] = .ok url)
      (sent : Attempts { method, url, token := client.token, body } (greatestAttempts - 1)
        attempts outcome) :
      Submits client method path body attempts outcome
  | nowhere {error : Error} (nowhere : client.urlOf path [] = .error error) :
      Submits client method path body [] (.error error)

/-- How a client goes on after a mutation was sent. -/
inductive Awaits (client : Client m) : Except Error Answer → List Exchange →
    Except Error Unit → Prop
  | failed {error : Error} : Awaits client (.error error) [] (.error error)
  | done {answer : Answer}
      (noJob : ∀ location, answer.location = some location → isJob location = false) :
      Awaits client (.ok answer) [] (.ok ())
  | lost {answer : Answer} {location : String} (located : answer.location = some location)
      (job : isJob location = true) (nowhere : Url.parse? location = none) :
      Awaits client (.ok answer) [] (.error (.platform (.invalidResponse
        s!"Invalid job location {location}: not an address")))
  | polled {answer : Answer} {location : String} {url : Url} {asked : List Exchange}
      {result : Except Error Unit} (located : answer.location = some location)
      (job : isJob location = true) (address : Url.parse? location = some url)
      (polls : Polls client location url greatestPolls asked result) :
      Awaits client (.ok answer) asked result

/-- A mutation is one request that is sent up to three times, and all that follows it are
questions. -/
structure Mutates (client : Client m) (mutation : Mutation) (attempts polls : List Exchange)
    (result : Except Error Unit) : Prop where
  demands : ∃ url outcome, client.urlOf mutation.path [] = .ok url ∧
    (∀ attempt ∈ attempts, attempt.request = client.demand mutation url) ∧
    Attempts (client.demand mutation url) (greatestAttempts - 1) attempts outcome ∧
    client.Awaits outcome polls result
  once : 0 < attempts.length ∧ attempts.length ≤ greatestAttempts
  asks : ∀ poll ∈ polls, poll.request.method = .get

section

variable {client : Client m} {location : String} {url : Url} {asked : List Exchange}
  {result : Except Error Unit}

theorem Polls.asks {left : Nat} (polls : client.Polls location url left asked result) :
    ∀ poll ∈ asked, poll.request.method = .get := by
  have questions {asked : List Exchange} {outcome : Except Error Answer}
      (attempts : Attempts (client.question url) (greatestAttempts - 1) asked outcome) :
      ∀ poll ∈ asked, poll.request.method = .get := fun poll member => by
    rw [attempts.requests poll member]
    rfl
  induction polls with
  | late => exact List.forall_mem_nil _
  | failed attempts => exact questions attempts
  | ended attempts => exact questions attempts
  | again attempts _ _ ih => exact List.forall_mem_append.mpr ⟨questions attempts, ih⟩

theorem Awaits.asks {outcome : Except Error Answer} (awaits : client.Awaits outcome asked result) :
    ∀ poll ∈ asked, poll.request.method = .get := by
  cases awaits with
  | polled _ _ _ polls => exact polls.asks
  | _ => exact List.forall_mem_nil _

end

/-! ### Conversations -/

variable {σ : Type} {server : Server σ} {client : Client (StateM (Recording σ))}

section

variable (reaches : client.transport = server.recorder)

include reaches

theorem converses_execute (method : Method) (url : Url) (body : Option Body) :
    Converses (client.execute method url body)
      (Attempts { method, url, token := client.token, body } (greatestAttempts - 1)) :=
  converses_sendUpTo reaches _ _

theorem converses_poll (location : String) (url : Url) (times : Nat) :
    Converses (client.poll location url times) (client.Polls location url times) := by
  -- An answer without an end leads to one question less, so that the polls of the rest follow.
  induction times with
  | zero => exact .throw .late
  | succ left again =>
    refine (converses_execute reaches .get url none).bind (fun _ _ => .failed) ?_
    intro asked answer attempts
    have ends {result : Except Error Unit} (ends : jobResult? answer.body = some result) :
        client.Polls location url (left + 1) (asked ++ []) result := by
      rw [List.append_nil]
      exact .ended attempts ends
    cases read : Job.reader.parse? answer.body with
    | none => exact .throw (ends (by rw [jobResult?, read]))
    | some job =>
      dsimp only
      split
      next complete => exact .pure (ends (by simp [jobResult?, read, complete]))
      next running =>
        split
        next failed => exact .throw (ends (by simp [jobResult?, read, failed]))
        next unfinished =>
          have goesOn : jobResult? answer.body = none := by
            simp [jobResult?, read, running, unfinished]
          refine (converses_wait reaches _).bind (fun _ _ ⟨same, _⟩ => nomatch same) ?_
          rintro _ _ ⟨-, rfl⟩
          exact again.imp fun _ _ later => .again attempts goesOn later

/-- What follows an answer is waiting for the work that it leads to, if it leads to any. -/
theorem converses_await (answer : Answer) :
    Converses (match answer.location with
      | some location => if isJob location then client.waitFor location else pure ()
      | none => pure ()) (client.Awaits (.ok answer)) := by
  cases located : answer.location with
  | none => exact .pure (.done fun _ other => nomatch located.symm.trans other)
  | some location =>
    dsimp only
    split
    next job =>
      rw [waitFor]
      -- A location that is no address ends it here, before anything is asked.
      cases address : Url.parse? location with
      | none => exact .throw (.lost located job address)
      | some url =>
        exact (converses_poll reaches location url greatestPolls).imp fun _ _ =>
          .polled located job address
    next noJob =>
      refine .pure (.done fun other same => ?_)
      cases located.symm.trans same
      exact Bool.eq_false_iff.mpr noJob

/-- Whatever a server replies, a change is one request and what follows from its outcome. -/
theorem converses_submission (method : Method) (path : String) (body : Option Body) :
    Converses (client.change method path body) fun exchanges result =>
      ∃ attempts outcome asked, exchanges = attempts ++ asked ∧
        client.Submits method path body attempts outcome ∧
        client.Awaits outcome asked result := by
  cases address : client.urlOf path [] with
  | error error => exact .bind_thrown address ⟨[], _, [], rfl, .nowhere address, .failed⟩
  | ok url =>
    refine .bind_lift address ((converses_execute reaches method url body).bind ?_ ?_)
    · intro attempts error sent
      exact ⟨attempts, _, [], (List.append_nil _).symm, .sent address sent, .failed⟩
    · intro attempts answer sent
      exact (converses_await reaches answer).imp fun asked result awaits =>
        ⟨attempts, _, asked, rfl, .sent address sent, awaits⟩

/-- Whatever a server replies, a mutation is one request and questions about what it started. -/
theorem converses_change (addresses : client.Addresses) (mutation : Mutation) :
    Converses (client.change mutation.method mutation.path mutation.body)
      fun exchanges result => ∃ attempts polls, exchanges = attempts ++ polls ∧
        client.Mutates mutation attempts polls result := by
  refine (converses_submission reaches _ _ _).imp ?_
  rintro _ result ⟨attempts, outcome, polls, rfl, submits, awaits⟩
  refine ⟨attempts, polls, rfl, ?_⟩
  cases submits with
  | sent address sent =>
    exact ⟨⟨_, outcome, address, sent.requests, sent, awaits⟩, sent.length, awaits.asks⟩
  | nowhere nowhere =>
    obtain ⟨url, address⟩ := addresses.urlOf mutation.path []
    exact nomatch address.symm.trans nowhere

end

end Client

end CloudSpace.Cloud
