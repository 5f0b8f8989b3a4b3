import CloudSpace.Cloud.Request
import CloudSpace.Cloud.Resource
import CloudSpace.Environment
import CloudSpace.Platform.Basic

/-!
# Clients

A client asks a platform on behalf of someone with a token. A request that might succeed a little
later is sent again, three times in all. A request that changes something may be answered before
the work is done; the client then asks for the state of the work until it is finished.
-/
namespace CloudSpace.Cloud

/-- An answer that reports no error. -/
structure Answer where
  body : String
  location : Option String
deriving DecidableEq, Repr

/-! ### Replies -/

/-- The seconds to wait that a reply gives, or a minute. -/
def secondsOf (retryAfter : Option String) : Nat :=
  let digits := match (retryAfter.getD "").toList with
    | '+' :: rest => rest
    | text => text
  let seconds :=
    if digits.all Char.isDigit then digits.foldl (fun n c => n * 10 + (c.toNat - 48)) 0 else 0
  if seconds = 0 || wordSize 64 ≤ seconds then 60 else seconds

/-- What a reply means. -/
def Reply.outcome : Reply → Except Error Answer
  | .failure reason => .error (.platform (.network s!"Request failed: {reason}"))
  | .response status retryAfter location body =>
    if status = 429 then .error (.platform (.rateLimited (secondsOf retryAfter)))
    else if status = 401 ∨ status = 403 then
      .error (.platform (.authentication "Invalid or expired access token"))
    else if 200 ≤ status ∧ status < 300 then .ok { body, location }
    else .error (.platform (.request status (errorMessage body)))

/-! ### Clients -/

structure Client (m : Type → Type) where
  transport : Transport m
  base : Url
  token : String
  environment : Environment

/-- How often a request is sent at most. -/
def greatestAttempts : Nat := 3

/-- How often the state of work is asked for at most. -/
def greatestPolls : Nat := 120

/-- The milliseconds between two polls, and the unit of the pauses between two attempts. -/
def pauseUnit : Nat := 1000

namespace Client

variable {m : Type → Type} [Monad m]

/-- Send a request, and send it again up to a number of times while that may help. -/
def sendUpTo (client : Client m) (request : Request) : Nat → Task m Answer
  | 0 => do
    match (← Task.act (client.transport.send request)).outcome with
    | .ok answer => return answer
    | .error error => throw error
  | left + 1 => do
    match (← Task.act (client.transport.send request)).outcome with
    | .ok answer => return answer
    | .error error =>
      -- A limit or a lost connection may pass; any other refusal stands.
      if error.isRetryable then
        -- The pause grows by one unit with each attempt.
        Task.act (client.transport.wait (pauseUnit * (greatestAttempts - 1 - left)))
        client.sendUpTo request left
      else throw error

/-- Send a request as often as may help. -/
def execute (client : Client m) (method : Method) (url : Url) (body : Option Body := none) :
    Task m Answer :=
  client.sendUpTo { method, url, token := client.token, body } (greatestAttempts - 1)

/-- The address of a path on the platform. -/
def urlOf (client : Client m) (path : String) (fields : List (String × String)) :
    Except Error Url :=
  match client.base.join? path with
  | some url => .ok (url.withFields fields)
  | none => .error (.internal
      s!"Invalid request path {path}: relative URL with a cannot-be-a-base base")

/-- Ask for something. -/
def get {α : Type} (client : Client m) (reader : Reader α) (path : String)
    (fields : List (String × String)) : Task m α := do
  let url ← client.urlOf path fields
  let answer ← client.execute .get url
  match reader.parse? answer.body with
  | some result => return result
  | none => throw (.platform (.invalidResponse
      s!"Failed to parse response of {path}: unexpected content"))

/-- Ask for resources, as many in one answer as the platform gives. -/
def list {α : Type} (client : Client m) (reader : Reader α) (path : String)
    (fields : List (String × String)) : Task m (Listing α) :=
  client.get (Listing.reader reader) path (fields ++ [("per_page", "5000")])

/-- Ask for the first of some resources. -/
def findOne {α : Type} (client : Client m) (reader : Reader α) (path : String)
    (fields : List (String × String)) (resource name : String) : Task m α := do
  match (← client.list reader path fields).resources with
  | first :: _ => return first
  | [] => throw (.platform (.notFound resource name))

/-! ### Work that goes on -/

/-- The errors of work that failed. -/
def jobFailure (errors : List ApiError) : Error :=
  .platform (.request 422 ("Job failed: " ++ "; ".intercalate (errors.map ApiError.detail)))

/-- Ask for the state of work until it is finished, up to a number of times. -/
def poll (client : Client m) (location : String) (url : Url) : Nat → Task m Unit
  | 0 => throw (.platform (.network s!"Job {location} did not finish in time"))
  | left + 1 => do
    let answer ← client.execute .get url
    match Job.reader.parse? answer.body with
    | none => throw (.platform (.invalidResponse "Failed to parse job: unexpected content"))
    | some job =>
      if job.state = "COMPLETE" then return
      else if job.state = "FAILED" then throw (jobFailure job.errors)
      else
        Task.act (client.transport.wait pauseUnit)
        client.poll location url left

/-- Wait for the work that a location leads to. -/
def waitFor (client : Client m) (location : String) : Task m Unit :=
  match Url.parse? location with
  | some url => client.poll location url greatestPolls
  | none => throw (.platform (.invalidResponse
      s!"Invalid job location {location}: not an address"))

/-- Whether a location leads to the state of work. -/
def isJob (location : String) : Bool := location.contains "/v3/jobs/"

/-- Have something changed, and wait until it is. -/
def change (client : Client m) (method : Method) (path : String) (body : Option Body := none) :
    Task m Unit := do
  let url ← client.urlOf path []
  let answer ← client.execute method url body
  match answer.location with
  -- Any other location is that of a thing which exists by now.
  | some location => if isJob location then client.waitFor location else return
  | none => return

end Client

end CloudSpace.Cloud
