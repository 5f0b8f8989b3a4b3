import CloudSpace.Error
import CloudSpace.Url.Basic

/-!
# Requests

What is sent to a platform and what may come back. A platform that is reached answers with a
status and a text; one that is not reached does not answer at all. What sends requests is left
open.
-/
namespace CloudSpace.Cloud

inductive Method
  | get | post | patch | delete
deriving DecidableEq, Repr

def Method.name : Method → String
  | get => "GET"
  | post => "POST"
  | patch => "PATCH"
  | delete => "DELETE"

inductive Body
  | json (value : Value)
  | yaml (content : String)
deriving BEq, Repr

def Body.contentType : Body → String
  | json _ => "application/json"
  | yaml _ => "application/x-yaml"

def Body.text : Body → String
  | json value => Json.compact value
  | yaml content => content

structure Request where
  method : Method
  url : Url
  /-- The token that says who asks. -/
  token : String
  body : Option Body := none
deriving BEq, Repr

/-- What comes of sending a request once. The sender follows redirects of its own accord: a response
is the one at the last address, and too many redirects are a failure. -/
inductive Reply
  | response (status : Nat) (retryAfter location : Option String) (body : String)
  /-- There was no response. -/
  | failure (reason : String)
deriving DecidableEq, Repr, Inhabited

/-- A way to send requests. -/
structure Transport (m : Type → Type) where
  send : Request → m Reply
  /-- Let a number of milliseconds pass. -/
  wait : Nat → m Unit

end CloudSpace.Cloud
