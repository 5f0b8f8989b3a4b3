import CloudSpace.Record.Space

/-!
# Errors

Everything that can go wrong between a document and the platform, by cause, with the one place
where each is put into words.
-/
namespace CloudSpace

/-- A document, or what is needed beside it, cannot be used. -/
inductive ConfigError
  | fileNotFound (path : String)
  | unreadable (message : String) (location : Option String)
  | invalid (message : String) (field : Option String)
  | missingVariable (name : String)
  | missingTarget
deriving DecidableEq, Repr

/-- A list of changes cannot be turned into calls. -/
inductive PlanError
  | precondition (message : String)
  | invariant (kind : EntityKind) (entity message : String)
  | unsupported (kind : EntityKind) (entity change : String)
deriving DecidableEq, Repr

/-- The platform did not do what it was asked. -/
inductive PlatformError
  | authentication (message : String)
  | request (status : Nat) (message : String)
  | rateLimited (seconds : Nat)
  | notFound (resource name : String)
  | alreadyExists (resource name : String)
  | network (message : String)
  | invalidResponse (message : String)
deriving DecidableEq, Repr

inductive Error
  | config (cause : ConfigError)
  | platform (cause : PlatformError)
  | plan (cause : PlanError)
  /-- A call for one entity failed. -/
  | apply (kind : EntityKind) (entity : String) (source : Error)
  /-- The live entities of one kind could not be fetched. -/
  | fetch (kind : EntityKind) (source : Error)
  | inputOutput (message : String)
  | internal (message : String)
deriving DecidableEq, Repr

/-! ### Wording -/

def ConfigError.message : ConfigError → String
  | .fileNotFound path => s!"Configuration file not found: {path}"
  | .unreadable message _ => s!"Failed to parse configuration: {message}"
  | .invalid message _ => s!"Configuration validation failed: {message}"
  | .missingVariable name => s!"Missing environment variable: {name}"
  | .missingTarget =>
    "No target configured: set 'target' in the document or CFCONVERGE_API/ORGANIZATION/SPACE"

def PlanError.message : PlanError → String
  | .precondition message => s!"Precondition violated: {message}"
  | .invariant kind entity message => s!"Invalid change set for {kind} '{entity}': {message}"
  | .unsupported kind entity change =>
    s!"Change type is not supported. ({kind} '{entity}': {change})"

def PlatformError.message : PlatformError → String
  | .authentication message => s!"Platform authentication failed: {message}"
  | .request status message => s!"Platform API request failed: {status} - {message}"
  | .rateLimited seconds => s!"Platform API rate limited, retry after {seconds} seconds"
  | .notFound resource name => s!"{resource} not found: {name}"
  | .alreadyExists resource name => s!"{resource} already exists: {name}"
  | .network message => s!"Network error communicating with the platform: {message}"
  | .invalidResponse message => s!"Invalid response from platform API: {message}"

namespace Error

/-- The whole wording of an error. -/
def message : Error → String
  | config cause => s!"Configuration error: {cause.message}"
  | platform cause => s!"Platform error: {cause.message}"
  | plan cause => s!"Planning error: {cause.message}"
  | apply kind entity source =>
    s!"Reconciliation error: Apply failed for {kind} '{entity}': {source.message}"
  | fetch kind source => s!"Reconciliation error: Failed to fetch live {kind}: {source.message}"
  | inputOutput text => s!"IO error: {text}"
  | internal text => s!"Internal error: {text}"

/-- The wordings of the causes of an error, outermost first. -/
def sources : Error → List String
  | config cause => [cause.message]
  | platform cause => [cause.message]
  | plan cause => [cause.message]
  | apply kind entity source =>
    s!"Apply failed for {kind} '{entity}': {source.message}" :: source.message :: source.sources
  | fetch kind source =>
    s!"Failed to fetch live {kind}: {source.message}" :: source.message :: source.sources
  | inputOutput text => [text]
  | internal _ => []

/-! ### Kinds of error -/

/-- Whether the same request may succeed a little later. -/
def isRetryable : Error → Bool
  | platform (.rateLimited _) => true
  | platform (.network _) => true
  | _ => false

/-- How many seconds to wait before the next attempt, if there may be one. -/
def retryDelay? : Error → Option Nat
  | platform (.rateLimited seconds) => some seconds
  | platform (.network _) => some 1
  | _ => none

/-- Whether an error arose before any call was made. -/
def isPlanning : Error → Bool
  | plan _ => true
  | _ => false

end Error

end CloudSpace
