import CloudSpace.Error
import CloudSpace.Record.Document
import CloudSpace.Text.Character

/-!
# Validation

What makes a document unusable, and what makes it suspicious. A problem is one rule that is
broken at one place; problems are listed by section, and within a section by position or name.
Cautions never make a document invalid.
-/
namespace CloudSpace

/-- A rule that a document breaks. -/
inductive Problem
  | blankTargetField (field : String)
  | blankDeveloper (index : Nat)
  | badServiceName (name : String)
  | blankOffering (service : String)
  | blankPlan (service : String)
  | badApplicationName (name : String)
  | zeroSetting (application setting : String)
deriving DecidableEq, Repr

/-- Something in a document that will have no effect. -/
inductive Caution
  | repeatedDeveloper (index : Nat) (name : String)
  | unusedEndpoint (application : String)
  | undeclaredService (application : String) (index : Nat) (service : String)
  | nothingManaged
deriving DecidableEq, Repr

namespace Problem

/-- The place in the document. -/
def field : Problem → String
  | blankTargetField field => s!"target.{field}"
  | blankDeveloper index => s!"spec.spaceDevelopers[{index}]"
  | badServiceName name => s!"spec.services.{name}"
  | blankOffering service => s!"spec.services.{service}.service"
  | blankPlan service => s!"spec.services.{service}.plan"
  | badApplicationName name => s!"spec.apps.{name}"
  | zeroSetting application setting => s!"spec.apps.{application}.manifest.{setting}"

def badNameMessage (name : String) : String :=
  s!"Name '{name}' is invalid. Must be non-empty without whitespace."

def message : Problem → String
  | blankTargetField field => s!"target.{field} cannot be empty"
  | blankDeveloper _ => "Space developer name cannot be empty"
  | badServiceName name => badNameMessage name
  | blankOffering service => s!"Service '{service}' has no service offering"
  | blankPlan service => s!"Service '{service}' has no plan"
  | badApplicationName name => badNameMessage name
  | zeroSetting _ setting => s!"{setting} must be greater than zero"

/-- The place and the message together. -/
def text (problem : Problem) : String := s!"{problem.field}: {problem.message}"

/-- The error a document with this problem is refused by. -/
def toError (problem : Problem) : Error :=
  .config (.invalid problem.message (some problem.field))

end Problem

def Caution.text : Caution → String
  | repeatedDeveloper index name =>
    s!"spec.spaceDevelopers[{index}]: '{name}' is listed more than once"
  | unusedEndpoint application =>
    s!"spec.apps.{application}.manifest.healthCheckHttpEndpoint: " ++
      "ignored unless healthCheckType is http"
  | undeclaredService application index service =>
    s!"spec.apps.{application}.manifest.services[{index}]: " ++
      s!"'{service}' is not declared in spec.services"
  | nothingManaged => "spec: no section present, nothing will be reconciled"

/-- Names of entities have characters, and none of them is blank. -/
def isUsableName (name : String) : Bool :=
  !name.isEmpty && !name.toList.any Text.isBlank

/-- A single entry if a condition holds. -/
def listIf {α : Type} (condition : Bool) (entry : α) : List α :=
  if condition then [entry] else []

/-! ### Problems -/

def Target.problems (target : Target) : List Problem :=
  listIf (Text.isBlankText target.api) (.blankTargetField "api") ++
  listIf (Text.isBlankText target.organization) (.blankTargetField "organization") ++
  listIf (Text.isBlankText target.space) (.blankTargetField "space")

def developerProblems (developers : List String) : List Problem :=
  developers.zipIdx.flatMap fun (name, index) =>
    listIf (Text.isBlankText name) (.blankDeveloper index)

def Service.problems (name : String) (service : Service) : List Problem :=
  listIf (!isUsableName name) (.badServiceName name) ++
  listIf (Text.isBlankText service.offering) (.blankOffering name) ++
  listIf (Text.isBlankText service.plan) (.blankPlan name)

def Application.problems (name : String) (app : Application) : List Problem :=
  listIf (!isUsableName name) (.badApplicationName name) ++
  listIf (app.manifest.instances = some 0) (.zeroSetting name "instances") ++
  listIf (app.manifest.memory = some 0) (.zeroSetting name "memory") ++
  listIf (app.manifest.disk = some 0) (.zeroSetting name "disk") ++
  listIf (app.manifest.timeout = some 0) (.zeroSetting name "timeout")

/-- Every rule a document breaks. -/
def Document.problems (document : Document) : List Problem :=
  document.target.toList.flatMap Target.problems ++
  document.spec.developers.toList.flatMap developerProblems ++
  (document.spec.services.getD ∅).entries.flatMap (fun entry => entry.2.problems entry.1) ++
  (document.spec.applications.getD ∅).entries.flatMap (fun entry => entry.2.problems entry.1)

/-! ### Cautions -/

def developerCautions (developers : List String) : List Caution :=
  developers.zipIdx.flatMap fun (name, index) =>
    -- A blank name is a problem already, and no caution.
    listIf (!Text.isBlankText name && (developers.take index).contains name)
      (.repeatedDeveloper index name)

/-- Cautions about an application, given the declared services if there is a section of them. -/
def Application.cautions (services : Option (NameMap Service)) (name : String)
    (app : Application) : List Caution :=
  listIf (app.manifest.healthCheckHttpEndpoint.isSome &&
      -- A type that is missing is not held against the endpoint.
      app.manifest.healthCheckType.any (· != .http)) (.unusedEndpoint name) ++
  services.toList.flatMap fun declared =>
    app.manifest.services.zipIdx.flatMap fun (service, index) =>
      listIf (!declared.contains service) (.undeclaredService name index service)

/-- Everything in a document that will have no effect. -/
def Document.cautions (document : Document) : List Caution :=
  document.spec.developers.toList.flatMap developerCautions ++
  (document.spec.applications.getD ∅).entries.flatMap
    (fun entry => entry.2.cautions document.spec.services entry.1) ++
  listIf document.spec.isEmpty .nothingManaged

/-- The cautions about a document without problems; otherwise its first problem. -/
def Document.validate (document : Document) : Except Error (List Caution) :=
  match document.problems with
  | [] => .ok document.cautions
  | problem :: _ => .error problem.toError

end CloudSpace
