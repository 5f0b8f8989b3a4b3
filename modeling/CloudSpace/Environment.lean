import CloudSpace.Error
import CloudSpace.Record.Document

/-!
# Environment

The variables around a run: where a document leaves its target open or a variable overrides it,
the token that calls are made with, and the password of a private image registry.
-/
namespace CloudSpace

/-- What the variables are set to. -/
abbrev Environment := NameMap String

namespace Environment

def apiVariable : String := "CFCONVERGE_API"
def organizationVariable : String := "CFCONVERGE_ORGANIZATION"
def spaceVariable : String := "CFCONVERGE_SPACE"
def accessTokenVariable : String := "CF_ACCESS_TOKEN"
def dockerPasswordVariable : String := "CF_DOCKER_PASSWORD"

/-- A variable that has to be set. -/
def require (environment : Environment) (name : String) : Except Error String :=
  match environment.get? name with
  | some value => .ok value
  | none => .error (.config (.missingVariable name))

/-- The token that calls are made with. -/
def accessToken (environment : Environment) : Except Error String :=
  environment.require accessTokenVariable

/-- The password for the image of an application. One is needed where the manifest names both
an image and a user. -/
def dockerPassword (environment : Environment) (manifest : Manifest) :
    Except Error (Option String) :=
  if manifest.dockerImage.isSome && manifest.dockerUsername.isSome then
    (environment.require dockerPasswordVariable).map some
  else .ok none

end Environment

/-- A target with each part replaced by its variable, if that is set. -/
def Target.override (environment : Environment) (target : Target) : Target :=
  { api := (environment.get? Environment.apiVariable).getD target.api
    organization := (environment.get? Environment.organizationVariable).getD target.organization
    space := (environment.get? Environment.spaceVariable).getD target.space }

/-- The target that the variables give when all of them are set. -/
def Target.ofEnvironment? (environment : Environment) : Option Target := do
  let api ← environment.get? Environment.apiVariable
  let organization ← environment.get? Environment.organizationVariable
  let space ← environment.get? Environment.spaceVariable
  return { api, organization, space }

/-- A document with the target that holds in an environment. -/
def Document.override (environment : Environment) (document : Document) : Document :=
  { document with
    target := match document.target with
      | some target => some (target.override environment)
      | none => Target.ofEnvironment? environment }

end CloudSpace
