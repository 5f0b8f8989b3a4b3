import CloudSpace.Record.Application
import CloudSpace.Yaml.Printer

/-!
# Manifests for the platform

What creating an application sends. The platform has its own names for settings, takes sizes with
a unit, and knows nothing of a path that is common to all routes, so that the path is written at
the end of each route. What it has no place for is kept in annotations beside the application.
-/
namespace CloudSpace.Cloud

/-- A size in megabytes, with its unit. -/
def sizeText (size : UInt32) : String := s!"{size.toNat}M"

/-- A route with the common path at its end. -/
def fullRoute (routePath : Option String) (route : String) : String :=
  route ++ routePath.getD ""

/-- The image an application runs, with who may fetch it. -/
def imageFields (manifest : Manifest) (password : Option String) : List (String × Value) :=
  manifest.dockerImage.toList.map fun image =>
    ("docker", Value.record (("image", Value.text image) ::
      Value.fieldOfText? "username" manifest.dockerUsername ++
      Value.fieldOfText? "password" password))

def routeFields (manifest : Manifest) : List (String × Value) :=
  if manifest.routes.isEmpty then []
  else [("routes", .list (manifest.routes.map fun route =>
    .record [("route", .text (fullRoute manifest.routePath route))]))]

/-- The entry of an application in a manifest. -/
def manifestEntry (name : String) (app : Application) (password : Option String) : Value :=
  let manifest := app.manifest
  .record ([("name", .text name)] ++
    Value.fieldOfTextList "buildpacks" manifest.buildpack.toList ++
    Value.fieldOfText? "command" manifest.command ++
    Value.fieldOfText? "disk_quota" (manifest.disk.map sizeText) ++
    imageFields manifest password ++
    Value.fieldOfTexts "env" manifest.environmentVariables.entries ++
    Value.fieldOfText? "health-check-http-endpoint" manifest.healthCheckHttpEndpoint ++
    Value.fieldOfText? "health-check-type" (manifest.healthCheckType.map HealthCheckType.name) ++
    Value.fieldOfWord? "instances" manifest.instances ++
    Value.fieldOfText? "memory" (manifest.memory.map sizeText) ++
    Value.fieldOfBool? "no-route" manifest.noRoute ++
    Value.fieldOfBool? "random-route" manifest.randomRoute ++
    routeFields manifest ++
    Value.fieldOfTextList "services" manifest.services ++
    Value.fieldOfText? "stack" manifest.stack ++
    Value.fieldOfWord? "timeout" manifest.timeout)

/-- The manifest that describes one application. -/
def manifestOf (name : String) (app : Application) (password : Option String) : Value :=
  .record [("applications", .list [manifestEntry name app password])]

def manifestText (name : String) (app : Application) (password : Option String) : String :=
  Yaml.print (manifestOf name app password)

/-! ### Annotations -/

def metadataKey : String := "cfconverge.io/meta"
def pathKey : String := "cfconverge.io/path"
def routePathKey : String := "cfconverge.io/route-path"

/-- A text that says something. -/
def nonEmpty (text : String) : Bool := !text.isEmpty

/-- What is kept of an application in annotations; an empty text is not. -/
def annotations (app : Application) : NameMap String :=
  NameMap.ofList ([(metadataKey, app.metadata), (pathKey, app.path),
    (routePathKey, app.manifest.routePath)].filterMap fun (key, content) =>
      (content.filter nonEmpty).map (key, ·))

/-- What an annotation says; an empty one says nothing. -/
def annotated? (annotations : NameMap String) (key : String) : Option String :=
  (annotations.get? key).filter nonEmpty

/-- The end of a text without the common path, if the text ends in it. -/
def withoutSuffix (path text : List Char) : List Char :=
  if path.isSuffixOf text then text.take (text.length - path.length) else text

/-- The route that was given a common path at its end. -/
def bareRoute (routePath : Option String) (url : String) : String :=
  match routePath with
  | some path => String.ofList (withoutSuffix path.toList url.toList)
  | none => url

end CloudSpace.Cloud
