import CloudSpace.NameMap
import CloudSpace.Yaml.Alias

/-!
# Applications

An application is a manifest with two texts beside it. Every setting is optional; a setting
that is left out says nothing about the application, which is not the same as its default.
-/
namespace CloudSpace

inductive HealthCheckType
  | http | port | process | none
deriving DecidableEq, Repr, Inhabited

namespace HealthCheckType

/-- The name the platform and documents use. -/
def name : HealthCheckType → String
  | http => "http"
  | port => "port"
  | process => "process"
  | none => "none"

/-- The type of a name in exactly this spelling. -/
def ofName? (name : String) : Option HealthCheckType :=
  [http, port, process, none].find? (fun type => type.name = name)

/-- The type of a name in letters of either case. -/
def parse? (text : String) : Option HealthCheckType :=
  ofName? (text.map Char.toLower)

theorem ofName?_name (type : HealthCheckType) : ofName? type.name = some type := by
  cases type <;> rfl

end HealthCheckType

/-- The settings an application is run with. -/
structure Manifest where
  buildpack : Option String := none
  command : Option String := none
  /-- In megabytes. -/
  disk : Option UInt32 := none
  dockerImage : Option String := none
  dockerUsername : Option String := none
  environmentVariables : NameMap String := ∅
  healthCheckHttpEndpoint : Option String := none
  healthCheckType : Option HealthCheckType := none
  instances : Option UInt32 := none
  /-- In megabytes. -/
  memory : Option UInt32 := none
  noRoute : Option Bool := none
  randomRoute : Option Bool := none
  routePath : Option String := none
  routes : List String := []
  /-- The names of the service instances that are bound to the application. -/
  services : List String := []
  stack : Option String := none
  /-- In seconds. -/
  timeout : Option UInt32 := none
deriving DecidableEq, Inhabited

structure Application where
  /-- Where the bits of the application lie. -/
  path : Option String := none
  /-- A text that is kept with the application and has no meaning of its own. -/
  metadata : Option String := none
  manifest : Manifest := {}
deriving DecidableEq, Inhabited

/-! ### Encoding -/

/-- A field with a number, left out when there is none. -/
def Value.fieldOfWord? (name : String) (word : Option UInt32) : List (String × Value) :=
  word.toList.map fun word => (name, .int word.toNat)

/-- A field with a truth value, left out when there is none. -/
def Value.fieldOfBool? (name : String) (flag : Option Bool) : List (String × Value) :=
  flag.toList.map fun flag => (name, .bool flag)

/-- The fields of a manifest that are set, by name. -/
def Manifest.fields (m : Manifest) : List (String × Value) :=
  Value.fieldOfText? "buildpack" m.buildpack ++
  Value.fieldOfText? "command" m.command ++
  Value.fieldOfWord? "disk" m.disk ++
  Value.fieldOfText? "dockerImage" m.dockerImage ++
  Value.fieldOfText? "dockerUsername" m.dockerUsername ++
  Value.fieldOfTexts "environmentVariables" m.environmentVariables.entries ++
  Value.fieldOfText? "healthCheckHttpEndpoint" m.healthCheckHttpEndpoint ++
  Value.fieldOfText? "healthCheckType" (m.healthCheckType.map (·.name)) ++
  Value.fieldOfWord? "instances" m.instances ++
  Value.fieldOfWord? "memory" m.memory ++
  Value.fieldOfBool? "noRoute" m.noRoute ++
  Value.fieldOfBool? "randomRoute" m.randomRoute ++
  Value.fieldOfText? "routePath" m.routePath ++
  Value.fieldOfTextList "routes" m.routes ++
  Value.fieldOfTextList "services" m.services ++
  Value.fieldOfText? "stack" m.stack ++
  Value.fieldOfWord? "timeout" m.timeout

def Manifest.toValue (m : Manifest) : Value := .record m.fields

def Application.toValue (app : Application) : Value :=
  .record (Value.fieldOfText? "path" app.path ++ Value.fieldOfText? "meta" app.metadata ++
    [("manifest", app.manifest.toValue)])

/-! ### Decoding -/

open Yaml (Node DecodeError Wanted)

/-- A map of scalars, each by its text. Absence reads as the empty map; the first value by name
that is no scalar is the error, once all are known to be values. -/
def Yaml.Node.scalarMap (node : Node) : Except DecodeError (NameMap String) := do
  if ← node.isAbsent then return ∅
  let values := NameMap.ofList (← node.names Node.value)
  match values.entries.find? (fun entry => (Node.scalarText? entry.2).isNone) with
  | some (key, _) => throw (.notScalar key)
  | none => return values.map fun value => (Node.scalarText? value).getD ""

/-- The type of a health check by its exact name. -/
def HealthCheckType.ofNode (node : Node) : Except DecodeError HealthCheckType := do
  match ofName? (← node.symbol) with
  | .some type => return type
  | .none => throw .malformed

/-- The names of a manifest's fields. -/
def Manifest.fieldNames : List String :=
  ["buildpack", "command", "disk", "dockerImage", "dockerUsername", "environmentVariables",
   "healthCheckHttpEndpoint", "healthCheckType", "instances", "memory", "noRoute", "randomRoute",
   "routePath", "routes", "services", "stack", "timeout"]

/-- A manifest with one more field read. -/
def Manifest.readField (m : Manifest) (name : String) (node : Node) :
    Except DecodeError Manifest := do
  match name with
  | "buildpack" => return { m with buildpack := ← node.optional Node.text }
  | "command" => return { m with command := ← node.optional Node.text }
  | "disk" => return { m with disk := ← node.optional Node.word32 }
  | "dockerImage" => return { m with dockerImage := ← node.optional Node.text }
  | "dockerUsername" => return { m with dockerUsername := ← node.optional Node.text }
  | "environmentVariables" => return { m with environmentVariables := ← node.scalarMap }
  | "healthCheckHttpEndpoint" =>
    return { m with healthCheckHttpEndpoint := ← node.optional Node.text }
  | "healthCheckType" =>
    return { m with healthCheckType := ← node.optional HealthCheckType.ofNode }
  | "instances" => return { m with instances := ← node.optional Node.word32 }
  | "memory" => return { m with memory := ← node.optional Node.word32 }
  | "noRoute" => return { m with noRoute := ← node.optional Node.flag }
  | "randomRoute" => return { m with randomRoute := ← node.optional Node.flag }
  | "routePath" => return { m with routePath := ← node.optional Node.text }
  | "routes" => return { m with routes := ← node.texts }
  | "services" => return { m with services := ← node.texts }
  | "stack" => return { m with stack := ← node.optional Node.text }
  | "timeout" => return { m with timeout := ← node.optional Node.word32 }
  | _ => return m

/-- What reading a manifest looks at. -/
def Manifest.wanted : Wanted :=
  .record (fieldNames.map fun name => (name, match name with
    | "environmentVariables" => .names .value
    | "routes" | "services" => .list .scalar
    | _ => .scalar))

def Manifest.ofNode (node : Node) : Except DecodeError Manifest :=
  node.foldFields Manifest.fieldNames Manifest.readField {}

/-- An application with one more field read. -/
def Application.readField (app : Application) (name : String) (node : Node) :
    Except DecodeError Application := do
  match name with
  | "path" => return { app with path := ← node.optional Node.text }
  | "meta" => return { app with metadata := ← node.optional Node.text }
  | "manifest" => return { app with manifest := ← Manifest.ofNode node }
  | _ => return app

/-- What reading an application looks at. -/
def Application.wanted : Wanted :=
  .record [("path", .scalar), ("meta", .scalar), ("manifest", Manifest.wanted)]

def Application.ofNode (node : Node) : Except DecodeError Application :=
  node.foldFields ["path", "meta", "manifest"] Application.readField {}

end CloudSpace
