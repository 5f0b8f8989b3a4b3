import CloudSpace.Json.Reader
import CloudSpace.Record.Application

/-!
# Resources

The parts of the platform's answers that matter here. A field that has to be there and is not, a
field that is there twice, and a value of another type than expected make an answer unusable;
fields with other names are passed over, whatever is in them. A list stands for a record that has
its items in the order of the fields.
-/
namespace CloudSpace

/-! ### Fields -/

namespace Value

/-- The values that a record has for a name. -/
def named? (value : Value) (name : String) : Option (List Value) :=
  value.fields?.map fun fields => (fields.filter (fun field => field.1 = name)).map (·.2)

/-- What is read of a field that has to be there. -/
def required {α : Type} (read : Value → Option α) (value : Value) (name : String) : Option α :=
  match value.named? name with
  | some [given] => read given
  | _ => none

/-- What is read of a field, or what stands for it when it is not there. -/
def withDefault {α : Type} (default : α) (read : Value → Option α) (value : Value)
    (name : String) : Option α :=
  match value.named? name with
  | some [] => some default
  | some [given] => read given
  | _ => none

/-- What is read of a field that may be missing or null. -/
def nullable {α : Type} (read : Value → Option α) (value : Value) (name : String) :
    Option (Option α) :=
  match value.named? name with
  | some [] | some [.null] => some none
  | some [given] => (read given).map some
  | _ => none

/-- A list of things that are read alike. -/
def listOf {α : Type} (read : Value → Option α) (value : Value) : Option (List α) :=
  value.items?.bind fun items => items.mapM read

/-- A map of things that are read alike. -/
def mapOf {α : Type} (read : Value → Option α) (value : Value) : Option (NameMap α) :=
  value.fields?.bind fun fields =>
    (fields.mapM fun field : String × Value => (read field.2).map (field.1, ·)).map NameMap.ofList

mutual

/-- A value with the fields of all records by name. -/
def sorted : Value → Value
  | list items => .list (sortedItems items)
  | record fields => .record (NameMap.ofList (sortedFields fields)).entries
  | scalar => scalar

def sortedItems : List Value → List Value
  | [] => []
  | value :: rest => sorted value :: sortedItems rest

def sortedFields : List (String × Value) → List (String × Value)
  | [] => []
  | (name, value) :: rest => (name, sorted value) :: sortedFields rest

end

/-- A value as it would be written in a document. -/
def settingText : Value → String
  | text content => content
  | null => ""
  | value => Json.compact value.sorted

end Value

namespace Cloud

/-! ### Readers -/

/-- A way to read an answer: what of it is looked at, and what is made of that. -/
structure Reader (α : Type) where
  wanted : Json.Wanted
  ofValue? : Value → Option α

namespace Reader

variable {α β : Type}

/-- What is read of the text of an answer. -/
def parse? (reader : Reader α) (content : String) : Option α :=
  (Json.read? reader.wanted content).bind reader.ofValue?

def map (f : α → β) (reader : Reader α) : Reader β where
  wanted := reader.wanted
  ofValue? value := (reader.ofValue? value).map f

theorem parse?_map (f : α → β) (reader : Reader α) (content : String) :
    (reader.map f).parse? content = (reader.parse? content).map f :=
  (Option.map_bind ..).symm

end Reader

/-! ### Resources -/

structure NamedResource where
  guid : String
  name : String
deriving DecidableEq, Repr

def NamedResource.ofValue? (value : Value) : Option NamedResource := do
  return ⟨← value.required Value.text? "guid", ← value.required Value.text? "name"⟩

def NamedResource.reader : Reader NamedResource where
  wanted := .record [("guid", .value), ("name", .value)] 2
  ofValue? := ofValue?

/-- The guid of the resource that a relationship leads to, if it leads to one. -/
def relatedGuid? (value : Value) : Option (Option String) :=
  value.nullable (fun data => data.required Value.text? "guid") "data"

/-- What is looked at of some relationships, of which one matters. -/
def relationshipWanted (name : String) : Json.Wanted :=
  .record [(name, .record [("data", .record [("guid", .value)] 1)] 1)] 0

/-- The guid of a relationship among those of a resource. -/
def relationship? (value : Value) (name : String) : Option (Option String) :=
  value.withDefault none relatedGuid? name

/-- The same for a resource that need not have relationships at all. -/
def optionalRelationship? (value : Value) (name : String) : Option (Option String) :=
  value.withDefault none (relationship? · name) "relationships"

/-- How an application is staged. -/
structure Lifecycle where
  type : String := ""
  buildpacks : List String := []
  stack : Option String := none
deriving DecidableEq, Repr, Inhabited

def Lifecycle.ofValue? (value : Value) : Option Lifecycle := do
  let type ← value.withDefault "" Value.text? "type"
  value.withDefault { type } (fun data => do
    let buildpacks ← data.withDefault [] Value.texts? "buildpacks"
    return { type, buildpacks, stack := ← data.nullable Value.text? "stack" }) "data"

def Lifecycle.wanted : Json.Wanted :=
  .record [("type", .value), ("data", .record [("buildpacks", .value), ("stack", .value)] 2)] 0

structure AppResource where
  guid : String
  name : String
  lifecycle : Lifecycle := {}
  annotations : NameMap String := ∅
deriving DecidableEq

def AppResource.ofValue? (value : Value) : Option AppResource := do
  let guid ← value.required Value.text? "guid"
  let name ← value.required Value.text? "name"
  let lifecycle ← value.withDefault {} Lifecycle.ofValue? "lifecycle"
  let annotations ← value.withDefault ∅
    (fun metadata => metadata.withDefault ∅ (Value.mapOf Value.text?) "annotations") "metadata"
  return { guid, name, lifecycle, annotations }

def AppResource.reader : Reader AppResource where
  wanted := .record [("guid", .value), ("name", .value), ("lifecycle", Lifecycle.wanted),
    ("metadata", .record [("annotations", .value)] 0)] 2
  ofValue? := ofValue?

/-- How the platform finds out whether a process is well. -/
structure HealthCheck where
  type : String := ""
  endpoint : Option String := none
  timeout : Option UInt32 := none
deriving DecidableEq, Repr, Inhabited

def HealthCheck.ofValue? (value : Value) : Option HealthCheck := do
  let type ← value.withDefault "" Value.text? "type"
  value.withDefault { type } (fun data => do
    let endpoint ← data.nullable Value.text? "endpoint"
    return { type, endpoint, timeout := ← data.nullable Value.word32? "timeout" }) "data"

def HealthCheck.wanted : Json.Wanted :=
  .record [("type", .value), ("data", .record [("endpoint", .value), ("timeout", .value)] 2)] 0

structure Process where
  guid : String
  command : Option String
  instances : UInt32
  memory : UInt32
  disk : UInt32
  healthCheck : HealthCheck := {}
deriving DecidableEq, Repr

def Process.ofValue? (value : Value) : Option Process := do
  let guid ← value.required Value.text? "guid"
  let command ← value.nullable Value.text? "command"
  let instances ← value.required Value.word32? "instances"
  let memory ← value.required Value.word32? "memory_in_mb"
  let disk ← value.required Value.word32? "disk_in_mb"
  let healthCheck ← value.withDefault {} HealthCheck.ofValue? "health_check"
  return { guid, command, instances, memory, disk, healthCheck }

def Process.reader : Reader Process where
  wanted := .record [("guid", .value), ("command", .value), ("instances", .value),
    ("memory_in_mb", .value), ("disk_in_mb", .value), ("health_check", HealthCheck.wanted)] 5
  ofValue? := ofValue?

/-- The variables of an application. -/
def variablesOf? (value : Value) : Option (NameMap Value) :=
  value.withDefault ∅ (Value.mapOf some) "var"

def variablesReader : Reader (NameMap Value) where
  wanted := .record [("var", .value)] 0
  ofValue? := variablesOf?

/-- The address of a route, without its scheme. -/
def routeOf? (value : Value) : Option String := value.required Value.text? "url"

def routeReader : Reader String where
  wanted := .record [("url", .value)] 1
  ofValue? := routeOf?

structure Binding where
  guid : String
  /-- The guid of the service instance. -/
  service : Option String
deriving DecidableEq, Repr

def Binding.ofValue? (value : Value) : Option Binding := do
  let guid ← value.required Value.text? "guid"
  return ⟨guid, ← value.required (relationship? · "service_instance") "relationships"⟩

def Binding.reader : Reader Binding where
  wanted := .record [("guid", .value), ("relationships", relationshipWanted "service_instance")] 2
  ofValue? := ofValue?

structure Package where
  type : String
  image : Option String := none
  username : Option String := none
deriving DecidableEq, Repr

def Package.ofValue? (value : Value) : Option Package := do
  let _ ← value.required Value.text? "guid"
  let type ← value.withDefault "" Value.text? "type"
  value.withDefault { type } (fun data => do
    let image ← data.nullable Value.text? "image"
    return { type, image, username := ← data.nullable Value.text? "username" }) "data"

def Package.reader : Reader Package where
  wanted := .record [("guid", .value), ("type", .value),
    ("data", .record [("image", .value), ("username", .value)] 2)] 1
  ofValue? := ofValue?

structure ServiceInstance where
  guid : String
  name : String
  tags : List String := []
  /-- The guid of the plan. -/
  plan : Option String := none
deriving DecidableEq, Repr

def ServiceInstance.ofValue? (value : Value) : Option ServiceInstance := do
  let guid ← value.required Value.text? "guid"
  let name ← value.required Value.text? "name"
  let tags ← value.withDefault [] Value.texts? "tags"
  return { guid, name, tags, plan := ← optionalRelationship? value "service_plan" }

def ServiceInstance.reader : Reader ServiceInstance where
  wanted := .record [("guid", .value), ("name", .value), ("tags", .value),
    ("relationships", relationshipWanted "service_plan")] 2
  ofValue? := ofValue?

/-- The parameters of a service instance. -/
def paramsReader : Reader (NameMap Value) where
  wanted := .value
  ofValue? := Value.mapOf some

structure ServicePlan where
  guid : String
  name : String
  /-- The guid of the offering. -/
  offering : Option String := none
deriving DecidableEq, Repr

def ServicePlan.ofValue? (value : Value) : Option ServicePlan := do
  let guid ← value.required Value.text? "guid"
  let name ← value.required Value.text? "name"
  return { guid, name, offering := ← optionalRelationship? value "service_offering" }

def ServicePlan.reader : Reader ServicePlan where
  wanted := .record [("guid", .value), ("name", .value),
    ("relationships", relationshipWanted "service_offering")] 2
  ofValue? := ofValue?

structure Role where
  guid : String
  /-- The guid of the user. -/
  user : Option String
deriving DecidableEq, Repr

def Role.ofValue? (value : Value) : Option Role := do
  return ⟨← value.required Value.text? "guid", ← optionalRelationship? value "user"⟩

def Role.reader : Reader Role where
  wanted := .record [("guid", .value), ("relationships", relationshipWanted "user")] 1
  ofValue? := ofValue?

structure User where
  guid : String
  username : Option String
deriving DecidableEq, Repr

def User.ofValue? (value : Value) : Option User := do
  return ⟨← value.required Value.text? "guid", ← value.nullable Value.text? "username"⟩

def User.reader : Reader User where
  wanted := .record [("guid", .value), ("username", .value)] 2
  ofValue? := ofValue?

/-! ### Lists -/

/-- The resources of one answer, with others that they refer to. -/
structure Listing (α : Type) where
  resources : List α
  users : List User := []
  instances : List NamedResource := []
  offerings : List NamedResource := []
deriving DecidableEq, Repr

def Listing.ofValue? {α : Type} (read : Value → Option α) (value : Value) :
    Option (Listing α) := do
  let resources ← value.required (Value.listOf read) "resources"
  value.withDefault { resources } (fun included => do
    let users ← included.withDefault [] (Value.listOf User.ofValue?) "users"
    let instances ←
      included.withDefault [] (Value.listOf NamedResource.ofValue?) "service_instances"
    let offerings ←
      included.withDefault [] (Value.listOf NamedResource.ofValue?) "service_offerings"
    return { resources, users, instances, offerings }) "included"

def Listing.reader {α : Type} (item : Reader α) : Reader (Listing α) where
  wanted := .record [("resources", .list item.wanted), ("included", .record
    [("users", .list User.reader.wanted), ("service_instances", .list NamedResource.reader.wanted),
      ("service_offerings", .list NamedResource.reader.wanted)] 0)] 1
  ofValue? := ofValue? item.ofValue?

/-- The names of resources by guid; of two with one guid the later counts. -/
def namesByGuid (resources : List NamedResource) : NameMap String :=
  NameMap.ofList (resources.map fun resource => (resource.guid, resource.name))

/-! ### Jobs and errors -/

structure ApiError where
  detail : String
  title : String
deriving DecidableEq, Repr

def ApiError.ofValue? (value : Value) : Option ApiError := do
  return ⟨← value.withDefault "" Value.text? "detail", ← value.withDefault "" Value.text? "title"⟩

def ApiError.wanted : Json.Wanted := .record [("detail", .value), ("title", .value)] 0

/-- The errors that an answer lists. -/
def errorsOf? (value : Value) : Option (List ApiError) :=
  value.withDefault [] (Value.listOf ApiError.ofValue?) "errors"

def errorsReader : Reader (List ApiError) where
  wanted := .record [("errors", .list ApiError.wanted)] 0
  ofValue? := errorsOf?

/-- Something the platform goes on with after it has answered. -/
structure Job where
  state : String
  errors : List ApiError
deriving DecidableEq, Repr

def Job.ofValue? (value : Value) : Option Job := do
  return ⟨← value.required Value.text? "state", ← errorsOf? value⟩

def Job.reader : Reader Job where
  wanted := .record [("state", .value), ("errors", .list ApiError.wanted)] 1
  ofValue? := ofValue?

/-- The message of an answer that reports errors: those it lists, or else its whole text. -/
def errorMessage (body : String) : String :=
  match errorsReader.parse? body with
  | some (first :: rest) =>
    "; ".intercalate ((first :: rest).map fun error => s!"{error.title}: {error.detail}")
  | _ => body

end Cloud

end CloudSpace
