import CloudSpace.Record.Space

/-!
# Operations

What a plan shows of the calls it would make. An operation names the entity it is about and what
is done to it; settings that would fill a page, such as a whole record, are not part of it.
-/
namespace CloudSpace

/-- The sizes of an application. One that is absent is left as it is. -/
structure Scale where
  instances : Option UInt32 := none
  /-- In megabytes. -/
  memory : Option UInt32 := none
  /-- In megabytes. -/
  disk : Option UInt32 := none
deriving DecidableEq, Repr, Inhabited

namespace Scale

def isEmpty (scale : Scale) : Bool :=
  scale.instances.isNone && scale.memory.isNone && scale.disk.isNone

def text (scale : Scale) : String :=
  ", ".intercalate
    ((scale.instances.toList.map fun n => s!"instances={n.toNat}") ++
      (scale.memory.toList.map fun n => s!"memory={n.toNat}M") ++
      (scale.disk.toList.map fun n => s!"disk={n.toNat}M"))

def fields (scale : Scale) : List (String × Value) :=
  Value.fieldOfWord? "instances" scale.instances ++ Value.fieldOfWord? "memory" scale.memory ++
    Value.fieldOfWord? "disk" scale.disk

end Scale

inductive Operation
  | createApplication
  | deleteApplication
  | renameApplication (newName : String)
  | scaleApplication (scale : Scale)
  | setHealthCheck (type : HealthCheckType) (endpoint : Option String)
  | addEnvironmentVariable (key : String)
  | removeEnvironmentVariable (key : String)
  | bindService (service : String)
  | unbindService (service : String)
  | createService (offering plan : String)
  | deleteService
  | grantDeveloper (username : String)
  | revokeDeveloper (username : String)
deriving DecidableEq, Repr

namespace Operation

def text : Operation → String
  | createApplication => "create application"
  | deleteApplication => "delete application"
  | renameApplication newName => s!"rename to {newName}"
  | scaleApplication scale => s!"scale ({scale.text})"
  | setHealthCheck type (some endpoint) => s!"set health check {type.name} {endpoint}"
  | setHealthCheck type none => s!"set health check {type.name}"
  | addEnvironmentVariable key => s!"set env {key}"
  | removeEnvironmentVariable key => s!"unset env {key}"
  | bindService service => s!"bind {service}"
  | unbindService service => s!"unbind {service}"
  | createService offering plan => s!"create service ({offering}/{plan})"
  | deleteService => "delete service"
  | grantDeveloper username => s!"grant {username}"
  | revokeDeveloper username => s!"revoke {username}"

/-- The name of the operation as data. -/
def name : Operation → String
  | createApplication => "createApplication"
  | deleteApplication => "deleteApplication"
  | renameApplication _ => "renameApplication"
  | scaleApplication _ => "scaleApplication"
  | setHealthCheck .. => "setHealthCheck"
  | addEnvironmentVariable _ => "addEnvironmentVariable"
  | removeEnvironmentVariable _ => "removeEnvironmentVariable"
  | bindService _ => "bindService"
  | unbindService _ => "unbindService"
  | createService .. => "createService"
  | deleteService => "deleteService"
  | grantDeveloper _ => "grantSpaceDeveloper"
  | revokeDeveloper _ => "revokeSpaceDeveloper"

/-- What is said about an operation beside its name. -/
def arguments : Operation → List (String × Value)
  | renameApplication newName => [("newName", .text newName)]
  | scaleApplication scale => scale.fields
  | setHealthCheck type endpoint =>
    ("healthCheckType", .text type.name) :: Value.fieldOfText? "endpoint" endpoint
  | addEnvironmentVariable key => [("key", .text key)]
  | removeEnvironmentVariable key => [("key", .text key)]
  | bindService service => [("service", .text service)]
  | unbindService service => [("service", .text service)]
  | createService offering plan => [("service", .text offering), ("plan", .text plan)]
  | grantDeveloper username => [("username", .text username)]
  | revokeDeveloper username => [("username", .text username)]
  | _ => []

def fields (operation : Operation) : List (String × Value) :=
  ("operation", .text operation.name) :: operation.arguments

end Operation

/-- An operation and the entity it is about. -/
structure PlannedOperation where
  kind : EntityKind
  /-- The name of the entity, empty for the developers. -/
  entity : String
  operation : Operation
deriving DecidableEq, Repr

namespace PlannedOperation

def text (planned : PlannedOperation) : String :=
  if planned.entity.isEmpty then s!"{planned.kind}: {planned.operation.text}"
  else s!"{planned.kind} '{planned.entity}': {planned.operation.text}"

def fields (planned : PlannedOperation) : List (String × Value) :=
  [("kind", .text planned.kind.sectionName), ("entity", .text planned.entity)] ++
    planned.operation.fields

def toValue (planned : PlannedOperation) : Value := .record planned.fields

/-! ### Reading -/

def scaleOf (value : Value) : Except String Scale := do
  return { instances := ← value.optionalOf Value.word32? "instances"
           memory := ← value.optionalOf Value.word32? "memory"
           disk := ← value.optionalOf Value.word32? "disk" }

def healthCheckTypeOf (value : Value) (field : String) : Except String HealthCheckType :=
  match (value.get? field).bind Value.text? with
  | some name =>
    match HealthCheckType.ofName? name with
    | some type => .ok type
    | none => .error "healthCheckType"
  | none => .error field

def kindOf (value : Value) : Except String EntityKind := do
  match EntityKind.ofSectionName? (← value.textOf "kind") with
  | some kind => return kind
  | none => throw "kind"

/-- The operation of a record, or the field that is missing or malformed. -/
def operationOf (value : Value) : Except String Operation := do
  match ← value.textOf "operation" with
  | "createApplication" => return .createApplication
  | "deleteApplication" => return .deleteApplication
  | "renameApplication" => return .renameApplication (← value.textOf "newName")
  | "scaleApplication" => return .scaleApplication (← scaleOf value)
  | "setHealthCheck" =>
    let type ← healthCheckTypeOf value "healthCheckType"
    return .setHealthCheck type (← value.optionalOf Value.text? "endpoint")
  | "addEnvironmentVariable" => return .addEnvironmentVariable (← value.textOf "key")
  | "removeEnvironmentVariable" => return .removeEnvironmentVariable (← value.textOf "key")
  | "bindService" => return .bindService (← value.textOf "service")
  | "unbindService" => return .unbindService (← value.textOf "service")
  | "createService" => return .createService (← value.textOf "service") (← value.textOf "plan")
  | "deleteService" => return .deleteService
  | "grantSpaceDeveloper" => return .grantDeveloper (← value.textOf "username")
  | "revokeSpaceDeveloper" => return .revokeDeveloper (← value.textOf "username")
  | _ => throw "operation"

def ofValue (value : Value) : Except String PlannedOperation := do
  let kind ← kindOf value
  let entity ← value.textOf "entity"
  return ⟨kind, entity, ← operationOf value⟩

end PlannedOperation

end CloudSpace
