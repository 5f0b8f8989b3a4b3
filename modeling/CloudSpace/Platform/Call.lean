import CloudSpace.Plan.Operation

/-!
# Calls

The thirteen ways to change a space, each with all it takes. A call describes itself: the
operation a plan shows is a function of the call that will be made.
-/
namespace CloudSpace

inductive Call
  | createApplication (name : String) (app : Application)
  | deleteApplication (name : String)
  | renameApplication (name newName : String)
  | scaleApplication (name : String) (scale : Scale)
  | setHealthCheck (name : String) (type : HealthCheckType) (endpoint : Option String)
  | addEnvironmentVariable (name key value : String)
  | removeEnvironmentVariable (name key : String)
  | bindService (name service : String)
  | unbindService (name service : String)
  | createService (name : String) (service : Service)
  | deleteService (name : String)
  | grantDeveloper (username : String)
  | revokeDeveloper (username : String)
deriving DecidableEq

namespace Call

/-- The name of the call in logs. -/
def name : Call → String
  | createApplication .. => "create_application"
  | deleteApplication .. => "delete_application"
  | renameApplication .. => "rename_application"
  | scaleApplication .. => "scale_application"
  | setHealthCheck .. => "set_health_check"
  | addEnvironmentVariable .. => "add_environment_variable"
  | removeEnvironmentVariable .. => "remove_environment_variable"
  | bindService .. => "bind_service"
  | unbindService .. => "unbind_service"
  | createService .. => "create_service"
  | deleteService .. => "delete_service"
  | grantDeveloper .. => "grant_space_developer"
  | revokeDeveloper .. => "revoke_space_developer"

/-- The entity that is changed, or the user. -/
def target : Call → String
  | createApplication name _ => name
  | deleteApplication name => name
  | renameApplication name _ => name
  | scaleApplication name _ => name
  | setHealthCheck name _ _ => name
  | addEnvironmentVariable name _ _ => name
  | removeEnvironmentVariable name _ => name
  | bindService name _ => name
  | unbindService name _ => name
  | createService name _ => name
  | deleteService name => name
  | grantDeveloper username => username
  | revokeDeveloper username => username

/-- The kind of entity that is changed. -/
def kind : Call → EntityKind
  | createService .. => .services
  | deleteService .. => .services
  | grantDeveloper .. => .developers
  | revokeDeveloper .. => .developers
  | _ => .applications

/-- What a plan says is done. -/
def operation : Call → Operation
  | createApplication .. => .createApplication
  | deleteApplication .. => .deleteApplication
  | renameApplication _ newName => .renameApplication newName
  | scaleApplication _ scale => .scaleApplication scale
  | setHealthCheck _ type endpoint => .setHealthCheck type endpoint
  | addEnvironmentVariable _ key _ => .addEnvironmentVariable key
  | removeEnvironmentVariable _ key => .removeEnvironmentVariable key
  | bindService _ service => .bindService service
  | unbindService _ service => .unbindService service
  | createService _ service => .createService service.offering service.plan
  | deleteService _ => .deleteService
  | grantDeveloper username => .grantDeveloper username
  | revokeDeveloper username => .revokeDeveloper username

/-- The entity a plan names; the developers are one entity without a name. -/
def entity (call : Call) : String :=
  match call.kind with
  | .developers => ""
  | _ => call.target

/-- What a plan shows of a call. -/
def planned (call : Call) : PlannedOperation := ⟨call.kind, call.entity, call.operation⟩

end Call

/-- A call in a log. -/
structure RecordedCall where
  name : String
  target : String
deriving DecidableEq, Repr

def RecordedCall.text (recorded : RecordedCall) : String := s!"{recorded.name} {recorded.target}"

def Call.recorded (call : Call) : RecordedCall := ⟨call.name, call.target⟩

end CloudSpace
