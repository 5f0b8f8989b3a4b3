import CloudSpace.Plan.Transition
import CloudSpace.Platform.Call

/-!
# Plans for applications

Each change of an application contributes to its plan on its own: calls, one size of a common
scaling, a manifest whose health check is to be set, or a warning that nothing can be done. The
calls come first, in the order of the changes, and then at most one scaling and one health
check. The last change of a size counts, and so does the last of the health check.
-/
namespace CloudSpace.Plan

/-- The sizes of an application. -/
inductive Dimension
  | instances | memory | disk
deriving DecidableEq, Repr

namespace Dimension

def name : Dimension → String
  | instances => "instances"
  | memory => "memory"
  | disk => "disk"

def ofName? (name : String) : Option Dimension :=
  [instances, memory, disk].find? (fun dimension => dimension.name = name)

/-- The size that a manifest gives. -/
def sizeIn (dimension : Dimension) (manifest : Manifest) : Option UInt32 :=
  match dimension with
  | instances => manifest.instances
  | memory => manifest.memory
  | disk => manifest.disk

/-- A scaling with one size set. -/
def set (dimension : Dimension) (size : UInt32) (scale : Scale) : Scale :=
  match dimension with
  | instances => { scale with instances := some size }
  | memory => { scale with memory := some size }
  | disk => { scale with disk := some size }

end Dimension

/-- What one change contributes to a plan. -/
inductive Contribution
  | calls (calls : List Call)
  | size (dimension : Dimension) (size : UInt32)
  | healthCheck (manifest : Manifest)
  | warning (message : String)

/-- The manifest that a change of one of its fields carries. -/
def manifestOf (name : String) (change : Change) : Except Error Manifest :=
  match change.affected with
  | .manifest manifest => .ok manifest
  | .application app => .ok app.manifest
  | other => .error (unexpectedRecord .applications name other)

/-- The call for one changed environment variable. -/
def environmentCall (name : String) (entry : EntryChange) : Call :=
  match entry.kind with
  | .removed => .removeEnvironmentVariable name entry.key
  | _ => .addEnvironmentVariable name entry.key (entry.after.getD "")

/-- The warning for a change that no call makes. -/
def noCall (name : String) (change : Change) : Contribution :=
  .warning s!"Application '{name}': no remote call changes {change.path.text}, skipping"

/-- What the change of a field with a single value contributes. -/
def valueContribution (name : String) (change : Change) (after : Option String) :
    Except Error Contribution := do
  let field := change.property?.getD ""
  match Dimension.ofName? field with
  | some dimension =>
    -- The new size is that of the desired manifest.
    match dimension.sizeIn (← manifestOf name change) with
    | some size => return .size dimension size
    | none => return .warning s!"Application '{name}': {field} cannot be unset, skipping"
  | none =>
    -- Either field sets the check as a whole, so the whole manifest is kept.
    if field = "healthCheckType" || field = "healthCheckHttpEndpoint" then
      return .healthCheck (← manifestOf name change)
    else if field = "name" then
      match after with
      | some newName => return .calls [.renameApplication name newName]
      | none => return noCall name change
    else return noCall name change

/-- What a change contributes. -/
def contribution (name : String) (change : Change) : Except Error Contribution :=
  let field := change.property?.getD ""
  match change.difference with
  | .value _ after => valueContribution name change after
  | .map entries =>
    if field = "environmentVariables" then .ok (.calls (entries.map (environmentCall name)))
    else .ok (noCall name change)
  | .collection added removed =>
    if field = "services" then
      .ok (.calls (added.map (.bindService name) ++ removed.map (.unbindService name)))
    else .ok (noCall name change)
  | _ => .ok (noCall name change)

/-! ### From contributions to calls -/

def Contribution.callList : Contribution → List Call
  | .calls given => given
  | _ => []

def Contribution.warnings : Contribution → List String
  | warning message => [message]
  | _ => []

/-- The scaling that several contributions make up. -/
def scaleOf (contributions : List Contribution) : Scale :=
  -- A later size of one dimension takes the place of an earlier one.
  contributions.foldl (fun scale contribution => match contribution with
    | .size dimension size => dimension.set size scale
    | _ => scale) {}

/-- The manifest of the last contribution to the health check. -/
def healthCheckOf (contributions : List Contribution) : Option Manifest :=
  contributions.foldl (fun last contribution => match contribution with
    | .healthCheck manifest => some manifest
    | _ => last) none

def scaleCalls (name : String) (scale : Scale) : List Call :=
  if scale.isEmpty then [] else [.scaleApplication name scale]

/-- The call that sets a health check, which needs a type. -/
def healthCheckCalls (name : String) (manifest : Option Manifest) : List Call :=
  match manifest with
  | some manifest =>
    manifest.healthCheckType.toList.map fun type =>
      .setHealthCheck name type manifest.healthCheckHttpEndpoint
  | none => []

def healthCheckWarnings (name : String) (manifest : Option Manifest) : List String :=
  match manifest with
  | some manifest =>
    if manifest.healthCheckType.isNone then
      [s!"Application '{name}': health check type cannot be unset, skipping"]
    else []
  | none => []

/-- The calls that several contributions make up. -/
def callsOf (name : String) (contributions : List Contribution) : List Call :=
  contributions.flatMap Contribution.callList ++ scaleCalls name (scaleOf contributions) ++
    healthCheckCalls name (healthCheckOf contributions)

/-- The calls for one entity, or why there are none, and the warnings met on the way. -/
structure EntityPlan where
  calls : Except Error (List Call)
  warnings : List String := []

/-- The contributions up to the first change that has none, and its error. -/
def contributions (name : String) : List Change → List Contribution × Option Error
  | [] => ([], none)
  | change :: rest =>
    match contribution name change with
    | .ok first =>
      let (others, error) := contributions name rest
      (first :: others, error)
    | .error error => ([], some error)

/-- The plan for the changes of an application in place. -/
def updateApplication (name : String) (changes : List Change) : EntityPlan :=
  let (given, error) := contributions name changes
  let warnings := given.flatMap Contribution.warnings
  match error with
  | some error => { calls := .error error, warnings }
  | none =>
    { calls := .ok (callsOf name given)
      warnings := warnings ++ healthCheckWarnings name (healthCheckOf given) }

/-- The plan for one application. -/
def application (name : String) (changes : List Change) : EntityPlan :=
  match Transition.of .applications name changes with
  | .error error => { calls := .error error }
  | .ok (.create (.application app)) => { calls := .ok [.createApplication name app] }
  | .ok (.delete (.application _)) => { calls := .ok [.deleteApplication name] }
  | .ok (.create other) | .ok (.delete other) =>
    { calls := .error (unexpectedRecord .applications name other) }
  | .ok (.update changes) => updateApplication name changes

end CloudSpace.Plan
